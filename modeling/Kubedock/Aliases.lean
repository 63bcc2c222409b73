import Kubedock.Server
import Mathlib.Data.String.Basic

/-! The alias merge of `NetworkConnect`. Its map `done` always holds exactly the alias list, so
the merge appends the lower-cased requested aliases the list does not hold, each once, in order of
first occurrence, and merging `A` then `B` is merging `A ++ B`. Letter case is folded on the
requested side only: an alias stored upper-case gets its lower-cased form appended beside it. -/

namespace Kubedock

section EraseDups

variable {α : Type} [BEq α] [LawfulBEq α]

theorem mem_eraseDups_loop {x : α} :
    ∀ {l bs : List α}, x ∈ List.eraseDups.loop l bs ↔ x ∈ l ∨ x ∈ bs
  | [], bs => by simp [List.eraseDups.loop]
  | a :: l, bs => by
    unfold List.eraseDups.loop
    cases h : bs.elem a
    · rw [mem_eraseDups_loop, List.mem_cons, List.mem_cons, or_assoc, or_left_comm]
    · have ha : a ∈ bs := List.elem_iff.mp h
      rw [mem_eraseDups_loop, List.mem_cons, or_assoc]
      exact (or_iff_right_of_imp fun hx => .inr (hx ▸ ha : x ∈ bs)).symm

theorem nodup_eraseDups_loop : ∀ {l bs : List α}, bs.Nodup → (List.eraseDups.loop l bs).Nodup
  | [], bs, hbs => by simpa [List.eraseDups.loop] using hbs
  | a :: l, bs, hbs => by
    unfold List.eraseDups.loop
    cases h : bs.elem a
    · have ha : a ∉ bs := fun ha => by rw [List.elem_iff.mpr ha] at h; cases h
      exact nodup_eraseDups_loop (List.nodup_cons.mpr ⟨ha, hbs⟩)
    · exact nodup_eraseDups_loop hbs

theorem mem_eraseDups {x : α} {l : List α} : x ∈ l.eraseDups ↔ x ∈ l := by
  simp [List.eraseDups, mem_eraseDups_loop]

theorem nodup_eraseDups (l : List α) : l.eraseDups.Nodup :=
  nodup_eraseDups_loop List.nodup_nil

end EraseDups

variable (toLower : String → String)

/-- Aliases pairwise distinct up to letter case. -/
def CaseDistinct (xs : List String) : Prop := (xs.map toLower).Nodup

instance (xs : List String) : Decidable (CaseDistinct toLower xs) :=
  inferInstanceAs (Decidable (xs.map toLower).Nodup)

/-- The loop runs with `done` equal to the alias list, and `A ++ B` runs as `A` and then `B`. -/
theorem mergeAliasesLoop_append (A B : List String) :
    ∀ D, mergeAliasesLoop toLower D D (A ++ B) =
      mergeAliasesLoop toLower (mergeAliasesLoop toLower D D A)
        (mergeAliasesLoop toLower D D A) B := by
  induction A with
  | nil => intro D; rfl
  | cons a A ih =>
    intro D
    simp only [List.cons_append, mergeAliasesLoop]
    split_ifs <;> exact ih _

/-- After the prefix `S₀` of new aliases, the loop appends the first occurrences of the lower-cased
requests that neither `L` nor `S₀` holds. -/
theorem mergeAliasesLoop_eq (L : List String) :
    ∀ (A S₀ : List String), mergeAliasesLoop toLower (L ++ S₀) (L ++ S₀) A =
      L ++ List.eraseDups.loop ((A.map toLower).filter (· ∉ L)) S₀.reverse
  | [], S₀ => by simp [mergeAliasesLoop, List.eraseDups.loop]
  | a :: A, S₀ => by
    simp only [mergeAliasesLoop, List.map_cons, List.filter_cons, List.mem_append]
    by_cases hL : toLower a ∈ L
    · simp only [hL, true_or, if_true, not_true_eq_false, decide_False, Bool.false_eq_true,
        if_false]
      exact mergeAliasesLoop_eq L A S₀
    · by_cases hS : toLower a ∈ S₀
      · have he : S₀.reverse.elem (toLower a) = true := List.elem_iff.mpr (List.mem_reverse.mpr hS)
        simp only [hL, hS, or_true, if_true, not_false_eq_true, decide_True]
        rw [List.eraseDups.loop, he]
        exact mergeAliasesLoop_eq L A S₀
      · have he : S₀.reverse.elem (toLower a) = false := by
          simpa [List.elem_iff] using hS
        simp only [hL, hS, or_self, if_false, not_false_eq_true, decide_True, if_true]
        rw [List.eraseDups.loop, he]
        simpa using mergeAliasesLoop_eq L A (S₀ ++ [toLower a])

/-- The merge appends to the container's aliases the lower-cased requested aliases it does not
hold, each once, in the order of their first occurrence. -/
theorem mergeAliases_eq (L A : List String) :
    mergeAliases toLower L A = L ++ ((A.map toLower).filter (· ∉ L)).eraseDups := by
  simpa using mergeAliasesLoop_eq toLower L A []

theorem lower_mem_mergeAliases {L A : List String} {a : String} (ha : a ∈ A) :
    toLower a ∈ mergeAliases toLower L A := by
  rw [mergeAliases_eq, List.mem_append, mem_eraseDups, List.mem_filter]
  by_cases hL : toLower a ∈ L
  · exact .inl hL
  · exact .inr ⟨List.mem_map_of_mem _ ha, by simpa using hL⟩

theorem nodup_mergeAliases {L : List String} (hL : L.Nodup) (A : List String) :
    (mergeAliases toLower L A).Nodup := by
  rw [mergeAliases_eq]
  refine List.nodup_append.mpr ⟨hL, nodup_eraseDups _, fun x hx hx' => ?_⟩
  rw [mem_eraseDups, List.mem_filter] at hx'
  exact absurd hx (by simpa using hx'.2)

/-- A merge of requests whose lower-cased forms the list holds changes nothing. -/
theorem mergeAliases_of_mem {M A : List String} (h : ∀ a ∈ A, toLower a ∈ M) :
    mergeAliases toLower M A = M := by
  rw [mergeAliases_eq, List.filter_eq_nil_iff.mpr, List.eraseDups, List.eraseDups.loop,
    List.reverse_nil, List.append_nil]
  intro x hx
  obtain ⟨a, ha, rfl⟩ := List.mem_map.mp hx
  simpa using h a ha

/-- For every container without repeated aliases and every request, the merge keeps the old
aliases as a prefix, appends the lower-cased requested aliases the container does not hold, each
once, in the order of their first occurrence in the request, and repeats no alias. -/
theorem mergeAliases_appends_first_occurrences {L : List String} (hL : L.Nodup)
    (A : List String) :
    (mergeAliases toLower L A).Nodup ∧ L <+: mergeAliases toLower L A ∧
      (∀ a ∈ A, toLower a ∈ mergeAliases toLower L A) ∧
      mergeAliases toLower L A = L ++ ((A.map toLower).filter (· ∉ L)).eraseDups :=
  ⟨nodup_mergeAliases toLower hL A, ⟨_, (mergeAliases_eq toLower L A).symm⟩,
    fun _ ha => lower_mem_mergeAliases toLower ha, mergeAliases_eq toLower L A⟩

/-- The spec's example: `Web`, `web` and `API` on a container without aliases store `web` and
`api`. -/
theorem mergeAliases_appends_first_occurrences_of_example :
    ([] : List String).Nodup ∧
      mergeAliases String.toLower [] ["Web", "web", "API"] = ["web", "api"] ∧
      ((mergeAliases String.toLower [] ["Web", "web", "API"]).Nodup ∧
        [] <+: mergeAliases String.toLower [] ["Web", "web", "API"] ∧
        (∀ a ∈ ["Web", "web", "API"], String.toLower a ∈
          mergeAliases String.toLower [] ["Web", "web", "API"]) ∧
        mergeAliases String.toLower [] ["Web", "web", "API"] =
          [] ++ ((["Web", "web", "API"].map String.toLower).filter (· ∉ [])).eraseDups) :=
  ⟨List.nodup_nil, by simp only [mergeAliases, mergeAliasesLoop, String.toLower, String.map_eq]; decide,
    mergeAliases_appends_first_occurrences String.toLower List.nodup_nil _⟩

/-- Merging `A` and then `B` is merging `A ++ B`; in particular a repeated connect with the same
aliases stores the same aliases. -/
theorem mergeAliases_merge_append (L A B : List String) :
    mergeAliases toLower (mergeAliases toLower L A) B = mergeAliases toLower L (A ++ B) ∧
      mergeAliases toLower (mergeAliases toLower L A) A = mergeAliases toLower L A :=
  ⟨(mergeAliasesLoop_append toLower A B L).symm,
    mergeAliases_of_mem toLower fun _ ha => lower_mem_mergeAliases toLower ha⟩

/-- A container whose one alias `Web` is stored with an upper-case letter, connected with the
alias `web`: the merge appends `web` beside `Web`, and the aliases are no longer distinct up to
letter case (`String.toLower` stands for `strings.ToLower`, which agrees with it on ASCII). -/
theorem mergeAliases_keeps_case_duplicate :
    CaseDistinct String.toLower ["Web"] ∧
      mergeAliases String.toLower ["Web"] ["web"] = ["Web", "web"] ∧
      ¬ CaseDistinct String.toLower ["Web", "web"] := by
  simp only [CaseDistinct, mergeAliases, mergeAliasesLoop, List.map, String.toLower,
    String.map_eq]
  decide

theorem mem_mergeAliases {L A : List String} {x : String} (hx : x ∈ mergeAliases toLower L A) :
    x ∈ L ∨ ∃ a ∈ A, toLower a = x := by
  rw [mergeAliases_eq, List.mem_append, mem_eraseDups, List.mem_filter, List.mem_map] at hx
  exact hx.imp_right fun h => h.1

variable {toLower}

/-- With an idempotent lower-casing and a container whose aliases are stored lower case, as the
merge stores every alias it appends, the aliases stay distinct up to letter case, and every
requested alias is stored up to letter case. -/
theorem mergeAliases_caseDistinct (hidem : ∀ s, toLower (toLower s) = toLower s)
    {L : List String} (hlow : ∀ l ∈ L, toLower l = l) (hL : CaseDistinct toLower L)
    (A : List String) :
    CaseDistinct toLower (mergeAliases toLower L A) ∧
      ∀ a ∈ A, ∃ b ∈ mergeAliases toLower L A, toLower b = toLower a := by
  have hfix : ∀ x ∈ mergeAliases toLower L A, toLower x = x := fun x hx =>
    (mem_mergeAliases toLower hx).elim (hlow x) fun ⟨a, _, ha⟩ => ha ▸ hidem a
  have hL' : L.Nodup := by rwa [CaseDistinct, List.map_congr_left hlow, List.map_id'] at hL
  refine ⟨?_, fun a ha => ⟨toLower a, lower_mem_mergeAliases toLower ha, hidem a⟩⟩
  rw [CaseDistinct, List.map_congr_left hfix, List.map_id']
  exact nodup_mergeAliases toLower hL' A

private theorem char_toLower_toLower (c : Char) : c.toLower.toLower = c.toLower := by
  unfold Char.toLower
  by_cases h : c.toNat ≥ 65 ∧ c.toNat ≤ 90
  · have hv : (c.toNat + 32).isValidChar := Or.inl (by omega)
    have hn : (Char.ofNat (c.toNat + 32)).toNat = c.toNat + 32 := by
      rw [Char.ofNat, dif_pos hv]
      simp [Char.ofNatAux, Char.toNat, UInt32.toNat]
    simp only [h, and_self, if_true, hn]
    rw [if_neg (by omega)]
  · simp only [h, if_false]

theorem string_toLower_toLower (s : String) : s.toLower.toLower = s.toLower := by
  simp only [String.toLower, String.map_eq, List.map_map]
  congr 2
  funext c
  exact char_toLower_toLower c

theorem mergeAliases_caseDistinct_of_lower_alias :
    (∀ s, String.toLower (String.toLower s) = String.toLower s) ∧
      (∀ l ∈ ["api"], String.toLower l = l) ∧ CaseDistinct String.toLower ["api"] ∧
      CaseDistinct String.toLower (mergeAliases String.toLower ["api"] ["Web", "web", "API"]) ∧
      ∀ a ∈ ["Web", "web", "API"], ∃ b ∈ mergeAliases String.toLower ["api"] ["Web", "web", "API"],
        String.toLower b = String.toLower a := by
  have hlow : ∀ l ∈ ["api"], String.toLower l = l := by
    simp only [List.mem_singleton, forall_eq, String.toLower, String.map_eq]
    decide
  have hL : CaseDistinct String.toLower ["api"] := List.nodup_singleton _
  exact ⟨string_toLower_toLower, hlow, hL,
    mergeAliases_caseDistinct string_toLower_toLower hlow hL _⟩


section Runs

variable {toLower : String → String}

/-- Aliases that lower-casing fixes are distinct up to letter case exactly when they are
distinct. -/
theorem caseDistinct_iff_nodup {M : List String} (hlow : ∀ x ∈ M, toLower x = x) :
    CaseDistinct toLower M ↔ M.Nodup := by
  rw [CaseDistinct, List.map_congr_left hlow, List.map_id']

/-- Aliases stored lower case and pairwise distinct up to letter case. -/
def AliasesLower (toLower : String → String) (aliases : List String) : Prop :=
  (∀ a ∈ aliases, toLower a = a) ∧ CaseDistinct toLower aliases

instance (aliases : List String) : Decidable (AliasesLower toLower aliases) :=
  inferInstanceAs (Decidable ((∀ a ∈ aliases, toLower a = a) ∧ CaseDistinct toLower aliases))

/-- With an idempotent lower-casing, the merge keeps aliases lower case and distinct up to
letter case: what it appends is lower-cased, and lower-cased it is distinct. -/
theorem aliasesLower_mergeAliases (hidem : ∀ s, toLower (toLower s) = toLower s)
    {L : List String} (h : AliasesLower toLower L) (A : List String) :
    AliasesLower toLower (mergeAliases toLower L A) := by
  have hlow : ∀ x ∈ mergeAliases toLower L A, toLower x = x := fun x hx =>
    (mem_mergeAliases toLower hx).elim (h.1 x) fun ⟨a, _, ha⟩ => ha ▸ hidem a
  exact ⟨hlow, (caseDistinct_iff_nodup hlow).mpr
    (nodup_mergeAliases toLower ((caseDistinct_iff_nodup h.1).mp h.2) A)⟩

@[simp] theorem save_fst_networkAliases {gen : IdGen} {seq : Nat} {cs : List Container}
    (c : Container) : (save gen seq cs c).1.networkAliases = c.networkAliases := by
  unfold save; split_ifs <;> rfl

/-- Every stored container's aliases are lower case and pairwise distinct up to letter case. -/
def ContainersAliasesLower (toLower : String → String) (db : DB) : Prop :=
  ∀ c ∈ db.containers, AliasesLower toLower c.networkAliases

instance (db : DB) : Decidable (ContainersAliasesLower toLower db) :=
  inferInstanceAs (Decidable (∀ c ∈ db.containers, AliasesLower toLower c.networkAliases))

theorem ContainersAliasesLower.saveContainer {gen : IdGen} {db : DB} {c : Container}
    (h : ContainersAliasesLower toLower db) (hc : AliasesLower toLower c.networkAliases) :
    ContainersAliasesLower toLower (db.saveContainer gen c).2 := fun d hd =>
  (mem_save hd).elim (h d) fun hd => by
    rw [hd, save_fst_networkAliases]
    exact hc

/-- A pointer reads aliases lower case and distinct up to letter case: those of a stored
container, or none past the table. -/
theorem ContainersAliasesLower.containerAt {db : DB} (h : ContainersAliasesLower toLower db)
    (i : Nat) : AliasesLower toLower (db.containerAt i).networkAliases := by
  rcases DB.containerAt_mem_or_default db i with hc | hc
  · exact h _ hc
  · rw [hc]; exact ⟨nofun, List.nodup_nil⟩

theorem ContainersAliasesLower.modifyContainer {db : DB} {i : Nat} {f : Container → Container}
    (h : ContainersAliasesLower toLower db)
    (hf : AliasesLower toLower (f (db.containerAt i)).networkAliases) :
    ContainersAliasesLower toLower (db.modifyContainer i f) := fun d hd =>
  (DB.mem_modifyContainer hd).elim (h d) fun he => he ▸ hf

variable {env : Env} {w : World}

theorem ContainersAliasesLower.saveContainerAt {i : Nat}
    (h : ContainersAliasesLower env.toLower w.db) :
    ContainersAliasesLower env.toLower (Kubedock.saveContainerAt env i w).2.db := by
  rcases hs : Kubedock.saveContainerAt env i w with ⟨r, w'⟩
  obtain ⟨-, -, ⟨-, hdb⟩ | ⟨-, hdb⟩⟩ := saveContainerAt_spec hs
  · rw [hdb]; exact h.saveContainer (h.containerAt i)
  · rw [hdb]; exact h

/-- Every request keeps the stored aliases lower case and distinct up to letter case:
`NetworkConnect` saves the merge of a stored container's aliases, `NetworkDisconnect` saves a
stored container with its aliases, and no other handler saves a container. -/
theorem Request.apply_aliasesLower (hidem : ∀ s, env.toLower (env.toLower s) = env.toLower s)
    (req : Request) (h : ContainersAliasesLower env.toLower w.db) :
    ContainersAliasesLower env.toLower (req.apply env w).db := by
  cases req with
  | volume req =>
    intro c hc
    exact h c ((req.apply_frame env w).2 ▸ hc)
  | network req =>
    cases req with
    | networkCreate body =>
      rcases hr : networkCreate env body w with ⟨r, w'⟩
      obtain ⟨-, -, ⟨hdb, -⟩ | ⟨_, n, -, -, -, -, -, hdb⟩⟩ := networkCreate_spec hr <;>
        simp only [Request.apply, NetworkRequest.apply, hr, hdb, DB.saveNetwork_containers] <;>
        exact h
    | networkInfo id => simpa [Request.apply, NetworkRequest.apply] using h
    | networkExists id => simpa [Request.apply, NetworkRequest.apply] using h
    | networkDelete id =>
      rcases hr : networkDelete env id w with ⟨r, w'⟩
      obtain ⟨-, -, ⟨hdb, -⟩ | ⟨_, -, -, -, -, hdel⟩⟩ := networkDelete_spec hr <;>
        simp only [Request.apply, NetworkRequest.apply, hr]
      · rw [hdb]; exact h
      · rw [DB.deleteNetwork_some hdel]; exact h
    | networkConnect id body =>
      rcases hr : networkConnect env id body w with ⟨r, w'⟩
      simp only [Request.apply, NetworkRequest.apply, hr]
      obtain ⟨rfl, -⟩ | ⟨req, netw, i, -, -, -, hs⟩ := networkConnect_spec hr
      · exact h
      · rw [show w' = _ from (congrArg Prod.snd hs).symm]
        refine ContainersAliasesLower.saveContainerAt (h.modifyContainer ?_)
        simpa [connectedContainer] using aliasesLower_mergeAliases hidem (h.containerAt i) req.aliases
    | networkDisconnect id body =>
      rcases hr : networkDisconnect env id body w with ⟨r, w'⟩
      simp only [Request.apply, NetworkRequest.apply, hr]
      obtain rfl | ⟨req, netw, i, tainr, -, -, -, -, hdis, hs⟩ := networkDisconnect_spec hr
      · exact h
      · rw [show w' = _ from (congrArg Prod.snd hs).symm]
        refine ContainersAliasesLower.saveContainerAt (h.modifyContainer ?_)
        rw [(Container.disconnectNetwork_ok hdis).2]
        exact h.containerAt i
    | networkPrune =>
      rcases hr : networkPrune env w with ⟨r, w'⟩
      obtain ⟨-, -, _, -, hdb, -⟩ := networkPrune_spec hr
      simp only [Request.apply, NetworkRequest.apply, hr, hdb]
      exact h

/-- With an idempotent lower-casing, every run of requests from a store whose containers hold
their aliases lower case and pairwise distinct up to letter case keeps them so, under every
pattern of failures. -/
theorem run_aliasesLower (env : Env) (hidem : ∀ s, env.toLower (env.toLower s) = env.toLower s)
    (reqs : List Request) {w : World} (h : ContainersAliasesLower env.toLower w.db) :
    ContainersAliasesLower env.toLower (run env w reqs).db :=
  run_preserves env (P := fun w => ContainersAliasesLower env.toLower w.db) (Q := fun _ => True)
    (fun req _ _ h => req.apply_aliasesLower hidem h) reqs w (fun _ _ => trivial) h

theorem run_aliasesLower_of_mixed_case_connects :
    let w : World :=
      { db :=
          { networks := [{ id := "a", name := "net" }]
            containers := [{ id := "b", name := "app", networks := ["a"], networkAliases := ["api"] }]
            seq := 2 }
        pvcs := []
        faults := fun _ => [] }
    let reqs : List Request :=
      [.network (.networkConnect "net" (.ok { container := "app", aliases := ["Web", "web", "API"] })),
        .network (.networkDisconnect "net" (.ok { container := "app" })),
        .network (.networkConnect "a" (.ok { container := "b", aliases := ["WEB", "db"] }))]
    (∀ s, Env.sample.toLower (Env.sample.toLower s) = Env.sample.toLower s) ∧
      ContainersAliasesLower Env.sample.toLower w.db ∧
      ContainersAliasesLower Env.sample.toLower (run Env.sample w reqs).db := by
  intro w reqs
  have h : ContainersAliasesLower Env.sample.toLower w.db := by
    simp only [w, ContainersAliasesLower, List.mem_singleton, forall_eq, AliasesLower,
      CaseDistinct, Env.sample, String.toLower, String.map_eq]
    decide
  exact ⟨string_toLower_toLower, h, run_aliasesLower Env.sample string_toLower_toLower reqs h⟩

end Runs

end Kubedock
