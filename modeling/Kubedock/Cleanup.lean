import Kubedock.PlatformObjects

/-! `DeleteVolumes`, the backend's bulk removal of the claims a label selector selects. With
distinct claim names it removes none the selector does not select, and every one it does when no
delete fails; every claim a run leaves is one `CreateVolume` built, so a selector of their labels
clears the namespace. -/

namespace Kubedock

/-- An equality-based label selector (`k1=v1,k2=v2`), as the platform reads `LabelSelector`: the
label values a claim must carry. -/
abbrev Selector := List (String × String)

/-- Whether labels carry every pair of a selector. -/
def Selector.selects (sel : Selector) (labels : Labels) : Bool :=
  sel.all fun kv => labels.lookup kv.1 == some kv.2

/-- `PersistentVolumeClaims(namespace).List` with a label selector. -/
def listPVCs (pvcs : List PVC) (sel : Selector) (fails : Bool) : Except ApiError (List PVC) :=
  if fails then .error .failed else .ok (pvcs.filter fun p => sel.selects p.labels)

/-- One delete of the loop of `DeleteVolumes`, by the listed claim's name; the loop only logs its
error. -/
def deleteListedPVC (name : List UInt8) (pvcs : List PVC) (fails : Bool) :
    Except String Unit × List PVC :=
  match deletePVC pvcs name fails with
  | .ok pvcs => (.ok (), pvcs)
  | .error e => (.error e.text, pvcs)

/-- A delete by name removes the claims of the name, or nothing. -/
theorem deleteListedPVC_spec (name : List UInt8) (pvcs : List PVC) (fails : Bool) :
    (deleteListedPVC name pvcs fails).2 = pvcs ∨
      (deleteListedPVC name pvcs fails).2 = pvcs.filter (·.name ≠ name) := by
  unfold deleteListedPVC deletePVC
  split_ifs <;> simp

/-- A delete by name that does not fail leaves no claim of the name. -/
theorem deleteListedPVC_of_not_fails (name : List UInt8) (pvcs : List PVC) :
    (deleteListedPVC name pvcs false).2 = pvcs.filter (·.name ≠ name) := by
  simp only [deleteListedPVC, deletePVC, Bool.false_eq_true, if_false]
  split_ifs with hany
  · rfl
  · refine (List.filter_eq_self.mpr fun p hp => ?_).symm
    simpa using fun he => hany (List.any_eq_true.mpr ⟨p, hp, decide_eq_true he⟩)

namespace World

/-- The loop of `cr.Backend.DeleteVolumes` over the listed claims. -/
def deleteListed : List PVC → World → World
  | [], w => w
  | p :: ps, w => deleteListed ps (w.backendCall .deletePVC (deleteListedPVC p.name)).2

/-- `cr.Backend.DeleteVolumes`. The listing fails as `listFails` says: the world's fault streams
are those of the handlers' calls. -/
def backendDeleteVolumes (sel : Selector) (listFails : Bool) (w : World) :
    Except String Unit × World :=
  match listPVCs w.pvcs sel listFails with
  | .error e => (.error e.text, w)
  | .ok items => (.ok (), w.deleteListed items)

theorem backendDeleteVolumes_of_not_fails (sel : Selector) (w : World) :
    w.backendDeleteVolumes sel false =
      (.ok (), w.deleteListed (w.pvcs.filter fun p => sel.selects p.labels)) := rfl

/-- What the loop does: it consumes delete outcomes and leaves the store; every claim after it
was there before, every claim whose name is not listed stays, and when no delete fails, no claim
of a listed name is left. -/
theorem deleteListed_spec : ∀ (items : List PVC) (w : World),
    Consumed w (w.deleteListed items) ∧ (w.deleteListed items).db = w.db ∧
      (∀ p ∈ (w.deleteListed items).pvcs, p ∈ w.pvcs) ∧
      (∀ p ∈ w.pvcs, p.name ∉ items.map PVC.name → p ∈ (w.deleteListed items).pvcs) ∧
      ((∀ b ∈ w.faults .deletePVC, b = false) →
        (w.deleteListed items).pvcs = w.pvcs.filter fun p => p.name ∉ items.map PVC.name)
  | [], w => ⟨.refl _, rfl, fun _ hp => hp, fun _ hp _ => hp, fun _ => by simp [deleteListed]⟩
  | q :: qs, w => by
    set w₁ := (w.backendCall .deletePVC (deleteListedPVC q.name)).2
    have hc₁ : Consumed w w₁ := consumed_backendCall _ _ _
    have hp₁ : w₁.pvcs = (deleteListedPVC q.name w.pvcs (w.fails .deletePVC)).2 := rfl
    obtain ⟨hc, hdb, hsub, hkeep, hrel⟩ := deleteListed_spec qs w₁
    refine ⟨hc₁.trans hc, hdb, fun p hp => ?_, fun p hp hn => hkeep p ?_ fun h => hn ?_,
      fun hr => ?_⟩
    · have hp' := hsub p hp
      rcases deleteListedPVC_spec q.name w.pvcs (w.fails .deletePVC) with he | he <;>
        rw [hp₁, he] at hp'
      · exact hp'
      · exact List.mem_of_mem_filter hp'
    · have hne : p.name ≠ q.name := fun he => hn (he ▸ List.mem_cons_self _ _)
      rcases deleteListedPVC_spec q.name w.pvcs (w.fails .deletePVC) with he | he <;> rw [hp₁, he]
      · exact hp
      · exact List.mem_filter.mpr ⟨hp, decide_eq_true hne⟩
    · exact List.mem_cons_of_mem _ h
    · show (deleteListed qs w₁).pvcs = _
      rw [hrel (hc₁.reliable hr), hp₁, fails_eq_false_of_reliable hr, deleteListedPVC_of_not_fails,
        List.filter_filter]
      refine List.filter_congr fun p _ => ?_
      simp [not_or, Bool.and_comm]

end World

/-- `DeleteVolumes` over a namespace whose claim names are distinct: whatever fails, it leaves
the store, every claim after it was there before, and no claim the selector does not select is
removed; when the listing and the deletes do not fail, exactly the selected claims are removed. -/
theorem backendDeleteVolumes_removes_selected (sel : Selector) (listFails : Bool) (w : World)
    (hd : (w.pvcs.map PVC.name).Nodup) :
    (w.backendDeleteVolumes sel listFails).2.db = w.db ∧
      (∀ p ∈ (w.backendDeleteVolumes sel listFails).2.pvcs, p ∈ w.pvcs) ∧
      (∀ p ∈ w.pvcs, sel.selects p.labels = false → p ∈ (w.backendDeleteVolumes sel listFails).2.pvcs) ∧
      (listFails = false → (∀ b ∈ w.faults .deletePVC, b = false) →
        (w.backendDeleteVolumes sel listFails).2.pvcs = w.pvcs.filter fun p => !sel.selects p.labels) := by
  cases listFails with
  | true => exact ⟨rfl, fun _ hp => hp, fun _ hp _ => hp, fun h => absurd h (by decide)⟩
  | false =>
    rw [World.backendDeleteVolumes_of_not_fails]
    obtain ⟨-, hdb, hsub, hkeep, hrel⟩ :=
      World.deleteListed_spec (w.pvcs.filter fun p => sel.selects p.labels) w
    have hname : ∀ p ∈ w.pvcs, p.name ∈ (w.pvcs.filter fun p => sel.selects p.labels).map PVC.name ↔
        sel.selects p.labels = true := fun p hp => by
      refine ⟨fun h => ?_, fun h => List.mem_map_of_mem _ (List.mem_filter.mpr ⟨hp, h⟩)⟩
      obtain ⟨q, hq, hqn⟩ := List.mem_map.mp h
      obtain ⟨hqw, hqs⟩ := List.mem_filter.mp hq
      rwa [← List.inj_on_of_nodup_map hd hqw hp hqn]
    refine ⟨hdb, hsub, fun p hp hs => hkeep p hp fun h => ?_, fun _ hr => ?_⟩
    · rw [(hname p hp).mp h] at hs
      exact absurd hs (by decide)
    · rw [hrel hr]
      refine List.filter_congr fun p hp => ?_
      simp [hname p hp]

theorem backendDeleteVolumes_removes_selected_of_foreign_claim :
    let w : World :=
      { db := {}
        pvcs := [{ Env.sample.backend.volumePVC { name := "data" } with labels := [("app", "kubedock")] },
          { Env.sample.backend.volumePVC { name := "ci" } with labels := [("app", "ci")] }]
        faults := fun _ => [] }
    (w.pvcs.map PVC.name).Nodup ∧
      ((w.backendDeleteVolumes [("app", "kubedock")] false).2.db = w.db ∧
        (∀ p ∈ (w.backendDeleteVolumes [("app", "kubedock")] false).2.pvcs, p ∈ w.pvcs) ∧
        (∀ p ∈ w.pvcs, Selector.selects [("app", "kubedock")] p.labels = false →
          p ∈ (w.backendDeleteVolumes [("app", "kubedock")] false).2.pvcs) ∧
        (false = false → (∀ b ∈ w.faults .deletePVC, b = false) →
          (w.backendDeleteVolumes [("app", "kubedock")] false).2.pvcs =
            w.pvcs.filter fun p => !Selector.selects [("app", "kubedock")] p.labels)) := by
  intro w
  have hd : (w.pvcs.map PVC.name).Nodup := by decide
  exact ⟨hd, backendDeleteVolumes_removes_selected [("app", "kubedock")] false w hd⟩

section Runs

variable {env : Env}

/-- Every claim of the namespace is one `CreateVolume` built. -/
def ClaimsBuilt (bk : Instance) (w : World) : Prop :=
  ∀ p ∈ w.pvcs, ∃ v, p = bk.volumePVC v

/-- `CreateVolume` adds the claim it builds, or nothing. -/
theorem World.backendCreateVolume_pvcs {w : World} (v : Volume) :
    ∀ p ∈ (w.backendCreateVolume env v).2.pvcs, p ∈ w.pvcs ∨ p = env.backend.volumePVC v := by
  intro p hp
  rcases (env.backend.createVolume_spec v w.pvcs (w.fails .createPVC)).1 with he | he <;>
    simp only [World.backendCreateVolume, World.backendCall, he] at hp
  · exact .inl hp
  · simpa using hp

theorem volumeCreate_pvcs (body : Except String VolumeCreateRequest) (w : World) :
    ∀ p ∈ (volumeCreate env body w).2.pvcs, p ∈ w.pvcs ∨ ∃ v, p = env.backend.volumePVC v := by
  intro p hp
  cases body with
  | error e => exact .inl hp
  | ok req =>
    simp only [volumeCreate] at hp
    cases hl : w.db.getVolumeByName req.name with
    | some e =>
      simp only [hl] at hp
      exact .inl hp
    | none =>
      simp only [hl] at hp
      set vol : Volume := { name := req.name, driver := if req.driver = "" then "local" else req.driver
                            labels := req.labels }
      have hc := @World.backendCreateVolume_pvcs env w vol p
      rcases hr : w.backendCreateVolume env vol with ⟨_ | vol', w₁⟩ <;> simp only [hr] at hp hc
      · exact (hc hp).imp_right fun h => ⟨_, h⟩
      · rcases hs : w₁.dbSaveVolume env vol' with ⟨_ | _, w₂⟩ <;> simp only [hs] at hp <;>
          exact (hc ((World.dbSaveVolume_spec hs).2.1 ▸ hp)).imp_right fun h => ⟨_, h⟩

theorem pruneVolumes_pvcs {β : Type} (report : Volume → β) :
    ∀ (acc : List β) (vols : List Volume) (w : World),
      ∀ p ∈ (pruneVolumes env report acc vols w).2.pvcs, p ∈ w.pvcs
  | _, [], _, _, hp => hp
  | acc, v :: vols, w, p, hp => by
    simp only [pruneVolumes] at hp
    rcases hd : (w.backendDeleteVolume env v).2.dbDeleteVolume v with ⟨r, w₂⟩
    rw [hd] at hp
    obtain ⟨-, hp₂, -⟩ := World.purgeVolume_spec hd
    have hsub : p ∈ w₂.pvcs → p ∈ w.pvcs := fun h => by
      rcases hp₂ with he | he <;> rw [he] at h
      · exact h
      · exact List.mem_of_mem_filter h
    cases r <;> exact hsub (pruneVolumes_pvcs report _ vols w₂ p hp)

theorem volumesPruneWith_pvcs {β : Type} (report : Volume → β) (w : World) :
    ∀ p ∈ (volumesPruneWith env report w).2.pvcs, p ∈ w.pvcs := by
  intro p hp
  obtain ⟨-, -, hpvcs, -⟩ := World.dbGetVolumes_spec w
  unfold volumesPruneWith at hp
  rcases hl : w.dbGetVolumes with ⟨_ | vols, w₁⟩ <;> rw [hl] at hp hpvcs
  · exact hpvcs ▸ hp
  · exact hpvcs ▸ pruneVolumes_pvcs report [] vols w₁ p hp

/-- Every claim after a request was there before or is one `CreateVolume` built. -/
theorem Request.apply_pvcs (req : Request) (w : World) :
    ∀ p ∈ (req.apply env w).pvcs, p ∈ w.pvcs ∨ ∃ v, p = env.backend.volumePVC v := by
  intro p hp
  cases req with
  | volume req =>
    cases req with
    | volumeCreate body => exact volumeCreate_pvcs body w p hp
    | volumeInfo id => exact .inl (by simpa [Request.apply, VolumeRequest.apply] using hp)
    | volumeExists name => exact .inl (by simpa [Request.apply, VolumeRequest.apply] using hp)
    | volumeDelete id =>
      rcases hr : volumeDelete env id w with ⟨r, w'⟩
      simp only [Request.apply, VolumeRequest.apply, hr] at hp
      obtain ⟨-, ⟨-, he, -⟩ | ⟨v, -, he | he, -⟩⟩ := volumeDelete_spec hr <;> rw [he] at hp
      · exact .inl hp
      · exact .inl hp
      · exact .inl (List.mem_of_mem_filter hp)
    | volumesPrune => exact .inl (volumesPruneWith_pvcs Volume.name w p hp)
    | volumePrune => exact .inl (volumesPruneWith_pvcs Volume.id w p hp)
  | network req => exact .inl ((req.apply_spec env w).2.1 ▸ hp)

/-- Every run of requests, under every pattern of failures, keeps every claim of the namespace one
`CreateVolume` built. -/
theorem run_claimsBuilt (env : Env) (w : World) (reqs : List Request)
    (h : ClaimsBuilt env.backend w) : ClaimsBuilt env.backend (run env w reqs) :=
  run_preserves env (P := ClaimsBuilt env.backend) (Q := fun _ => True)
    (fun req w _ h p hp => (req.apply_pvcs w p hp).elim (h p) id) reqs w (fun _ _ => trivial) h

/-- After every run from the empty store, `DeleteVolumes` with a selector of labels every built
claim carries, whose calls do not fail, succeeds and leaves no claim. -/
theorem run_deleteVolumes_clears (env : Env) (faults : Call → List Bool) (reqs : List Request)
    (sel : Selector) (hsys : (env.backend.systemLabels.map Prod.fst).Nodup)
    (hdef : (env.backend.defaultLabels.map Prod.fst).Nodup)
    (hsel : ∀ kv ∈ sel, kv.1 ≠ "kubedock.volumeid" ∧
      (env.backend.defaultLabels.lookup kv.1).or (env.backend.systemLabels.lookup kv.1) = some kv.2)
    (hp : ∀ b ∈ (run env (World.initial faults) reqs).faults .deletePVC, b = false) :
    ((run env (World.initial faults) reqs).backendDeleteVolumes sel false).1 = .ok () ∧
      ((run env (World.initial faults) reqs).backendDeleteVolumes sel false).2.pvcs = [] := by
  set w := run env (World.initial faults) reqs
  have hbuilt : ClaimsBuilt env.backend w :=
    run_claimsBuilt env _ reqs fun p hp => absurd hp (List.not_mem_nil p)
  have hselects : ∀ p ∈ w.pvcs, sel.selects p.labels = true := fun p hp => by
    obtain ⟨v, rfl⟩ := hbuilt p hp
    refine List.all_eq_true.mpr fun kv hkv => ?_
    rw [env.backend.volumePVC_labels_lookup v hsys hdef, if_neg (hsel kv hkv).1, (hsel kv hkv).2]
    exact beq_self_eq_true _
  rw [World.backendDeleteVolumes_of_not_fails]
  refine ⟨rfl, ?_⟩
  rw [((World.deleteListed_spec _ w).2.2.2.2 hp), List.filter_eq_nil_iff]
  intro p hp'
  have hl : p ∈ w.pvcs.filter fun p => sel.selects p.labels :=
    List.mem_filter.mpr ⟨hp', hselects p hp'⟩
  simpa [and_assoc] using List.mem_map_of_mem PVC.name hl

theorem run_deleteVolumes_clears_labelled_claims :
    let env : Env :=
      { Env.sample with
        backend := { Env.sample.backend with
          systemLabels := [("kubedock", "true"), ("tier", "system")]
          defaultLabels := [("tier", "db")] } }
    let faults : Call → List Bool := fun c => if c = .createPVC then [false, true] else []
    let reqs : List Request :=
      [.volume (.volumeCreate (.ok { name := "data" })), .volume (.volumeCreate (.ok { name := "cache" })),
        .volume (.volumeCreate (.ok { name := "logs" })), .volume (.volumeDelete "data")]
    let sel : Selector := [("kubedock", "true"), ("tier", "db")]
    (env.backend.systemLabels.map Prod.fst).Nodup ∧ (env.backend.defaultLabels.map Prod.fst).Nodup ∧
      (∀ kv ∈ sel, kv.1 ≠ "kubedock.volumeid" ∧
        (env.backend.defaultLabels.lookup kv.1).or (env.backend.systemLabels.lookup kv.1) = some kv.2) ∧
      (∀ b ∈ (run env (World.initial faults) reqs).faults .deletePVC, b = false) ∧
      (((run env (World.initial faults) reqs).backendDeleteVolumes sel false).1 = .ok () ∧
        ((run env (World.initial faults) reqs).backendDeleteVolumes sel false).2.pvcs = []) := by
  intro env faults reqs sel
  have hsys : (env.backend.systemLabels.map Prod.fst).Nodup := by decide
  have hdef : (env.backend.defaultLabels.map Prod.fst).Nodup := by decide
  have hsel : ∀ kv ∈ sel, kv.1 ≠ "kubedock.volumeid" ∧
      (env.backend.defaultLabels.lookup kv.1).or (env.backend.systemLabels.lookup kv.1) = some kv.2 := by
    decide
  have hp : ∀ b ∈ (run env (World.initial faults) reqs).faults .deletePVC, b = false := by decide
  exact ⟨hsys, hdef, hsel, hp, run_deleteVolumes_clears env faults reqs sel hsys hdef hsel hp⟩

end Runs

end Kubedock
