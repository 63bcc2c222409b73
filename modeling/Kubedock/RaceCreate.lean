import Kubedock.Concurrent

/-! Two creates of one name at once, `VolumeCreate`s or `NetworkCreate`s. Each looks the name up
and saves later, so when both look before either saves, both save and the store gains two
entities of the name. Under every schedule it gains one, carried by both replies, or two, one
per reply; the platform gains at most one claim. -/

namespace Kubedock

/-- A list without repeats whose members are `a` or `b` and which holds both is `[a]`, or
`[a, b]` or `[b, a]` with `a ≠ b`. -/
theorem eq_pair_of_nodup {α : Type} {a b : α} : ∀ {S : List α}, S.Nodup → (∀ s ∈ S, s = a ∨ s = b) →
    a ∈ S → b ∈ S → a = b ∧ S = [a] ∨ a ≠ b ∧ (S = [a, b] ∨ S = [b, a])
  | [], _, _, ha, _ => absurd ha (List.not_mem_nil a)
  | [x], _, _, ha, hb => by
    rw [List.mem_singleton] at ha hb
    exact .inl ⟨ha.trans hb.symm, by rw [ha]⟩
  | [x, y], hnd, _, ha, hb => by
    have hxy : x ≠ y := by simpa using hnd
    simp only [List.mem_cons, List.mem_singleton, List.not_mem_nil, or_false] at ha hb
    rcases ha with rfl | rfl <;> rcases hb with rfl | rfl
    · simp_all
    · exact .inr ⟨hxy, .inl rfl⟩
    · exact .inr ⟨hxy.symm, .inr rfl⟩
    · simp_all
  | x :: y :: z :: _, hnd, hS, _, _ => by
    simp only [List.nodup_cons, List.mem_cons, not_or] at hnd
    rcases hS x (by simp) with rfl | rfl <;> rcases hS y (by simp) with rfl | rfl <;>
      rcases hS z (by simp) with h | h <;> simp_all

section Added

variable {α : Type} [Entity α] {n : String} {T₀ T : List α}

/-- The table `T` holds the table `T₀` and then entities named `n`, each one that `P` says. -/
def Added (n : String) (P : α → Prop) (T₀ T : List α) : Prop :=
  ∃ S, T = T₀ ++ S ∧ ∀ s ∈ S, Entity.name s = n ∧ P s

theorem Added.mono {P Q : α → Prop} (h : Added n P T₀ T) (hPQ : ∀ s, P s → Q s) :
    Added n Q T₀ T :=
  let ⟨S, hT, hS⟩ := h
  ⟨S, hT, fun s hs => ⟨(hS s hs).1, hPQ s (hS s hs).2⟩⟩

theorem Added.append {P Q : α → Prop} {x : α} (h : Added n P T₀ T) (hPQ : ∀ s, P s → Q s)
    (hx : Entity.name x = n) (hQ : Q x) : Added n Q T₀ (T ++ [x]) := by
  obtain ⟨S, rfl, hS⟩ := h.mono hPQ
  refine ⟨S ++ [x], List.append_assoc _ _ _, fun s hs => ?_⟩
  rcases List.mem_append.mp hs with hs | hs
  · exact hS s hs
  · rw [List.mem_singleton.mp hs]
    exact ⟨hx, hQ⟩

/-- After two creates of `n` whose added entities are the replies `a` and `b`, the table gained
`a` alone, or `a` and `b` in either order. -/
theorem Added.outcome {a b : α} (h : Added n (fun s => s = a ∨ s = b) T₀ T)
    (hk : (T.map Entity.id).Nodup) (hfree : ∀ x ∈ T₀, Entity.name x ≠ n)
    (ha : a ∈ T) (han : Entity.name a = n) (hb : b ∈ T) (hbn : Entity.name b = n) :
    a = b ∧ T = T₀ ++ [a] ∨ a ≠ b ∧ (T = T₀ ++ [a, b] ∨ T = T₀ ++ [b, a]) := by
  obtain ⟨S, rfl, hS⟩ := h
  rw [List.map_append] at hk
  have hnd : S.Nodup := (List.nodup_append.mp hk).2.1.of_map _
  have hadded : ∀ x ∈ T₀ ++ S, Entity.name x = n → x ∈ S := fun x hx hxn =>
    (List.mem_append.mp hx).resolve_left fun h₀ => hfree x h₀ hxn
  rcases eq_pair_of_nodup hnd (fun s hs => (hS s hs).2) (hadded a ha han) (hadded b hb hbn) with
    ⟨hab, rfl⟩ | ⟨hab, rfl | rfl⟩
  · exact .inl ⟨hab, rfl⟩
  · exact .inr ⟨hab, .inl rfl⟩
  · exact .inr ⟨hab, .inr rfl⟩

end Added

section Volumes

variable {env : Env} {n : String} {db₀ : DB} {pvcs₀ : List PVC} {pA pB : VolumeCreatePhase}
  {w : World}

/-- What a `VolumeCreate` thread of the name `n` holds when the store holds the volumes `vols`:
about to save, a volume named `n` without an ID; replied, with a stored volume named `n`. -/
structure VolumeCreatePhase.Holds (n : String) (vols : List Volume) (p : VolumeCreatePhase) :
    Prop where
  save : ∀ v, p = .save v → v.name = n ∧ v.id = ""
  reply : ∀ r, p = .reply r → ∃ a ∈ vols, r = .ok statusCreated a ∧ a.name = n

/-- Two `VolumeCreate` threads of `n` from `db₀` and `pvcs₀`: the store is `db₀` with volumes of
the name added, each a thread's reply, and the platform gained at most the claim of `n`. -/
structure VolumeRace (env : Env) (n : String) (db₀ : DB) (pvcs₀ : List PVC)
    (pA pB : VolumeCreatePhase) (w : World) : Prop where
  wf : w.db.WellFormed env.idGen
  added : Added n (fun s => pA = .reply (.ok statusCreated s) ∨ pB = .reply (.ok statusCreated s))
    db₀.volumes w.db.volumes
  networks : w.db.networks = db₀.networks
  containers : w.db.containers = db₀.containers
  pvcs : w.pvcs = pvcs₀ ∨ w.pvcs = pvcs₀ ++ [env.backend.volumePVC { name := n }]
  holdsA : pA.Holds n w.db.volumes
  holdsB : pB.Holds n w.db.volumes
  saves : ∀ b ∈ w.faults .saveVolume, b = false
  claims : ∀ b ∈ w.faults .createPVC, b = false

theorem VolumeRace.symm (h : VolumeRace env n db₀ pvcs₀ pA pB w) :
    VolumeRace env n db₀ pvcs₀ pB pA w :=
  { h with added := h.added.mono fun _ => Or.symm, holdsA := h.holdsB, holdsB := h.holdsA }

/-- Every call of a `VolumeCreate` of the name `n` keeps the race invariant. -/
theorem VolumeRace.advance {req : VolumeCreateRequest} (hreq : req.name = n)
    (h : VolumeRace env n db₀ pvcs₀ pA pB w) :
    VolumeRace env n db₀ pvcs₀ (VolumeCreatePhase.advance env req pA w).1 pB
      (VolumeCreatePhase.advance env req pA w).2 := by
  subst hreq
  have pending : ∀ {pA' : VolumeCreatePhase}, (∀ r, pA ≠ .reply r) →
      Added req.name (fun s => pA' = .reply (.ok statusCreated s) ∨
        pB = .reply (.ok statusCreated s)) db₀.volumes w.db.volumes :=
    fun hA => h.added.mono fun _ hs => .inr (hs.resolve_left (hA _))
  cases pA with
  | lookup =>
    show VolumeRace env req.name db₀ pvcs₀ (match w.db.getVolumeByName req.name with
      | some existing => .reply (.ok statusCreated existing) | none => .claim) pB w
    cases hl : w.db.getVolumeByName req.name with
    | none => exact { h with added := pending nofun, holdsA := ⟨nofun, nofun⟩ }
    | some e =>
      obtain ⟨he, hen⟩ := findByName_some hl
      exact { h with
        added := pending nofun
        holdsA := ⟨nofun, fun r hr => ⟨e, he, by cases hr; rfl, hen⟩⟩ }
  | claim =>
    have hpvc : env.backend.volumePVC req.toVolume = env.backend.volumePVC { name := req.name } :=
      rfl
    simp only [VolumeCreatePhase.advance,
      World.backendCreateVolume_of_not_fails (World.fails_eq_false_of_reliable h.claims)]
    refine { h with
      added := pending nofun
      holdsA := ⟨fun v hv => by cases hv; exact ⟨rfl, rfl⟩, nofun⟩
      pvcs := ?_
      saves := (World.consumed_next w .createPVC).reliable h.saves
      claims := (World.consumed_next w .createPVC).reliable h.claims }
    dsimp only
    rcases h.pvcs with hp | hp
    · split_ifs
      · exact .inl hp
      · exact .inr (by rw [hp, hpvc])
    · have hclaimed : (w.pvcs.any fun p => p.name = env.backend.getVolumePVCName req.toVolume) :=
        List.any_eq_true.mpr ⟨_, by rw [hp]; exact List.mem_append_right _ (List.mem_singleton_self _),
          decide_eq_true rfl⟩
      rw [if_pos hclaimed]
      exact .inr hp
  | save v =>
    obtain ⟨hvn, hvid⟩ := h.holdsA.save v rfl
    have hwf := h.wf.saveVolume (Or.inl hvid)
    simp only [VolumeCreatePhase.advance,
      World.dbSaveVolume_of_not_fails env (World.fails_eq_false_of_reliable h.saves)]
    rw [DB.saveVolume_new h.wf hvid] at hwf ⊢
    exact {
      wf := hwf
      added := h.added.append (fun _ hs => .inr (hs.resolve_left nofun)) hvn (.inl rfl)
      networks := h.networks
      containers := h.containers
      pvcs := h.pvcs
      holdsA := ⟨nofun, fun r hr => ⟨_, List.mem_append_right _ (List.mem_singleton_self _),
        by cases hr; rfl, hvn⟩⟩
      holdsB := ⟨h.holdsB.save, fun r hr =>
        let ⟨a, ha, hra, han⟩ := h.holdsB.reply r hr
        ⟨a, List.mem_append_left _ ha, hra, han⟩⟩
      saves := (World.consumed_next w .saveVolume).reliable h.saves
      claims := (World.consumed_next w .saveVolume).reliable h.claims }
  | reply r => exact h

/-- Two `VolumeCreate`s of one name, under any schedule: the store gains one volume of the name,
carried by both replies, or two, one per reply. -/
theorem volumeCreate_race {reqA reqB : VolumeCreateRequest} (hname : reqB.name = reqA.name)
    (hwf : w.db.WellFormed env.idGen) (hfree : w.db.getVolumeByName reqA.name = none)
    (hs : ∀ b ∈ w.faults .saveVolume, b = false) (hc : ∀ b ∈ w.faults .createPVC, b = false)
    (s : List Bool) :
    let r := interleave s (volumeCreateThread env reqA) (volumeCreateThread env reqB) w
    ∃ a b, r.1 = .ok statusCreated a ∧ r.2.1 = .ok statusCreated b ∧ a.name = reqA.name ∧
      b.name = reqA.name ∧
      (a = b ∧ r.2.2.db.volumes = w.db.volumes ++ [a] ∨
        a ≠ b ∧ (r.2.2.db.volumes = w.db.volumes ++ [a, b] ∨
          r.2.2.db.volumes = w.db.volumes ++ [b, a])) ∧
      (r.2.2.pvcs = w.pvcs ∨ r.2.2.pvcs = w.pvcs ++ [env.backend.volumePVC { name := reqA.name }]) := by
  have h₀ : VolumeRace env reqA.name w.db w.pvcs .lookup .lookup w :=
    { wf := hwf, added := ⟨[], (List.append_nil _).symm, nofun⟩, networks := rfl,
      containers := rfl, pvcs := .inl rfl, holdsA := ⟨nofun, nofun⟩, holdsB := ⟨nofun, nofun⟩,
      saves := hs, claims := hc }
  obtain ⟨qA, qB, hA, hB, hJ⟩ := interleave_phases (J := VolumeRace env reqA.name w.db w.pvcs)
    (VolumeCreatePhase.refines env reqA) (VolumeCreatePhase.refines env reqB)
    (fun _ _ _ h => h.advance rfl) (fun _ _ _ h => (h.symm.advance hname).symm) s h₀
  obtain rfl := VolumeCreatePhase.thread_eq_done env reqA hA
  obtain rfl := VolumeCreatePhase.thread_eq_done env reqB hB
  obtain ⟨a, ha, hra, han⟩ := hJ.holdsA.reply _ rfl
  obtain ⟨b, hb, hrb, hbn⟩ := hJ.holdsB.reply _ rfl
  have hadded := hJ.added.mono (Q := fun s => s = a ∨ s = b) fun s hs => by
    rw [hra, hrb] at hs
    rcases hs with hs | hs <;> cases hs
    exacts [.inl rfl, .inr rfl]
  exact ⟨a, b, hra, hrb, han, hbn,
    hadded.outcome hJ.wf.volumes.1 (findByName_eq_none.mp hfree) ha han hb hbn, hJ.pvcs⟩

end Volumes

section Networks

variable {env : Env} {n : String} {db₀ : DB} {pA pB : NetworkCreatePhase} {w : World}

/-- What a `NetworkCreate` thread of the name `n` holds when the store holds the networks
`netws`: about to save, a network named `n` without an ID; replied, with a stored network named
`n`. -/
structure NetworkCreatePhase.Holds (n : String) (netws : List Network) (p : NetworkCreatePhase) :
    Prop where
  save : ∀ m, p = .save m → m.name = n ∧ m.id = ""
  reply : ∀ r, p = .reply r → ∃ a ∈ netws, r = .ok statusOK a ∧ a.name = n

/-- Two `NetworkCreate` threads of the name `n` from the store `db₀`: the store is well formed
and is `db₀` with networks added, each named `n` and the reply of the thread that saved it;
saves do not fail. -/
structure NetworkRace (env : Env) (n : String) (db₀ : DB) (pA pB : NetworkCreatePhase) (w : World) :
    Prop where
  wf : w.db.WellFormed env.idGen
  added : Added n (fun s => pA = .reply (.ok statusOK s) ∨ pB = .reply (.ok statusOK s))
    db₀.networks w.db.networks
  volumes : w.db.volumes = db₀.volumes
  containers : w.db.containers = db₀.containers
  holdsA : pA.Holds n w.db.networks
  holdsB : pB.Holds n w.db.networks
  saves : ∀ b ∈ w.faults .saveNetwork, b = false

theorem NetworkRace.symm (h : NetworkRace env n db₀ pA pB w) : NetworkRace env n db₀ pB pA w :=
  { h with added := h.added.mono fun _ => Or.symm, holdsA := h.holdsB, holdsB := h.holdsA }

/-- Every call of a `NetworkCreate` of the name `n` keeps the race invariant. -/
theorem NetworkRace.advance {req : NetworkCreateRequest} (hreq : req.name = n)
    (h : NetworkRace env n db₀ pA pB w) :
    NetworkRace env n db₀ (NetworkCreatePhase.advance env req pA w).1 pB
      (NetworkCreatePhase.advance env req pA w).2 := by
  subst hreq
  have pending : ∀ {pA' : NetworkCreatePhase}, (∀ r, pA ≠ .reply r) →
      Added req.name (fun s => pA' = .reply (.ok statusOK s) ∨ pB = .reply (.ok statusOK s))
        db₀.networks w.db.networks :=
    fun hA => h.added.mono fun _ hs => .inr (hs.resolve_left (hA _))
  cases pA with
  | lookup =>
    show NetworkRace env req.name db₀ (match w.db.getNetworkByName req.name with
      | some existing => .reply (.ok statusOK existing)
      | none => .save { name := req.name, labels := req.labels }) pB w
    cases hl : w.db.getNetworkByName req.name with
    | none =>
      exact { h with
        added := pending nofun
        holdsA := ⟨fun m hm => by cases hm; exact ⟨rfl, rfl⟩, nofun⟩ }
    | some e =>
      obtain ⟨he, hen⟩ := findByName_some hl
      exact { h with
        added := pending nofun
        holdsA := ⟨nofun, fun r hr => ⟨e, he, by cases hr; rfl, hen⟩⟩ }
  | save m =>
    obtain ⟨hmn, hmid⟩ := h.holdsA.save m rfl
    have hwf := h.wf.saveNetwork (Or.inl hmid)
    simp only [NetworkCreatePhase.advance,
      World.dbSaveNetwork_of_not_fails env (World.fails_eq_false_of_reliable h.saves)]
    rw [DB.saveNetwork_new h.wf hmid] at hwf ⊢
    exact {
      wf := hwf
      added := h.added.append (fun _ hs => .inr (hs.resolve_left nofun)) hmn (.inl rfl)
      volumes := h.volumes
      containers := h.containers
      holdsA := ⟨nofun, fun r hr => ⟨_, List.mem_append_right _ (List.mem_singleton_self _),
        by cases hr; rfl, hmn⟩⟩
      holdsB := ⟨h.holdsB.save, fun r hr =>
        let ⟨a, ha, hra, han⟩ := h.holdsB.reply r hr
        ⟨a, List.mem_append_left _ ha, hra, han⟩⟩
      saves := (World.consumed_next w .saveNetwork).reliable h.saves }
  | reply r => exact h

/-- Two `NetworkCreate`s of one name, under any schedule, with saves that do not fail, from a
well-formed store without a network of the name: both succeed, and the store gains one network
of the name, which both replies carry, or two, one per reply. -/
theorem networkCreate_race {reqA reqB : NetworkCreateRequest} (hname : reqB.name = reqA.name)
    (hwf : w.db.WellFormed env.idGen) (hfree : w.db.getNetworkByName reqA.name = none)
    (hs : ∀ b ∈ w.faults .saveNetwork, b = false) (s : List Bool) :
    let r := interleave s (networkCreateThread env reqA) (networkCreateThread env reqB) w
    ∃ a b, r.1 = .ok statusOK a ∧ r.2.1 = .ok statusOK b ∧ a.name = reqA.name ∧
      b.name = reqA.name ∧
      (a = b ∧ r.2.2.db.networks = w.db.networks ++ [a] ∨
        a ≠ b ∧ (r.2.2.db.networks = w.db.networks ++ [a, b] ∨
          r.2.2.db.networks = w.db.networks ++ [b, a])) := by
  have h₀ : NetworkRace env reqA.name w.db .lookup .lookup w :=
    { wf := hwf, added := ⟨[], (List.append_nil _).symm, nofun⟩, volumes := rfl,
      containers := rfl, holdsA := ⟨nofun, nofun⟩, holdsB := ⟨nofun, nofun⟩, saves := hs }
  obtain ⟨qA, qB, hA, hB, hJ⟩ := interleave_phases (J := NetworkRace env reqA.name w.db)
    (NetworkCreatePhase.refines env reqA) (NetworkCreatePhase.refines env reqB)
    (fun _ _ _ h => h.advance rfl) (fun _ _ _ h => (h.symm.advance hname).symm) s h₀
  obtain rfl := NetworkCreatePhase.thread_eq_done env reqA hA
  obtain rfl := NetworkCreatePhase.thread_eq_done env reqB hB
  obtain ⟨a, ha, hra, han⟩ := hJ.holdsA.reply _ rfl
  obtain ⟨b, hb, hrb, hbn⟩ := hJ.holdsB.reply _ rfl
  have hadded := hJ.added.mono (Q := fun s => s = a ∨ s = b) fun s hs => by
    rw [hra, hrb] at hs
    rcases hs with hs | hs <;> cases hs
    exacts [.inl rfl, .inr rfl]
  exact ⟨a, b, hra, hrb, han, hbn,
    hadded.outcome hJ.wf.networks.1 (findByName_eq_none.mp hfree) ha han hb hbn⟩

end Networks

/-- Two creates of one name, under any schedule: the store gains one entity of the name, carried
by both replies, or two, one per reply; the platform gains at most one claim. -/
theorem concurrent_creates_same_name (env : Env) (s : List Bool) (w : World)
    (hwf : w.db.WellFormed env.idGen) :
    (∀ reqA reqB : VolumeCreateRequest, reqB.name = reqA.name →
      w.db.getVolumeByName reqA.name = none → (∀ b ∈ w.faults .saveVolume, b = false) →
      (∀ b ∈ w.faults .createPVC, b = false) →
      let r := interleave s (volumeCreateThread env reqA) (volumeCreateThread env reqB) w
      ∃ a b, r.1 = .ok statusCreated a ∧ r.2.1 = .ok statusCreated b ∧ a.name = reqA.name ∧
        b.name = reqA.name ∧
        (a = b ∧ r.2.2.db.volumes = w.db.volumes ++ [a] ∨
          a ≠ b ∧ (r.2.2.db.volumes = w.db.volumes ++ [a, b] ∨
            r.2.2.db.volumes = w.db.volumes ++ [b, a])) ∧
        (r.2.2.pvcs = w.pvcs ∨
          r.2.2.pvcs = w.pvcs ++ [env.backend.volumePVC { name := reqA.name }])) ∧
    (∀ reqA reqB : NetworkCreateRequest, reqB.name = reqA.name →
      w.db.getNetworkByName reqA.name = none → (∀ b ∈ w.faults .saveNetwork, b = false) →
      let r := interleave s (networkCreateThread env reqA) (networkCreateThread env reqB) w
      ∃ a b, r.1 = .ok statusOK a ∧ r.2.1 = .ok statusOK b ∧ a.name = reqA.name ∧
        b.name = reqA.name ∧
        (a = b ∧ r.2.2.db.networks = w.db.networks ++ [a] ∨
          a ≠ b ∧ (r.2.2.db.networks = w.db.networks ++ [a, b] ∨
            r.2.2.db.networks = w.db.networks ++ [b, a]))) :=
  ⟨fun _ _ hname hfree hs hc => volumeCreate_race hname hwf hfree hs hc s,
    fun _ _ hname hfree hs => networkCreate_race hname hwf hfree hs s⟩

/-- When both `VolumeCreate`s of "data" look the name up before either saves, both save: the
store ends with two volumes named "data", the replies carry different volumes, and the platform
holds one claim. -/
theorem concurrent_volume_creates_both_save :
    match interleave [true, false, true, true, false, false]
        (volumeCreateThread Env.sample { name := "data" })
        (volumeCreateThread Env.sample { name := "data" }) (World.initial fun _ => []) with
    | (rA, rB, w) => w.db.volumes.map Volume.name = ["data", "data"] ∧ rA ≠ rB ∧ w.pvcs.length = 1 := by
  decide

end Kubedock
