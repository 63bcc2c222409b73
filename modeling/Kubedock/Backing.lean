import Kubedock.Server

/-! Volumes and their claims over runs. A volume is saved only after its claim exists, and its
claim is deleted only before its store entry; so with store deletes that do not fail and PVC
names telling the created names apart, every stored volume stays backed by a claim of its own. -/

namespace Kubedock

/-- Every stored volume has a claim with its PVC name. -/
def VolumesBacked (bk : Instance) (w : World) : Prop :=
  ∀ v ∈ w.db.volumes, ∃ p ∈ w.pvcs, p.name = bk.getVolumePVCName v

/-- No two stored volumes have one PVC name, so no two share a claim. -/
def PVCNamesDistinct (bk : Instance) (w : World) : Prop :=
  (w.db.volumes.map bk.getVolumePVCName).Nodup

instance (bk : Instance) (w : World) : Decidable (VolumesBacked bk w) :=
  inferInstanceAs (Decidable (∀ v ∈ w.db.volumes, ∃ p ∈ w.pvcs, p.name = bk.getVolumePVCName v))

instance (bk : Instance) (w : World) : Decidable (PVCNamesDistinct bk w) :=
  inferInstanceAs (Decidable (w.db.volumes.map bk.getVolumePVCName).Nodup)

/-- The name a request asks a volume to be created under. -/
def Request.createdVolumeName : Request → Option String
  | .volume (.volumeCreate (.ok req)) => some req.name
  | _ => none

/-- The names a run asks volumes to be created under. -/
def createdVolumeNames (reqs : List Request) : List String :=
  reqs.filterMap Request.createdVolumeName

/-- The backend gives distinct names of `names` distinct PVC names. -/
def PVCNamesApart (bk : Instance) (names : List String) : Prop :=
  ∀ n₁ ∈ names, ∀ n₂ ∈ names,
    bk.getVolumePVCName { name := n₁ } = bk.getVolumePVCName { name := n₂ } → n₁ = n₂

instance (bk : Instance) (names : List String) : Decidable (PVCNamesApart bk names) :=
  inferInstanceAs (Decidable (∀ n₁ ∈ names, ∀ n₂ ∈ names,
    bk.getVolumePVCName { name := n₁ } = bk.getVolumePVCName { name := n₂ } → n₁ = n₂))

/-- Two volumes named in `names` under different names have different PVC names. -/
theorem PVCNamesApart.getVolumePVCName_ne {bk : Instance} {names : List String}
    (hapart : PVCNamesApart bk names) {u v : Volume} (hu : u.name ∈ names) (hv : v.name ∈ names)
    (h : u.name ≠ v.name) : bk.getVolumePVCName u ≠ bk.getVolumePVCName v :=
  fun he => h (hapart _ hu _ hv he)

/-- Removing from a table with distinct IDs the volume that a sublist starts with keeps the rest
of the sublist. -/
theorem sublist_filter_id_ne {vols P : List Volume} {v : Volume} (hk : (vols.map Volume.id).Nodup)
    (h : (v :: P).Sublist vols) : P.Sublist (vols.filter fun u => u.id ≠ v.id) := by
  have hv : v.id ∉ P.map Volume.id := (List.nodup_cons.mp (hk.sublist (h.map _))).1
  have hP : P.filter (fun u => u.id ≠ v.id) = P := List.filter_eq_self.mpr fun u hu => by
    simpa using fun he : u.id = v.id => hv (he ▸ List.mem_map_of_mem _ hu)
  have hsub := h.filter (fun u => decide (u.id ≠ v.id))
  rwa [List.filter_cons_of_neg (by simp), hP] at hsub

/-- What a run keeps of volumes and claims when the volumes it creates take names in `names`. -/
structure BackingInv (bk : Instance) (names : List String) (w : World) : Prop where
  backed : VolumesBacked bk w
  distinct : PVCNamesDistinct bk w
  named : ∀ v ∈ w.db.volumes, v.name ∈ names

section Step

variable {env : Env} {names : List String} {w w' : World}

theorem BackingInv.congr (hi : BackingInv env.backend names w) (hv : w'.db.volumes = w.db.volumes)
    (hp : w'.pvcs = w.pvcs) : BackingInv env.backend names w' :=
  ⟨by unfold VolumesBacked; rw [hv, hp]; exact hi.backed,
    by unfold PVCNamesDistinct; rw [hv]; exact hi.distinct, hv ▸ hi.named⟩

theorem BackingInv.of_volumes_nil (hv : w.db.volumes = []) : BackingInv env.backend names w :=
  ⟨by simp [VolumesBacked, hv], by simp [PVCNamesDistinct, hv], by simp [hv]⟩

/-- `VolumeCreate` of a name in `names` keeps the invariant: a new volume's claim exists, and
its PVC name differs from every stored volume's, whose names differ from it. -/
theorem volumeCreate_backing {body : Except String VolumeCreateRequest} {r : Response Volume}
    (hwf : w.db.WellFormed env.idGen) (hapart : PVCNamesApart env.backend names)
    (hname : ∀ req, body = .ok req → req.name ∈ names) (hi : BackingInv env.backend names w)
    (h : volumeCreate env body w = (r, w')) : BackingInv env.backend names w' := by
  obtain ⟨-, hgrow, ⟨hdb, -⟩ | ⟨req, v, rfl, hvn, hid, hnone, ⟨p, hp, hpn⟩, -, hdb⟩⟩ :=
    volumeCreate_spec h
  · refine ⟨fun u hu => ?_, by unfold PVCNamesDistinct; rw [hdb]; exact hi.distinct,
      hdb ▸ hi.named⟩
    obtain ⟨q, hq, hqn⟩ := hi.backed u (hdb ▸ hu)
    exact ⟨q, hgrow q hq, hqn⟩
  · rw [DB.saveVolume_new hwf hid] at hdb
    have hreq := hname req rfl
    have hfresh : ∀ u ∈ w.db.volumes,
        env.backend.getVolumePVCName u ≠ env.backend.getVolumePVCName v := fun u hu he =>
      (findByName_eq_none.mp hnone) u hu
        (hapart _ (hi.named u hu) _ (hvn ▸ hreq) he)
    refine ⟨fun u hu => ?_, ?_, fun u hu => ?_⟩
    · rw [hdb, List.mem_append, List.mem_singleton] at hu
      rcases hu with hu | rfl
      · obtain ⟨q, hq, hqn⟩ := hi.backed u hu
        exact ⟨q, hgrow q hq, hqn⟩
      · exact ⟨p, hp, hpn⟩
    · unfold PVCNamesDistinct
      rw [hdb, List.map_append, List.nodup_append]
      exact ⟨hi.distinct, List.nodup_singleton _, by
        simpa [List.disjoint_singleton] using fun u hu he => hfresh u hu he⟩
    · rw [hdb, List.mem_append, List.mem_singleton] at hu
      rcases hu with hu | rfl
      · exact hi.named u hu
      · exact hvn ▸ hreq

/-- Under a store delete that does not fail, `VolumeDelete` keeps the invariant: the claim it
deletes is the removed volume's alone. -/
theorem volumeDelete_backing {id : String} {r : Response Unit}
    (hrel : ∀ b ∈ w.faults .deleteVolume, b = false) (hi : BackingInv env.backend names w)
    (h : volumeDelete env id w = (r, w')) : BackingInv env.backend names w' := by
  obtain ⟨-, ⟨hdb, hp, -⟩ | ⟨v, hv, hpvcs, ⟨-, hf⟩ | ⟨-, hdel⟩⟩⟩ := volumeDelete_spec h
  · exact hi.congr (by rw [hdb]) hp
  · have hvm := (findByNameOrID_some hv).1
    rw [World.fails_eq_false_of_reliable hrel] at hf
    exact absurd (hf.resolve_left Bool.false_ne_true)
      (DB.deleteVolume_ne_none (List.mem_map_of_mem _ hvm))
  · have hvm := (findByNameOrID_some hv).1
    have hvol : w'.db.volumes = w.db.volumes.filter (fun u => u.id ≠ v.id) := by
      rw [DB.deleteVolume_some hdel]
    refine ⟨fun u hu => ?_, ?_, fun u hu => hi.named u (List.mem_of_mem_filter (hvol ▸ hu))⟩
    swap
    · unfold PVCNamesDistinct
      rw [hvol]
      exact hi.distinct.sublist ((List.filter_sublist _).map _)
    obtain ⟨hum, hid⟩ := List.mem_filter.mp (hvol ▸ hu)
    have hne : env.backend.getVolumePVCName u ≠ env.backend.getVolumePVCName v := fun he =>
      by simp [List.inj_on_of_nodup_map hi.distinct hum hvm he] at hid
    obtain ⟨q, hq, hqn⟩ := hi.backed u hum
    refine ⟨q, ?_, hqn⟩
    rcases hpvcs with hpvcs | hpvcs <;> rw [hpvcs]
    · exact hq
    · exact List.mem_filter.mpr ⟨hq, by simpa [hqn] using hne⟩

/-- Under store deletes that do not fail, a prune empties the volume table or fails before it
deletes anything. -/
theorem volumesPruneWith_backing {β : Type} {report : Volume → β} {r : Response (List β)}
    (hrel : ∀ b ∈ w.faults .deleteVolume, b = false) (hi : BackingInv env.backend names w)
    (h : volumesPruneWith env report w = (r, w')) : BackingInv env.backend names w' := by
  obtain ⟨-, ⟨hdb, hp, -⟩ | ⟨-, removed, -, -, hdb, hall⟩⟩ := volumesPruneWith_spec h
  · exact hi.congr (by rw [hdb]) hp
  · refine BackingInv.of_volumes_nil ?_
    rw [hdb, List.filter_eq_nil_iff]
    exact fun v hv => by simpa using hall hrel v hv

/-- One request keeps the invariant, given that it creates no volume under a name outside
`names`, and that store deletes do not fail. -/
theorem Request.apply_backing (req : Request) (hwf : w.db.WellFormed env.idGen)
    (hrel : ∀ b ∈ w.faults .deleteVolume, b = false) (hapart : PVCNamesApart env.backend names)
    (hreq : ∀ n, req.createdVolumeName = some n → n ∈ names)
    (hi : BackingInv env.backend names w) : BackingInv env.backend names (req.apply env w) := by
  cases req with
  | volume req =>
    cases req with
    | volumeCreate body =>
      exact volumeCreate_backing hwf hapart (fun r hr => hreq _ (by rw [hr]; rfl)) hi
        (Prod.mk.eta).symm
    | volumeInfo id => simpa [Request.apply, VolumeRequest.apply] using hi
    | volumeExists name => simpa [Request.apply, VolumeRequest.apply] using hi
    | volumeDelete id => exact volumeDelete_backing hrel hi (Prod.mk.eta).symm
    | volumesPrune => exact volumesPruneWith_backing hrel hi (Prod.mk.eta).symm
    | volumePrune => exact volumesPruneWith_backing hrel hi (Prod.mk.eta).symm
  | network req =>
    exact hi.congr (req.apply_volumes env w) (req.apply_spec env w).2.1

end Step

/-- Under store deletes that do not fail, and with PVC names telling apart the names the run asks
volumes to be created under, every run from the empty store keeps every stored volume backed by
a claim with its PVC name, and no two stored volumes share a PVC name. -/
theorem run_volumes_backed (env : Env) (faults : Call → List Bool) (reqs : List Request)
    (hdel : ∀ b ∈ faults .deleteVolume, b = false)
    (hapart : PVCNamesApart env.backend (createdVolumeNames reqs)) :
    VolumesBacked env.backend (run env (World.initial faults) reqs) ∧
      PVCNamesDistinct env.backend (run env (World.initial faults) reqs) := by
  have hrun := run_preserves env
    (P := fun w => w.db.WellFormed env.idGen ∧ (∀ b ∈ w.faults .deleteVolume, b = false) ∧
      BackingInv env.backend (createdVolumeNames reqs) w)
    (Q := fun req => ∀ n, req.createdVolumeName = some n → n ∈ createdVolumeNames reqs)
    (fun req w hq ⟨hwf, hrel, hi⟩ => ⟨req.apply_wellFormed hwf,
      (req.apply_consumed w).reliable hrel, req.apply_backing hwf hrel hapart hq hi⟩)
    reqs (World.initial faults) (fun req hr _ hn => List.mem_filterMap.mpr ⟨req, hr, hn⟩)
    ⟨DB.wellFormed_empty _, hdel, BackingInv.of_volumes_nil rfl⟩
  exact ⟨hrun.2.2.backed, hrun.2.2.distinct⟩

theorem run_volumes_backed_of_failed_claim :
    (∀ b ∈ (fun c => if c = Call.createPVC then [false, true] else []) Call.deleteVolume,
      b = false) ∧
    PVCNamesApart Env.sample.backend (createdVolumeNames
      [.volume (.volumeCreate (.ok { name := "data" })),
        .volume (.volumeCreate (.ok { name := "cache" })), .volume (.volumeDelete "data")]) ∧
    VolumesBacked Env.sample.backend (run Env.sample
      (World.initial fun c => if c = Call.createPVC then [false, true] else [])
      [.volume (.volumeCreate (.ok { name := "data" })),
        .volume (.volumeCreate (.ok { name := "cache" })), .volume (.volumeDelete "data")]) ∧
    PVCNamesDistinct Env.sample.backend (run Env.sample
      (World.initial fun c => if c = Call.createPVC then [false, true] else [])
      [.volume (.volumeCreate (.ok { name := "data" })),
        .volume (.volumeCreate (.ok { name := "cache" })), .volume (.volumeDelete "data")]) :=
  ⟨by decide, by decide, run_volumes_backed Env.sample _ _ (by decide) (by decide)⟩

/-- A store delete that fails after the claim was deleted leaves a stored volume without one. -/
theorem run_volume_left_without_claim :
    ¬ VolumesBacked Env.sample.backend (run Env.sample
      (World.initial fun c => if c = Call.deleteVolume then [true] else [])
      [.volume (.volumeCreate (.ok { name := "data" })), .volume (.volumeDelete "data")]) := by
  decide

end Kubedock
