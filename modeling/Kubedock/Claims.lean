import Kubedock.Backing

/-! The platform's claims against the store over runs. With store saves, store deletes and claim
deletes that do not fail, and PVC names telling the created names apart, the namespace holds
exactly the stored volumes' claims, one per volume; a failed save or claim delete leaves one
behind. -/

namespace Kubedock

/-- The claims of the namespace are the stored volumes' claims, one per volume. -/
def ClaimsMatch (bk : Instance) (w : World) : Prop :=
  (w.pvcs.map PVC.name).Perm (w.db.volumes.map bk.getVolumePVCName)

instance (bk : Instance) (w : World) : Decidable (ClaimsMatch bk w) :=
  inferInstanceAs (Decidable ((w.pvcs.map PVC.name).Perm (w.db.volumes.map bk.getVolumePVCName)))

/-- What a run without failing saves, store deletes and claim deletes keeps, the volumes it
creates taking names in `names`. -/
structure ClaimsInv (env : Env) (names : List String) (w : World) : Prop where
  wf : w.db.WellFormed env.idGen
  named : ∀ v ∈ w.db.volumes, v.name ∈ names
  distinct : PVCNamesDistinct env.backend w
  claims : ClaimsMatch env.backend w
  saves : ∀ b ∈ w.faults .saveVolume, b = false
  deletes : ∀ b ∈ w.faults .deleteVolume, b = false
  unclaims : ∀ b ∈ w.faults .deletePVC, b = false

/-- A claim delete that does not fail leaves the claims without the volume's PVC name: it removes
them, or reports not-found, which `DeleteVolume` absorbs, when there are none. -/
theorem World.backendDeleteVolume_of_not_fails {env : Env} {w : World} (v : Volume)
    (hc : w.fails .deletePVC = false) :
    (w.backendDeleteVolume env v).2.pvcs = w.pvcs.filter (·.name ≠ env.backend.getVolumePVCName v) := by
  simp only [World.backendDeleteVolume, World.backendCall, hc, Instance.deleteVolume, deletePVC,
    Bool.false_eq_true, if_false]
  split_ifs with hany
  · rfl
  · refine (List.filter_eq_self.mpr fun p hp => ?_).symm
    simpa using fun he => hany (List.any_eq_true.mpr ⟨p, hp, decide_eq_true he⟩)

/-- The PVC names after a claim delete that does not fail: all but the volume's. -/
theorem World.backendDeleteVolume_names_of_not_fails {env : Env} {w : World} (v : Volume)
    (hc : w.fails .deletePVC = false) :
    (w.backendDeleteVolume env v).2.pvcs.map PVC.name =
      (w.pvcs.map PVC.name).filter (· ≠ env.backend.getVolumePVCName v) := by
  rw [World.backendDeleteVolume_of_not_fails v hc, List.filter_map]
  rfl

/-- In a table whose PVC names and IDs are distinct, dropping the entries with a stored volume's
ID drops exactly the PVC names equal to its. -/
theorem map_filter_id_ne {bk : Instance} {vols : List Volume} {v : Volume}
    (hd : (vols.map bk.getVolumePVCName).Nodup) (hk : (vols.map Volume.id).Nodup) (hv : v ∈ vols) :
    (vols.filter (fun u => u.id ≠ v.id)).map bk.getVolumePVCName =
      (vols.map bk.getVolumePVCName).filter (· ≠ bk.getVolumePVCName v) := by
  rw [List.filter_map]
  refine congrArg _ (List.filter_congr fun u hu => ?_)
  simp only [Function.comp, decide_eq_decide, ne_eq]
  exact not_congr ⟨fun h => congrArg _ (List.inj_on_of_nodup_map hk hu hv h),
    fun h => congrArg _ (List.inj_on_of_nodup_map hd hu hv h)⟩

section Steps

variable {env : Env} {names : List String} {w : World}

/-- A call that keeps the volumes and the claims, and leaves a well-formed store, keeps the
invariant. -/
theorem ClaimsInv.frame {w' : World} (h : ClaimsInv env names w) (hwf : w'.db.WellFormed env.idGen)
    (hv : w'.db.volumes = w.db.volumes) (hp : w'.pvcs = w.pvcs) (hc : World.Consumed w w') :
    ClaimsInv env names w' :=
  { wf := hwf
    named := hv ▸ h.named
    distinct := by unfold PVCNamesDistinct; rw [hv]; exact h.distinct
    claims := by unfold ClaimsMatch; rw [hv, hp]; exact h.claims
    saves := hc.reliable h.saves
    deletes := hc.reliable h.deletes
    unclaims := hc.reliable h.unclaims }

theorem ClaimsInv.congr {w' : World} (h : ClaimsInv env names w) (hdb : w'.db = w.db)
    (hp : w'.pvcs = w.pvcs) (hc : World.Consumed w w') : ClaimsInv env names w' :=
  h.frame (hdb ▸ h.wf) (by rw [hdb]) hp hc

/-- The removal of a stored volume, as `VolumeDelete` and the prune loop make it: its claim goes,
then its store entry, so the two sides lose one PVC name each. -/
theorem ClaimsInv.purge {v : Volume} (h : ClaimsInv env names w) (hv : v ∈ w.db.volumes) :
    ((w.backendDeleteVolume env v).2.dbDeleteVolume v).1 = .ok () ∧
      ((w.backendDeleteVolume env v).2.dbDeleteVolume v).2.db.volumes =
        w.db.volumes.filter (fun u => u.id ≠ v.id) ∧
      ClaimsInv env names ((w.backendDeleteVolume env v).2.dbDeleteVolume v).2 := by
  obtain ⟨hc₁, hdb₁, -⟩ := @World.backendDeleteVolume_spec env w v
  obtain ⟨hok, hc₂, hp₂, hdb₂⟩ := World.dbDeleteVolume_of_stored
    (World.fails_eq_false_of_reliable (hc₁.reliable h.deletes)) (hdb₁ ▸ hv)
  rw [hdb₁] at hdb₂
  have hvol : ((w.backendDeleteVolume env v).2.dbDeleteVolume v).2.db.volumes =
      w.db.volumes.filter (fun u => u.id ≠ v.id) := by rw [hdb₂]
  have hc := hc₁.trans hc₂
  refine ⟨hok, hvol,
    { wf := hdb₂ ▸ h.wf.filter_volumes _
      named := fun u hu => h.named u (List.mem_of_mem_filter (hvol ▸ hu))
      distinct := by
        unfold PVCNamesDistinct
        rw [hvol]
        exact h.distinct.sublist ((List.filter_sublist _).map _)
      claims := ?_
      saves := hc.reliable h.saves
      deletes := hc.reliable h.deletes
      unclaims := hc.reliable h.unclaims }⟩
  unfold ClaimsMatch
  rw [hp₂, World.backendDeleteVolume_names_of_not_fails v
    (World.fails_eq_false_of_reliable h.unclaims), hvol, map_filter_id_ne h.distinct h.wf.volumes.1 hv]
  exact h.claims.filter _

/-- With the claims those of stored volumes, and PVC names telling apart the names of `names`, no
claim has the PVC name of a volume named in `names` whose name no stored volume has. -/
theorem no_claim_of_free_name {bk : Instance} {vols : List Volume} {pvcs : List PVC} {v : Volume}
    (hapart : PVCNamesApart bk names) (hv : v.name ∈ names) (hnamed : ∀ u ∈ vols, u.name ∈ names)
    (hfree : ∀ u ∈ vols, u.name ≠ v.name)
    (hclaims : ∀ p ∈ pvcs, p.name ∈ vols.map bk.getVolumePVCName) :
    (pvcs.any fun p => decide (p.name = bk.getVolumePVCName v)) = false :=
  List.any_eq_false.mpr fun p hp hpn => by
    obtain ⟨u, hu, hun⟩ := List.mem_map.mp (hclaims p hp)
    exact hfree u hu (hapart _ (hnamed u hu) _ hv (hun.trans (of_decide_eq_true hpn)))

/-- `VolumeCreate` of a name in `names`: it changes nothing, or submits the claim of a name no
stored volume has, whose PVC name is therefore free, and saves the volume. -/
theorem ClaimsInv.volumeCreate (hapart : PVCNamesApart env.backend names)
    {body : Except String VolumeCreateRequest} (hname : ∀ req, body = .ok req → req.name ∈ names)
    (h : ClaimsInv env names w) : ClaimsInv env names (volumeCreate env body w).2 := by
  cases body with
  | error e => exact h
  | ok req =>
    have hn := hname req rfl
    simp only [Kubedock.volumeCreate]
    cases hl : w.db.getVolumeByName req.name with
    | some e => exact h
    | none =>
      dsimp only
      set vol : Volume :=
        { name := req.name, driver := if req.driver = "" then "local" else req.driver
          labels := req.labels }
      have hfree : ∀ u ∈ w.db.volumes, u.name ≠ req.name := findByName_eq_none.mp hl
      cases hc : w.fails .createPVC
      · have hany := no_claim_of_free_name (v := vol) hapart hn h.named hfree
          fun p hp => h.claims.subset (List.mem_map_of_mem PVC.name hp)
        have hc₀ : World.Consumed w
            { w.next .createPVC with pvcs := w.pvcs ++ [env.backend.volumePVC vol] } :=
          World.consumed_next w .createPVC
        simp only [World.backendCreateVolume_of_not_fails hc, hany, Bool.false_eq_true, if_false,
          World.dbSaveVolume_of_not_fails env (World.fails_eq_false_of_reliable
            (hc₀.reliable h.saves))]
        set v : Volume := { vol with mountpoint := "/var/lib/kubedock/volumes/" ++ vol.name }
        have hvid : v.id = "" := rfl
        have hc₁ := (World.consumed_next w .createPVC).trans
          (World.consumed_next (w.next .createPVC) .saveVolume)
        have hnew : ∀ u ∈ w.db.volumes, env.backend.getVolumePVCName u ≠
            env.backend.getVolumePVCName v :=
          fun u hu => hapart.getVolumePVCName_ne (h.named u hu) hn (hfree u hu)
        simp only [World.next_db, World.next_pvcs, DB.saveVolume_new h.wf hvid]
        exact
          { wf := by simpa [DB.saveVolume_new h.wf hvid] using h.wf.saveVolume (Or.inl hvid)
            named := fun u hu => by
              rcases List.mem_append.mp hu with hu | hu
              · exact h.named u hu
              · rw [List.mem_singleton.mp hu]; exact hn
            distinct := by
              unfold PVCNamesDistinct
              rw [List.map_append, List.nodup_append]
              exact ⟨h.distinct, List.nodup_singleton _, by
                simpa [List.disjoint_singleton] using fun u hu he => hnew u hu he⟩
            claims := by
              unfold ClaimsMatch
              simp only [List.map_append, List.map_singleton]
              exact h.claims.append_right _
            saves := hc₁.reliable h.saves
            deletes := hc₁.reliable h.deletes
            unclaims := hc₁.reliable h.unclaims }
      · simp only [World.backendCreateVolume, World.backendCall, hc, Instance.createVolume, createPVC,
          if_true]
        exact h.congr rfl rfl (World.consumed_next w .createPVC)

/-- `VolumeDelete` removes the volume its key resolves to, with its claim, or changes nothing. -/
theorem ClaimsInv.volumeDelete {id : String} (h : ClaimsInv env names w) :
    ClaimsInv env names (volumeDelete env id w).2 := by
  unfold Kubedock.volumeDelete
  cases hv : w.db.getVolumeByNameOrID id with
  | none => exact h
  | some v =>
    obtain ⟨-, -, hi⟩ := h.purge (findByNameOrID_some hv).1
    dsimp only
    rcases hd : (w.backendDeleteVolume env v).2.dbDeleteVolume v with ⟨_ | _, w₂⟩ <;>
      rw [hd] at hi <;> exact hi

/-- The prune loop removes each listed volume with its claim; each is still stored when the loop
gets to it, the loop having removed only the ones before it. -/
theorem ClaimsInv.pruneVolumes {β : Type} (report : Volume → β) :
    ∀ (acc : List β) (vols : List Volume) (w : World), ClaimsInv env names w →
      vols.Sublist w.db.volumes → ClaimsInv env names (pruneVolumes env report acc vols w).2
  | _, [], _, h, _ => h
  | acc, v :: vols, w, h, hsub => by
    obtain ⟨hok, hvol, hi⟩ := h.purge (hsub.subset (List.mem_cons_self _ _))
    have hrest : vols.Sublist ((w.backendDeleteVolume env v).2.dbDeleteVolume v).2.db.volumes :=
      hvol ▸ sublist_filter_id_ne h.wf.volumes.1 hsub
    simp only [Kubedock.pruneVolumes]
    rcases hd : (w.backendDeleteVolume env v).2.dbDeleteVolume v with ⟨r, w₂⟩
    rw [hd] at hok hi hrest
    cases hok
    exact ClaimsInv.pruneVolumes report _ vols w₂ hi hrest

/-- The prunes fail on the listing and change nothing, or run the loop over every stored
volume. -/
theorem ClaimsInv.volumesPruneWith {β : Type} (report : Volume → β) (h : ClaimsInv env names w) :
    ClaimsInv env names (volumesPruneWith env report w).2 := by
  obtain ⟨hc, hdb, hp, hvols⟩ := World.dbGetVolumes_spec w
  have h₁ := h.congr hdb hp hc
  unfold Kubedock.volumesPruneWith
  rcases hl : w.dbGetVolumes with ⟨_ | vols, w₁⟩
  · rw [hl] at h₁
    exact h₁
  · rw [hl] at h₁ hvols hdb
    refine h₁.pruneVolumes report [] vols w₁ ?_
    show vols.Sublist w₁.db.volumes
    rw [hvols vols rfl, show w₁.db = w.db from hdb]

/-- Every request keeps the invariant, given that it creates no volume under a name outside
`names`: the network routes touch neither volumes nor claims. -/
theorem ClaimsInv.apply (hapart : PVCNamesApart env.backend names) (req : Request)
    (hreq : ∀ n, req.createdVolumeName = some n → n ∈ names) (h : ClaimsInv env names w) :
    ClaimsInv env names (req.apply env w) := by
  cases req with
  | volume req =>
    cases req with
    | volumeCreate body => exact h.volumeCreate hapart fun r hr => hreq _ (by rw [hr]; rfl)
    | volumeInfo id => simpa [Request.apply, VolumeRequest.apply] using h
    | volumeExists name => simpa [Request.apply, VolumeRequest.apply] using h
    | volumeDelete id => exact h.volumeDelete
    | volumesPrune => exact h.volumesPruneWith Volume.name
    | volumePrune => exact h.volumesPruneWith Volume.id
  | network req =>
    exact h.frame ((Request.network req).apply_wellFormed h.wf) (req.apply_volumes env w)
      (req.apply_spec env w).2.1 (req.apply_spec env w).1

end Steps

/-- Runs from the empty store, with saves, store deletes and claim deletes that do not fail and
PVC names telling the created names apart, leave exactly the stored volumes' claims. -/
theorem run_claims_match (env : Env) (faults : Call → List Bool) (reqs : List Request)
    (hs : ∀ b ∈ faults .saveVolume, b = false) (hd : ∀ b ∈ faults .deleteVolume, b = false)
    (hp : ∀ b ∈ faults .deletePVC, b = false)
    (hapart : PVCNamesApart env.backend (createdVolumeNames reqs)) :
    ClaimsMatch env.backend (run env (World.initial faults) reqs) ∧
      ((run env (World.initial faults) reqs).pvcs.map PVC.name).Nodup := by
  have hrun := run_preserves env (P := ClaimsInv env (createdVolumeNames reqs))
    (Q := fun req => ∀ n, req.createdVolumeName = some n → n ∈ createdVolumeNames reqs)
    (fun req _ hq h => h.apply hapart req hq) reqs (World.initial faults)
    (fun req hr _ hn => List.mem_filterMap.mpr ⟨req, hr, hn⟩)
    ⟨DB.wellFormed_empty _, by simp [World.initial], by simp [PVCNamesDistinct, World.initial],
      List.Perm.nil, hs, hd, hp⟩
  exact ⟨hrun.claims, hrun.claims.nodup_iff.mpr hrun.distinct⟩


theorem run_claims_match_under_claim_failures :
    let faults : Call → List Bool :=
      fun c => if c = .createPVC ∨ c = .listVolumes then [true] else []
    let reqs : List Request :=
      [.volume (.volumeCreate (.ok { name := "data" })), .volume .volumesPrune,
        .volume (.volumeCreate (.ok { name := "data" })),
        .volume (.volumeCreate (.ok { name := "cache" })), .volume (.volumeDelete "data")]
    (∀ b ∈ faults .saveVolume, b = false) ∧ (∀ b ∈ faults .deleteVolume, b = false) ∧
      (∀ b ∈ faults .deletePVC, b = false) ∧
      PVCNamesApart Env.sample.backend (createdVolumeNames reqs) ∧
      (ClaimsMatch Env.sample.backend (run Env.sample (World.initial faults) reqs) ∧
        ((run Env.sample (World.initial faults) reqs).pvcs.map PVC.name).Nodup) := by
  intro faults reqs
  exact ⟨by decide, by decide, by decide, by decide,
    run_claims_match Env.sample faults reqs (by decide) (by decide) (by decide) (by decide)⟩

/-- Without the provisos a claim is left behind: a save that fails leaves the claim made for the
volume, and a claim delete that fails leaves the claim of a deleted volume. -/
theorem run_claim_left_behind :
    ¬ ClaimsMatch Env.sample.backend (run Env.sample
        (World.initial fun c => if c = .saveVolume then [true] else [])
        [.volume (.volumeCreate (.ok { name := "data" }))]) ∧
      ¬ ClaimsMatch Env.sample.backend (run Env.sample
        (World.initial fun c => if c = .deletePVC then [true] else [])
        [.volume (.volumeCreate (.ok { name := "data" })), .volume (.volumeDelete "data")]) := by
  decide

end Kubedock
