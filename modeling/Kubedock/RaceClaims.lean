import Kubedock.RaceBacking
import Kubedock.Claims

/-! A `VolumeCreate` or a second remover racing a volume remover, against the platform's claims.
At every point of an interleaving the PVC names are the stored volumes', less one a remover has
unclaimed and not yet deleted, plus one a create has claimed and not yet saved; so once both
replied the namespace holds exactly the stored volumes' claims, as sequential runs keep it. -/

namespace Kubedock

theorem erase_eq_filter_ne {α : Type} [DecidableEq α] {L : List α} (hL : L.Nodup) (a : α) :
    L.erase a = L.filter (· ≠ a) := by
  rw [hL.erase_eq_filter]
  exact List.filter_congr fun x _ => by simp [bne, beq_eq_decide]

/-- A list without repeats holding `a` is, up to order, its entries other than `a` followed by
`a`. -/
theorem perm_filter_ne_append {α : Type} [DecidableEq α] {L : List α} {a : α} (hL : L.Nodup)
    (ha : a ∈ L) : (L.filter (· ≠ a) ++ [a]).Perm L := by
  rw [← erase_eq_filter_ne hL]
  exact (List.perm_append_singleton _ _).trans (List.perm_cons_erase ha).symm

theorem perm_erase_append_of_perm {α : Type} [DecidableEq α] {L V C : List α} {a : α}
    (h : (L ++ [a]).Perm (V ++ C)) (ha : a ∈ V) : L.Perm (V.erase a ++ C) := by
  have he := ((List.perm_append_singleton a L).symm.trans h).erase a
  rwa [List.erase_cons_head, List.erase_append_left C ha] at he

/-- The PVC name of the claim a `VolumeCreate` has submitted and not yet saved its volume for. -/
def VolumeCreatePhase.claimed (bk : Instance) : VolumeCreatePhase → List (List UInt8)
  | .save vol => [bk.getVolumePVCName vol]
  | _ => []

/-- The race invariant with the claims: store saves and claim deletes do not fail either, and the
PVC names, with those of the volumes whose claims the remover deleted, are the stored volumes'
PVC names with the one of the claim the create submitted. -/
structure CreateRemoveClaims (env : Env) (names : List String) (n : String) (pc : VolumeCreatePhase)
    (inflight pending : List Volume) (w : World)
    extends CreateRemoveRace env names n pc inflight pending w : Prop where
  saves : ∀ b ∈ w.faults .saveVolume, b = false
  unclaims : ∀ b ∈ w.faults .deletePVC, b = false
  claims : (w.pvcs.map PVC.name ++ inflight.map env.backend.getVolumePVCName).Perm
    (w.db.volumes.map env.backend.getVolumePVCName ++ pc.claimed env.backend)

section Steps

variable {env : Env} {names : List String} {n : String} {pc : VolumeCreatePhase}
  {I P : List Volume} {w : World}

/-- The claim a create submitted has a PVC name no stored volume has. -/
theorem CreateRemoveClaims.nodup_claims (hapart : PVCNamesApart env.backend names) (hn : n ∈ names)
    (h : CreateRemoveClaims env names n pc I P w) :
    (w.db.volumes.map env.backend.getVolumePVCName ++ pc.claimed env.backend).Nodup := by
  refine List.nodup_append.mpr ⟨h.distinct, ?_⟩
  cases pc with
  | save vol =>
    obtain ⟨hfree, hvn, -, -⟩ := h.claiming
    refine ⟨List.nodup_singleton _, ?_⟩
    simpa [VolumeCreatePhase.claimed, List.disjoint_singleton] using fun u hu he =>
      hapart.getVolumePVCName_ne (h.named u hu) (hvn ▸ hn) (hvn ▸ hfree u hu) he
  | _ => exact ⟨List.nodup_nil, List.disjoint_nil_right _⟩

theorem CreateRemoveClaims.congr {w' : World} (h : CreateRemoveClaims env names n pc I P w)
    (hdb : w'.db = w.db) (hp : w'.pvcs = w.pvcs) (hc : World.Consumed w w') :
    CreateRemoveClaims env names n pc I P w' :=
  { h.toCreateRemoveRace.congr hdb hp hc with
    saves := hc.reliable h.saves
    unclaims := hc.reliable h.unclaims
    claims := by rw [hdb, hp]; exact h.claims }

/-- The remover deletes the claim of the next volume it has to remove, the one claim of its PVC
name. -/
theorem CreateRemoveClaims.unclaim (hapart : PVCNamesApart env.backend names) (hn : n ∈ names)
    {v : Volume} (h : CreateRemoveClaims env names n pc [] (v :: P) w) :
    CreateRemoveClaims env names n pc [v] P (w.backendDeleteVolume env v).2 := by
  obtain ⟨hc, hdb, -⟩ := @World.backendDeleteVolume_spec env w v
  have hv : v ∈ w.db.volumes := h.removing.subset (List.mem_cons_self _ _)
  have hL : (w.pvcs.map PVC.name).Perm
      (w.db.volumes.map env.backend.getVolumePVCName ++ pc.claimed env.backend) := by
    simpa using h.claims
  have ha := hL.mem_iff.mpr (List.mem_append_left _ (List.mem_map_of_mem _ hv))
  refine { h.toCreateRemoveRace.unclaim hapart hn with
    saves := hc.reliable h.saves
    unclaims := hc.reliable h.unclaims
    claims := ?_ }
  rw [World.backendDeleteVolume_names_of_not_fails v (World.fails_eq_false_of_reliable h.unclaims),
    hdb, List.map_singleton]
  exact (perm_filter_ne_append (hL.nodup_iff.mpr (h.nodup_claims hapart hn)) ha).trans hL

/-- The remover deletes the store entry of the volume whose claim it deleted. -/
theorem CreateRemoveClaims.drop {v : Volume} (h : CreateRemoveClaims env names n pc [v] P w) :
    CreateRemoveClaims env names n pc [] P (w.dbDeleteVolume v).2 := by
  have hv : v ∈ w.db.volumes := h.removing.subset (List.mem_cons_self _ _)
  obtain ⟨-, hc, hp, hdb⟩ :=
    World.dbDeleteVolume_of_stored (World.fails_eq_false_of_reliable h.deletes) hv
  refine { h.toCreateRemoveRace.drop with
    saves := hc.reliable h.saves
    unclaims := hc.reliable h.unclaims
    claims := ?_ }
  have he := perm_erase_append_of_perm h.claims (List.mem_map_of_mem _ hv)
  rw [erase_eq_filter_ne h.distinct, ← map_filter_id_ne h.distinct h.wf.volumes.1 hv] at he
  simpa only [hp, hdb, List.map_nil, List.append_nil] using he

/-- A remover that has found more volumes to remove, all stored, in store order. -/
theorem CreateRemoveClaims.found {Q : List Volume} (h : CreateRemoveClaims env names n pc [] P w)
    (hQ : Q.Sublist w.db.volumes) : CreateRemoveClaims env names n pc [] Q w :=
  { h with removing := hQ }

/-- The race invariant with the claims, for each phase of the create, is a remover's invariant. -/
theorem CreateRemoveClaims.removerSteps (hapart : PVCNamesApart env.backend names) (hn : n ∈ names)
    (pc : VolumeCreatePhase) : RemoverSteps env (CreateRemoveClaims env names n pc) :=
  ⟨fun h hdb hp hc => h.congr hdb hp hc, fun h hQ => h.found hQ, fun h => h.unclaim hapart hn,
    fun h => h.drop⟩

/-- Every call of the `VolumeCreate` of the name `n` keeps the race invariant with the claims: it
submits the claim of a PVC name no claim has, or fails and submits none, and then saves the
volume, which takes over the claim. -/
theorem CreateRemoveClaims.create_advance (hapart : PVCNamesApart env.backend names)
    (hn : n ∈ names) {req : VolumeCreateRequest} (hreq : req.name = n)
    (h : CreateRemoveClaims env names n pc I P w) :
    CreateRemoveClaims env names n (VolumeCreatePhase.advance env req pc w).1 I P
      (VolumeCreatePhase.advance env req pc w).2 := by
  have hbase := h.toCreateRemoveRace.create_advance hapart hn hreq
  subst hreq
  cases pc with
  | lookup =>
    have hcl : (VolumeCreatePhase.advance env req .lookup w).1.claimed env.backend = [] := by
      dsimp only [VolumeCreatePhase.advance]
      cases w.db.getVolumeByName req.name <;> rfl
    exact { hbase with saves := h.saves, unclaims := h.unclaims, claims := by rw [hcl]; exact h.claims }
  | claim =>
    have hfree : ∀ v ∈ w.db.volumes, v.name ≠ req.name := h.claiming
    have hc₁ := World.consumed_next w .createPVC
    have hL : (w.pvcs.map PVC.name ++ I.map env.backend.getVolumePVCName).Perm
        (w.db.volumes.map env.backend.getVolumePVCName) := by
      simpa only [VolumeCreatePhase.claimed, List.append_nil] using h.claims
    cases hc : w.fails .createPVC
    · have hany := no_claim_of_free_name (v := req.toVolume) hapart hn h.named hfree
        fun p hp => hL.subset (List.mem_append_left _ (List.mem_map_of_mem PVC.name hp))
      have hadv : VolumeCreatePhase.advance env req .claim w =
          (.save { req.toVolume with mountpoint := "/var/lib/kubedock/volumes/" ++ req.name },
            { w.next .createPVC with pvcs := w.pvcs ++ [env.backend.volumePVC req.toVolume] }) := by
        simp only [VolumeCreatePhase.advance, World.backendCreateVolume_of_not_fails hc, hany,
          Bool.false_eq_true, if_false]
        rfl
      rw [hadv] at hbase ⊢
      refine { hbase with
        saves := hc₁.reliable h.saves
        unclaims := hc₁.reliable h.unclaims
        claims := ?_ }
      simpa only [World.next_db, List.map_append, List.map_singleton, List.append_assoc,
        List.singleton_append] using
        List.perm_middle.trans ((hL.cons _).trans (List.perm_append_singleton _ _).symm)
    · obtain ⟨e, he⟩ := @World.backendCreateVolume_of_fails env w req.toVolume hc
      have hadv : VolumeCreatePhase.advance env req .claim w =
          (.reply (.error statusInternalServerError e), w.next .createPVC) := by
        simp only [VolumeCreatePhase.advance, he]
      rw [hadv] at hbase ⊢
      exact { hbase with
        saves := hc₁.reliable h.saves
        unclaims := hc₁.reliable h.unclaims
        claims := h.claims }
  | save vol =>
    obtain ⟨-, -, hvid, -⟩ := h.claiming
    have hc₁ := World.consumed_next w .saveVolume
    have hadv : VolumeCreatePhase.advance env req (.save vol) w =
        (.reply (.ok statusCreated (w.db.saveVolume env.idGen vol).1),
          { w.next .saveVolume with db := (w.db.saveVolume env.idGen vol).2 }) := by
      simp only [VolumeCreatePhase.advance,
        World.dbSaveVolume_of_not_fails env (World.fails_eq_false_of_reliable h.saves)]
    rw [hadv] at hbase ⊢
    refine { hbase with
      saves := hc₁.reliable h.saves
      unclaims := hc₁.reliable h.unclaims
      claims := ?_ }
    simpa only [World.next_pvcs, DB.saveVolume_new h.wf hvid, List.map_append, List.map_singleton,
      VolumeCreatePhase.claimed, List.append_nil] using h.claims
  | reply r => exact h

end Steps

variable {env : Env} {names : List String} {w : World}

/-- Where both threads start: the invariant of the sequential runs. -/
theorem CreateRemoveClaims.initial {n : String} (h : ClaimsInv env names w) :
    CreateRemoveClaims env names n .lookup [] [] w :=
  { toCreateRemoveRace := CreateRemoveRace.initial h.wf h.deletes
      ⟨fun v hv => List.mem_map.mp (h.claims.symm.subset (List.mem_map_of_mem _ hv)), h.distinct,
        h.named⟩
    saves := h.saves
    unclaims := h.unclaims
    claims := by simpa [ClaimsMatch, VolumeCreatePhase.claimed] using h.claims }

/-- With no claim deleted ahead of its entry and none submitted ahead of its volume, the invariant
of the sequential runs holds again. -/
theorem CreateRemoveClaims.claimsInv {n : String} {pc : VolumeCreatePhase} {P : List Volume}
    (h : CreateRemoveClaims env names n pc [] P w) (hpc : pc.claimed env.backend = []) :
    ClaimsInv env names w :=
  ⟨h.wf, h.named, h.distinct, by simpa [ClaimsMatch, hpc] using h.claims, h.saves, h.deletes,
    h.unclaims⟩

/-- A `VolumeCreate` racing any remover keeps the invariant of the sequential runs. -/
theorem volumeCreate_remover_race_claims {req : VolumeCreateRequest} {β : Type} (r : Remover env β)
    (hapart : PVCNamesApart env.backend names) (hn : req.name ∈ names) (hi : ClaimsInv env names w)
    (s : List Bool) :
    ClaimsInv env names (interleave s (volumeCreateThread env req) (r.thread r.start) w).2.2 := by
  have h₀ : CreateRemoveClaims env names req.name .lookup (r.inflight r.start) (r.pending r.start)
      w := by
    rw [r.start_inflight, r.start_pending]
    exact CreateRemoveClaims.initial hi
  obtain ⟨qc, q, hc, hq, hJ⟩ := interleave_phases
    (J := fun (pc : VolumeCreatePhase) (p : r.Phase) (w : World) =>
      CreateRemoveClaims env names req.name pc (r.inflight p) (r.pending p) w)
    (VolumeCreatePhase.refines env req) r.refines (fun _ _ _ h => h.create_advance hapart hn rfl)
    (fun pc _ _ h => r.keeps (CreateRemoveClaims.removerSteps hapart hn pc) _ _ h) s h₀
  obtain rfl := VolumeCreatePhase.thread_eq_done env req hc
  rw [r.done q _ hq] at hJ
  exact hJ.claimsInv rfl

/-- A `VolumeCreate` racing a `VolumeDelete` or a volume prune, under every schedule: the
invariant of the sequential runs holds again once both replied. -/
theorem volumeCreate_remove_race_claims {req : VolumeCreateRequest} {id : String} {β : Type}
    (report : Volume → β) (hapart : PVCNamesApart env.backend names) (hn : req.name ∈ names)
    (hi : ClaimsInv env names w) (s : List Bool) :
    ClaimsInv env names
        (interleave s (volumeCreateThread env req) (volumeDeleteThread env id) w).2.2 ∧
      ClaimsInv env names
        (interleave s (volumeCreateThread env req) (volumesPruneThread env report) w).2.2 :=
  ⟨volumeCreate_remover_race_claims (VolumeDeletePhase.remover env id) hapart hn hi s,
    volumeCreate_remover_race_claims (VolumePrunePhase.remover env report) hapart hn hi s⟩

theorem volumeCreate_remove_race_claims_of_stored_volume :
    let w := run Env.sample (World.initial fun _ => [])
      [.volume (.volumeCreate (.ok { name := "data" }))]
    PVCNamesApart Env.sample.backend ["data", "cache"] ∧ "cache" ∈ ["data", "cache"] ∧
      ClaimsInv Env.sample ["data", "cache"] w ∧
      (ClaimsInv Env.sample ["data", "cache"]
          (interleave [true, false, true, false, true, false]
            (volumeCreateThread Env.sample { name := "cache" })
            (volumeDeleteThread Env.sample "data") w).2.2 ∧
        ClaimsInv Env.sample ["data", "cache"]
          (interleave [true, false, true, false, true, false]
            (volumeCreateThread Env.sample { name := "cache" })
            (volumesPruneThread Env.sample Volume.name) w).2.2) := by
  intro w
  have hi : ClaimsInv Env.sample ["data", "cache"] w :=
    ⟨⟨by decide, by decide, by decide, Env.sample_fresh (by decide), Env.sample_fresh (by decide),
      Env.sample_fresh (by decide)⟩, by decide, by decide, by decide, by decide, by decide,
      by decide⟩
  exact ⟨by decide, by decide, hi,
    @volumeCreate_remove_race_claims Env.sample ["data", "cache"] w { name := "cache" } "data" String
      Volume.name (by decide) (by decide) hi [true, false, true, false, true, false]⟩


/-- Two removers racing, each with the volume it unclaimed (`I₁`, `I₂`) and those it has yet to
unclaim (`P₁`, `P₂`): the store only loses volumes, and the PVC names are the stored volumes' but
those unclaimed. -/
structure RemoveRemoveClaims (env : Env) (names : List String) (vols₀ : List Volume)
    (I₁ P₁ I₂ P₂ : List Volume) (w : World) : Prop where
  wf : w.db.WellFormed env.idGen
  named : ∀ v ∈ w.db.volumes, v.name ∈ names
  keyed : (vols₀.map Volume.id).Nodup
  distinct : (vols₀.map env.backend.getVolumePVCName).Nodup
  stored : w.db.volumes.Sublist vols₀
  removing₁ : ∀ v ∈ I₁ ++ P₁, v ∈ vols₀
  removing₂ : ∀ v ∈ I₂ ++ P₂, v ∈ vols₀
  claims : (w.pvcs.map PVC.name).Perm
    ((w.db.volumes.filter fun v => v ∉ I₁ ++ I₂).map env.backend.getVolumePVCName)
  saves : ∀ b ∈ w.faults .saveVolume, b = false
  deletes : ∀ b ∈ w.faults .deleteVolume, b = false
  unclaims : ∀ b ∈ w.faults .deletePVC, b = false

section Removers

variable {env : Env} {names : List String} {vols₀ I₁ P₁ I₂ P₂ : List Volume} {w : World}

theorem RemoveRemoveClaims.symm (h : RemoveRemoveClaims env names vols₀ I₁ P₁ I₂ P₂ w) :
    RemoveRemoveClaims env names vols₀ I₂ P₂ I₁ P₁ w :=
  { h with
    removing₁ := h.removing₂
    removing₂ := h.removing₁
    claims := h.claims.trans (List.Perm.of_eq (congrArg _ (List.filter_congr fun v _ => by
      simp only [List.mem_append, not_or, and_comm]))) }

theorem RemoveRemoveClaims.congr {w' : World} (h : RemoveRemoveClaims env names vols₀ I₁ P₁ I₂ P₂ w)
    (hdb : w'.db = w.db) (hp : w'.pvcs = w.pvcs) (hc : World.Consumed w w') :
    RemoveRemoveClaims env names vols₀ I₁ P₁ I₂ P₂ w' :=
  { h with
    wf := hdb ▸ h.wf
    named := hdb ▸ h.named
    stored := hdb ▸ h.stored
    claims := by rw [hdb, hp]; exact h.claims
    saves := hc.reliable h.saves
    deletes := hc.reliable h.deletes
    unclaims := hc.reliable h.unclaims }

/-- A stored volume and a volume stored when both started share a PVC name, or an ID, only when
they are one volume. -/
theorem RemoveRemoveClaims.eq_of_stored (h : RemoveRemoveClaims env names vols₀ I₁ P₁ I₂ P₂ w)
    {u v : Volume} (hu : u ∈ w.db.volumes) (hv : v ∈ vols₀) :
    (env.backend.getVolumePVCName u = env.backend.getVolumePVCName v ↔ u = v) ∧
      (u.id = v.id ↔ u = v) :=
  ⟨⟨List.inj_on_of_nodup_map h.distinct (h.stored.subset hu) hv, fun he => he ▸ rfl⟩,
    ⟨List.inj_on_of_nodup_map h.keyed (h.stored.subset hu) hv, fun he => he ▸ rfl⟩⟩

/-- The first remover deletes the claim of the next volume it has to remove; the claim is gone
already if the other remover deleted it, or removed the volume. -/
theorem RemoveRemoveClaims.unclaim {v : Volume}
    (h : RemoveRemoveClaims env names vols₀ [] (v :: P₁) I₂ P₂ w) :
    RemoveRemoveClaims env names vols₀ [v] P₁ I₂ P₂ (w.backendDeleteVolume env v).2 := by
  obtain ⟨hc, hdb, -⟩ := @World.backendDeleteVolume_spec env w v
  have hv₀ : v ∈ vols₀ := h.removing₁ v (List.mem_cons_self _ _)
  refine
    { h with
      wf := hdb ▸ h.wf
      named := hdb ▸ h.named
      stored := hdb ▸ h.stored
      removing₁ := h.removing₁
      claims := ?_
      saves := hc.reliable h.saves
      deletes := hc.reliable h.deletes
      unclaims := hc.reliable h.unclaims }
  rw [World.backendDeleteVolume_names_of_not_fails v (World.fails_eq_false_of_reliable h.unclaims),
    hdb]
  refine (h.claims.filter _).trans (List.Perm.of_eq ?_)
  rw [List.filter_map, List.filter_filter]
  refine congrArg _ (List.filter_congr fun u hu => ?_)
  simp [(h.eq_of_stored hu hv₀).1, and_comm]

/-- The first remover deletes the store entry of the volume whose claim it deleted, which removes
that volume if it is still stored. -/
theorem RemoveRemoveClaims.drop {v : Volume}
    (h : RemoveRemoveClaims env names vols₀ [v] P₁ I₂ P₂ w) :
    RemoveRemoveClaims env names vols₀ [] P₁ I₂ P₂ (w.dbDeleteVolume v).2 := by
  obtain ⟨hc, hp, hdb⟩ :=
    World.dbDeleteVolume_of_not_fails (v := v) (World.fails_eq_false_of_reliable h.deletes)
  have hv₀ : v ∈ vols₀ := h.removing₁ v (List.mem_cons_self _ _)
  have hvol : (w.dbDeleteVolume v).2.db.volumes = w.db.volumes.filter (·.id ≠ v.id) := by rw [hdb]
  refine
    { wf := hdb ▸ h.wf.filter_volumes _
      named := fun u hu => h.named u (List.mem_of_mem_filter (hvol ▸ hu))
      keyed := h.keyed
      distinct := h.distinct
      stored := hvol ▸ (List.filter_sublist _).trans h.stored
      removing₁ := fun u hu => h.removing₁ u (List.mem_append_right [v] hu)
      removing₂ := h.removing₂
      claims := ?_
      saves := hc.reliable h.saves
      deletes := hc.reliable h.deletes
      unclaims := hc.reliable h.unclaims }
  rw [hp, hvol, List.filter_filter]
  refine h.claims.trans (List.Perm.of_eq (congrArg _ (List.filter_congr fun u hu => ?_)))
  simp [(h.eq_of_stored hu hv₀).2, Bool.and_comm]

/-- Either remover's invariant, the other one's volumes held fixed. -/
theorem RemoveRemoveClaims.removerSteps_left (I₂ P₂ : List Volume) :
    RemoverSteps env fun I P w => RemoveRemoveClaims env names vols₀ I P I₂ P₂ w :=
  ⟨fun h hdb hp hc => h.congr hdb hp hc,
    fun h hQ => { h with removing₁ := fun u hu => h.stored.subset (hQ.subset (by simpa using hu)) },
    fun h => h.unclaim, fun h => h.drop⟩

theorem RemoveRemoveClaims.removerSteps_right (I₁ P₁ : List Volume) :
    RemoverSteps env fun I P w => RemoveRemoveClaims env names vols₀ I₁ P₁ I P w :=
  let hR := @RemoveRemoveClaims.removerSteps_left env names vols₀ I₁ P₁
  ⟨fun h hdb hp hc => (hR.congr h.symm hdb hp hc).symm, fun h hQ => (hR.found h.symm hQ).symm,
    fun h => (hR.unclaim h.symm).symm, fun h => (hR.drop h.symm).symm⟩

/-- Where both removers start: the invariant of the sequential runs. -/
theorem RemoveRemoveClaims.initial (h : ClaimsInv env names w) :
    RemoveRemoveClaims env names w.db.volumes [] [] [] [] w :=
  ⟨h.wf, h.named, h.wf.volumes.1, h.distinct, List.Sublist.refl _, nofun, nofun,
    by simpa [ClaimsMatch] using h.claims, h.saves, h.deletes, h.unclaims⟩

/-- With no claim deleted ahead of its entry, the invariant of the sequential runs holds again. -/
theorem RemoveRemoveClaims.claimsInv (h : RemoveRemoveClaims env names vols₀ [] P₁ [] P₂ w) :
    ClaimsInv env names w :=
  ⟨h.wf, h.named, h.distinct.sublist (h.stored.map _), by simpa [ClaimsMatch] using h.claims,
    h.saves, h.deletes, h.unclaims⟩

/-- Two removers racing keep the invariant of the sequential runs. -/
theorem removers_race_claims {α β : Type} (r₁ : Remover env α) (r₂ : Remover env β)
    (hi : ClaimsInv env names w) (s : List Bool) :
    ClaimsInv env names (interleave s (r₁.thread r₁.start) (r₂.thread r₂.start) w).2.2 := by
  have h₀ : RemoveRemoveClaims env names w.db.volumes (r₁.inflight r₁.start) (r₁.pending r₁.start)
      (r₂.inflight r₂.start) (r₂.pending r₂.start) w := by
    rw [r₁.start_inflight, r₁.start_pending, r₂.start_inflight, r₂.start_pending]
    exact RemoveRemoveClaims.initial hi
  obtain ⟨q₁, q₂, h₁, h₂, hJ⟩ := interleave_phases
    (J := fun (p₁ : r₁.Phase) (p₂ : r₂.Phase) (w' : World) => RemoveRemoveClaims env names
      w.db.volumes (r₁.inflight p₁) (r₁.pending p₁) (r₂.inflight p₂) (r₂.pending p₂) w')
    r₁.refines r₂.refines
    (fun _ p₂ _ h => r₁.keeps (RemoveRemoveClaims.removerSteps_left _ _) _ _ h)
    (fun p₁ _ _ h => r₂.keeps (RemoveRemoveClaims.removerSteps_right _ _) _ _ h) s h₀
  rw [r₁.done q₁ _ h₁, r₂.done q₂ _ h₂] at hJ
  exact hJ.claimsInv

/-- Two volume removers racing, under every schedule: the invariant of the sequential runs holds
again once both replied, also when both remove one volume. -/
theorem volume_removers_race_claims {id₁ id₂ : String} (report₁ report₂ : Volume → String)
    (hi : ClaimsInv env names w) (s : List Bool) :
    ClaimsInv env names
        (interleave s (volumeDeleteThread env id₁) (volumeDeleteThread env id₂) w).2.2 ∧
      ClaimsInv env names
        (interleave s (volumeDeleteThread env id₁) (volumesPruneThread env report₂) w).2.2 ∧
      ClaimsInv env names
        (interleave s (volumesPruneThread env report₁) (volumesPruneThread env report₂) w).2.2 :=
  ⟨removers_race_claims (VolumeDeletePhase.remover env id₁) (VolumeDeletePhase.remover env id₂) hi s,
    removers_race_claims (VolumeDeletePhase.remover env id₁) (VolumePrunePhase.remover env report₂)
      hi s,
    removers_race_claims (VolumePrunePhase.remover env report₁) (VolumePrunePhase.remover env report₂)
      hi s⟩

end Removers

theorem volume_removers_race_claims_of_shared_volume :
    let w := run Env.sample (World.initial fun _ => [])
      [.volume (.volumeCreate (.ok { name := "data" })), .volume (.volumeCreate (.ok { name := "cache" }))]
    let s := [true, false, true, false, true, false, true, false, true, false]
    ClaimsInv Env.sample ["data", "cache"] w ∧
      (ClaimsInv Env.sample ["data", "cache"]
          (interleave s (volumeDeleteThread Env.sample "data")
            (volumeDeleteThread Env.sample "data") w).2.2 ∧
        ClaimsInv Env.sample ["data", "cache"]
          (interleave s (volumeDeleteThread Env.sample "data")
            (volumesPruneThread Env.sample Volume.id) w).2.2 ∧
        ClaimsInv Env.sample ["data", "cache"]
          (interleave s (volumesPruneThread Env.sample Volume.name)
            (volumesPruneThread Env.sample Volume.id) w).2.2) := by
  intro w s
  have hi : ClaimsInv Env.sample ["data", "cache"] w :=
    ⟨⟨by decide, by decide, by decide, Env.sample_fresh (by decide), Env.sample_fresh (by decide),
      Env.sample_fresh (by decide)⟩, by decide, by decide, by decide, by decide, by decide,
      by decide⟩
  exact ⟨hi, @volume_removers_race_claims Env.sample ["data", "cache"] w "data" "data" Volume.name
    Volume.id hi s⟩

end Kubedock
