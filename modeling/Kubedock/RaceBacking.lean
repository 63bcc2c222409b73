import Kubedock.Concurrent
import Kubedock.Backing

/-! A `VolumeCreate` racing a `VolumeDelete` or a volume prune. A remover deletes only the claims
of volumes it found stored, never the claim a create made for a name it found free; so under
every schedule, with store deletes that do not fail, every stored volume is backed by a claim of
its own once both replied. This needs every volume a remover goes on to remove to be stored: a
prune working through a stale listing can unback a volume created again. -/

namespace Kubedock

namespace VolumeDeletePhase

/-- The volume whose claim the thread deleted and whose store entry it has yet to delete. -/
def inflight : VolumeDeletePhase → List Volume
  | drop vol => [vol]
  | _ => []

/-- The volume whose claim the thread has yet to delete. -/
def pending : VolumeDeletePhase → List Volume
  | unclaim vol => [vol]
  | _ => []

end VolumeDeletePhase

namespace VolumePrunePhase

variable {β : Type}

/-- The volume whose claim the loop deleted and whose store entry it has yet to delete. -/
def inflight : VolumePrunePhase β → List Volume
  | drop _ vol _ => [vol]
  | _ => []

/-- The listed volumes whose claims the loop has yet to delete. -/
def pending : VolumePrunePhase β → List Volume
  | loop _ vols => vols
  | drop _ _ vols => vols
  | _ => []

end VolumePrunePhase

/-- What a `VolumeCreate` of the name `n` has established about the stored volumes `vols` and
the claims `pvcs`: from its lookup on, until it replies, no stored volume has the name; about to
save, the volume it saves is named `n`, has no ID yet, and a claim with its PVC name exists. -/
def VolumeCreatePhase.Claiming (bk : Instance) (n : String) (vols : List Volume) (pvcs : List PVC) :
    VolumeCreatePhase → Prop
  | .lookup => True
  | .claim => ∀ v ∈ vols, v.name ≠ n
  | .save vol => (∀ v ∈ vols, v.name ≠ n) ∧ vol.name = n ∧ vol.id = "" ∧
      ∃ p ∈ pvcs, p.name = bk.getVolumePVCName vol
  | .reply _ => True

/-- A `VolumeCreate` of `n` racing a remover that has unclaimed `inflight` and has yet to unclaim
`pending`: the store is well formed and all but `inflight` are backed by their own claims. -/
structure CreateRemoveRace (env : Env) (names : List String) (n : String) (pc : VolumeCreatePhase)
    (inflight pending : List Volume) (w : World) : Prop where
  wf : w.db.WellFormed env.idGen
  named : ∀ v ∈ w.db.volumes, v.name ∈ names
  distinct : PVCNamesDistinct env.backend w
  backed : ∀ v ∈ w.db.volumes, v ∉ inflight →
    ∃ p ∈ w.pvcs, p.name = env.backend.getVolumePVCName v
  removing : (inflight ++ pending).Sublist w.db.volumes
  claiming : pc.Claiming env.backend n w.db.volumes w.pvcs
  deletes : ∀ b ∈ w.faults .deleteVolume, b = false

section Steps

variable {env : Env} {names : List String} {n : String} {pc : VolumeCreatePhase}
  {I P : List Volume} {w : World}

/-- A call that changes neither the store nor the claims keeps the race invariant. -/
theorem CreateRemoveRace.congr {w' : World} (h : CreateRemoveRace env names n pc I P w)
    (hdb : w'.db = w.db) (hp : w'.pvcs = w.pvcs) (hc : World.Consumed w w') :
    CreateRemoveRace env names n pc I P w' :=
  { wf := hdb ▸ h.wf
    named := hdb ▸ h.named
    distinct := by unfold PVCNamesDistinct; rw [hdb]; exact h.distinct
    backed := hdb ▸ hp ▸ h.backed
    removing := hdb ▸ h.removing
    claiming := hdb ▸ hp ▸ h.claiming
    deletes := hc.reliable h.deletes }

/-- Every call of the `VolumeCreate` of the name `n` keeps the race invariant: the volume it saves
is new, named `n` and backed by the claim it made. -/
theorem CreateRemoveRace.create_advance (hapart : PVCNamesApart env.backend names)
    (hn : n ∈ names) {req : VolumeCreateRequest} (hreq : req.name = n)
    (h : CreateRemoveRace env names n pc I P w) :
    CreateRemoveRace env names n (VolumeCreatePhase.advance env req pc w).1 I P
      (VolumeCreatePhase.advance env req pc w).2 := by
  subst hreq
  cases pc with
  | lookup =>
    show CreateRemoveRace env names req.name (match w.db.getVolumeByName req.name with
      | some existing => .reply (.ok statusCreated existing) | none => .claim) I P w
    cases hl : w.db.getVolumeByName req.name with
    | none => exact { h with claiming := findByName_eq_none.mp hl }
    | some e => exact { h with claiming := trivial }
  | claim =>
    have hfree : ∀ v ∈ w.db.volumes, v.name ≠ req.name := h.claiming
    dsimp only [VolumeCreatePhase.advance]
    rcases hc : w.backendCreateVolume env req.toVolume with ⟨r, w₁⟩
    obtain ⟨hc₁, hdb, hgrow, hok⟩ := World.backendCreateVolume_spec hc
    have h₁ : CreateRemoveRace env names req.name .claim I P w₁ :=
      { h with
        wf := hdb ▸ h.wf
        named := hdb ▸ h.named
        distinct := by unfold PVCNamesDistinct; rw [hdb]; exact h.distinct
        backed := fun v hv hI =>
          let ⟨p, hp, hpn⟩ := h.backed v (hdb ▸ hv) hI
          ⟨p, hgrow p hp, hpn⟩
        removing := hdb ▸ h.removing
        claiming := hdb ▸ hfree
        deletes := hc₁.reliable h.deletes }
    cases r with
    | error e => exact { h₁ with claiming := trivial }
    | ok vol =>
      obtain ⟨rfl, hex⟩ := hok _ rfl
      exact { h₁ with claiming := ⟨hdb ▸ hfree, rfl, rfl, hex⟩ }
  | save vol =>
    obtain ⟨hfree, hvn, hvid, p, hp, hpn⟩ := h.claiming
    dsimp only [VolumeCreatePhase.advance]
    rcases hs : w.dbSaveVolume env vol with ⟨r, w₁⟩
    obtain ⟨hc₁, hp₁, ⟨hdb, -⟩ | ⟨-, hdb⟩⟩ := World.dbSaveVolume_spec hs
    · cases r <;> exact { h.congr hdb hp₁ hc₁ with claiming := trivial }
    rw [DB.saveVolume_new h.wf hvid] at hdb
    have hwf := h.wf.saveVolume (Or.inl hvid)
    rw [DB.saveVolume_new h.wf hvid] at hwf
    have hmem : ∀ u, u ∈ w₁.db.volumes ↔ u ∈ w.db.volumes ∨ u = Entity.assignId vol (env.idGen.next w.db.seq) := by
      intro u; rw [hdb, List.mem_append, List.mem_singleton]
    have hnew : ∀ u ∈ w.db.volumes, env.backend.getVolumePVCName u ≠
        env.backend.getVolumePVCName (Entity.assignId vol (env.idGen.next w.db.seq)) :=
      fun u hu => hapart.getVolumePVCName_ne (h.named u hu) (hvn ▸ hn) (hvn ▸ hfree u hu)
    cases r <;> exact {
      wf := hdb ▸ hwf
      named := fun u hu => ((hmem u).mp hu).elim (h.named u) fun hu => hu ▸ hvn ▸ hn
      distinct := by
        unfold PVCNamesDistinct
        rw [hdb, List.map_append, List.nodup_append]
        exact ⟨h.distinct, List.nodup_singleton _, by
          simpa [List.disjoint_singleton] using fun u hu he => hnew u hu he⟩
      backed := fun u hu hI => ((hmem u).mp hu).elim
        (fun hu => let ⟨q, hq, hqn⟩ := h.backed u hu hI; ⟨q, hp₁ ▸ hq, hqn⟩)
        fun hu => ⟨p, hp₁ ▸ hp, hu ▸ hpn⟩
      removing := hdb ▸ h.removing.trans (List.sublist_append_left _ _)
      claiming := trivial
      deletes := hc₁.reliable h.deletes }
  | reply r => exact h

/-- The remover deletes the claim of the next volume it has to remove: every other stored volume
keeps its claim, whose PVC name differs, and so does the volume a create is about to save. -/
theorem CreateRemoveRace.unclaim (hapart : PVCNamesApart env.backend names) (hn : n ∈ names)
    {v : Volume} (h : CreateRemoveRace env names n pc [] (v :: P) w) :
    CreateRemoveRace env names n pc [v] P (w.backendDeleteVolume env v).2 := by
  obtain ⟨hc, hdb, hpvcs⟩ := @World.backendDeleteVolume_spec env w v
  have hv : v ∈ w.db.volumes := h.removing.subset (List.mem_cons_self _ _)
  have hkeep : ∀ q ∈ w.pvcs, q.name ≠ env.backend.getVolumePVCName v →
      q ∈ (w.backendDeleteVolume env v).2.pvcs := fun q hq hne => by
    rcases hpvcs with hpvcs | hpvcs <;> rw [hpvcs]
    · exact hq
    · exact List.mem_filter.mpr ⟨hq, by simpa using hne⟩
  refine
    { wf := hdb ▸ h.wf
      named := hdb ▸ h.named
      distinct := by unfold PVCNamesDistinct; rw [hdb]; exact h.distinct
      backed := fun u hu hI => ?_
      removing := hdb ▸ h.removing
      claiming := ?_
      deletes := hc.reliable h.deletes }
  · rw [hdb] at hu
    obtain ⟨q, hq, hqn⟩ := h.backed u hu (List.not_mem_nil u)
    refine ⟨q, hkeep q hq fun he => hI ?_, hqn⟩
    rw [List.mem_singleton]
    exact List.inj_on_of_nodup_map h.distinct hu hv (hqn.symm.trans he)
  · rw [hdb]
    have hc' := h.claiming
    cases pc with
    | save vol =>
      obtain ⟨hfree, hvn, hvid, q, hq, hqn⟩ := hc'
      refine ⟨hfree, hvn, hvid, q, hkeep q hq ?_, hqn⟩
      rw [hqn]
      exact hapart.getVolumePVCName_ne (hvn ▸ hn) (h.named v hv) (hvn ▸ (hfree v hv).symm)
    | _ => exact hc'

/-- The remover deletes the store entry of the volume whose claim it deleted: the delete does not
fail, since the volume is stored, and removes that volume alone, so every volume left is backed. -/
theorem CreateRemoveRace.drop {v : Volume} (h : CreateRemoveRace env names n pc [v] P w) :
    CreateRemoveRace env names n pc [] P (w.dbDeleteVolume v).2 := by
  obtain ⟨-, hc, hp, hdb⟩ := World.dbDeleteVolume_of_stored
    (World.fails_eq_false_of_reliable h.deletes) (h.removing.subset (List.mem_cons_self _ _))
  have hvol : (w.dbDeleteVolume v).2.db.volumes = w.db.volumes.filter (·.id ≠ v.id) := by
    rw [hdb]
  refine
    { wf := hdb ▸ h.wf.filter_volumes _
      named := fun u hu => h.named u (List.mem_of_mem_filter (hvol ▸ hu))
      distinct := by
        unfold PVCNamesDistinct
        rw [hvol]
        exact h.distinct.sublist ((List.filter_sublist _).map _)
      backed := fun u hu _ => ?_
      removing := ?_
      claiming := ?_
      deletes := hc.reliable h.deletes }
  · obtain ⟨hum, hid⟩ := List.mem_filter.mp (hvol ▸ hu)
    refine hp ▸ h.backed u hum fun hI => ?_
    rw [List.mem_singleton.mp hI] at hid
    simp at hid
  · rw [hvol, List.nil_append]
    exact sublist_filter_id_ne h.wf.volumes.1 h.removing
  · rw [hvol, hp]
    have hc' := h.claiming
    cases pc with
    | claim => exact fun u hu => hc' u (List.mem_of_mem_filter hu)
    | save vol =>
      obtain ⟨hfree, hrest⟩ := hc'
      exact ⟨fun u hu => hfree u (List.mem_of_mem_filter hu), hrest⟩
    | _ => trivial

/-- A remover that has found more volumes to remove, all stored, in store order. -/
theorem CreateRemoveRace.found {Q : List Volume} (h : CreateRemoveRace env names n pc [] P w)
    (hQ : Q.Sublist w.db.volumes) : CreateRemoveRace env names n pc [] Q w :=
  { h with removing := hQ }

end Steps

/-- The calls of a remover an invariant `R` over its unclaimed and pending volumes must survive:
a quiet call, the listing, a claim delete, and the store delete that follows it. -/
structure RemoverSteps (env : Env) (R : List Volume → List Volume → World → Prop) : Prop where
  congr : ∀ {I P : List Volume} {w w' : World}, R I P w → w'.db = w.db → w'.pvcs = w.pvcs →
    World.Consumed w w' → R I P w'
  found : ∀ {P Q : List Volume} {w : World}, R [] P w → Q.Sublist w.db.volumes → R [] Q w
  unclaim : ∀ {v : Volume} {P : List Volume} {w : World}, R [] (v :: P) w →
    R [v] P (w.backendDeleteVolume env v).2
  drop : ∀ {v : Volume} {P : List Volume} {w : World}, R [v] P w → R [] P (w.dbDeleteVolume v).2

namespace RemoverSteps

variable {env : Env} {R : List Volume → List Volume → World → Prop} (hR : RemoverSteps env R)
  {w : World}
include hR

/-- Every call of a `VolumeDelete` keeps a remover's invariant. -/
theorem delete_advance {id : String} {pd : VolumeDeletePhase} (h : R pd.inflight pd.pending w) :
    R (VolumeDeletePhase.advance env id pd w).1.inflight
      (VolumeDeletePhase.advance env id pd w).1.pending (VolumeDeletePhase.advance env id pd w).2 := by
  cases pd with
  | lookup =>
    show R (match w.db.getVolumeByNameOrID id with
      | none => VolumeDeletePhase.reply (.error statusNotFound notFoundError)
      | some vol => .unclaim vol).inflight (match w.db.getVolumeByNameOrID id with
      | none => VolumeDeletePhase.reply (.error statusNotFound notFoundError)
      | some vol => .unclaim vol).pending w
    cases hl : w.db.getVolumeByNameOrID id with
    | none => exact h
    | some vol => exact hR.found h (List.singleton_sublist.mpr (findByNameOrID_some hl).1)
  | unclaim vol => exact hR.unclaim h
  | drop vol =>
    have hd := hR.drop (P := []) h
    dsimp only [VolumeDeletePhase.advance]
    rcases hw : w.dbDeleteVolume vol with ⟨_ | _, w₁⟩ <;> rw [hw] at hd <;> exact hd
  | reply r => exact h

/-- Every call of a volume prune keeps a remover's invariant. -/
theorem prune_advance {β : Type} {report : Volume → β} {pp : VolumePrunePhase β}
    (h : R pp.inflight pp.pending w) :
    R (VolumePrunePhase.advance env report pp w).1.inflight
      (VolumePrunePhase.advance env report pp w).1.pending
      (VolumePrunePhase.advance env report pp w).2 := by
  cases pp with
  | list =>
    obtain ⟨hc, hdb, hp, hvols⟩ := World.dbGetVolumes_spec w
    have h₁ := hR.congr h hdb hp hc
    dsimp only [VolumePrunePhase.advance]
    rcases hl : w.dbGetVolumes with ⟨_ | vols, w₁⟩
    · rw [hl] at h₁
      exact h₁
    · rw [hl] at h₁ hvols hdb
      refine hR.found h₁ ?_
      show vols.Sublist w₁.db.volumes
      rw [hvols vols rfl, show w₁.db = w.db from hdb]
  | loop acc vols =>
    cases vols with
    | nil => exact h
    | cons vol vols => exact hR.unclaim h
  | drop acc vol vols =>
    have hd := hR.drop h
    dsimp only [VolumePrunePhase.advance]
    rcases hw : w.dbDeleteVolume vol with ⟨_ | _, w₁⟩ <;> rw [hw] at hd <;> exact hd
  | reply r => exact h

end RemoverSteps

/-- A remover as a phase machine, `VolumeDelete` or a volume prune: its phases refine its thread,
every call keeps every remover's invariant, it starts holding no volume, and once it has replied
it holds no volume whose claim it deleted and whose store entry it has yet to delete. -/
structure Remover (env : Env) (α : Type) where
  Phase : Type
  thread : Phase → Thread α
  advance : Phase → World → Phase × World
  inflight : Phase → List Volume
  pending : Phase → List Volume
  start : Phase
  refines : Refines thread advance
  keeps : ∀ {R : List Volume → List Volume → World → Prop}, RemoverSteps env R → ∀ p w,
    R (inflight p) (pending p) w →
      R (inflight (advance p w).1) (pending (advance p w).1) (advance p w).2
  start_inflight : inflight start = []
  start_pending : pending start = []
  done : ∀ p r, thread p = .done r → inflight p = []

/-- `VolumeDelete` as a remover. -/
def VolumeDeletePhase.remover (env : Env) (id : String) : Remover env (Response Unit) where
  Phase := VolumeDeletePhase
  thread := VolumeDeletePhase.thread env id
  advance := VolumeDeletePhase.advance env id
  inflight := VolumeDeletePhase.inflight
  pending := VolumeDeletePhase.pending
  start := .lookup
  refines := VolumeDeletePhase.refines env id
  keeps hR _ _ h := hR.delete_advance h
  start_inflight := rfl
  start_pending := rfl
  done _ _ h := by rw [VolumeDeletePhase.thread_eq_done env id h]; rfl

/-- A volume prune as a remover. -/
def VolumePrunePhase.remover (env : Env) {β : Type} (report : Volume → β) :
    Remover env (Response (List β)) where
  Phase := VolumePrunePhase β
  thread := VolumePrunePhase.thread env report
  advance := VolumePrunePhase.advance env report
  inflight := VolumePrunePhase.inflight
  pending := VolumePrunePhase.pending
  start := .list
  refines := VolumePrunePhase.refines env report
  keeps hR _ _ h := hR.prune_advance h
  start_inflight := rfl
  start_pending := rfl
  done _ _ h := by
    rcases VolumePrunePhase.thread_eq_done env report h with rfl | ⟨acc, rfl, -⟩ <;> rfl

/-- The race invariant, for each phase of the create, is a remover's invariant. -/
theorem CreateRemoveRace.removerSteps {env : Env} {names : List String} {n : String}
    (hapart : PVCNamesApart env.backend names) (hn : n ∈ names) (pc : VolumeCreatePhase) :
    RemoverSteps env (CreateRemoveRace env names n pc) :=
  ⟨fun h hdb hp hc => h.congr hdb hp hc, fun h hQ => h.found hQ, fun h => h.unclaim hapart hn,
    fun h => h.drop⟩

variable {env : Env} {names : List String} {w : World}

/-- The race invariant where both threads start. -/
theorem CreateRemoveRace.initial {n : String} (hwf : w.db.WellFormed env.idGen)
    (hdel : ∀ b ∈ w.faults .deleteVolume, b = false) (hi : BackingInv env.backend names w) :
    CreateRemoveRace env names n .lookup [] [] w :=
  ⟨hwf, hi.named, hi.distinct, fun v hv _ => hi.backed v hv, List.nil_sublist _, trivial, hdel⟩

/-- When the remover has removed the last volume whose claim it deleted, every stored volume is
backed again. -/
theorem CreateRemoveRace.backing {n : String} {pc : VolumeCreatePhase} {P : List Volume}
    (h : CreateRemoveRace env names n pc [] P w) : BackingInv env.backend names w :=
  ⟨fun v hv => h.backed v hv (List.not_mem_nil v), h.distinct, h.named⟩

/-- A `VolumeCreate` racing any remover keeps every stored volume backed by a claim of its own. -/
theorem volumeCreate_remover_race_backed {req : VolumeCreateRequest} {β : Type} (r : Remover env β)
    (hwf : w.db.WellFormed env.idGen) (hdel : ∀ b ∈ w.faults .deleteVolume, b = false)
    (hapart : PVCNamesApart env.backend names) (hn : req.name ∈ names)
    (hi : BackingInv env.backend names w) (s : List Bool) :
    BackingInv env.backend names
      (interleave s (volumeCreateThread env req) (r.thread r.start) w).2.2 := by
  have h₀ : CreateRemoveRace env names req.name .lookup (r.inflight r.start) (r.pending r.start) w := by
    rw [r.start_inflight, r.start_pending]
    exact CreateRemoveRace.initial hwf hdel hi
  obtain ⟨qc, q, -, hq, hJ⟩ := interleave_phases
    (J := fun (pc : VolumeCreatePhase) (p : r.Phase) (w : World) =>
      CreateRemoveRace env names req.name pc (r.inflight p) (r.pending p) w)
    (VolumeCreatePhase.refines env req) r.refines (fun _ _ _ h => h.create_advance hapart hn rfl)
    (fun pc _ _ h => r.keeps (CreateRemoveRace.removerSteps hapart hn pc) _ _ h) s h₀
  rw [r.done q _ hq] at hJ
  exact hJ.backing

/-- A `VolumeCreate` racing a `VolumeDelete` or a volume prune, under every schedule, with store
deletes that do not fail: every stored volume is backed by a claim of its own once both replied. -/
theorem volumeCreate_remove_race_backed {req : VolumeCreateRequest} {id : String} {β : Type}
    (report : Volume → β) (hwf : w.db.WellFormed env.idGen)
    (hdel : ∀ b ∈ w.faults .deleteVolume, b = false) (hapart : PVCNamesApart env.backend names)
    (hn : req.name ∈ names) (hi : BackingInv env.backend names w) (s : List Bool) :
    BackingInv env.backend names
        (interleave s (volumeCreateThread env req) (volumeDeleteThread env id) w).2.2 ∧
      BackingInv env.backend names
        (interleave s (volumeCreateThread env req) (volumesPruneThread env report) w).2.2 :=
  ⟨volumeCreate_remover_race_backed (VolumeDeletePhase.remover env id) hwf hdel hapart hn hi s,
    volumeCreate_remover_race_backed (VolumePrunePhase.remover env report) hwf hdel hapart hn hi s⟩

theorem volumeCreate_remove_race_backed_of_stored_volume :
    let w := run Env.sample (World.initial fun _ => [])
      [.volume (.volumeCreate (.ok { name := "data" }))]
    w.db.WellFormed Env.sample.idGen ∧ (∀ b ∈ w.faults .deleteVolume, b = false) ∧
      PVCNamesApart Env.sample.backend ["data", "cache"] ∧ "cache" ∈ ["data", "cache"] ∧
      BackingInv Env.sample.backend ["data", "cache"] w ∧
      (BackingInv Env.sample.backend ["data", "cache"]
          (interleave [true, false, true, false, true, false]
            (volumeCreateThread Env.sample { name := "cache" })
            (volumeDeleteThread Env.sample "data") w).2.2 ∧
        BackingInv Env.sample.backend ["data", "cache"]
          (interleave [true, false, true, false, true, false]
            (volumeCreateThread Env.sample { name := "cache" })
            (volumesPruneThread Env.sample Volume.name) w).2.2) := by
  intro w
  have hwf : w.db.WellFormed Env.sample.idGen := ⟨by decide, by decide, by decide,
    Env.sample_fresh (by decide), Env.sample_fresh (by decide), Env.sample_fresh (by decide)⟩
  have hi : BackingInv Env.sample.backend ["data", "cache"] w := ⟨by decide, by decide, by decide⟩
  exact ⟨hwf, by decide, by decide, by decide, hi,
    @volumeCreate_remove_race_backed Env.sample ["data", "cache"] w { name := "cache" } "data" String
      Volume.name hwf (by decide) (by decide) (by decide) hi [true, false, true, false, true, false]⟩

/-- A prune working through a listing made before a client deleted and recreated `data` deletes
the new volume's claim, and the new volume stays stored without one. -/
theorem prune_stale_listing_unbacks_recreated_volume :
    let w := run Env.sample (World.initial fun _ => [])
      [.volume (.volumeCreate (.ok { name := "data" }))]
    BackingInv Env.sample.backend ["data"] w ∧
      ¬ VolumesBacked Env.sample.backend (interleave [true, false, false, false, false, false, false]
        (volumesPruneThread Env.sample Volume.name)
        ((volumeDeleteThread Env.sample "data").andThen fun _ =>
          volumeCreateThread Env.sample { name := "data" }) w).2.2 :=
  ⟨⟨by decide, by decide, by decide⟩, by decide⟩

end Kubedock
