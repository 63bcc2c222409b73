import Kubedock.RaceClaims

/-! Two volume removers racing, `VolumeDelete`s or volume prunes, against what they reply. With
IDs distinct, the volumes stored at the start are at every point the stored volumes and those
each remover removed, each once; so once both replied no removal is lost or reported twice. The
ledger is stated for any table of the store, and the network removers use it too. -/

namespace Kubedock

/-- Whether a reply is a success. -/
def Response.isOk {α : Type} : Response α → Bool
  | .ok _ _ => true
  | .error _ _ => false

/-- The list a reply carries, or nothing when it is an error. -/
def Response.reported {β : Type} : Response (List β) → List β
  | .ok _ acc => acc
  | .error _ _ => []

/-- The ledger of two removers over the entities `xs₀` of the table `tab`: the table and what each
removed (`D₁`, `D₂`) are `xs₀`, each once, and what each holds (`H₁`, `H₂`) is among `xs₀`. -/
structure RemovalLedger {ε : Type} [Entity ε] (tab : DB → List ε) (xs₀ H₁ D₁ H₂ D₂ : List ε)
    (w : World) : Prop where
  keyed : (xs₀.map Entity.id).Nodup
  ledger : (tab w.db ++ D₁ ++ D₂).Perm xs₀
  holding₁ : ∀ x ∈ H₁, x ∈ xs₀
  holding₂ : ∀ x ∈ H₂, x ∈ xs₀

namespace RemovalLedger

variable {ε : Type} [Entity ε] {tab : DB → List ε} {xs₀ H₁ D₁ H₂ D₂ : List ε} {w : World}

theorem symm (h : RemovalLedger tab xs₀ H₁ D₁ H₂ D₂ w) : RemovalLedger tab xs₀ H₂ D₂ H₁ D₁ w where
  keyed := h.keyed
  ledger := by
    refine List.Perm.trans ?_ h.ledger
    simpa only [List.append_assoc] using List.perm_append_comm.append_left _
  holding₁ := h.holding₂
  holding₂ := h.holding₁

theorem stored_mem (h : RemovalLedger tab xs₀ H₁ D₁ H₂ D₂ w) {x : ε} (hx : x ∈ tab w.db) :
    x ∈ xs₀ :=
  h.ledger.subset (List.mem_append_left _ (List.mem_append_left _ hx))

theorem stored_keyed (h : RemovalLedger tab xs₀ H₁ D₁ H₂ D₂ w) :
    ((tab w.db).map Entity.id).Nodup := by
  have hn := (h.ledger.map Entity.id).nodup_iff.mpr h.keyed
  rw [List.map_append, List.map_append] at hn
  exact hn.of_append_left.of_append_left

/-- A call that leaves the store keeps the ledger. -/
theorem congr {w' : World} (h : RemovalLedger tab xs₀ H₁ D₁ H₂ D₂ w) (hdb : w'.db = w.db) :
    RemovalLedger tab xs₀ H₁ D₁ H₂ D₂ w' :=
  { h with ledger := by rw [hdb]; exact h.ledger }

/-- The first remover may hold any stored entity and any entity it held. -/
theorem hold {H : List ε} (h : RemovalLedger tab xs₀ H₁ D₁ H₂ D₂ w)
    (hH : ∀ x ∈ H, x ∈ tab w.db ∨ x ∈ H₁) : RemovalLedger tab xs₀ H D₁ H₂ D₂ w :=
  { h with holding₁ := fun x hx => (hH x hx).elim h.stored_mem (h.holding₁ x) }

/-- A store delete by the first remover of an entity it holds, when it succeeds, removes exactly
that entity from the table, which joins what the remover removed. -/
theorem drop [DecidableEq ε] {x : ε} {w' : World} (h : RemovalLedger tab xs₀ H₁ D₁ H₂ D₂ w)
    (hx : x ∈ H₁) (hdel : remove (tab w.db) x = some (tab w'.db)) :
    RemovalLedger tab xs₀ H₁ (D₁ ++ [x]) H₂ D₂ w' := by
  refine { h with ledger := ?_ }
  obtain ⟨u, hu, hid⟩ : ∃ u ∈ tab w.db, Entity.id u = Entity.id x := by
    by_contra hno
    push_neg at hno
    rw [remove_eq_none.mpr hno] at hdel
    cases hdel
  obtain rfl : u = x := List.inj_on_of_nodup_map h.keyed (h.stored_mem hu) (h.holding₁ x hx) hid
  have hf : (tab w.db).filter (fun y => Entity.id y ≠ Entity.id u) = (tab w.db).filter (· ≠ u) :=
    List.filter_congr fun y hy => by
      simpa using ⟨fun he => List.inj_on_of_nodup_map h.stored_keyed hy hu he, fun he => he ▸ rfl⟩
  rw [remove_some hdel]
  calc ((tab w.db).filter (fun y => Entity.id y ≠ Entity.id u) ++ (D₁ ++ [u]) ++ D₂).Perm
        ((tab w.db).filter (· ≠ u) ++ [u] ++ D₁ ++ D₂) := by
        rw [hf]
        simpa only [List.append_assoc, List.singleton_append] using
          ((List.perm_append_singleton u D₁).append_left _).append_right D₂
    List.Perm _ (tab w.db ++ D₁ ++ D₂) :=
        ((perm_filter_ne_append (List.Nodup.of_map _ h.stored_keyed) hu).append_right D₁).append_right D₂
    List.Perm _ xs₀ := h.ledger

/-- The first remover's store delete of a volume it holds fails and leaves the store, or removes
exactly that volume, which joins what it removed. -/
theorem dbDeleteVolume {vols₀ H₁ D₁ H₂ D₂ : List Volume} {v : Volume} {r : Except String Unit}
    {w' : World} (h : RemovalLedger DB.volumes vols₀ H₁ D₁ H₂ D₂ w) (hv : v ∈ H₁)
    (hd : w.dbDeleteVolume v = (r, w')) :
    (w'.db = w.db ∧ ∀ a, r ≠ .ok a) ∨
      (r = .ok () ∧ RemovalLedger DB.volumes vols₀ H₁ (D₁ ++ [v]) H₂ D₂ w') := by
  obtain ⟨-, -, ⟨hdb, -, hr⟩ | ⟨rfl, hdel⟩⟩ := World.dbDeleteVolume_spec hd
  · exact .inl ⟨hdb, hr⟩
  obtain ⟨vs, hvs, he⟩ := Option.map_eq_some'.mp hdel
  exact .inr ⟨rfl, h.drop hv (by rw [← he]; exact hvs)⟩

/-- The first remover's store delete of a network it holds fails and leaves the store, or
removes exactly that network, which joins what it removed. -/
theorem dbDeleteNetwork {nets₀ H₁ D₁ H₂ D₂ : List Network} {n : Network} {r : Except String Unit}
    {w' : World} (h : RemovalLedger DB.networks nets₀ H₁ D₁ H₂ D₂ w) (hn : n ∈ H₁)
    (hd : w.dbDeleteNetwork n = (r, w')) :
    (w'.db = w.db ∧ ∀ a, r ≠ .ok a) ∨
      (r = .ok () ∧ RemovalLedger DB.networks nets₀ H₁ (D₁ ++ [n]) H₂ D₂ w') := by
  obtain ⟨-, -, ⟨hdb, -, hr⟩ | ⟨rfl, hdel⟩⟩ := World.dbDeleteNetwork_spec hd
  · exact .inl ⟨hdb, hr⟩
  obtain ⟨ns, hns, he⟩ := Option.map_eq_some'.mp hdel
  exact .inr ⟨rfl, h.drop hn (by rw [← he]; exact hns)⟩

end RemovalLedger

namespace VolumeDeletePhase

/-- The volumes a `VolumeDelete` has removed from the store: one once it replied success, none
before. -/
def Dropped : VolumeDeletePhase → List Volume → Prop
  | reply r, D => D.length = if r.isOk then 1 else 0
  | _, D => D = []

variable {env : Env} {id : String} {vols₀ H₂ D₂ : List Volume}

/-- Every call of a `VolumeDelete` keeps the ledger. -/
theorem ledger_advance {pd : VolumeDeletePhase} {D : List Volume} {w : World} (hD : pd.Dropped D)
    (h : RemovalLedger DB.volumes vols₀ (pd.inflight ++ pd.pending) D H₂ D₂ w) :
    ∃ D', (advance env id pd w).1.Dropped D' ∧
      RemovalLedger DB.volumes vols₀
        ((advance env id pd w).1.inflight ++ (advance env id pd w).1.pending) D' H₂ D₂
        (advance env id pd w).2 := by
  cases pd with
  | lookup =>
    obtain rfl : D = [] := hD
    dsimp only [advance]
    cases hl : w.db.getVolumeByNameOrID id with
    | none => exact ⟨[], rfl, h.hold nofun⟩
    | some vol =>
      refine ⟨[], rfl, h.hold fun v hv => .inl ?_⟩
      obtain rfl : v = vol := by simpa [inflight, pending] using hv
      exact (findByNameOrID_some hl).1
  | unclaim vol =>
    dsimp only [advance]
    exact ⟨D, hD, (h.hold fun v hv => .inr (by simpa [inflight, pending] using hv)).congr
      (World.backendDeleteVolume_spec vol).2.1⟩
  | drop vol =>
    obtain rfl : D = [] := hD
    dsimp only [advance]
    rcases hd : w.dbDeleteVolume vol with ⟨r, w₁⟩
    rcases h.dbDeleteVolume (by simp [inflight]) hd with ⟨hdb, hr⟩ | ⟨rfl, h₁⟩
    · cases r with
      | ok a => exact absurd rfl (hr a)
      | error e => exact ⟨[], rfl, (h.congr hdb).hold nofun⟩
    · exact ⟨[vol], rfl, h₁.hold nofun⟩
  | reply r => exact ⟨D, hD, h⟩

end VolumeDeletePhase

namespace VolumePrunePhase

variable {β : Type} (report : Volume → β)

/-- The volumes a prune has removed from the store, which its reports so far, and its reply,
list by `report`. -/
def Dropped : VolumePrunePhase β → List Volume → Prop
  | list, D => D = []
  | loop acc _, D => acc = D.map report
  | drop acc _ _, D => acc = D.map report
  | reply r, D => r.reported = D.map report

variable {env : Env} {report} {vols₀ H₂ D₂ : List Volume}

/-- Every call of a volume prune keeps the ledger. -/
theorem ledger_advance {pp : VolumePrunePhase β} {D : List Volume} {w : World}
    (hD : pp.Dropped report D)
    (h : RemovalLedger DB.volumes vols₀ (pp.inflight ++ pp.pending) D H₂ D₂ w) :
    ∃ D', (advance env report pp w).1.Dropped report D' ∧
      RemovalLedger DB.volumes vols₀ ((advance env report pp w).1.inflight ++
        (advance env report pp w).1.pending) D' H₂ D₂ (advance env report pp w).2 := by
  cases pp with
  | list =>
    obtain rfl : D = [] := hD
    obtain ⟨-, hdb, -, hvols⟩ := World.dbGetVolumes_spec w
    dsimp only [advance]
    rcases hl : w.dbGetVolumes with ⟨_ | vols, w₁⟩ <;> rw [hl] at hdb <;> dsimp only
    · exact ⟨[], rfl, (h.congr hdb).hold nofun⟩
    · refine ⟨[], rfl, (h.hold fun v hv => .inl ?_).congr hdb⟩
      rw [hvols vols (by rw [hl])] at hv
      simpa [inflight, pending] using hv
  | loop acc vols =>
    cases vols with
    | nil => exact ⟨D, hD, h⟩
    | cons vol vols =>
      dsimp only [advance]
      exact ⟨D, hD, (h.hold fun v hv => .inr (by simpa [inflight, pending] using hv)).congr
        (World.backendDeleteVolume_spec vol).2.1⟩
  | drop acc vol vols =>
    dsimp only [advance]
    have hH : ∀ v ∈ (loop (β := β) acc vols).inflight ++ (loop acc vols).pending, v ∈ [vol] ++ vols :=
      fun v hv => List.mem_append_right _ (by simpa [inflight, pending] using hv)
    rcases hd : w.dbDeleteVolume vol with ⟨r, w₁⟩
    rcases h.dbDeleteVolume (by simp [inflight]) hd with ⟨hdb, hr⟩ | ⟨rfl, h₁⟩
    · cases r with
      | ok a => exact absurd rfl (hr a)
      | error e => exact ⟨D, hD, (h.hold fun v hv => .inr (hH v hv)).congr hdb⟩
    · refine ⟨D ++ [vol], ?_, h₁.hold fun v hv => .inr (hH v hv)⟩
      · show acc ++ [report vol] = (D ++ [vol]).map report
        rw [List.map_append, ← show acc = D.map report from hD]
        rfl
  | reply r => exact ⟨D, hD, h⟩

end VolumePrunePhase

/-- A remover as a phase machine that refines its thread, keeps the ledger with every call, and
replies what it removed. -/
structure Reporter {ε : Type} [Entity ε] (tab : DB → List ε) (α : Type) where
  Phase : Type
  thread : Phase → Thread α
  advance : Phase → World → Phase × World
  refines : Refines thread advance
  start : Phase
  holding : Phase → List ε
  Dropped : Phase → List ε → Prop
  Removed : α → List ε → Prop
  start_holding : holding start = []
  start_dropped : Dropped start []
  keeps_ledger : ∀ {xs₀ H₂ D₂ : List ε} p D w, Dropped p D →
    RemovalLedger tab xs₀ (holding p) D H₂ D₂ w →
    ∃ D', Dropped (advance p w).1 D' ∧
      RemovalLedger tab xs₀ (holding (advance p w).1) D' H₂ D₂ (advance p w).2
  done_removed : ∀ p r D, thread p = .done r → Dropped p D → Removed r D

/-- `VolumeDelete` reports one removed volume when it replies success, and none otherwise. -/
def VolumeDeletePhase.reporter (env : Env) (id : String) : Reporter DB.volumes (Response Unit) where
  Phase := VolumeDeletePhase
  thread := VolumeDeletePhase.thread env id
  advance := VolumeDeletePhase.advance env id
  refines := VolumeDeletePhase.refines env id
  start := .lookup
  holding p := p.inflight ++ p.pending
  Dropped := VolumeDeletePhase.Dropped
  Removed r D := D.length = if r.isOk then 1 else 0
  start_holding := rfl
  start_dropped := rfl
  keeps_ledger _ _ _ hD h := VolumeDeletePhase.ledger_advance hD h
  done_removed _ _ _ hq hD := by
    rw [VolumeDeletePhase.thread_eq_done env id hq] at hD
    exact hD

/-- A volume prune lists by `report` exactly the volumes it removed. -/
def VolumePrunePhase.reporter (env : Env) {β : Type} (report : Volume → β) :
    Reporter DB.volumes (Response (List β)) where
  Phase := VolumePrunePhase β
  thread := VolumePrunePhase.thread env report
  advance := VolumePrunePhase.advance env report
  refines := VolumePrunePhase.refines env report
  start := .list
  holding p := p.inflight ++ p.pending
  Dropped := VolumePrunePhase.Dropped report
  Removed r D := r.reported = D.map report
  start_holding := rfl
  start_dropped := rfl
  keeps_ledger _ _ _ hD h := VolumePrunePhase.ledger_advance hD h
  done_removed _ _ _ hq hD := by
    rcases VolumePrunePhase.thread_eq_done env report hq with rfl | ⟨acc, rfl, rfl⟩
    · exact hD
    · exact hD

section Removers

variable {env : Env} {w : World}

/-- Two reporting removers of one table racing, from a store with distinct IDs in the table:
under every schedule, the entities of the table at the start are those of the table at the end
and those each removed, each once, and each reply says what its remover removed. -/
theorem removers_race_ledger {ε α β : Type} [Entity ε] {tab : DB → List ε} (r₁ : Reporter tab α)
    (r₂ : Reporter tab β) (hk : ((tab w.db).map Entity.id).Nodup) (s : List Bool) :
    ∃ D₁ D₂, r₁.Removed (interleave s (r₁.thread r₁.start) (r₂.thread r₂.start) w).1 D₁ ∧
      r₂.Removed (interleave s (r₁.thread r₁.start) (r₂.thread r₂.start) w).2.1 D₂ ∧
      (tab (interleave s (r₁.thread r₁.start) (r₂.thread r₂.start) w).2.2.db ++ D₁ ++ D₂).Perm
        (tab w.db) := by
  have h₀ : ∃ D₁ D₂, r₁.Dropped r₁.start D₁ ∧ r₂.Dropped r₂.start D₂ ∧
      RemovalLedger tab (tab w.db) (r₁.holding r₁.start) D₁ (r₂.holding r₂.start) D₂ w := by
    refine ⟨[], [], r₁.start_dropped, r₂.start_dropped, hk, by simp, ?_, ?_⟩ <;>
      simp [r₁.start_holding, r₂.start_holding]
  obtain ⟨q₁, q₂, e₁, e₂, D₁, D₂, h₁, h₂, hL⟩ := interleave_phases
    (J := fun (p₁ : r₁.Phase) (p₂ : r₂.Phase) (w' : World) => ∃ D₁ D₂, r₁.Dropped p₁ D₁ ∧
      r₂.Dropped p₂ D₂ ∧ RemovalLedger tab (tab w.db) (r₁.holding p₁) D₁ (r₂.holding p₂) D₂ w')
    r₁.refines r₂.refines
    (fun p₁ _ w' ⟨D₁, D₂, h₁, h₂, hL⟩ =>
      let ⟨D₁', h₁', hL'⟩ := r₁.keeps_ledger p₁ D₁ w' h₁ hL
      ⟨D₁', D₂, h₁', h₂, hL'⟩)
    (fun _ p₂ w' ⟨D₁, D₂, h₁, h₂, hL⟩ =>
      let ⟨D₂', h₂', hL'⟩ := r₂.keeps_ledger p₂ D₂ w' h₂ hL.symm
      ⟨D₁, D₂', h₁, h₂', hL'.symm⟩) s h₀
  exact ⟨D₁, D₂, r₁.done_removed q₁ _ D₁ e₁ h₁, r₂.done_removed q₂ _ D₂ e₂ h₂, hL.ledger⟩

/-- Two volume removers racing, under every schedule and pattern of failures: the volumes stored
at the start are those still stored and those each removed, each once, and replies report what
they removed. -/
theorem volume_removers_race_reports {id₁ id₂ : String} (report₁ report₂ : Volume → String)
    (hk : (w.db.volumes.map Volume.id).Nodup) (s : List Bool) :
    (∃ D₁ D₂,
      D₁.length =
        (if (interleave s (volumeDeleteThread env id₁) (volumeDeleteThread env id₂) w).1.isOk
          then 1 else 0) ∧
      D₂.length =
        (if (interleave s (volumeDeleteThread env id₁) (volumeDeleteThread env id₂) w).2.1.isOk
          then 1 else 0) ∧
      ((interleave s (volumeDeleteThread env id₁) (volumeDeleteThread env id₂) w).2.2.db.volumes ++
        D₁ ++ D₂).Perm w.db.volumes) ∧
    (∃ D₁ D₂,
      D₁.length =
        (if (interleave s (volumeDeleteThread env id₁) (volumesPruneThread env report₂) w).1.isOk
          then 1 else 0) ∧
      (interleave s (volumeDeleteThread env id₁) (volumesPruneThread env report₂) w).2.1.reported =
        D₂.map report₂ ∧
      ((interleave s (volumeDeleteThread env id₁) (volumesPruneThread env report₂) w).2.2.db.volumes ++
        D₁ ++ D₂).Perm w.db.volumes) ∧
    (∃ D₁ D₂,
      (interleave s (volumesPruneThread env report₁) (volumesPruneThread env report₂) w).1.reported =
        D₁.map report₁ ∧
      (interleave s (volumesPruneThread env report₁) (volumesPruneThread env report₂) w).2.1.reported =
        D₂.map report₂ ∧
      ((interleave s (volumesPruneThread env report₁) (volumesPruneThread env report₂) w).2.2.db.volumes
        ++ D₁ ++ D₂).Perm w.db.volumes) :=
  ⟨removers_race_ledger (VolumeDeletePhase.reporter env id₁) (VolumeDeletePhase.reporter env id₂) hk s,
    removers_race_ledger (VolumeDeletePhase.reporter env id₁) (VolumePrunePhase.reporter env report₂)
      hk s,
    removers_race_ledger (VolumePrunePhase.reporter env report₁)
      (VolumePrunePhase.reporter env report₂) hk s⟩

end Removers

theorem volume_removers_race_reports_of_shared_volume :
    let w := run Env.sample (World.initial fun _ => [])
      [.volume (.volumeCreate (.ok { name := "data" })), .volume (.volumeCreate (.ok { name := "cache" }))]
    let s := [true, false, true, false, true, false, true, false, true, false]
    (w.db.volumes.map Volume.id).Nodup ∧
    (∃ D₁ D₂,
      D₁.length =
        (if (interleave s (volumeDeleteThread Env.sample "data")
          (volumeDeleteThread Env.sample "data") w).1.isOk then 1 else 0) ∧
      D₂.length =
        (if (interleave s (volumeDeleteThread Env.sample "data")
          (volumeDeleteThread Env.sample "data") w).2.1.isOk then 1 else 0) ∧
      ((interleave s (volumeDeleteThread Env.sample "data")
        (volumeDeleteThread Env.sample "data") w).2.2.db.volumes ++ D₁ ++ D₂).Perm w.db.volumes) ∧
    (∃ D₁ D₂,
      D₁.length =
        (if (interleave s (volumeDeleteThread Env.sample "data")
          (volumesPruneThread Env.sample Volume.id) w).1.isOk then 1 else 0) ∧
      (interleave s (volumeDeleteThread Env.sample "data")
        (volumesPruneThread Env.sample Volume.id) w).2.1.reported = D₂.map Volume.id ∧
      ((interleave s (volumeDeleteThread Env.sample "data")
        (volumesPruneThread Env.sample Volume.id) w).2.2.db.volumes ++ D₁ ++ D₂).Perm
        w.db.volumes) ∧
    (∃ D₁ D₂,
      (interleave s (volumesPruneThread Env.sample Volume.name)
        (volumesPruneThread Env.sample Volume.id) w).1.reported = D₁.map Volume.name ∧
      (interleave s (volumesPruneThread Env.sample Volume.name)
        (volumesPruneThread Env.sample Volume.id) w).2.1.reported = D₂.map Volume.id ∧
      ((interleave s (volumesPruneThread Env.sample Volume.name)
        (volumesPruneThread Env.sample Volume.id) w).2.2.db.volumes ++ D₁ ++ D₂).Perm
        w.db.volumes) := by
  intro w s
  have hk : (w.db.volumes.map Volume.id).Nodup := by decide
  exact ⟨hk, @volume_removers_race_reports Env.sample w "data" "data" Volume.name Volume.id hk s⟩

end Kubedock
