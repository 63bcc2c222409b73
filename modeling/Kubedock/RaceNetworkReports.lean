import Kubedock.RaceReports

/-! Two network removers racing, `NetworkDelete`s and `NetworkPrune`s, against what they reply.
The ledger of the volume removers holds for the networks: those stored at the start are those
still stored and those each remover removed, each once. A `NetworkPrune` whose delete fails,
as when the other removed the network first, replies an error listing none it removed. -/

namespace Kubedock

theorem World.dbGetNetworks_ok {w w' : World} {netws : List Network}
    (h : w.dbGetNetworks = (.ok netws, w')) : netws = w.db.networks := by
  unfold World.dbGetNetworks World.dbCall at h
  split_ifs at h
  · cases h
  · cases h
    rfl

namespace DeletePhase

/-- The network a `NetworkDelete` has found and not yet deleted from the store. -/
def holding : DeletePhase → List Network
  | scan netw | drop netw => [netw]
  | _ => []

/-- The networks a `NetworkDelete` has removed from the store: those its reply lists once it
replied, none before. -/
def Dropped : DeletePhase → List Network → Prop
  | reply r, D => r.reported = D
  | _, D => D = []

variable {env : Env} {id : String} {nets₀ H₂ D₂ : List Network}

/-- Every call of a `NetworkDelete` keeps the ledger. -/
theorem ledger_advance {pd : DeletePhase} {D : List Network} {w : World} (hD : pd.Dropped D)
    (h : RemovalLedger DB.networks nets₀ pd.holding D H₂ D₂ w) :
    ∃ D', (advance env id pd w).1.Dropped D' ∧
      RemovalLedger DB.networks nets₀ (advance env id pd w).1.holding D' H₂ D₂
        (advance env id pd w).2 := by
  cases pd with
  | lookup =>
    obtain rfl : D = [] := hD
    dsimp only [advance]
    cases hl : w.db.getNetworkByNameOrID id with
    | none => exact ⟨[], rfl, h.hold nofun⟩
    | some netw =>
      dsimp only
      split_ifs
      · exact ⟨[], rfl, h.hold nofun⟩
      · refine ⟨[], rfl, h.hold fun n hn => .inl ?_⟩
        obtain rfl : n = netw := List.mem_singleton.mp hn
        exact (findByNameOrID_some hl).1
  | scan netw =>
    obtain rfl : D = [] := hD
    dsimp only [advance]
    rcases hs : getContainersInNetwork w netw with ⟨members, w₁⟩
    obtain ⟨-, hdb, -⟩ := getContainersInNetwork_spec hs
    dsimp only
    split_ifs
    · exact ⟨[], rfl, (h.congr hdb).hold nofun⟩
    · exact ⟨[], rfl, h.congr hdb⟩
  | drop netw =>
    obtain rfl : D = [] := hD
    dsimp only [advance]
    rcases hd : w.dbDeleteNetwork netw with ⟨r, w₁⟩
    rcases h.dbDeleteNetwork (List.mem_singleton_self netw) hd with ⟨hdb, hr⟩ | ⟨rfl, h₁⟩
    · cases r with
      | ok a => exact absurd rfl (hr a)
      | error e => exact ⟨[], rfl, (h.congr hdb).hold nofun⟩
    · exact ⟨[netw], rfl, h₁.hold nofun⟩
  | reply r => exact ⟨D, hD, h⟩

end DeletePhase

namespace PrunePhase

/-- The listed networks a `NetworkPrune` has yet to scan or delete. -/
def holding : PrunePhase → List Network
  | loop _ netws => netws
  | drop _ netw netws => netw :: netws
  | _ => []

/-- The networks a `NetworkPrune` has removed from the store: those it has pruned so far, which
its reply lists when it is a success. -/
def Dropped : PrunePhase → List Network → Prop
  | list, D => D = []
  | loop pruned _, D | drop pruned _ _, D => pruned = D
  | reply r, D => r.isOk = true → r.reported = D

variable {env : Env} {nets₀ H₂ D₂ : List Network}

/-- The scans of the prune's loop skip the predefined networks and read the containers: they keep
the ledger, the networks pruned so far, and hold a suffix of the networks listed. -/
theorem ledger_loop {pruned D : List Network} (hD : pruned = D) :
    ∀ (netws : List Network) {w : World}, RemovalLedger DB.networks nets₀ netws D H₂ D₂ w →
    ∃ D', (loopAdvance env pruned netws w).1.Dropped D' ∧
      RemovalLedger DB.networks nets₀ (loopAdvance env pruned netws w).1.holding D' H₂ D₂
        (loopAdvance env pruned netws w).2
  | [], _, h => ⟨D, hD, h⟩
  | netw :: netws, w, h => by
    have htail := h.hold fun n hn => .inr (List.mem_cons_of_mem netw hn)
    by_cases hp : env.isPredefined netw = true
    · simp only [loopAdvance, if_pos hp]
      exact ledger_loop hD netws htail
    · simp only [loopAdvance, if_neg hp]
      rcases hs : getContainersInNetwork w netw with ⟨members, w₁⟩
      obtain ⟨-, hdb, -⟩ := getContainersInNetwork_spec hs
      split_ifs
      · exact ⟨D, hD, htail.congr hdb⟩
      · exact ⟨D, hD, h.congr hdb⟩

/-- Every call of a `NetworkPrune` keeps the ledger. -/
theorem ledger_advance {pp : PrunePhase} {D : List Network} {w : World} (hD : pp.Dropped D)
    (h : RemovalLedger DB.networks nets₀ pp.holding D H₂ D₂ w) :
    ∃ D', (advance env pp w).1.Dropped D' ∧
      RemovalLedger DB.networks nets₀ (advance env pp w).1.holding D' H₂ D₂
        (advance env pp w).2 := by
  cases pp with
  | list =>
    obtain rfl : D = [] := hD
    obtain ⟨-, hdb⟩ := World.dbGetNetworks_spec w
    dsimp only [advance]
    rcases hl : w.dbGetNetworks with ⟨_ | netws, w₁⟩ <;> rw [hl] at hdb <;> dsimp only
    · exact ⟨[], nofun, (h.congr hdb).hold nofun⟩
    · refine ⟨[], rfl, (h.hold fun n hn => .inl ?_).congr hdb⟩
      rwa [World.dbGetNetworks_ok hl] at hn
  | loop pruned netws => exact ledger_loop hD netws h
  | drop pruned netw netws =>
    dsimp only [advance]
    rcases hd : w.dbDeleteNetwork netw with ⟨r, w₁⟩
    rcases h.dbDeleteNetwork (List.mem_cons_self netw netws) hd with ⟨hdb, hr⟩ | ⟨rfl, h₁⟩
    · cases r with
      | ok a => exact absurd rfl (hr a)
      | error e => exact ⟨D, nofun, (h.congr hdb).hold nofun⟩
    · exact ⟨D ++ [netw], congrArg (· ++ [netw]) hD,
        h₁.hold fun n hn => .inr (List.mem_cons_of_mem netw hn)⟩
  | reply r => exact ⟨D, hD, h⟩

end PrunePhase

/-- `NetworkDelete` lists the network it removed, and none when it removed none. -/
def DeletePhase.reporter (env : Env) (id : String) :
    Reporter DB.networks (Response (List Network)) where
  Phase := DeletePhase
  thread := DeletePhase.thread env id
  advance := DeletePhase.advance env id
  refines := DeletePhase.refines env id
  start := .lookup
  holding := DeletePhase.holding
  Dropped := DeletePhase.Dropped
  Removed r D := r.reported = D
  start_holding := rfl
  start_dropped := rfl
  keeps_ledger _ _ _ hD h := DeletePhase.ledger_advance hD h
  done_removed _ _ _ hq hD := by
    rw [DeletePhase.thread_eq_done env id hq] at hD
    exact hD

/-- A `NetworkPrune` that replies success lists exactly the networks it removed. -/
def PrunePhase.reporter (env : Env) : Reporter DB.networks (Response (List Network)) where
  Phase := PrunePhase
  thread := PrunePhase.thread env
  advance := PrunePhase.advance env
  refines := PrunePhase.refines env
  start := .list
  holding := PrunePhase.holding
  Dropped := PrunePhase.Dropped
  Removed r D := r.isOk = true → r.reported = D
  start_holding := rfl
  start_dropped := rfl
  keeps_ledger _ _ _ hD h := PrunePhase.ledger_advance hD h
  done_removed _ _ _ hq hD := by
    rcases PrunePhase.thread_eq_done env hq with rfl | ⟨pruned, netws, rfl, rfl⟩
    · exact hD
    · exact fun _ => hD

section Removers

variable {env : Env} {w : World}

/-- Two network removers racing, under every schedule and pattern of failures: the networks
stored at the start are those still stored and those each removed, each once; the delete's reply
and a prune's successful one report what they removed. -/
theorem network_removers_race_reports {id₁ id₂ : String}
    (hk : (w.db.networks.map Network.id).Nodup) (s : List Bool) :
    (∃ D₁ D₂,
      (interleave s (networkDeleteThread env id₁) (networkDeleteThread env id₂) w).1.reported = D₁ ∧
      (interleave s (networkDeleteThread env id₁) (networkDeleteThread env id₂) w).2.1.reported = D₂ ∧
      ((interleave s (networkDeleteThread env id₁) (networkDeleteThread env id₂) w).2.2.db.networks ++
        D₁ ++ D₂).Perm w.db.networks) ∧
    (∃ D₁ D₂,
      (interleave s (networkDeleteThread env id₁) (networkPruneThread env) w).1.reported = D₁ ∧
      ((interleave s (networkDeleteThread env id₁) (networkPruneThread env) w).2.1.isOk = true →
        (interleave s (networkDeleteThread env id₁) (networkPruneThread env) w).2.1.reported = D₂) ∧
      ((interleave s (networkDeleteThread env id₁) (networkPruneThread env) w).2.2.db.networks ++
        D₁ ++ D₂).Perm w.db.networks) ∧
    (∃ D₁ D₂,
      ((interleave s (networkPruneThread env) (networkPruneThread env) w).1.isOk = true →
        (interleave s (networkPruneThread env) (networkPruneThread env) w).1.reported = D₁) ∧
      ((interleave s (networkPruneThread env) (networkPruneThread env) w).2.1.isOk = true →
        (interleave s (networkPruneThread env) (networkPruneThread env) w).2.1.reported = D₂) ∧
      ((interleave s (networkPruneThread env) (networkPruneThread env) w).2.2.db.networks ++
        D₁ ++ D₂).Perm w.db.networks) :=
  ⟨removers_race_ledger (DeletePhase.reporter env id₁) (DeletePhase.reporter env id₂) hk s,
    removers_race_ledger (DeletePhase.reporter env id₁) (PrunePhase.reporter env) hk s,
    removers_race_ledger (PrunePhase.reporter env) (PrunePhase.reporter env) hk s⟩

end Removers

/-- A `NetworkPrune` of two networks racing a `NetworkDelete` of the second: the prune removes the
first and replies an error that lists neither. -/
theorem network_removers_race_reports_of_pruned_then_deleted :
    let w : World :=
      { db := { networks := [{ id := "a", name := "n1" }, { id := "b", name := "n2" }], seq := 2 }
        pvcs := []
        faults := fun _ => [] }
    let s := [false, false, false, true, true, true]
    (w.db.networks.map Network.id).Nodup ∧
    ((∃ D₁ D₂,
      (interleave s (networkDeleteThread Env.sample "b")
        (networkDeleteThread Env.sample "b") w).1.reported = D₁ ∧
      (interleave s (networkDeleteThread Env.sample "b")
        (networkDeleteThread Env.sample "b") w).2.1.reported = D₂ ∧
      ((interleave s (networkDeleteThread Env.sample "b")
        (networkDeleteThread Env.sample "b") w).2.2.db.networks ++
        D₁ ++ D₂).Perm w.db.networks) ∧
    (∃ D₁ D₂,
      (interleave s (networkDeleteThread Env.sample "b")
        (networkPruneThread Env.sample) w).1.reported = D₁ ∧
      ((interleave s (networkDeleteThread Env.sample "b")
        (networkPruneThread Env.sample) w).2.1.isOk = true →
        (interleave s (networkDeleteThread Env.sample "b")
        (networkPruneThread Env.sample) w).2.1.reported = D₂) ∧
      ((interleave s (networkDeleteThread Env.sample "b")
        (networkPruneThread Env.sample) w).2.2.db.networks ++
        D₁ ++ D₂).Perm w.db.networks) ∧
    (∃ D₁ D₂,
      ((interleave s (networkPruneThread Env.sample)
        (networkPruneThread Env.sample) w).1.isOk = true →
        (interleave s (networkPruneThread Env.sample)
        (networkPruneThread Env.sample) w).1.reported = D₁) ∧
      ((interleave s (networkPruneThread Env.sample)
        (networkPruneThread Env.sample) w).2.1.isOk = true →
        (interleave s (networkPruneThread Env.sample)
        (networkPruneThread Env.sample) w).2.1.reported = D₂) ∧
      ((interleave s (networkPruneThread Env.sample)
        (networkPruneThread Env.sample) w).2.2.db.networks ++
        D₁ ++ D₂).Perm w.db.networks)) ∧
    (interleave s (networkDeleteThread Env.sample "b") (networkPruneThread Env.sample) w).1 =
      .ok statusOK [{ id := "b", name := "n2" }] ∧
    (interleave s (networkDeleteThread Env.sample "b") (networkPruneThread Env.sample) w).2.1 =
      .error statusNotFound notFoundError ∧
    (interleave s (networkDeleteThread Env.sample "b")
      (networkPruneThread Env.sample) w).2.2.db.networks = [] := by
  intro w s
  have hk : (w.db.networks.map Network.id).Nodup := by decide
  exact ⟨hk, @network_removers_race_reports Env.sample w "b" "b" hk s, by decide⟩

end Kubedock
