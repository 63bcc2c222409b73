import Kubedock.Router

/-! The libpod network handlers (`routes/libpod/networks.go`). Connect and disconnect resolve the
container to a pointer into the store, so `ConnectNetwork`, the alias appends and
`DisconnectNetwork` change the stored container before `SaveContainer`, whose failure leaves
them in place. Delete and prune refuse predefined networks and networks with a member, as
`getContainersInNetwork` reports them: none when the store cannot list. -/

namespace Kubedock

/-- `NetworkCreateRequest`; `Driver` and `Options` are decoded and never read. -/
structure NetworkCreateRequest where
  name : String
  labels : Labels := []
  deriving DecidableEq, Repr

/-- `NetworkConnectRequest`. -/
structure NetworkConnectRequest where
  container : String
  aliases : List String := []
  deriving DecidableEq, Repr

/-- `NetworkDisconnectRequest`. -/
structure NetworkDisconnectRequest where
  container : String
  deriving DecidableEq, Repr

/-- The alias loop of `NetworkConnect`: `done` starts as the container's aliases, and each
requested alias is lower-cased and appended unless `done` holds it. -/
def mergeAliasesLoop (toLower : String → String) :
    List String → List String → List String → List String
  | _, aliases, [] => aliases
  | done, aliases, a :: as =>
    let lowerAlias := toLower a
    if lowerAlias ∈ done then mergeAliasesLoop toLower done aliases as
    else mergeAliasesLoop toLower (done ++ [lowerAlias]) (aliases ++ [lowerAlias]) as

/-- The aliases `NetworkConnect` stores for a container with `aliases` asked for `requested`. -/
def mergeAliases (toLower : String → String) (aliases requested : List String) : List String :=
  mergeAliasesLoop toLower aliases aliases requested

/-- The container `NetworkConnect` leaves in the store, run alone: connected to the network,
with the requested aliases merged into its own. -/
def connectedContainer (toLower : String → String) (tainr : Container) (netw : Network)
    (aliases : List String) : Container :=
  let tainr := tainr.connectNetwork netw.id
  { tainr with networkAliases := mergeAliases toLower tainr.networkAliases aliases }

@[simp] theorem connectedContainer_id (toLower : String → String) (tainr : Container)
    (netw : Network) (aliases : List String) :
    (connectedContainer toLower tainr netw aliases).id = tainr.id := by
  simp [connectedContainer]

@[simp] theorem connectedContainer_name (toLower : String → String) (tainr : Container)
    (netw : Network) (aliases : List String) :
    (connectedContainer toLower tainr netw aliases).name = tainr.name := by
  simp [connectedContainer]

theorem mem_connectedContainer {toLower : String → String} {tainr : Container} {netw : Network}
    {aliases : List String} {m : String} :
    m ∈ (connectedContainer toLower tainr netw aliases).networks ↔ m ∈ tainr.networks ∨ m = netw.id :=
  Container.mem_connectNetwork

/-- `tainr.NetworkAliases = append(tainr.NetworkAliases, alias)` through the pointer `i`. -/
def DB.appendAlias (db : DB) (i : Nat) (lowerAlias : String) : DB :=
  db.modifyContainer i fun c => { c with networkAliases := c.networkAliases ++ [lowerAlias] }

/-- The alias loop of `NetworkConnect` through the pointer `i`: each requested alias is
lower-cased and appended to the stored container's aliases unless `done` holds it. -/
def appendAliases (toLower : String → String) (i : Nat) :
    List String → List String → DB → DB
  | _, [], db => db
  | done, a :: as, db =>
    let lowerAlias := toLower a
    if lowerAlias ∈ done then appendAliases toLower i done as db
    else appendAliases toLower i (done ++ [lowerAlias]) as (db.appendAlias i lowerAlias)

/-- What `NetworkConnect` writes through the pointer `i` before its save: `ConnectNetwork`, then
the alias loop from the aliases the container then holds. -/
def connectWrites (toLower : String → String) (netw : Network) (aliases : List String) (i : Nat)
    (db : DB) : DB :=
  let db := db.modifyContainer i (·.connectNetwork netw.id)
  appendAliases toLower i (db.containerAt i).networkAliases aliases db

/-- The alias loop through a pointer is the merge of the aliases, written in place. -/
theorem appendAliases_eq (toLower : String → String) (i : Nat) :
    ∀ (done aliases : List String) (db : DB), appendAliases toLower i done aliases db =
      db.modifyContainer i fun c =>
        { c with networkAliases := mergeAliasesLoop toLower done c.networkAliases aliases }
  | _, [], db => (DB.modifyContainer_id).symm
  | done, a :: as, db => by
    simp only [appendAliases, mergeAliasesLoop]
    split_ifs
    · exact appendAliases_eq toLower i done as db
    · rw [appendAliases_eq, DB.appendAlias, DB.modifyContainer_modifyContainer]
      rfl

/-- Run alone, the writes of `NetworkConnect` leave the container connected with the merged
aliases. -/
theorem connectWrites_eq (toLower : String → String) (netw : Network) (aliases : List String)
    (i : Nat) (db : DB) : connectWrites toLower netw aliases i db =
      db.modifyContainer i fun c => connectedContainer toLower c netw aliases := by
  rw [connectWrites, appendAliases_eq, DB.modifyContainer_modifyContainer]
  by_cases hi : i < db.containers.length
  · refine DB.modifyContainer_congr ?_
    simp [DB.containerAt_modifyContainer hi, connectedContainer, mergeAliases]
  · simp only [DB.modifyContainer_of_le (Nat.le_of_not_lt hi)]

variable (env : Env)

/-- `NetworkInfo`: the reply carries the network that `networkToLibpodJSON` presents. -/
def networkInfo (id : String) (w : World) : Response Network × World :=
  match w.db.getNetworkByNameOrID id with
  | none => (.error statusNotFound notFoundError, w)
  | some netw => (.ok statusOK netw, w)

/-- `NetworkExists`. -/
def networkExists (id : String) (w : World) : Response Unit × World :=
  match w.db.getNetworkByNameOrID id with
  | none => (.error statusNotFound notFoundError, w)
  | some _ => (.ok statusNoContent (), w)

/-- `NetworkCreate`. -/
def networkCreate (body : Except String NetworkCreateRequest) (w : World) :
    Response Network × World :=
  match body with
  | .error e => (.error statusInternalServerError e, w)
  | .ok req =>
    match w.db.getNetworkByName req.name with
    | some existing => (.ok statusOK existing, w)
    | none =>
      match w.dbSaveNetwork env { name := req.name, labels := req.labels } with
      | (.error e, w) => (.error statusInternalServerError e, w)
      | (.ok netw, w) => (.ok statusOK netw, w)

/-- `getContainersInNetwork`: the members of `netw`, or none when the store cannot list. -/
def getContainersInNetwork (w : World) (netw : Network) : List Container × World :=
  match w.dbGetContainers with
  | (.ok tainrs, w) => (tainrs.filter (fun tainr => netw.id ∈ tainr.networks), w)
  | (.error _, w) => ([], w)

/-- `NetworkDelete`. -/
def networkDelete (id : String) (w : World) : Response (List Network) × World :=
  match w.db.getNetworkByNameOrID id with
  | none => (.error statusNotFound notFoundError, w)
  | some netw =>
    if env.isPredefined netw then
      (.error statusForbidden (netw.name ++ " is a pre-defined network and cannot be removed"), w)
    else
      let (members, w) := getContainersInNetwork w netw
      if members.length ≠ 0 then
        (.error statusConflict "cannot delete network, containers attached", w)
      else
        match w.dbDeleteNetwork netw with
        | (.error e, w) => (.error statusNotFound e, w)
        | (.ok (), w) => (.ok statusOK [netw], w)

/-- The save that ends `NetworkConnect` and `NetworkDisconnect`: `SaveContainer` of the container
the pointer `i` reads, and the reply. -/
def saveContainerAt (i : Nat) (w : World) : Response Unit × World :=
  match w.dbSaveContainer env (w.db.containerAt i) with
  | (.error e, w) => (.error statusInternalServerError e, w)
  | (.ok _, w) => (.ok statusOK (), w)

/-- `NetworkConnect`. -/
def networkConnect (id : String) (body : Except String NetworkConnectRequest) (w : World) :
    Response Unit × World :=
  match body with
  | .error e => (.error statusInternalServerError e, w)
  | .ok req =>
    match w.db.getNetworkByNameOrID id with
    | none => (.error statusNotFound notFoundError, w)
    | some netw =>
      match w.db.containerRef req.container with
      | none => (.error statusNotFound notFoundError, w)
      | some i => saveContainerAt env i { w with db := connectWrites env.toLower netw req.aliases i w.db }

/-- `NetworkDisconnect`. -/
def networkDisconnect (id : String) (body : Except String NetworkDisconnectRequest) (w : World) :
    Response Unit × World :=
  match body with
  | .error e => (.error statusInternalServerError e, w)
  | .ok req =>
    match w.db.getNetworkByNameOrID id with
    | none => (.error statusNotFound notFoundError, w)
    | some netw =>
      match w.db.containerRef req.container with
      | none => (.error statusNotFound notFoundError, w)
      | some i =>
        if env.isPredefined netw then
          (.error statusInternalServerError "cannot disconnect from predefined network", w)
        else
          match (w.db.containerAt i).disconnectNetwork netw.id with
          | .error e => (.error statusNotFound e, w)
          | .ok tainr => saveContainerAt env i { w with db := w.db.modifyContainer i fun _ => tainr }

/-- The loop of `NetworkPrune`: predefined networks and networks with members are skipped, and
a failed store delete ends the request with an error. -/
def pruneNetworks (pruned : List Network) : List Network → World → Response (List Network) × World
  | [], w => (.ok statusOK pruned, w)
  | netw :: netws, w =>
    if env.isPredefined netw then pruneNetworks pruned netws w
    else
      let (members, w) := getContainersInNetwork w netw
      if members.length ≠ 0 then pruneNetworks pruned netws w
      else
        match w.dbDeleteNetwork netw with
        | (.error e, w) => (.error statusNotFound e, w)
        | (.ok (), w) => pruneNetworks (pruned ++ [netw]) netws w

/-- `NetworkPrune`. -/
def networkPrune (w : World) : Response (List Network) × World :=
  match w.dbGetNetworks with
  | (.error e, w) => (.error statusInternalServerError e, w)
  | (.ok netws, w) => pruneNetworks env [] netws w

namespace World

variable {env : Env} {w w' : World}

theorem dbSaveNetwork_spec {n : Network} {r : Except String Network}
    (h : w.dbSaveNetwork env n = (r, w')) :
    Consumed w w' ∧ w'.pvcs = w.pvcs ∧
      ((w'.db = w.db ∧ ∀ m, r ≠ .ok m) ∨ (r = .ok (w.db.saveNetwork env.idGen n).1 ∧
        w'.db = (w.db.saveNetwork env.idGen n).2)) := by
  obtain ⟨hc, hp, ⟨hdb, -, hr⟩ | ⟨a, hf, rfl⟩⟩ := dbCall_spec h
  · exact ⟨hc, hp, Or.inl ⟨hdb, hr⟩⟩
  · obtain ⟨rfl, hdb⟩ := Prod.mk.inj (Except.ok.inj hf)
    exact ⟨hc, hp, Or.inr ⟨rfl, hdb.symm⟩⟩

theorem dbSaveContainer_spec {c : Container} {r : Except String Container}
    (h : w.dbSaveContainer env c = (r, w')) :
    Consumed w w' ∧ w'.pvcs = w.pvcs ∧
      ((w'.db = w.db ∧ ∀ d, r ≠ .ok d) ∨ (r = .ok (w.db.saveContainer env.idGen c).1 ∧
        w'.db = (w.db.saveContainer env.idGen c).2)) := by
  obtain ⟨hc, hp, ⟨hdb, -, hr⟩ | ⟨a, hf, rfl⟩⟩ := dbCall_spec h
  · exact ⟨hc, hp, Or.inl ⟨hdb, hr⟩⟩
  · obtain ⟨rfl, hdb⟩ := Prod.mk.inj (Except.ok.inj hf)
    exact ⟨hc, hp, Or.inr ⟨rfl, hdb.symm⟩⟩

theorem dbDeleteNetwork_spec {n : Network} {r : Except String Unit}
    (h : w.dbDeleteNetwork n = (r, w')) :
    Consumed w w' ∧ w'.pvcs = w.pvcs ∧
      ((w'.db = w.db ∧ (w.fails .deleteNetwork = true ∨ w.db.deleteNetwork n = none) ∧
          ∀ a, r ≠ .ok a) ∨
        (r = .ok () ∧ w.db.deleteNetwork n = some w'.db)) := by
  obtain ⟨hc, hp, ⟨hdb, hf | ⟨e, he⟩, hr⟩ | ⟨a, hf, rfl⟩⟩ := dbCall_spec h
  · exact ⟨hc, hp, Or.inl ⟨hdb, Or.inl hf, hr⟩⟩
  · refine ⟨hc, hp, Or.inl ⟨hdb, Or.inr ?_, hr⟩⟩
    revert he; cases w.db.deleteNetwork n <;> simp
  · refine ⟨hc, hp, Or.inr ⟨rfl, ?_⟩⟩
    revert hf; cases w.db.deleteNetwork n <;> simp

end World

variable {env : Env} {w w' : World}

/-- `getContainersInNetwork` reads the store and changes nothing; it reports the members of the
network, or none when the listing fails. -/
theorem getContainersInNetwork_spec {netw : Network} {members : List Container}
    (h : getContainersInNetwork w netw = (members, w')) :
    World.Consumed w w' ∧ w'.db = w.db ∧ w'.pvcs = w.pvcs ∧
      (members = w.db.containers.filter (fun c => netw.id ∈ c.networks) ∨
        (members = [] ∧ w.fails .listContainers = true)) := by
  unfold getContainersInNetwork at h
  rcases hl : w.dbGetContainers with ⟨l, w₁⟩
  rw [hl] at h
  obtain ⟨hc, hp, ⟨hdb, hf | ⟨e, he⟩, hr⟩ | ⟨cs, hcs, rfl⟩⟩ := World.dbCall_spec hl
  · cases l with
    | error e =>
      obtain ⟨rfl, rfl⟩ := Prod.mk.inj h
      exact ⟨hc, hdb, hp, Or.inr ⟨rfl, hf⟩⟩
    | ok a => exact absurd rfl (hr a)
  · cases he
  · obtain ⟨rfl, hdb⟩ := Prod.mk.inj (Except.ok.inj hcs)
    obtain ⟨rfl, rfl⟩ := Prod.mk.inj h
    exact ⟨hc, hdb.symm, hp, Or.inl rfl⟩

/-- When the listing does not fail, `getContainersInNetwork` reports exactly the members. -/
theorem getContainersInNetwork_members (netw : Network) (hl : w.fails .listContainers = false) :
    (getContainersInNetwork w netw).1 = w.db.containers.filter (fun c => netw.id ∈ c.networks) := by
  simp [getContainersInNetwork, World.dbGetContainers, World.dbCall, hl]

/-- `NetworkInfo` and `NetworkExists` only read the store. -/
@[simp] theorem networkInfo_world (id : String) (w : World) : (networkInfo id w).2 = w := by
  unfold networkInfo; split <;> rfl

@[simp] theorem networkExists_world (id : String) (w : World) : (networkExists id w).2 = w := by
  unfold networkExists; split <;> rfl

/-- What `NetworkCreate` can do: answer with the network stored under the requested name and
change nothing; fail, leaving the store as it was; or save a network without an ID whose name,
the requested one, the store did not hold. It never touches the platform. -/
theorem networkCreate_spec {body : Except String NetworkCreateRequest} {r : Response Network}
    (h : networkCreate env body w = (r, w')) :
    World.Consumed w w' ∧ w'.pvcs = w.pvcs ∧
      ((w'.db = w.db ∧ ∀ s n, r = .ok s n →
          w' = w ∧ ∃ req, body = .ok req ∧ w.db.getNetworkByName req.name = some n) ∨
        ∃ req n, body = .ok req ∧ n.name = req.name ∧ n.id = "" ∧
        w.db.getNetworkByName n.name = none ∧
        r = .ok statusOK (w.db.saveNetwork env.idGen n).1 ∧
        w'.db = (w.db.saveNetwork env.idGen n).2) := by
  unfold networkCreate at h
  split at h
  · obtain ⟨rfl, rfl⟩ := Prod.mk.inj h
    exact ⟨.refl _, rfl, Or.inl ⟨rfl, fun _ _ h => by cases h⟩⟩
  rename_i req
  split at h
  · rename_i n hn
    obtain ⟨rfl, rfl⟩ := Prod.mk.inj h
    exact ⟨.refl _, rfl, Or.inl ⟨rfl, fun _ _ h => by cases h; exact ⟨rfl, req, rfl, hn⟩⟩⟩
  rename_i hnone
  split at h <;> rename_i w₁ hs <;> obtain ⟨rfl, rfl⟩ := Prod.mk.inj h
  · obtain ⟨hc, hp, ⟨hdb, -⟩ | ⟨hr, -⟩⟩ := World.dbSaveNetwork_spec hs
    · exact ⟨hc, hp, Or.inl ⟨hdb, fun _ _ h => by cases h⟩⟩
    · cases hr
  · obtain ⟨hc, hp, ⟨-, hr⟩ | ⟨hr, hdb⟩⟩ := World.dbSaveNetwork_spec hs
    · exact absurd rfl (hr _)
    · exact ⟨hc, hp, Or.inr ⟨req, _, rfl, rfl, rfl, hnone, by rw [Except.ok.inj hr], hdb⟩⟩

/-- The membership scan consumes only the outcome of a container listing. -/
theorem getContainersInNetwork_fails (w : World) (netw : Network) {c : Call}
    (hc : c ≠ .listContainers) : (getContainersInNetwork w netw).2.fails c = w.fails c := by
  unfold getContainersInNetwork World.dbGetContainers World.dbCall
  split_ifs <;> exact World.fails_next w hc

/-- What `NetworkDelete` can do: nothing, tied to an unresolved key, the predefined check, the
membership scan or a failed store delete; or remove the network its key resolves to. -/
theorem networkDelete_spec {id : String} {r : Response (List Network)}
    (h : networkDelete env id w = (r, w')) :
    World.Consumed w w' ∧ w'.pvcs = w.pvcs ∧
      ((w'.db = w.db ∧ ∀ netw, w.db.getNetworkByNameOrID id = some netw →
          env.isPredefined netw = true ∨ (∃ c ∈ w.db.containers, netw.id ∈ c.networks) ∨
            w.fails .deleteNetwork = true ∨ w.db.deleteNetwork netw = none) ∨
        ∃ netw, w.db.getNetworkByNameOrID id = some netw ∧ env.isPredefined netw = false ∧
        ((∀ c ∈ w.db.containers, netw.id ∉ c.networks) ∨ w.fails .listContainers = true) ∧
        r = .ok statusOK [netw] ∧ w.db.deleteNetwork netw = some w'.db) := by
  unfold networkDelete at h
  split at h
  · rename_i hnone
    obtain ⟨-, rfl⟩ := Prod.mk.inj h
    exact ⟨.refl _, rfl, .inl ⟨rfl, fun _ h' => by rw [hnone] at h'; cases h'⟩⟩
  rename_i netw hnetw
  have hres : ∀ {P : Prop}, P → ∀ n, w.db.getNetworkByNameOrID id = some n →
      P ∧ n = netw := fun hP n hn => ⟨hP, Option.some.inj (hn.symm.trans hnetw)⟩
  split_ifs at h with hpre
  · obtain ⟨-, rfl⟩ := Prod.mk.inj h
    exact ⟨.refl _, rfl, .inl ⟨rfl, fun n hn => by
      obtain ⟨-, rfl⟩ := hres trivial n hn; exact .inl hpre⟩⟩
  rcases hm : getContainersInNetwork w netw with ⟨members, w₁⟩
  obtain ⟨hc₁, hdb₁, hp₁, hmem⟩ := getContainersInNetwork_spec hm
  have hf₁ : w₁.fails .deleteNetwork = w.fails .deleteNetwork := by
    have := getContainersInNetwork_fails w netw (c := .deleteNetwork) (by decide)
    rwa [hm] at this
  rw [hm] at h
  dsimp only at h
  split_ifs at h with hlen
  · obtain ⟨-, rfl⟩ := Prod.mk.inj h
    refine ⟨hc₁, hp₁, .inl ⟨hdb₁, fun n hn => ?_⟩⟩
    obtain ⟨-, rfl⟩ := hres trivial n hn
    rcases hmem with rfl | ⟨rfl, -⟩
    · obtain ⟨c, hc⟩ := List.exists_mem_of_length_pos (Nat.pos_of_ne_zero hlen)
      simp only [List.mem_filter, decide_eq_true_eq] at hc
      exact .inr (.inl ⟨c, hc⟩)
    · exact absurd rfl hlen
  have hfree : (∀ c ∈ w.db.containers, netw.id ∉ c.networks) ∨ w.fails .listContainers = true := by
    rcases hmem with rfl | ⟨-, hf⟩
    · simp only [ne_eq, List.length_eq_zero, not_not, List.filter_eq_nil_iff,
        decide_eq_true_eq] at hlen
      exact Or.inl hlen
    · exact Or.inr hf
  split at h <;> rename_i w₂ hd <;> obtain ⟨rfl, rfl⟩ := Prod.mk.inj h
  · obtain ⟨hc₂, hp₂, ⟨hdb₂, hf, -⟩ | ⟨hr, -⟩⟩ := World.dbDeleteNetwork_spec hd
    · refine ⟨hc₁.trans hc₂, hp₂.trans hp₁, .inl ⟨hdb₂.trans hdb₁, fun n hn => ?_⟩⟩
      obtain ⟨-, rfl⟩ := hres trivial n hn
      rw [hf₁, hdb₁] at hf
      exact .inr (.inr hf)
    · cases hr
  · obtain ⟨hc₂, hp₂, ⟨-, -, hr⟩ | ⟨-, hdel⟩⟩ := World.dbDeleteNetwork_spec hd
    · exact absurd rfl (hr ())
    · exact ⟨hc₁.trans hc₂, hp₂.trans hp₁, Or.inr ⟨netw, hnetw, by simpa using hpre, hfree, rfl,
        hdb₁ ▸ hdel⟩⟩

/-- The save that ends connect and disconnect answers 200 and saves the container the pointer
reads, or fails and leaves the store. -/
theorem saveContainerAt_spec {i : Nat} {r : Response Unit} (h : saveContainerAt env i w = (r, w')) :
    World.Consumed w w' ∧ w'.pvcs = w.pvcs ∧
      (r = .ok statusOK () ∧ w'.db = (w.db.saveContainer env.idGen (w.db.containerAt i)).2 ∨
        (∃ e, r = .error statusInternalServerError e) ∧ w'.db = w.db) := by
  unfold saveContainerAt at h
  rcases hs : w.dbSaveContainer env (w.db.containerAt i) with ⟨_ | _, w₁⟩ <;> rw [hs] at h <;>
    obtain ⟨rfl, rfl⟩ := Prod.mk.inj h <;>
    obtain ⟨hc, hp, ⟨hdb, hr⟩ | ⟨hr, hdb⟩⟩ := World.dbSaveContainer_spec hs
  · exact ⟨hc, hp, .inr ⟨⟨_, rfl⟩, hdb⟩⟩
  · cases hr
  · exact absurd rfl (hr _)
  · exact ⟨hc, hp, .inl ⟨rfl, hdb⟩⟩

/-- In a keyed table, the save of a stored container changes no table, whether it fails or not. -/
theorem saveContainerAt_db {i : Nat} (hk : Keyed w.db.containers) (hi : i < w.db.containers.length) :
    (saveContainerAt env i w).2.db = w.db := by
  rcases h : saveContainerAt env i w with ⟨r, w'⟩
  obtain ⟨-, -, ⟨-, hdb⟩ | ⟨-, hdb⟩⟩ := saveContainerAt_spec h
  · rw [hdb, DB.saveContainer_containerAt hk hi]
  · exact hdb

/-- A save that does not fail, of what a pointer into a keyed table reads, changes no table. -/
theorem saveContainerAt_of_not_fails {i : Nat} (hk : Keyed w.db.containers)
    (hi : i < w.db.containers.length) (hc : w.fails .saveContainer = false) :
    saveContainerAt env i w = (.ok statusOK (), w.next .saveContainer) := by
  rw [saveContainerAt, World.dbSaveContainer_of_not_fails env hc, DB.saveContainer_containerAt hk hi]
  rfl

/-- Connect and disconnect end with a write through the pointer `i` and the save of what it
wrote. -/
theorem saveContainerAt_modify {i : Nat} {f : Container → Container} {r : Response Unit}
    (hi : i < w.db.containers.length)
    (h : saveContainerAt env i { w with db := w.db.modifyContainer i f } = (r, w')) :
    World.Consumed w w' ∧ w'.pvcs = w.pvcs ∧
      (r = .ok statusOK () ∧ w'.db =
          ((w.db.modifyContainer i f).saveContainer env.idGen (f (w.db.containerAt i))).2 ∨
        (∃ e, r = .error statusInternalServerError e) ∧ w'.db = w.db.modifyContainer i f) := by
  obtain ⟨hc, hp, hr⟩ := saveContainerAt_spec h
  rw [show (w.db.modifyContainer i f).containerAt i = f (w.db.containerAt i) from
    DB.containerAt_modifyContainer hi] at hr
  exact ⟨hc, hp, hr⟩

/-- What `NetworkConnect` can do: nothing, when the network or the container does not resolve;
or connect the container in place, merge the aliases into it, and save it. -/
theorem networkConnect_spec {id : String} {body : Except String NetworkConnectRequest}
    {r : Response Unit} (h : networkConnect env id body w = (r, w')) :
    (w' = w ∧ ∀ req, body = .ok req →
        w.db.getNetworkByNameOrID id = none ∨ w.db.containerRef req.container = none) ∨
      ∃ req netw i, body = .ok req ∧ w.db.getNetworkByNameOrID id = some netw ∧
        w.db.containerRef req.container = some i ∧
        saveContainerAt env i { w with
          db := w.db.modifyContainer i (connectedContainer env.toLower · netw req.aliases) } =
          (r, w') := by
  unfold networkConnect at h
  split at h
  · obtain ⟨-, rfl⟩ := Prod.mk.inj h
    exact .inl ⟨rfl, nofun⟩
  rename_i req
  split at h
  · obtain ⟨-, rfl⟩ := Prod.mk.inj h
    exact .inl ⟨rfl, fun _ h' => by cases h'; exact .inl ‹_›⟩
  rename_i netw hnetw
  split at h
  · obtain ⟨-, rfl⟩ := Prod.mk.inj h
    exact .inl ⟨rfl, fun _ h' => by cases h'; exact .inr ‹_›⟩
  rename_i i hi
  rw [connectWrites_eq] at h
  exact .inr ⟨req, netw, i, rfl, hnetw, hi, h⟩

/-- What `NetworkDisconnect` can do: nothing; or, for a network that is not predefined and that
the container is a member of, disconnect the container in place and save it. -/
theorem networkDisconnect_spec {id : String} {body : Except String NetworkDisconnectRequest}
    {r : Response Unit} (h : networkDisconnect env id body w = (r, w')) :
    w' = w ∨ ∃ req netw i tainr, body = .ok req ∧ w.db.getNetworkByNameOrID id = some netw ∧
      w.db.containerRef req.container = some i ∧ env.isPredefined netw = false ∧
      (w.db.containerAt i).disconnectNetwork netw.id = .ok tainr ∧
      saveContainerAt env i { w with db := w.db.modifyContainer i fun _ => tainr } = (r, w') := by
  unfold networkDisconnect at h
  split at h
  · exact .inl (Prod.mk.inj h).2.symm
  rename_i req
  split at h
  · exact .inl (Prod.mk.inj h).2.symm
  rename_i netw hnetw
  split at h
  · exact .inl (Prod.mk.inj h).2.symm
  rename_i i hi
  split_ifs at h with hpre
  · exact .inl (Prod.mk.inj h).2.symm
  split at h
  · exact .inl (Prod.mk.inj h).2.symm
  rename_i tainr hdis
  exact .inr ⟨req, netw, i, tainr, rfl, hnetw, hi, by simpa using hpre, hdis, h⟩

/-- One turn of the prune loop: it skips a predefined network or one with a member, fails on the
store delete, or deletes the network and goes on. -/
theorem pruneNetworks_cons (pruned : List Network) (netw : Network) (netws : List Network)
    (w : World) :
    ∃ w₁, World.Consumed w w₁ ∧ w₁.pvcs = w.pvcs ∧
      (pruneNetworks env pruned (netw :: netws) w = pruneNetworks env pruned netws w₁ ∧
          w₁.db = w.db ∧ (env.isPredefined netw = true ∨
            ((∀ b ∈ w.faults .listContainers, b = false) →
              ∃ c ∈ w.db.containers, netw.id ∈ c.networks)) ∨
        env.isPredefined netw = false ∧ ((∀ b ∈ w.faults .listContainers, b = false) →
          ∀ c ∈ w.db.containers, netw.id ∉ c.networks) ∧
          ((∃ e, pruneNetworks env pruned (netw :: netws) w = (.error statusNotFound e, w₁) ∧
              w₁.db = w.db ∧ ((∀ b ∈ w.faults .deleteNetwork, b = false) →
                netw.id ∉ w.db.networks.map Network.id)) ∨
            pruneNetworks env pruned (netw :: netws) w = pruneNetworks env (pruned ++ [netw]) netws w₁ ∧
              w₁.db = { w.db with networks := w.db.networks.filter (fun m => m.id ≠ netw.id) })) := by
  by_cases hpre : env.isPredefined netw
  · exact ⟨w, .refl _, rfl, .inl ⟨by simp only [pruneNetworks, hpre, if_true], rfl, .inl hpre⟩⟩
  have hpre' : env.isPredefined netw = false := by simpa using hpre
  rcases hm : getContainersInNetwork w netw with ⟨members, w₁⟩
  obtain ⟨hc₁, hdb₁, hp₁, hmem⟩ := getContainersInNetwork_spec hm
  have hmembers : (∀ b ∈ w.faults .listContainers, b = false) →
      members = w.db.containers.filter (fun c => netw.id ∈ c.networks) := fun hl =>
    hmem.resolve_right fun h => by simp [World.fails_eq_false_of_reliable hl] at h
  by_cases hlen : members.length ≠ 0
  · refine ⟨w₁, hc₁, hp₁, .inl ⟨?_, hdb₁, .inr fun hl => ?_⟩⟩
    · simp only [pruneNetworks, hpre', hm, Bool.false_eq_true, if_false]
      exact if_pos hlen
    · rw [hmembers hl] at hlen
      obtain ⟨c, hc⟩ := List.exists_mem_of_length_pos (Nat.pos_of_ne_zero hlen)
      exact ⟨c, by simpa using hc⟩
  have hfree : (∀ b ∈ w.faults .listContainers, b = false) →
      ∀ c ∈ w.db.containers, netw.id ∉ c.networks := fun hl c hc hcn => by
    rw [hmembers hl] at hlen
    simp only [ne_eq, not_not, List.length_eq_zero, List.filter_eq_nil_iff,
      decide_eq_true_eq] at hlen
    exact hlen c hc hcn
  rcases hd : w₁.dbDeleteNetwork netw with ⟨r, w₂⟩
  have hrun : pruneNetworks env pruned (netw :: netws) w = match (r, w₂) with
      | (.error e, w) => (.error statusNotFound e, w)
      | (.ok (), w) => pruneNetworks env (pruned ++ [netw]) netws w := by
    simp only [pruneNetworks, hpre', hm, hlen, hd, Bool.false_eq_true, if_false]
  obtain ⟨hc₂, hp₂, ⟨hdb₂, hf, hr⟩ | ⟨rfl, hdel⟩⟩ := World.dbDeleteNetwork_spec hd
  · cases r with
    | ok a => exact absurd rfl (hr a)
    | error e =>
      refine ⟨w₂, hc₁.trans hc₂, hp₂.trans hp₁, .inr ⟨hpre', hfree,
        .inl ⟨e, hrun, hdb₂.trans hdb₁, fun hdl hn => ?_⟩⟩⟩
      rw [World.fails_eq_false_of_reliable (hc₁.reliable hdl), hdb₁] at hf
      exact hf.elim Bool.false_ne_true (DB.deleteNetwork_ne_none hn)
  · refine ⟨w₂, hc₁.trans hc₂, hp₂.trans hp₁, .inr ⟨hpre', hfree, .inr ⟨hrun, ?_⟩⟩⟩
    rw [DB.deleteNetwork_some hdel, hdb₁]

/-- The prune loop removes some given networks, none predefined or, when scans succeed, with a
member; with no call failing it removes every other one. -/
theorem pruneNetworks_spec (pruned netws : List Network) (w : World) :
    World.Consumed w (pruneNetworks env pruned netws w).2 ∧
      (pruneNetworks env pruned netws w).2.pvcs = w.pvcs ∧
      ∃ removed : List Network, removed.Sublist netws ∧
        (pruneNetworks env pruned netws w).2.db =
          { w.db with networks := w.db.networks.filter (fun m => m.id ∉ removed.map Network.id) } ∧
        (∀ n ∈ removed, env.isPredefined n = false) ∧
        ((∀ b ∈ w.faults .listContainers, b = false) →
          ∀ n ∈ removed, ∀ c ∈ w.db.containers, n.id ∉ c.networks) ∧
        ((pruneNetworks env pruned netws w).1 = .ok statusOK (pruned ++ removed) ∨
          ∃ e, (pruneNetworks env pruned netws w).1 = .error statusNotFound e) ∧
        ((∀ b ∈ w.faults .listContainers, b = false) → (∀ b ∈ w.faults .deleteNetwork, b = false) →
          (netws.map Network.id).Nodup → (∀ n ∈ netws, n ∈ w.db.networks) →
          (pruneNetworks env pruned netws w).1 = .ok statusOK (pruned ++ removed) ∧
          ∀ n ∈ netws, env.isPredefined n = false → (∀ c ∈ w.db.containers, n.id ∉ c.networks) →
            n ∈ removed) := by
  induction netws generalizing pruned w with
  | nil =>
    refine ⟨.refl _, rfl, [], List.Sublist.slnil, ?_, by simp, by simp,
      Or.inl (by simp [pruneNetworks]), fun _ _ _ _ => ⟨by simp [pruneNetworks], by simp⟩⟩
    simp only [pruneNetworks, List.map_nil, List.not_mem_nil, not_false_eq_true, decide_True,
      List.filter_true]
  | cons netw netws ih =>
    obtain ⟨w₁, hc₁, hp₁, ⟨heq, hdb₁, hskip⟩ | ⟨hnp₁, hfree₁, ⟨e, heq, hdb₁, hfail⟩ | ⟨heq, hdb₁⟩⟩⟩ :=
      pruneNetworks_cons pruned netw netws w
    · obtain ⟨hc, hp, removed, hsub, hdb, hnp, hfree, hres, hrel⟩ := ih pruned w₁
      rw [hdb₁] at hdb hfree
      rw [heq]
      refine ⟨hc₁.trans hc, hp.trans hp₁, removed, hsub.cons _, hdb, hnp,
        fun hl => hfree (hc₁.reliable hl), hres, fun hl hd hnd hin => ?_⟩
      have hrel' := hrel (hc₁.reliable hl) (hc₁.reliable hd) (List.nodup_cons.mp hnd).2
        fun n hn => hdb₁ ▸ hin n (List.mem_cons_of_mem _ hn)
      refine ⟨hrel'.1, fun n hn hnp' hno => ?_⟩
      rcases List.mem_cons.mp hn with rfl | hn
      · rcases hskip with hpre | hmem
        · exact Bool.noConfusion (hpre.symm.trans hnp')
        · obtain ⟨c, hc, hcn⟩ := hmem hl
          exact absurd hcn (hno c hc)
      · exact hrel'.2 n hn hnp' (hdb₁ ▸ hno)
    · rw [heq]
      refine ⟨hc₁, hp₁, [], List.nil_sublist _, ?_, by simp, by simp, Or.inr ⟨e, rfl⟩,
        fun _ hd _ hin => absurd (List.mem_map_of_mem _ (hin netw (List.mem_cons_self _ _)))
          (hfail hd)⟩
      simp only [hdb₁, List.map_nil, List.not_mem_nil, not_false_eq_true, decide_True,
        List.filter_true]
    · obtain ⟨hc, hp, removed, hsub, hdb, hnp, hfree, hres, hrel⟩ := ih (pruned ++ [netw]) w₁
      rw [heq]
      refine ⟨hc₁.trans hc, hp.trans hp₁, netw :: removed, hsub.cons₂ _, ?_, ?_, ?_, ?_,
        fun hl hdl hnd hin => ?_⟩
      · rw [hdb, hdb₁]
        simp only [List.filter_filter, List.map_cons, List.mem_cons, not_or]
        congr 2
        funext m
        rw [Bool.and_comm, Bool.decide_and]
      · exact fun n hn => (List.mem_cons.mp hn).elim (fun h => h ▸ hnp₁) (hnp n)
      · intro hl n hn
        rcases List.mem_cons.mp hn with rfl | hn
        · exact hfree₁ hl
        · have := hfree (hc₁.reliable hl) n hn
          rwa [hdb₁] at this
      · exact hres.imp_left fun h => by simpa using h
      · have hnd' := List.nodup_cons.mp hnd
        have hrel' := hrel (hc₁.reliable hl) (hc₁.reliable hdl) hnd'.2 fun n hn => by
          rw [hdb₁]
          refine List.mem_filter.mpr ⟨hin n (List.mem_cons_of_mem _ hn), ?_⟩
          have : n.id ≠ netw.id := fun he => hnd'.1 (he ▸ List.mem_map_of_mem _ hn)
          simpa using this
        refine ⟨by simpa using hrel'.1, fun n hn hnp' hno => ?_⟩
        rcases List.mem_cons.mp hn with rfl | hn
        · exact List.mem_cons_self _ _
        · exact List.mem_cons_of_mem _ (hrel'.2 n hn hnp' (by rwa [hdb₁]))

/-- What `NetworkPrune` can do: remove stored networks that are not predefined and, when scans
succeed, have no member; with no call failing, every such network. -/
theorem networkPrune_spec {r : Response (List Network)} (h : networkPrune env w = (r, w')) :
    World.Consumed w w' ∧ w'.pvcs = w.pvcs ∧
      ∃ removed : List Network, removed.Sublist w.db.networks ∧
        w'.db = { w.db with
          networks := w.db.networks.filter (fun m => m.id ∉ removed.map Network.id) } ∧
        (∀ n ∈ removed, env.isPredefined n = false) ∧
        ((∀ b ∈ w.faults .listContainers, b = false) →
          ∀ n ∈ removed, ∀ c ∈ w.db.containers, n.id ∉ c.networks) ∧
        ((∀ b ∈ w.faults .listNetworks, b = false) → (∀ b ∈ w.faults .listContainers, b = false) →
          (∀ b ∈ w.faults .deleteNetwork, b = false) → (w.db.networks.map Network.id).Nodup →
          r = .ok statusOK removed ∧ ∀ n ∈ w.db.networks, env.isPredefined n = false →
            (∀ c ∈ w.db.containers, n.id ∉ c.networks) → n ∈ removed) := by
  unfold networkPrune at h
  rcases hl : w.dbGetNetworks with ⟨l, w₁⟩
  rw [hl] at h
  obtain ⟨hc₁, hp₁, ⟨hdb₁, hf, hr⟩ | ⟨netws, hnetws, rfl⟩⟩ := World.dbCall_spec hl
  · cases l with
    | error e =>
      obtain ⟨-, rfl⟩ := Prod.mk.inj h
      refine ⟨hc₁, hp₁, [], List.nil_sublist _, ?_, by simp, by simp, fun hn => ?_⟩
      · simp only [hdb₁, List.map_nil, List.not_mem_nil, not_false_eq_true, decide_True,
          List.filter_true]
      · rcases hf with hf | ⟨e, he⟩
        · rw [World.fails_eq_false_of_reliable hn] at hf
          cases hf
        · cases he
    | ok a => exact absurd rfl (hr a)
  · obtain ⟨rfl, hdb₁⟩ := Prod.mk.inj (Except.ok.inj hnetws)
    dsimp only at h
    have hspec := @pruneNetworks_spec env [] w.db.networks w₁
    rw [h] at hspec
    obtain ⟨hc₂, hp₂, removed, hsub, hdb₂, hnp, hfree, -, hrel⟩ := hspec
    refine ⟨hc₁.trans hc₂, hp₂.trans hp₁, removed, hsub, by rw [hdb₂, ← hdb₁], hnp,
      fun hl' => hdb₁ ▸ hfree (hc₁.reliable hl'), fun _ hl' hd hnd => ?_⟩
    have := hrel (hc₁.reliable hl') (hc₁.reliable hd) hnd fun n hn => hdb₁ ▸ hn
    rw [List.nil_append, ← hdb₁] at this
    exact this

end Kubedock
