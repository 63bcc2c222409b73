import Kubedock.Thread

/-! The handlers that race, as threads of their calls in the order the sources make them, and
each thread's phases. `NetworkConnect` writes the stored container through its pointer at
`ConnectNetwork` and at each alias append, and `NetworkDisconnect` at `DisconnectNetwork`, each
an atomic step of its own before the save. A thread run alone is its handler, and a thread's
phases, with the phase change of each call, describe it (`Refines`). -/

namespace Kubedock

variable (env : Env)

/-- The volume `VolumeCreate` asks the platform for. -/
def VolumeCreateRequest.toVolume (req : VolumeCreateRequest) : Volume where
  name := req.name
  driver := if req.driver = "" then "local" else req.driver
  labels := req.labels

/-- The save that ends `VolumeCreate`. -/
def volumeSaveThread (vol : Volume) : Thread (Response Volume) :=
  .call (fun w => w.dbSaveVolume env vol) fun
    | .ok vol => .done (.ok statusCreated vol)
    | .error e => .done (.error statusInternalServerError e)

/-- `VolumeCreate` once the name was found free: the platform call, then the save. -/
def volumeClaimThread (vol : Volume) : Thread (Response Volume) :=
  .call (fun w => w.backendCreateVolume env vol) fun
    | .ok vol => volumeSaveThread env vol
    | .error e => .done (.error statusInternalServerError e)

/-- `VolumeCreate` of a decoded body. -/
def volumeCreateThread (req : VolumeCreateRequest) : Thread (Response Volume) :=
  .read (fun db => db.getVolumeByName req.name) fun
    | some existing => .done (.ok statusCreated existing)
    | none => volumeClaimThread env req.toVolume

/-- The save that ends `NetworkCreate`. -/
def networkSaveThread (netw : Network) : Thread (Response Network) :=
  .call (fun w => w.dbSaveNetwork env netw) fun
    | .ok netw => .done (.ok statusOK netw)
    | .error e => .done (.error statusInternalServerError e)

/-- `NetworkCreate` of a decoded body. -/
def networkCreateThread (req : NetworkCreateRequest) : Thread (Response Network) :=
  .read (fun db => db.getNetworkByName req.name) fun
    | some existing => .done (.ok statusOK existing)
    | none => networkSaveThread env { name := req.name, labels := req.labels }

/-- The save that ends `NetworkConnect` and `NetworkDisconnect`: `SaveContainer` of the container
the pointer `i` reads. -/
def containerSaveThread (i : Nat) : Thread (Response Unit) :=
  .call (fun w => w.dbSaveContainer env (w.db.containerAt i)) fun
    | .ok _ => .done (.ok statusOK ())
    | .error e => .done (.error statusInternalServerError e)

/-- The alias loop of `NetworkConnect` through the pointer `i`, an append per step, then the
save. -/
def appendAliasesThread (i : Nat) : List String → List String → Thread (Response Unit)
  | _, [] => containerSaveThread env i
  | done, a :: as =>
    let lowerAlias := env.toLower a
    if lowerAlias ∈ done then appendAliasesThread i done as
    else .write (·.appendAlias i lowerAlias) (appendAliasesThread i (done ++ [lowerAlias]) as)

/-- `NetworkConnect` after `ConnectNetwork`: the read of the container's aliases into `done`, the
alias loop and the save. -/
def connectedThread (i : Nat) (req : NetworkConnectRequest) : Thread (Response Unit) :=
  .read (fun db => (db.containerAt i).networkAliases) fun done =>
    appendAliasesThread env i done req.aliases

/-- `NetworkConnect` from `ConnectNetwork` through the pointer `i` on. -/
def joinThread (netw : Network) (i : Nat) (req : NetworkConnectRequest) : Thread (Response Unit) :=
  .write (·.modifyContainer i (·.connectNetwork netw.id)) (connectedThread env i req)

/-- `NetworkConnect` once the network resolved: the container lookup, then the rest. -/
def connectToThread (netw : Network) (req : NetworkConnectRequest) : Thread (Response Unit) :=
  .read (fun db => db.containerRef req.container) fun
    | none => .done (.error statusNotFound notFoundError)
    | some i => joinThread env netw i req

/-- `NetworkConnect` of a decoded body. -/
def networkConnectThread (id : String) (req : NetworkConnectRequest) : Thread (Response Unit) :=
  .read (fun db => db.getNetworkByNameOrID id) fun
    | none => .done (.error statusNotFound notFoundError)
    | some netw => connectToThread env netw req

/-- `tainr.DisconnectNetwork` through the pointer `i`, which fails when the stored container is
not a member, then the save. -/
def leaveThread (netw : Network) (i : Nat) : Thread (Response Unit) :=
  .call (fun w => (match (w.db.containerAt i).disconnectNetwork netw.id with
      | .error e => (.error e, w)
      | .ok tainr => (.ok (), { w with db := w.db.modifyContainer i fun _ => tainr }) :
        Except String Unit × World)) fun
    | .error e => .done (.error statusNotFound e)
    | .ok () => containerSaveThread env i

/-- `NetworkDisconnect` once the network resolved: the container lookup, the check, then the
rest. -/
def disconnectFromThread (netw : Network) (req : NetworkDisconnectRequest) :
    Thread (Response Unit) :=
  .read (fun db => db.containerRef req.container) fun
    | none => .done (.error statusNotFound notFoundError)
    | some i =>
      if env.isPredefined netw then
        .done (.error statusInternalServerError "cannot disconnect from predefined network")
      else leaveThread env netw i

/-- `NetworkDisconnect` of a decoded body. -/
def networkDisconnectThread (id : String) (req : NetworkDisconnectRequest) :
    Thread (Response Unit) :=
  .read (fun db => db.getNetworkByNameOrID id) fun
    | none => .done (.error statusNotFound notFoundError)
    | some netw => disconnectFromThread env netw req

/-- The delete that ends `NetworkDelete`. -/
def networkDropThread (netw : Network) : Thread (Response (List Network)) :=
  .call (fun w => w.dbDeleteNetwork netw) fun
    | .ok () => .done (.ok statusOK [netw])
    | .error e => .done (.error statusNotFound e)

/-- `NetworkDelete` once the network resolved and is not predefined: the membership scan, then
the delete. -/
def networkScanThread (netw : Network) : Thread (Response (List Network)) :=
  .call (fun w => getContainersInNetwork w netw) fun members =>
    if members.length ≠ 0 then
      .done (.error statusConflict "cannot delete network, containers attached")
    else networkDropThread netw

/-- `NetworkDelete`. -/
def networkDeleteThread (id : String) : Thread (Response (List Network)) :=
  .read (fun db => db.getNetworkByNameOrID id) fun
    | none => .done (.error statusNotFound notFoundError)
    | some netw =>
      if env.isPredefined netw then
        .done (.error statusForbidden (netw.name ++ " is a pre-defined network and cannot be removed"))
      else networkScanThread netw

/-- The delete in the loop of `NetworkPrune`, after which the loop goes on as `rest` of the
networks pruned. -/
def pruneDropThread (netw : Network) (rest : List Network → Thread (Response (List Network)))
    (pruned : List Network) : Thread (Response (List Network)) :=
  .call (fun w => w.dbDeleteNetwork netw) fun
    | .error e => .done (.error statusNotFound e)
    | .ok () => rest (pruned ++ [netw])

/-- The loop of `NetworkPrune`. -/
def pruneNetworksThread (pruned : List Network) : List Network → Thread (Response (List Network))
  | [] => .done (.ok statusOK pruned)
  | netw :: netws =>
    if env.isPredefined netw then pruneNetworksThread pruned netws
    else .call (fun w => getContainersInNetwork w netw) fun members =>
      if members.length ≠ 0 then pruneNetworksThread pruned netws
      else pruneDropThread netw (fun pruned => pruneNetworksThread pruned netws) pruned

/-- `NetworkPrune`. -/
def networkPruneThread : Thread (Response (List Network)) :=
  .call (fun w => w.dbGetNetworks) fun
    | .error e => .done (.error statusInternalServerError e)
    | .ok netws => pruneNetworksThread env [] netws

/-- The store delete that ends `VolumeDelete`. -/
def volumeDropThread (vol : Volume) : Thread (Response Unit) :=
  .call (fun w => w.dbDeleteVolume vol) fun
    | .error e => .done (.error statusNotFound e)
    | .ok () => .done (.ok statusNoContent ())

/-- `VolumeDelete` once the key resolved: the claim's delete, whose failure is only logged, then
the store delete. -/
def volumeUnclaimThread (vol : Volume) : Thread (Response Unit) :=
  .call (fun w => w.backendDeleteVolume env vol) fun _ => volumeDropThread vol

/-- `VolumeDelete`. -/
def volumeDeleteThread (id : String) : Thread (Response Unit) :=
  .read (fun db => db.getVolumeByNameOrID id) fun
    | none => .done (.error statusNotFound notFoundError)
    | some vol => volumeUnclaimThread env vol

/-- The store delete in the loop of the volume prunes, after which the loop goes on as `rest` of
the reports so far; a volume whose store delete fails is not reported. -/
def pruneVolumeDropThread {β : Type} (report : Volume → β) (vol : Volume)
    (rest : List β → Thread (Response (List β))) (acc : List β) : Thread (Response (List β)) :=
  .call (fun w => w.dbDeleteVolume vol) fun
    | .error _ => rest acc
    | .ok () => rest (acc ++ [report vol])

/-- The loop of docker `VolumesPrune` and libpod `VolumePrune`: for each listed volume the
claim's delete, then the store delete. -/
def pruneVolumesThread {β : Type} (report : Volume → β) (acc : List β) :
    List Volume → Thread (Response (List β))
  | [] => .done (.ok statusOK acc)
  | vol :: vols =>
    .call (fun w => w.backendDeleteVolume env vol) fun _ =>
      pruneVolumeDropThread report vol (fun acc => pruneVolumesThread report acc vols) acc

/-- docker `VolumesPrune` and libpod `VolumePrune`, reporting each pruned volume by `report`. -/
def volumesPruneThread {β : Type} (report : Volume → β) : Thread (Response (List β)) :=
  .call (fun w => w.dbGetVolumes) fun
    | .error e => .done (.error statusInternalServerError e)
    | .ok vols => pruneVolumesThread env report [] vols

variable {env}

theorem volumeCreateThread_run (req : VolumeCreateRequest) (w : World) :
    (volumeCreateThread env req).run w = volumeCreate env (.ok req) w := by
  simp only [volumeCreateThread, volumeCreate, Thread.run_read]
  cases w.db.getVolumeByName req.name with
  | some existing => rfl
  | none =>
    simp only [volumeClaimThread, Thread.run_call, VolumeCreateRequest.toVolume]
    rcases w.backendCreateVolume env _ with ⟨_ | vol, w₁⟩
    · rfl
    · simp only [volumeSaveThread, Thread.run_call]
      rcases w₁.dbSaveVolume env vol with ⟨_ | _, _⟩ <;> rfl

theorem networkCreateThread_run (req : NetworkCreateRequest) (w : World) :
    (networkCreateThread env req).run w = networkCreate env (.ok req) w := by
  simp only [networkCreateThread, networkCreate, Thread.run_read]
  cases w.db.getNetworkByName req.name with
  | some existing => rfl
  | none =>
    simp only [networkSaveThread, Thread.run_call]
    rcases w.dbSaveNetwork env _ with ⟨_ | _, _⟩ <;> rfl

theorem containerSaveThread_run (i : Nat) (w : World) :
    (containerSaveThread env i).run w = saveContainerAt env i w := by
  simp only [containerSaveThread, saveContainerAt, Thread.run_call]
  rcases w.dbSaveContainer env (w.db.containerAt i) with ⟨_ | _, _⟩ <;> rfl

theorem appendAliasesThread_run (i : Nat) :
    ∀ (done aliases : List String) (w : World), (appendAliasesThread env i done aliases).run w =
      saveContainerAt env i { w with db := appendAliases env.toLower i done aliases w.db }
  | _, [], w => containerSaveThread_run i w
  | done, a :: as, w => by
    simp only [appendAliasesThread, appendAliases]
    split_ifs
    · exact appendAliasesThread_run i done as w
    · exact appendAliasesThread_run i _ as _

theorem networkConnectThread_run (id : String) (req : NetworkConnectRequest) (w : World) :
    (networkConnectThread env id req).run w = networkConnect env id (.ok req) w := by
  simp only [networkConnectThread, connectToThread, networkConnect, Thread.run_read]
  cases w.db.getNetworkByNameOrID id with
  | none => rfl
  | some netw =>
    simp only [Thread.run_read]
    cases w.db.containerRef req.container with
    | none => rfl
    | some i => exact appendAliasesThread_run i _ _ _

theorem networkDisconnectThread_run (id : String) (req : NetworkDisconnectRequest) (w : World) :
    (networkDisconnectThread env id req).run w = networkDisconnect env id (.ok req) w := by
  simp only [networkDisconnectThread, disconnectFromThread, networkDisconnect, Thread.run_read]
  cases w.db.getNetworkByNameOrID id with
  | none => rfl
  | some netw =>
    simp only [Thread.run_read]
    cases w.db.containerRef req.container with
    | none => rfl
    | some i =>
      dsimp only
      split_ifs
      · rfl
      · simp only [leaveThread, Thread.run_call]
        cases (w.db.containerAt i).disconnectNetwork netw.id with
        | error e => rfl
        | ok tainr => exact containerSaveThread_run i _

/-- The membership scan and what follows it, run alone. -/
theorem networkScanThread_run (netw : Network) (w : World) :
    (networkScanThread netw).run w =
      if (getContainersInNetwork w netw).1.length ≠ 0 then
        (.error statusConflict "cannot delete network, containers attached",
          (getContainersInNetwork w netw).2)
      else match (getContainersInNetwork w netw).2.dbDeleteNetwork netw with
        | (.error e, w) => (.error statusNotFound e, w)
        | (.ok (), w) => (.ok statusOK [netw], w) := by
  simp only [networkScanThread, Thread.run_call]
  rcases getContainersInNetwork w netw with ⟨members, w₁⟩
  dsimp only
  split_ifs
  · rfl
  · simp only [networkDropThread, Thread.run_call]
    rcases w₁.dbDeleteNetwork netw with ⟨_ | _, _⟩ <;> rfl

theorem networkDeleteThread_run (id : String) (w : World) :
    (networkDeleteThread env id).run w = networkDelete env id w := by
  simp only [networkDeleteThread, networkDelete, Thread.run_read]
  cases w.db.getNetworkByNameOrID id with
  | none => rfl
  | some netw =>
    by_cases hp : env.isPredefined netw = true
    · simp only [if_pos hp]; rfl
    · simp only [if_neg hp]; exact networkScanThread_run netw w

theorem pruneNetworksThread_run (pruned netws : List Network) (w : World) :
    (pruneNetworksThread env pruned netws).run w = pruneNetworks env pruned netws w := by
  induction netws generalizing pruned w with
  | nil => rfl
  | cons netw netws ih =>
    by_cases hp : env.isPredefined netw = true
    · simp only [pruneNetworksThread, pruneNetworks, if_pos hp, ih]
    · simp only [pruneNetworksThread, pruneNetworks, if_neg hp, Thread.run_call]
      rcases getContainersInNetwork w netw with ⟨members, w₁⟩
      dsimp only
      split_ifs
      · exact ih pruned w₁
      · simp only [pruneDropThread, Thread.run_call]
        rcases w₁.dbDeleteNetwork netw with ⟨_ | _, w₂⟩
        · rfl
        · exact ih _ w₂

theorem networkPruneThread_run (w : World) :
    (networkPruneThread env).run w = networkPrune env w := by
  simp only [networkPruneThread, networkPrune, Thread.run_call]
  rcases w.dbGetNetworks with ⟨_ | netws, w₁⟩
  · rfl
  · exact pruneNetworksThread_run [] netws w₁

theorem volumeDeleteThread_run (id : String) (w : World) :
    (volumeDeleteThread env id).run w = volumeDelete env id w := by
  simp only [volumeDeleteThread, volumeDelete, Thread.run_read]
  cases w.db.getVolumeByNameOrID id with
  | none => rfl
  | some vol =>
    simp only [volumeUnclaimThread, volumeDropThread, Thread.run_call]
    rcases (w.backendDeleteVolume env vol).2.dbDeleteVolume vol with ⟨_ | _, _⟩ <;> rfl

theorem pruneVolumesThread_run {β : Type} (report : Volume → β) (acc : List β) (vols : List Volume)
    (w : World) : (pruneVolumesThread env report acc vols).run w =
      (.ok statusOK (pruneVolumes env report acc vols w).1, (pruneVolumes env report acc vols w).2) := by
  induction vols generalizing acc w with
  | nil => rfl
  | cons vol vols ih =>
    simp only [pruneVolumesThread, pruneVolumeDropThread, pruneVolumes, Thread.run_call]
    rcases (w.backendDeleteVolume env vol).2.dbDeleteVolume vol with ⟨_ | _, w₂⟩
    · exact ih acc w₂
    · exact ih _ w₂

theorem volumesPruneThread_run {β : Type} (report : Volume → β) (w : World) :
    (volumesPruneThread env report).run w = volumesPruneWith env report w := by
  simp only [volumesPruneThread, volumesPruneWith, Thread.run_call]
  rcases w.dbGetVolumes with ⟨_ | vols, w₁⟩
  · rfl
  · exact pruneVolumesThread_run report [] vols w₁

/-- Run alone, the thread of every handler that races is the handler on its decoded body: the
same reply and the same world. -/
theorem threads_run_alone_are_handlers (env : Env) (w : World) :
    (∀ req, (volumeCreateThread env req).run w = volumeCreate env (.ok req) w) ∧
      (∀ req, (networkCreateThread env req).run w = networkCreate env (.ok req) w) ∧
      (∀ id req, (networkConnectThread env id req).run w = networkConnect env id (.ok req) w) ∧
      (∀ id req,
        (networkDisconnectThread env id req).run w = networkDisconnect env id (.ok req) w) ∧
      (∀ id, (networkDeleteThread env id).run w = networkDelete env id w) ∧
      (networkPruneThread env).run w = networkPrune env w :=
  ⟨fun req => volumeCreateThread_run req w, fun req => networkCreateThread_run req w,
    fun id req => networkConnectThread_run id req w,
    fun id req => networkDisconnectThread_run id req w, fun id => networkDeleteThread_run id w,
    networkPruneThread_run w⟩

/-- Run alone, the thread of `VolumeDelete` and the thread of the volume prunes are the handlers:
the same reply and the same world. -/
theorem volume_removers_run_alone_are_handlers (env : Env) (w : World) :
    (∀ id, (volumeDeleteThread env id).run w = volumeDelete env id w) ∧
      ∀ {β : Type} (report : Volume → β),
        (volumesPruneThread env report).run w = volumesPruneWith env report w :=
  ⟨fun id => volumeDeleteThread_run id w, fun report => volumesPruneThread_run report w⟩

/-- Where a `VolumeCreate` thread stands: before its lookup, before its platform call, before
its save, or replied. -/
inductive VolumeCreatePhase where
  | lookup
  | claim
  | save (vol : Volume)
  | reply (r : Response Volume)

namespace VolumeCreatePhase

variable (env : Env) (req : VolumeCreateRequest)

/-- The rest of `VolumeCreate` from each phase. -/
def thread : VolumeCreatePhase → Thread (Response Volume)
  | lookup => volumeCreateThread env req
  | claim => volumeClaimThread env req.toVolume
  | save vol => volumeSaveThread env vol
  | reply r => .done r

/-- The phase each call of `VolumeCreate` leads to, and the world after it. -/
def advance : VolumeCreatePhase → World → VolumeCreatePhase × World
  | lookup, w =>
    (match w.db.getVolumeByName req.name with
      | some existing => reply (.ok statusCreated existing)
      | none => claim, w)
  | claim, w =>
    match w.backendCreateVolume env req.toVolume with
    | (.ok vol, w) => (save vol, w)
    | (.error e, w) => (reply (.error statusInternalServerError e), w)
  | save vol, w =>
    match w.dbSaveVolume env vol with
    | (.ok vol, w) => (reply (.ok statusCreated vol), w)
    | (.error e, w) => (reply (.error statusInternalServerError e), w)
  | reply r, w => (reply r, w)

theorem refines : Refines (thread env req) (advance env req) := by
  intro p eff next w h
  cases p with
  | lookup =>
    obtain ⟨rfl, rfl⟩ := Thread.step.inj h
    dsimp only [advance]
    exact ⟨rfl, by cases w.db.getVolumeByName req.name <;> rfl⟩
  | claim =>
    obtain ⟨rfl, rfl⟩ := Thread.step.inj h
    dsimp only [advance]
    rcases w.backendCreateVolume env req.toVolume with ⟨_ | _, _⟩ <;> exact ⟨rfl, rfl⟩
  | save vol =>
    obtain ⟨rfl, rfl⟩ := Thread.step.inj h
    dsimp only [advance]
    rcases w.dbSaveVolume env vol with ⟨_ | _, _⟩ <;> exact ⟨rfl, rfl⟩
  | reply r => cases h

theorem thread_eq_done {p : VolumeCreatePhase} {r : Response Volume}
    (h : thread env req p = .done r) : p = reply r := by
  cases p with
  | reply => cases h; rfl
  | _ => cases h

end VolumeCreatePhase

/-- Where a `NetworkCreate` thread stands: before its lookup, before its save, or replied. -/
inductive NetworkCreatePhase where
  | lookup
  | save (netw : Network)
  | reply (r : Response Network)

namespace NetworkCreatePhase

variable (env : Env) (req : NetworkCreateRequest)

/-- The rest of `NetworkCreate` from each phase. -/
def thread : NetworkCreatePhase → Thread (Response Network)
  | lookup => networkCreateThread env req
  | save netw => networkSaveThread env netw
  | reply r => .done r

/-- The phase each call of `NetworkCreate` leads to, and the world after it. -/
def advance : NetworkCreatePhase → World → NetworkCreatePhase × World
  | lookup, w =>
    (match w.db.getNetworkByName req.name with
      | some existing => reply (.ok statusOK existing)
      | none => save { name := req.name, labels := req.labels }, w)
  | save netw, w =>
    match w.dbSaveNetwork env netw with
    | (.ok netw, w) => (reply (.ok statusOK netw), w)
    | (.error e, w) => (reply (.error statusInternalServerError e), w)
  | reply r, w => (reply r, w)

theorem refines : Refines (thread env req) (advance env req) := by
  intro p eff next w h
  cases p with
  | lookup =>
    obtain ⟨rfl, rfl⟩ := Thread.step.inj h
    dsimp only [advance]
    exact ⟨rfl, by cases w.db.getNetworkByName req.name <;> rfl⟩
  | save netw =>
    obtain ⟨rfl, rfl⟩ := Thread.step.inj h
    dsimp only [advance]
    rcases w.dbSaveNetwork env netw with ⟨_ | _, _⟩ <;> exact ⟨rfl, rfl⟩
  | reply r => cases h

theorem thread_eq_done {p : NetworkCreatePhase} {r : Response Network}
    (h : thread env req p = .done r) : p = reply r := by
  cases p with
  | reply => cases h; rfl
  | _ => cases h

end NetworkCreatePhase

/-- Where a `NetworkConnect` or `NetworkDisconnect` thread stands: before its network lookup,
before its container lookup, before its write of the membership through the pointer `i`, before
the read of the aliases, in the alias loop, before its save, or replied. -/
inductive UpdatePhase where
  | lookup
  | resolved (netw : Network)
  | found (netw : Network) (i : Nat)
  | joined (i : Nat)
  | merging (i : Nat) (done rest : List String)
  | save (i : Nat)
  | reply (r : Response Unit)

namespace UpdatePhase

variable (env : Env) (id : String)

/-- The network lookup both handlers begin with. -/
def resolve (db : DB) : UpdatePhase :=
  match db.getNetworkByNameOrID id with
  | none => reply (.error statusNotFound notFoundError)
  | some netw => resolved netw

/-- The save both handlers end with. -/
def saved (i : Nat) (w : World) : UpdatePhase × World :=
  (reply (saveContainerAt env i w).1, (saveContainerAt env i w).2)

/-- The next call of the alias loop: an append, or the save once no alias is left to append. -/
def mergeAdvance (i : Nat) : List String → List String → World → UpdatePhase × World
  | _, [], w => saved env i w
  | done, a :: as, w =>
    let lowerAlias := env.toLower a
    if lowerAlias ∈ done then mergeAdvance i done as w
    else (merging i (done ++ [lowerAlias]) as, { w with db := w.db.appendAlias i lowerAlias })

/-- The rest of `NetworkConnect` from each phase. -/
def connectThread (req : NetworkConnectRequest) : UpdatePhase → Thread (Response Unit)
  | lookup => networkConnectThread env id req
  | resolved netw => connectToThread env netw req
  | found netw i => joinThread env netw i req
  | joined i => connectedThread env i req
  | merging i done rest => appendAliasesThread env i done rest
  | save i => containerSaveThread env i
  | reply r => .done r

/-- The phase each call of `NetworkConnect` leads to, and the world after it. -/
def connectAdvance (req : NetworkConnectRequest) : UpdatePhase → World → UpdatePhase × World
  | lookup, w => (resolve id w.db, w)
  | resolved netw, w =>
    (match w.db.containerRef req.container with
      | none => reply (.error statusNotFound notFoundError)
      | some i => found netw i, w)
  | found netw i, w => (joined i, { w with db := w.db.modifyContainer i (·.connectNetwork netw.id) })
  | joined i, w => (merging i (w.db.containerAt i).networkAliases req.aliases, w)
  | merging i done rest, w => mergeAdvance env i done rest w
  | save i, w => saved env i w
  | reply r, w => (reply r, w)

/-- The rest of `NetworkDisconnect` from each phase; it has no alias loop, so from the phases of
one only its save is left. -/
def disconnectThread (req : NetworkDisconnectRequest) : UpdatePhase → Thread (Response Unit)
  | lookup => networkDisconnectThread env id req
  | resolved netw => disconnectFromThread env netw req
  | found netw i => leaveThread env netw i
  | joined i | merging i _ _ | save i => containerSaveThread env i
  | reply r => .done r

/-- The phase each call of `NetworkDisconnect` leads to, and the world after it. -/
def disconnectAdvance (req : NetworkDisconnectRequest) :
    UpdatePhase → World → UpdatePhase × World
  | lookup, w => (resolve id w.db, w)
  | resolved netw, w =>
    (match w.db.containerRef req.container with
      | none => reply (.error statusNotFound notFoundError)
      | some i =>
        if env.isPredefined netw then
          reply (.error statusInternalServerError "cannot disconnect from predefined network")
        else found netw i, w)
  | found netw i, w =>
    match (w.db.containerAt i).disconnectNetwork netw.id with
    | .error e => (reply (.error statusNotFound e), w)
    | .ok tainr => (save i, { w with db := w.db.modifyContainer i fun _ => tainr })
  | joined i, w | merging i _ _, w | save i, w => saved env i w
  | reply r, w => (reply r, w)

@[simp] theorem connectThread_lookup (req : NetworkConnectRequest) :
    connectThread env id req lookup = networkConnectThread env id req := rfl

@[simp] theorem disconnectThread_lookup (req : NetworkDisconnectRequest) :
    disconnectThread env id req lookup = networkDisconnectThread env id req := rfl

/-- The save is one call, which leads to the reply. -/
theorem save_step {i : Nat} {eff : World → World} {next : World → Thread (Response Unit)}
    (w : World) (h : containerSaveThread env i = .step eff next) :
    eff w = (saved env i w).2 ∧ next w = .done (saveContainerAt env i w).1 := by
  obtain ⟨rfl, rfl⟩ := Thread.step.inj h
  simp only [saved, saveContainerAt]
  rcases w.dbSaveContainer env (w.db.containerAt i) with ⟨_ | _, _⟩ <;> exact ⟨rfl, rfl⟩

theorem merge_refines (req : NetworkConnectRequest) (i : Nat) {eff : World → World}
    {next : World → Thread (Response Unit)} (w : World) :
    ∀ {done rest : List String}, appendAliasesThread env i done rest = .step eff next →
      eff w = (mergeAdvance env i done rest w).2 ∧
        next w = connectThread env id req (mergeAdvance env i done rest w).1
  | _, [], h => save_step env w h
  | done, a :: as, h => by
    by_cases ha : env.toLower a ∈ done
    · simp only [appendAliasesThread, if_pos ha] at h
      simp only [mergeAdvance, if_pos ha]
      exact merge_refines req i w h
    · simp only [appendAliasesThread, if_neg ha] at h
      obtain ⟨rfl, rfl⟩ := Thread.step.inj h
      dsimp only [mergeAdvance]
      rw [if_neg ha]
      exact ⟨rfl, rfl⟩

theorem connect_refines (req : NetworkConnectRequest) :
    Refines (connectThread env id req) (connectAdvance env id req) := by
  intro p eff next w h
  cases p with
  | lookup =>
    obtain ⟨rfl, rfl⟩ := Thread.step.inj h
    exact ⟨rfl, by dsimp only [connectAdvance, resolve]; cases w.db.getNetworkByNameOrID id <;> rfl⟩
  | resolved netw =>
    obtain ⟨rfl, rfl⟩ := Thread.step.inj h
    exact ⟨rfl, by dsimp only [connectAdvance]; cases w.db.containerRef req.container <;> rfl⟩
  | found netw i | joined i =>
    obtain ⟨rfl, rfl⟩ := Thread.step.inj h
    exact ⟨rfl, rfl⟩
  | merging i done rest => exact merge_refines env id req i w h
  | save i => exact save_step env w h
  | reply r => cases h

theorem disconnect_refines (req : NetworkDisconnectRequest) :
    Refines (disconnectThread env id req) (disconnectAdvance env id req) := by
  intro p eff next w h
  cases p with
  | lookup =>
    obtain ⟨rfl, rfl⟩ := Thread.step.inj h
    exact ⟨rfl, by dsimp only [disconnectAdvance, resolve]; cases w.db.getNetworkByNameOrID id <;> rfl⟩
  | resolved netw =>
    obtain ⟨rfl, rfl⟩ := Thread.step.inj h
    refine ⟨rfl, ?_⟩
    dsimp only [disconnectAdvance]
    cases w.db.containerRef req.container with
    | none => rfl
    | some i => dsimp only; split_ifs <;> rfl
  | found netw i =>
    obtain ⟨rfl, rfl⟩ := Thread.step.inj h
    dsimp only [disconnectAdvance]
    cases (w.db.containerAt i).disconnectNetwork netw.id <;> exact ⟨rfl, rfl⟩
  | joined i | merging i _ _ | save i => exact save_step env w h
  | reply r => cases h

/-- The alias loop always ends with the save, so it is never done. -/
theorem appendAliasesThread_ne_done (i : Nat) (r : Response Unit) :
    ∀ {done rest : List String}, appendAliasesThread env i done rest ≠ .done r
  | _, [] => nofun
  | done, a :: as => by
    simp only [appendAliasesThread]
    split_ifs
    · exact appendAliasesThread_ne_done i r
    · exact nofun

theorem connectThread_eq_done {req : NetworkConnectRequest} {p : UpdatePhase} {r : Response Unit}
    (h : connectThread env id req p = .done r) : p = reply r := by
  cases p with
  | reply => cases h; rfl
  | merging i done rest => exact absurd h (appendAliasesThread_ne_done env i r)
  | _ => cases h

theorem disconnectThread_eq_done {req : NetworkDisconnectRequest} {p : UpdatePhase}
    {r : Response Unit} (h : disconnectThread env id req p = .done r) : p = reply r := by
  cases p with
  | reply => cases h; rfl
  | _ => cases h

end UpdatePhase

/-- Where a `NetworkDelete` thread stands: before its lookup, before its membership scan, before
its delete, or replied. -/
inductive DeletePhase where
  | lookup
  | scan (netw : Network)
  | drop (netw : Network)
  | reply (r : Response (List Network))

namespace DeletePhase

variable (env : Env) (id : String)

/-- The rest of `NetworkDelete` from each phase. -/
def thread : DeletePhase → Thread (Response (List Network))
  | lookup => networkDeleteThread env id
  | scan netw => networkScanThread netw
  | drop netw => networkDropThread netw
  | reply r => .done r

/-- The phase each call of `NetworkDelete` leads to, and the world after it. -/
def advance : DeletePhase → World → DeletePhase × World
  | lookup, w =>
    (match w.db.getNetworkByNameOrID id with
      | none => reply (.error statusNotFound notFoundError)
      | some netw =>
        if env.isPredefined netw then
          reply (.error statusForbidden (netw.name ++ " is a pre-defined network and cannot be removed"))
        else scan netw, w)
  | scan netw, w =>
    (if (getContainersInNetwork w netw).1.length ≠ 0 then
      reply (.error statusConflict "cannot delete network, containers attached")
    else drop netw, (getContainersInNetwork w netw).2)
  | drop netw, w =>
    match w.dbDeleteNetwork netw with
    | (.ok (), w) => (reply (.ok statusOK [netw]), w)
    | (.error e, w) => (reply (.error statusNotFound e), w)
  | reply r, w => (reply r, w)

@[simp] theorem thread_lookup : thread env id lookup = networkDeleteThread env id := rfl

theorem refines : Refines (thread env id) (advance env id) := by
  intro p eff next w h
  cases p with
  | lookup =>
    obtain ⟨rfl, rfl⟩ := Thread.step.inj h
    dsimp only [advance]
    refine ⟨rfl, ?_⟩
    cases w.db.getNetworkByNameOrID id with
    | none => rfl
    | some netw => dsimp only; split_ifs <;> rfl
  | scan netw =>
    obtain ⟨rfl, rfl⟩ := Thread.step.inj h
    dsimp only [advance]
    exact ⟨rfl, by split_ifs <;> rfl⟩
  | drop netw =>
    obtain ⟨rfl, rfl⟩ := Thread.step.inj h
    dsimp only [advance]
    rcases w.dbDeleteNetwork netw with ⟨_ | _, _⟩ <;> exact ⟨rfl, rfl⟩
  | reply r => cases h

theorem thread_eq_done {p : DeletePhase} {r : Response (List Network)}
    (h : thread env id p = .done r) : p = reply r := by
  cases p with
  | reply => cases h; rfl
  | _ => cases h

end DeletePhase

/-- Where a `NetworkPrune` thread stands: before its listing, in its loop with the networks
pruned so far and those left, before the delete of a network, or replied. -/
inductive PrunePhase where
  | list
  | loop (pruned netws : List Network)
  | drop (pruned : List Network) (netw : Network) (netws : List Network)
  | reply (r : Response (List Network))

namespace PrunePhase

variable (env : Env)

/-- The rest of `NetworkPrune` from each phase. -/
def thread : PrunePhase → Thread (Response (List Network))
  | list => networkPruneThread env
  | loop pruned netws => pruneNetworksThread env pruned netws
  | drop pruned netw netws =>
    pruneDropThread netw (fun pruned => pruneNetworksThread env pruned netws) pruned
  | reply r => .done r

/-- The loop's next call: the membership scan of the first network left that is not
predefined. -/
def loopAdvance (pruned : List Network) : List Network → World → PrunePhase × World
  | [], w => (loop pruned [], w)
  | netw :: netws, w =>
    if env.isPredefined netw then loopAdvance pruned netws w
    else
      (if (getContainersInNetwork w netw).1.length ≠ 0 then loop pruned netws
      else drop pruned netw netws, (getContainersInNetwork w netw).2)

/-- The phase each call of `NetworkPrune` leads to, and the world after it. -/
def advance : PrunePhase → World → PrunePhase × World
  | list, w =>
    match w.dbGetNetworks with
    | (.error e, w) => (reply (.error statusInternalServerError e), w)
    | (.ok netws, w) => (loop [] netws, w)
  | loop pruned netws, w => loopAdvance env pruned netws w
  | drop pruned netw netws, w =>
    match w.dbDeleteNetwork netw with
    | (.error e, w) => (reply (.error statusNotFound e), w)
    | (.ok (), w) => (loop (pruned ++ [netw]) netws, w)
  | reply r, w => (reply r, w)

@[simp] theorem thread_list : thread env list = networkPruneThread env := rfl

theorem loop_refines (pruned netws : List Network) (eff : World → World)
    (next : World → Thread (Response (List Network))) (w : World)
    (h : pruneNetworksThread env pruned netws = .step eff next) :
    eff w = (loopAdvance env pruned netws w).2 ∧
      next w = thread env (loopAdvance env pruned netws w).1 := by
  induction netws generalizing pruned with
  | nil => cases h
  | cons netw netws ih =>
    by_cases hp : env.isPredefined netw = true
    · simp only [pruneNetworksThread, if_pos hp] at h
      simp only [loopAdvance, if_pos hp]
      exact ih pruned h
    · simp only [pruneNetworksThread, if_neg hp] at h
      obtain ⟨rfl, rfl⟩ := Thread.step.inj h
      dsimp only [loopAdvance]
      rw [if_neg hp]
      exact ⟨rfl, by split_ifs <;> rfl⟩

theorem refines : Refines (thread env) (advance env) := by
  intro p eff next w h
  cases p with
  | list =>
    obtain ⟨rfl, rfl⟩ := Thread.step.inj h
    dsimp only [advance]
    rcases w.dbGetNetworks with ⟨_ | _, _⟩ <;> exact ⟨rfl, rfl⟩
  | loop pruned netws => exact loop_refines env pruned netws eff next w h
  | drop pruned netw netws =>
    obtain ⟨rfl, rfl⟩ := Thread.step.inj h
    dsimp only [advance]
    rcases w.dbDeleteNetwork netw with ⟨_ | _, _⟩ <;> exact ⟨rfl, rfl⟩
  | reply r => cases h

/-- The loop ends with the networks it pruned. -/
theorem pruneNetworksThread_eq_done {pruned netws : List Network} {r : Response (List Network)}
    (h : pruneNetworksThread env pruned netws = .done r) : r = .ok statusOK pruned := by
  induction netws with
  | nil => cases h; rfl
  | cons netw netws ih =>
    by_cases hp : env.isPredefined netw = true
    · simp only [pruneNetworksThread, if_pos hp] at h
      exact ih h
    · simp only [pruneNetworksThread, if_neg hp] at h
      cases h

theorem thread_eq_done {p : PrunePhase} {r : Response (List Network)}
    (h : thread env p = .done r) :
    p = reply r ∨ ∃ pruned netws, p = loop pruned netws ∧ r = .ok statusOK pruned := by
  cases p with
  | reply => cases h; exact .inl rfl
  | loop pruned netws => exact .inr ⟨pruned, netws, rfl, pruneNetworksThread_eq_done env h⟩
  | _ => cases h

end PrunePhase


/-- Where a `VolumeDelete` thread stands: before its lookup, before the claim's delete, before
the store delete, or replied. -/
inductive VolumeDeletePhase where
  | lookup
  | unclaim (vol : Volume)
  | drop (vol : Volume)
  | reply (r : Response Unit)

namespace VolumeDeletePhase

variable (env : Env) (id : String)

/-- The rest of `VolumeDelete` from each phase. -/
def thread : VolumeDeletePhase → Thread (Response Unit)
  | lookup => volumeDeleteThread env id
  | unclaim vol => volumeUnclaimThread env vol
  | drop vol => volumeDropThread vol
  | reply r => .done r

/-- The phase each call of `VolumeDelete` leads to, and the world after it. -/
def advance : VolumeDeletePhase → World → VolumeDeletePhase × World
  | lookup, w =>
    (match w.db.getVolumeByNameOrID id with
      | none => reply (.error statusNotFound notFoundError)
      | some vol => unclaim vol, w)
  | unclaim vol, w => (drop vol, (w.backendDeleteVolume env vol).2)
  | drop vol, w =>
    match w.dbDeleteVolume vol with
    | (.error e, w) => (reply (.error statusNotFound e), w)
    | (.ok (), w) => (reply (.ok statusNoContent ()), w)
  | reply r, w => (reply r, w)

theorem refines : Refines (thread env id) (advance env id) := by
  intro p eff next w h
  cases p with
  | lookup =>
    obtain ⟨rfl, rfl⟩ := Thread.step.inj h
    dsimp only [advance]
    exact ⟨rfl, by cases w.db.getVolumeByNameOrID id <;> rfl⟩
  | unclaim vol =>
    obtain ⟨rfl, rfl⟩ := Thread.step.inj h
    exact ⟨rfl, rfl⟩
  | drop vol =>
    obtain ⟨rfl, rfl⟩ := Thread.step.inj h
    dsimp only [advance]
    rcases w.dbDeleteVolume vol with ⟨_ | _, _⟩ <;> exact ⟨rfl, rfl⟩
  | reply r => cases h

theorem thread_eq_done {p : VolumeDeletePhase} {r : Response Unit}
    (h : thread env id p = .done r) : p = reply r := by
  cases p with
  | reply => cases h; rfl
  | _ => cases h

end VolumeDeletePhase

/-- Where a volume prune thread stands: before its listing, in its loop with the reports so far
and the volumes left, before the store delete of a volume whose claim's delete was made, or
replied. -/
inductive VolumePrunePhase (β : Type) where
  | list
  | loop (acc : List β) (vols : List Volume)
  | drop (acc : List β) (vol : Volume) (vols : List Volume)
  | reply (r : Response (List β))

namespace VolumePrunePhase

variable (env : Env) {β : Type} (report : Volume → β)

/-- The rest of a volume prune from each phase. -/
def thread : VolumePrunePhase β → Thread (Response (List β))
  | list => volumesPruneThread env report
  | loop acc vols => pruneVolumesThread env report acc vols
  | drop acc vol vols =>
    pruneVolumeDropThread report vol (fun acc => pruneVolumesThread env report acc vols) acc
  | reply r => .done r

/-- The phase each call of a volume prune leads to, and the world after it. -/
def advance : VolumePrunePhase β → World → VolumePrunePhase β × World
  | list, w =>
    match w.dbGetVolumes with
    | (.error e, w) => (reply (.error statusInternalServerError e), w)
    | (.ok vols, w) => (loop [] vols, w)
  | loop acc [], w => (loop acc [], w)
  | loop acc (vol :: vols), w => (drop acc vol vols, (w.backendDeleteVolume env vol).2)
  | drop acc vol vols, w =>
    match w.dbDeleteVolume vol with
    | (.error _, w) => (loop acc vols, w)
    | (.ok (), w) => (loop (acc ++ [report vol]) vols, w)
  | reply r, w => (reply r, w)

theorem refines : Refines (thread env report) (advance env report) := by
  intro p eff next w h
  cases p with
  | list =>
    obtain ⟨rfl, rfl⟩ := Thread.step.inj h
    dsimp only [advance]
    rcases w.dbGetVolumes with ⟨_ | _, _⟩ <;> exact ⟨rfl, rfl⟩
  | loop acc vols =>
    cases vols with
    | nil => cases h
    | cons vol vols =>
      obtain ⟨rfl, rfl⟩ := Thread.step.inj h
      exact ⟨rfl, rfl⟩
  | drop acc vol vols =>
    obtain ⟨rfl, rfl⟩ := Thread.step.inj h
    dsimp only [advance]
    rcases w.dbDeleteVolume vol with ⟨_ | _, _⟩ <;> exact ⟨rfl, rfl⟩
  | reply r => cases h

/-- A prune thread that has finished has replied, or has run its loop to the end and reports
what it pruned. -/
theorem thread_eq_done {p : VolumePrunePhase β} {r : Response (List β)}
    (h : thread env report p = .done r) :
    p = reply r ∨ ∃ acc, p = loop acc [] ∧ r = .ok statusOK acc := by
  cases p with
  | reply => cases h; exact .inl rfl
  | loop acc vols =>
    cases vols with
    | nil => cases h; exact .inr ⟨acc, rfl, rfl⟩
    | cons => cases h
  | _ => cases h

end VolumePrunePhase

end Kubedock
