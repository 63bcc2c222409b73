import Kubedock.RoutesVolumes
import Kubedock.RoutesNetworks

/-! The server as a state machine over the world: a request of the volume or network routes,
with its path parameter and its decoded body, is served by its handler, and a run serves a list
of requests one after another. Requests of the volume routes leave networks and containers as
they were; requests of the network routes leave volumes and the platform's claims as they were.
Every request keeps the store well formed, so every state a run reaches from the empty store is
one the store can hold. -/

namespace Kubedock

/-- The requests of the volume routes of both dialects. -/
inductive VolumeRequest where
  | volumeCreate (body : Except String VolumeCreateRequest)
  | volumeInfo (id : String)
  | volumeExists (name : String)
  | volumeDelete (id : String)
  | volumesPrune
  | volumePrune
  deriving Repr

/-- The requests of the libpod network routes. -/
inductive NetworkRequest where
  | networkCreate (body : Except String NetworkCreateRequest)
  | networkInfo (id : String)
  | networkExists (id : String)
  | networkDelete (id : String)
  | networkConnect (id : String) (body : Except String NetworkConnectRequest)
  | networkDisconnect (id : String) (body : Except String NetworkDisconnectRequest)
  | networkPrune
  deriving Repr

inductive Request where
  | volume (req : VolumeRequest)
  | network (req : NetworkRequest)
  deriving Repr

variable (env : Env)

/-- Serving a request of the volume routes: docker `VolumesPrune` or libpod `VolumePrune`. -/
def VolumeRequest.apply : VolumeRequest → World → World
  | .volumeCreate body, w => (Kubedock.volumeCreate env body w).2
  | .volumeInfo id, w => (Kubedock.volumeInfo id w).2
  | .volumeExists name, w => (Kubedock.volumeExists name w).2
  | .volumeDelete id, w => (Kubedock.volumeDelete env id w).2
  | .volumesPrune, w => (Docker.volumesPrune env w).2
  | .volumePrune, w => (Libpod.volumePrune env w).2

/-- Serving a request of the network routes. -/
def NetworkRequest.apply : NetworkRequest → World → World
  | .networkCreate body, w => (Kubedock.networkCreate env body w).2
  | .networkInfo id, w => (Kubedock.networkInfo id w).2
  | .networkExists id, w => (Kubedock.networkExists id w).2
  | .networkDelete id, w => (Kubedock.networkDelete env id w).2
  | .networkConnect id body, w => (Kubedock.networkConnect env id body w).2
  | .networkDisconnect id body, w => (Kubedock.networkDisconnect env id body w).2
  | .networkPrune, w => (Kubedock.networkPrune env w).2

def Request.apply : Request → World → World
  | .volume req, w => req.apply env w
  | .network req, w => req.apply env w

/-- Serving requests one after another. -/
def run (w : World) (reqs : List Request) : World := reqs.foldl (fun w req => req.apply env w) w

@[simp] theorem run_nil (w : World) : run env w [] = w := rfl

@[simp] theorem run_cons (w : World) (req : Request) (reqs : List Request) :
    run env w (req :: reqs) = run env (req.apply env w) reqs := rfl

/-- The world before any request: the empty store, a namespace without claims, and the outcomes
of the calls to come. -/
def World.initial (faults : Call → List Bool) : World where
  db := {}
  pvcs := []
  faults := faults

/-- An environment to serve requests in: names convert to their own bytes, the store's IDs are
`a`, `aa`, ..., the network named `bridge` is the predefined one, and lower-casing is
`String.toLower`. -/
def Env.sample : Env where
  backend :=
    { volumeSize := "1Gi"
      storageClass := ""
      volumeAccessMode := "ReadWriteOnce"
      systemLabels := []
      defaultLabels := []
      defaultAnnotations := []
      toKubernetesName := goBytes }
  idGen := IdGen.unary
  isPredefined n := n.name == "bridge"
  toLower := String.toLower

/-- The sample generator's IDs from position `seq` on are longer than `seq` characters, so a
table whose IDs are no longer is fresh from there. -/
theorem Env.sample_fresh {α : Type} [Entity α] {xs : List α} {seq : Nat}
    (h : ∀ x ∈ xs, (Entity.id x).length ≤ seq) : Fresh Env.sample.idGen seq xs := fun k hk hm => by
  obtain ⟨x, hx, he⟩ := List.mem_map.mp hm
  have hlen := congrArg String.length he
  simp only [Env.sample, IdGen.unary, String.length_mk, List.length_replicate] at hlen
  have := h x hx
  omega

/-- What every request keeps, given what the run's requests satisfy, holds after the run. -/
theorem run_preserves {P : World → Prop} {Q : Request → Prop}
    (hstep : ∀ req w, Q req → P w → P (req.apply env w)) :
    ∀ (reqs : List Request) (w : World), (∀ req ∈ reqs, Q req) → P w → P (run env w reqs)
  | [], _, _, hw => hw
  | req :: reqs, w, hq, hw =>
    run_preserves hstep reqs _ (fun r hr => hq r (List.mem_cons_of_mem _ hr))
      (hstep req w (hq req (List.mem_cons_self _ _)) hw)

/-- What a request of the volume routes can do to the store: nothing, save a volume without an
ID whose name is not stored, or drop volumes. -/
theorem VolumeRequest.apply_spec (req : VolumeRequest) (w : World) :
    World.Consumed w (req.apply env w) ∧
      ((req.apply env w).db = w.db ∨
        (∃ v : Volume, v.id = "" ∧ w.db.getVolumeByName v.name = none ∧
          (req.apply env w).db = (w.db.saveVolume env.idGen v).2) ∨
        ∃ p : Volume → Bool, (req.apply env w).db = { w.db with volumes := w.db.volumes.filter p }) := by
  cases req with
  | volumeCreate body =>
    rcases h : Kubedock.volumeCreate env body w with ⟨r, w'⟩
    obtain ⟨hc, -, ⟨hdb, -⟩ | ⟨_, v, -, -, hid, hnone, -, -, hdb⟩⟩ := volumeCreate_spec h <;>
      simp only [apply, h]
    · exact ⟨hc, Or.inl hdb⟩
    · exact ⟨hc, Or.inr (Or.inl ⟨v, hid, hnone, hdb⟩)⟩
  | volumeInfo id => simp [apply, World.Consumed.refl]
  | volumeExists name => simp [apply, World.Consumed.refl]
  | volumeDelete id =>
    rcases h : Kubedock.volumeDelete env id w with ⟨r, w'⟩
    obtain ⟨hc, ⟨hdb, -⟩ | ⟨_, -, -, ⟨hdb, -⟩ | ⟨-, hdel⟩⟩⟩ := volumeDelete_spec h <;>
      simp only [apply, h]
    · exact ⟨hc, Or.inl hdb⟩
    · exact ⟨hc, Or.inl hdb⟩
    · exact ⟨hc, Or.inr (Or.inr ⟨_, DB.deleteVolume_some hdel⟩)⟩
  | volumesPrune =>
    rcases h : volumesPruneWith env Volume.name w with ⟨r, w'⟩
    obtain ⟨hc, ⟨hdb, -, -⟩ | ⟨-, _, -, -, hdb, -⟩⟩ := volumesPruneWith_spec h <;>
      simp only [apply, Docker.volumesPrune, h]
    · exact ⟨hc, Or.inl hdb⟩
    · exact ⟨hc, Or.inr (Or.inr ⟨_, hdb⟩)⟩
  | volumePrune =>
    rcases h : volumesPruneWith env Volume.id w with ⟨r, w'⟩
    obtain ⟨hc, ⟨hdb, -, -⟩ | ⟨-, _, -, -, hdb, -⟩⟩ := volumesPruneWith_spec h <;>
      simp only [apply, Libpod.volumePrune, h]
    · exact ⟨hc, Or.inl hdb⟩
    · exact ⟨hc, Or.inr (Or.inr ⟨_, hdb⟩)⟩

/-- What a request of the network routes can do to the store: nothing, save a network without
an ID whose name is not stored, drop networks, or write a stored container in place, keeping its
ID, and maybe save it. It never touches the platform. -/
theorem NetworkRequest.apply_spec (req : NetworkRequest) (w : World) :
    World.Consumed w (req.apply env w) ∧ (req.apply env w).pvcs = w.pvcs ∧
      ((req.apply env w).db = w.db ∨
        (∃ n : Network, n.id = "" ∧ w.db.getNetworkByName n.name = none ∧
          (req.apply env w).db = (w.db.saveNetwork env.idGen n).2) ∨
        (∃ p : Network → Bool,
          (req.apply env w).db = { w.db with networks := w.db.networks.filter p }) ∨
        ∃ i f, i < w.db.containers.length ∧ (f (w.db.containerAt i)).id = (w.db.containerAt i).id ∧
          ((req.apply env w).db = w.db.modifyContainer i f ∨ (req.apply env w).db =
            ((w.db.modifyContainer i f).saveContainer env.idGen (f (w.db.containerAt i))).2)) := by
  cases req with
  | networkCreate body =>
    rcases h : Kubedock.networkCreate env body w with ⟨r, w'⟩
    obtain ⟨hc, hp, ⟨hdb, -⟩ | ⟨_, n, -, -, hid, hnone, -, hdb⟩⟩ := networkCreate_spec h <;>
      simp only [apply, h]
    · exact ⟨hc, hp, Or.inl hdb⟩
    · exact ⟨hc, hp, Or.inr (Or.inl ⟨n, hid, hnone, hdb⟩)⟩
  | networkInfo id => simp [apply, World.Consumed.refl]
  | networkExists id => simp [apply, World.Consumed.refl]
  | networkDelete id =>
    rcases h : Kubedock.networkDelete env id w with ⟨r, w'⟩
    obtain ⟨hc, hp, ⟨hdb, -⟩ | ⟨_, -, -, -, -, hdel⟩⟩ := networkDelete_spec h <;> simp only [apply, h]
    · exact ⟨hc, hp, Or.inl hdb⟩
    · exact ⟨hc, hp, Or.inr (Or.inr (Or.inl ⟨_, DB.deleteNetwork_some hdel⟩))⟩
  | networkConnect id body =>
    rcases h : Kubedock.networkConnect env id body w with ⟨r, w'⟩
    simp only [apply, h]
    obtain ⟨rfl, -⟩ | ⟨_, _, i, -, -, hi, hs⟩ := networkConnect_spec h
    · exact ⟨.refl _, rfl, .inl rfl⟩
    · obtain ⟨hc, hp, hdb⟩ := saveContainerAt_modify (DB.containerRef_lt hi) hs
      exact ⟨hc, hp, .inr (.inr (.inr ⟨i, _, DB.containerRef_lt hi, by simp,
        hdb.elim (fun h => .inr h.2) fun h => .inl h.2⟩))⟩
  | networkDisconnect id body =>
    rcases h : Kubedock.networkDisconnect env id body w with ⟨r, w'⟩
    simp only [apply, h]
    obtain rfl | ⟨_, _, i, _, -, -, hi, -, hdis, hs⟩ := networkDisconnect_spec h
    · exact ⟨.refl _, rfl, .inl rfl⟩
    · obtain ⟨hc, hp, hdb⟩ := saveContainerAt_modify (DB.containerRef_lt hi) hs
      exact ⟨hc, hp, .inr (.inr (.inr ⟨i, _, DB.containerRef_lt hi,
        by rw [(Container.disconnectNetwork_ok hdis).2], hdb.elim (fun h => .inr h.2) fun h => .inl h.2⟩))⟩
  | networkPrune =>
    rcases h : Kubedock.networkPrune env w with ⟨r, w'⟩
    obtain ⟨hc, hp, _, -, hdb, -⟩ := networkPrune_spec h
    simp only [apply, h]
    exact ⟨hc, hp, Or.inr (Or.inr (Or.inl ⟨_, hdb⟩))⟩

/-- A request of the volume routes leaves networks and containers. -/
theorem VolumeRequest.apply_frame (req : VolumeRequest) (w : World) :
    (req.apply env w).db.networks = w.db.networks ∧
      (req.apply env w).db.containers = w.db.containers := by
  obtain ⟨-, hdb | ⟨v, -, -, hdb⟩ | ⟨p, hdb⟩⟩ := req.apply_spec env w <;> simp [hdb]

/-- A request of the network routes leaves volumes. -/
theorem NetworkRequest.apply_volumes (req : NetworkRequest) (w : World) :
    (req.apply env w).db.volumes = w.db.volumes := by
  obtain ⟨-, -, hdb | ⟨n, -, -, hdb⟩ | ⟨p, hdb⟩ | ⟨i, f, -, -, hdb | hdb⟩⟩ := req.apply_spec env w <;>
    simp [hdb]

variable {env : Env}

theorem Request.apply_consumed (req : Request) (w : World) : World.Consumed w (req.apply env w) := by
  cases req with
  | volume req => exact (req.apply_spec env w).1
  | network req => exact (req.apply_spec env w).1

theorem consumed_run (reqs : List Request) (w : World) : World.Consumed w (run env w reqs) := by
  induction reqs generalizing w with
  | nil => exact .refl w
  | cons req reqs ih => exact (req.apply_consumed w).trans (ih _)

theorem Request.apply_wellFormed (req : Request) {w : World} (hwf : w.db.WellFormed env.idGen) :
    (req.apply env w).db.WellFormed env.idGen := by
  cases req with
  | volume req =>
    obtain ⟨-, hdb | ⟨v, hid, -, hdb⟩ | ⟨p, hdb⟩⟩ := req.apply_spec env w <;> simp only [apply, hdb]
    · exact hwf
    · exact hwf.saveVolume (Or.inl hid)
    · exact hwf.filter_volumes p
  | network req =>
    obtain ⟨-, -, hdb | ⟨n, hid, -, hdb⟩ | ⟨p, hdb⟩ | ⟨i, f, hi, hid, hdb | hdb⟩⟩ :=
      req.apply_spec env w <;> simp only [apply, hdb]
    · exact hwf
    · exact hwf.saveNetwork (Or.inl hid)
    · exact hwf.filter_networks p
    · exact hwf.modifyContainer hid
    · refine (hwf.modifyContainer hid).saveContainer (Or.inr ⟨_, DB.containerAt_mem (i := i) ?_, ?_⟩)
      · simpa using hi
      · rw [DB.containerAt_modifyContainer hi]

/-- Every state a run reaches from a well-formed store is well formed. -/
theorem run_wellFormed (reqs : List Request) {w : World} (hwf : w.db.WellFormed env.idGen) :
    (run env w reqs).db.WellFormed env.idGen :=
  run_preserves env (P := fun w => w.db.WellFormed env.idGen) (Q := fun _ => True)
    (fun req _ _ h => req.apply_wellFormed h) reqs w (fun _ _ => trivial) hwf

theorem run_wellFormed_of_creates_under_failures :
    let w := World.initial fun _ => [false, true]
    let reqs : List Request :=
      [.volume (.volumeCreate (.ok { name := "data" })),
        .network (.networkCreate (.ok { name := "net" })), .volume .volumePrune,
        .network (.networkConnect "net" (.ok { container := "app" })), .network .networkPrune]
    w.db.WellFormed Env.sample.idGen ∧ (run Env.sample w reqs).db.WellFormed Env.sample.idGen := by
  intro w reqs
  exact ⟨DB.wellFormed_empty _, run_wellFormed reqs (DB.wellFormed_empty _)⟩

end Kubedock
