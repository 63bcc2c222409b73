import Kubedock.Server

/-! Networks and memberships over runs. Connect adds only the ID of a stored network, disconnect
only drops memberships, and delete and prune drop a network only when the membership scan reports
no member, which it also does when the store cannot list: memberships keep naming stored networks
over every run whose container listings succeed. Predefined networks, and memberships in them,
are never dropped. -/

namespace Kubedock

/-- Every membership of a stored container names a stored network. -/
def MembershipsStored (db : DB) : Prop :=
  ∀ c ∈ db.containers, ∀ id ∈ c.networks, id ∈ db.networks.map Network.id

instance (db : DB) : Decidable (MembershipsStored db) :=
  inferInstanceAs (Decidable (∀ c ∈ db.containers, ∀ id ∈ c.networks,
    id ∈ db.networks.map Network.id))

section Memberships

variable {gen : IdGen} {db : DB}

theorem MembershipsStored.saveNetwork (hm : MembershipsStored db) (n : Network) :
    MembershipsStored (db.saveNetwork gen n).2 := fun c hc id hid => by
  obtain ⟨m, hm', rfl⟩ := List.mem_map.mp (hm c (by simpa using hc) id hid)
  exact DB.id_mem_saveNetwork hm'

/-- Saving a container whose memberships name stored networks keeps memberships stored. -/
theorem MembershipsStored.saveContainer (hm : MembershipsStored db) {c : Container}
    (hc : ∀ id ∈ c.networks, id ∈ db.networks.map Network.id) :
    MembershipsStored (db.saveContainer gen c).2 := fun d hd id hid => by
  rw [DB.saveContainer_networks]
  rcases DB.mem_saveContainer hd with hd | hdn
  · exact hm d hd id hid
  · exact hc id (hdn ▸ hid)

/-- A write through a pointer whose result names stored networks keeps memberships stored. -/
theorem MembershipsStored.modifyContainer (hm : MembershipsStored db) {i : Nat}
    {f : Container → Container}
    (hf : ∀ id ∈ (f (db.containerAt i)).networks, id ∈ db.networks.map Network.id) :
    MembershipsStored (db.modifyContainer i f) := fun d hd id hid => by
  rcases DB.mem_modifyContainer hd with hd | rfl
  · exact hm d hd id hid
  · exact hf id hid

/-- Dropping networks that no stored container is a member of keeps memberships stored. -/
theorem MembershipsStored.filter_networks (hm : MembershipsStored db) {p : Network → Bool}
    (hp : ∀ c ∈ db.containers, ∀ n ∈ db.networks, n.id ∈ c.networks → p n = true) :
    MembershipsStored { db with networks := db.networks.filter p } := fun c hc id hid => by
  obtain ⟨n, hn, rfl⟩ := List.mem_map.mp (hm c hc id hid)
  exact List.mem_map_of_mem _ (List.mem_filter.mpr ⟨hn, hp c hc n hn hid⟩)

end Memberships

section Step

variable {env : Env} {w w' : World}

/-- With its listing not failing, `NetworkDelete` keeps memberships stored. -/
theorem networkDelete_membershipsStored {id : String} {r : Response (List Network)}
    (hl : w.fails .listContainers = false) (hm : MembershipsStored w.db)
    (h : networkDelete env id w = (r, w')) : MembershipsStored w'.db := by
  obtain ⟨-, -, ⟨hdb, -⟩ | ⟨netw, -, -, hfree, -, hdel⟩⟩ := networkDelete_spec h
  · exact hdb ▸ hm
  · rw [hl] at hfree
    rw [DB.deleteNetwork_some hdel]
    refine hm.filter_networks fun c hc n _ hn => ?_
    have := hfree.resolve_right Bool.false_ne_true c hc
    simp only [decide_eq_true_eq]
    exact fun he => this (he ▸ hn)

/-- When the listing of containers fails, `NetworkDelete` removes a network that a stored
container is a member of, and the membership names no stored network any more. -/
theorem networkDelete_strands_membership :
    let w : World :=
      { db :=
          { networks := [{ id := "a", name := "net" }]
            containers := [{ id := "b", name := "app", networks := ["a"] }]
            seq := 2 }
        pvcs := []
        faults := fun c => if c = Call.listContainers then [true] else [] }
    MembershipsStored w.db ∧ ¬ MembershipsStored (networkDelete Env.sample "net" w).2.db := by
  decide

/-- With its listings not failing, `NetworkPrune` keeps memberships stored. -/
theorem networkPrune_membershipsStored {r : Response (List Network)}
    (hl : ∀ b ∈ w.faults .listContainers, b = false) (hm : MembershipsStored w.db)
    (h : networkPrune env w = (r, w')) : MembershipsStored w'.db := by
  obtain ⟨-, -, removed, -, hdb, -, hfree, -⟩ := networkPrune_spec h
  rw [hdb]
  refine hm.filter_networks fun c hc n _ hn => ?_
  simp only [decide_eq_true_eq, List.mem_map, not_exists, not_and]
  exact fun m hm he => hfree hl m hm c hc (he ▸ hn)

/-- A connect or a disconnect whose write names stored networks keeps memberships stored. -/
theorem saveContainerAt_membershipsStored {i : Nat} {f : Container → Container} {r : Response Unit}
    (hm : MembershipsStored w.db) (hi : i < w.db.containers.length)
    (hf : ∀ id ∈ (f (w.db.containerAt i)).networks, id ∈ w.db.networks.map Network.id)
    (h : saveContainerAt env i { w with db := w.db.modifyContainer i f } = (r, w')) :
    MembershipsStored w'.db := by
  have hm' := hm.modifyContainer hf
  obtain ⟨-, -, ⟨-, hdb⟩ | ⟨-, hdb⟩⟩ := saveContainerAt_modify hi h <;> rw [hdb]
  · exact hm'.saveContainer hf
  · exact hm'

theorem networkConnect_membershipsStored {id : String} {body : Except String NetworkConnectRequest}
    {r : Response Unit} (hm : MembershipsStored w.db) (h : networkConnect env id body w = (r, w')) :
    MembershipsStored w'.db := by
  obtain ⟨rfl, -⟩ | ⟨_, netw, i, -, hnetw, hi, hs⟩ := networkConnect_spec h
  · exact hm
  · refine saveContainerAt_membershipsStored hm (DB.containerRef_lt hi) (fun m hm' => ?_) hs
    rcases mem_connectedContainer.mp hm' with hm' | rfl
    · exact hm _ (DB.containerAt_mem (DB.containerRef_lt hi)) m hm'
    · exact List.mem_map_of_mem _ (findByNameOrID_some hnetw).1

theorem networkDisconnect_membershipsStored {id : String}
    {body : Except String NetworkDisconnectRequest} {r : Response Unit}
    (hm : MembershipsStored w.db) (h : networkDisconnect env id body w = (r, w')) :
    MembershipsStored w'.db := by
  obtain rfl | ⟨_, _, i, tainr, -, -, hi, -, hdis, hs⟩ := networkDisconnect_spec h
  · exact hm
  · refine saveContainerAt_membershipsStored hm (DB.containerRef_lt hi) (fun m hm' => ?_) hs
    rw [(Container.disconnectNetwork_ok hdis).2] at hm'
    exact hm _ (DB.containerAt_mem (DB.containerRef_lt hi)) m (List.mem_of_mem_filter hm')

/-- Every request whose listings do not fail keeps memberships stored. -/
theorem Request.apply_membershipsStored (req : Request)
    (hl : ∀ b ∈ w.faults .listContainers, b = false) (hm : MembershipsStored w.db) :
    MembershipsStored (req.apply env w).db := by
  cases req with
  | volume req =>
    obtain ⟨hn, hc⟩ := req.apply_frame env w
    unfold MembershipsStored
    simpa only [Request.apply, hn, hc] using hm
  | network req =>
    cases req with
    | networkCreate body =>
      rcases h : networkCreate env body w with ⟨r, w'⟩
      obtain ⟨-, -, ⟨hdb, -⟩ | ⟨_, n, -, -, -, -, -, hdb⟩⟩ := networkCreate_spec h <;>
        simp only [Request.apply, NetworkRequest.apply, h, hdb]
      · exact hm
      · exact hm.saveNetwork n
    | networkInfo id => simpa [Request.apply, NetworkRequest.apply] using hm
    | networkExists id => simpa [Request.apply, NetworkRequest.apply] using hm
    | networkDelete id =>
      exact networkDelete_membershipsStored (World.fails_eq_false_of_reliable hl) hm
        (Prod.mk.eta).symm
    | networkConnect id body => exact networkConnect_membershipsStored hm (Prod.mk.eta).symm
    | networkDisconnect id body => exact networkDisconnect_membershipsStored hm (Prod.mk.eta).symm
    | networkPrune => exact networkPrune_membershipsStored hl hm (Prod.mk.eta).symm

end Step

/-- Every run whose store listings do not fail keeps the memberships of stored containers naming
stored networks. -/
theorem run_membershipsStored (env : Env) (w : World) (reqs : List Request)
    (hl : ∀ b ∈ w.faults .listContainers, b = false) (hm : MembershipsStored w.db) :
    MembershipsStored (run env w reqs).db :=
  (run_preserves env
    (P := fun w => (∀ b ∈ w.faults .listContainers, b = false) ∧ MembershipsStored w.db)
    (Q := fun _ => True)
    (fun req w _ h => ⟨(req.apply_consumed w).reliable h.1, req.apply_membershipsStored h.1 h.2⟩)
    reqs w (fun _ _ => trivial) ⟨hl, hm⟩).2

theorem run_membershipsStored_of_connect_and_delete :
    let w : World :=
      { db :=
          { networks := [{ id := "a", name := "net" }]
            containers := [{ id := "b", name := "app" }]
            seq := 2 }
        pvcs := []
        faults := fun _ => [] }
    let reqs : List Request :=
      [.network (.networkConnect "net" (.ok { container := "app", aliases := ["Web"] })),
        .network (.networkDelete "net"), .network (.networkDisconnect "net" (.ok { container := "app" })),
        .network .networkPrune]
    (∀ b ∈ w.faults .listContainers, b = false) ∧ MembershipsStored w.db ∧
      MembershipsStored (run Env.sample w reqs).db := by
  intro w reqs
  exact ⟨by decide, by decide, run_membershipsStored Env.sample w reqs (by decide) (by decide)⟩

/-- What a request keeps of predefined networks: every stored one, and every membership in one. -/
structure PredefinedKept (env : Env) (w w' : World) : Prop where
  networks : ∀ n ∈ w.db.networks, env.isPredefined n = true → n ∈ w'.db.networks
  memberships : ∀ c ∈ w.db.containers, ∀ n ∈ w.db.networks, env.isPredefined n = true →
    n.id ∈ c.networks → ∃ c' ∈ w'.db.containers, c'.id = c.id ∧ n.id ∈ c'.networks

section Predefined

variable {env : Env} {w w' : World}

theorem PredefinedKept.of_subset (hn : w.db.networks ⊆ w'.db.networks)
    (hc : w'.db.containers = w.db.containers) : PredefinedKept env w w' :=
  ⟨fun _ hn' _ => hn hn', fun c hc' _ _ _ hm => ⟨c, hc ▸ hc', rfl, hm⟩⟩

theorem PredefinedKept.of_db_eq (h : w'.db = w.db) : PredefinedKept env w w' :=
  .of_subset (by rw [h]; exact List.Subset.refl _) (by rw [h])

/-- Dropping networks, none of them predefined, keeps predefined networks. -/
theorem PredefinedKept.filter_networks {p : Network → Bool}
    (hp : ∀ n ∈ w.db.networks, env.isPredefined n = true → p n = true)
    (h : w'.db = { w.db with networks := w.db.networks.filter p }) : PredefinedKept env w w' :=
  ⟨fun n hn hpre => by rw [h]; exact List.mem_filter.mpr ⟨hn, hp n hn hpre⟩,
    fun c hc _ _ _ hm => ⟨c, by rw [h]; exact hc, rfl, hm⟩⟩

/-- A write through a pointer, maybe saved, that keeps the container's ID and its memberships in
predefined networks keeps predefined networks, in a store whose containers have distinct IDs. -/
theorem PredefinedKept.modifyContainer (hk : Keyed w.db.containers) {i : Nat}
    {f : Container → Container} (hi : i < w.db.containers.length)
    (hid : (f (w.db.containerAt i)).id = (w.db.containerAt i).id)
    (hkeep : ∀ n ∈ w.db.networks, env.isPredefined n = true →
      n.id ∈ (w.db.containerAt i).networks → n.id ∈ (f (w.db.containerAt i)).networks)
    (h : w'.db = w.db.modifyContainer i f ∨
      w'.db = ((w.db.modifyContainer i f).saveContainer env.idGen (f (w.db.containerAt i))).2) :
    PredefinedKept env w w' := by
  have hmem := DB.containerAt_mem hi
  have hne : (f (w.db.containerAt i)).id ≠ "" := hid ▸ hk.2 _ hmem
  have hmod : f (w.db.containerAt i) ∈ (w.db.modifyContainer i f).containers := by
    rw [← DB.containerAt_modifyContainer (f := f) hi]
    exact DB.containerAt_mem (by simpa using hi)
  refine ⟨fun n hn _ => by rcases h with h | h <;> simpa [h] using hn, fun c hc n hn hpre hm => ?_⟩
  by_cases hcx : c.id = (w.db.containerAt i).id
  · have hc' : c = w.db.containerAt i := List.inj_on_of_nodup_map hk.1 hc hmem (by simpa using hcx)
    refine ⟨_, ?_, hc' ▸ hid, hkeep n hn hpre (hc' ▸ hm)⟩
    rcases h with h | h <;> rw [h]
    · exact hmod
    · rw [DB.saveContainer_stored hne]; exact mem_upsert.mpr (.inl rfl)
  · have hc' := DB.mem_modifyContainer_of_ne (f := f) hc hcx
    refine ⟨c, ?_, rfl, hm⟩
    rcases h with h | h <;> rw [h]
    · exact hc'
    · rw [DB.saveContainer_stored hne]
      exact mem_upsert.mpr (.inr ⟨hc', by simpa [hid] using hcx⟩)

/-- A stored network that is not predefined has another ID than every predefined one. -/
theorem id_ne_of_predefined (hk : Keyed w.db.networks) {n m : Network} (hn : n ∈ w.db.networks)
    (hm : m ∈ w.db.networks) (hpre : env.isPredefined n = true)
    (hnot : env.isPredefined m = false) : n.id ≠ m.id := fun he => by
  rw [List.inj_on_of_nodup_map hk.1 hn hm (by simpa using he), hnot] at hpre
  cases hpre

/-- Every request of a store it can hold keeps predefined networks and memberships in them. -/
theorem Request.apply_predefinedKept (req : Request) (hwf : w.db.WellFormed env.idGen) :
    PredefinedKept env w (req.apply env w) := by
  cases req with
  | volume req =>
    obtain ⟨hn, hc⟩ := req.apply_frame env w
    exact .of_subset (by simp only [Request.apply, hn]; exact List.Subset.refl _) hc
  | network req =>
    cases req with
    | networkCreate body =>
      rcases h : networkCreate env body w with ⟨r, w'⟩
      obtain ⟨-, -, ⟨hdb, -⟩ | ⟨_, _, -, -, hid, -, -, hdb⟩⟩ := networkCreate_spec h <;>
        simp only [Request.apply, NetworkRequest.apply, h]
      · exact .of_db_eq hdb
      · rw [DB.saveNetwork_new hwf hid] at hdb
        exact .of_subset (by rw [hdb]; exact List.subset_append_left _ _) (by rw [hdb])
    | networkInfo id => exact .of_db_eq (by simp [Request.apply, NetworkRequest.apply])
    | networkExists id => exact .of_db_eq (by simp [Request.apply, NetworkRequest.apply])
    | networkDelete id =>
      rcases h : networkDelete env id w with ⟨r, w'⟩
      obtain ⟨-, -, ⟨hdb, -⟩ | ⟨netw, hnetw, hnot, -, -, hdel⟩⟩ := networkDelete_spec h <;>
        simp only [Request.apply, NetworkRequest.apply, h]
      · exact .of_db_eq hdb
      · refine .filter_networks (fun n hn hpre => ?_) (DB.deleteNetwork_some hdel)
        simpa using id_ne_of_predefined hwf.networks hn (findByNameOrID_some hnetw).1 hpre hnot
    | networkConnect id body =>
      rcases h : networkConnect env id body w with ⟨r, w'⟩
      simp only [Request.apply, NetworkRequest.apply, h]
      obtain ⟨rfl, -⟩ | ⟨_, _, i, -, -, hi, hs⟩ := networkConnect_spec h
      · exact .of_db_eq rfl
      · obtain ⟨-, -, hdb⟩ := saveContainerAt_modify (DB.containerRef_lt hi) hs
        exact .modifyContainer hwf.containers (DB.containerRef_lt hi) (by simp)
          (fun _ _ _ hm => mem_connectedContainer.mpr (.inl hm)) (hdb.imp And.right And.right).symm
    | networkDisconnect id body =>
      rcases h : networkDisconnect env id body w with ⟨r, w'⟩
      simp only [Request.apply, NetworkRequest.apply, h]
      obtain rfl | ⟨_, netw, i, tainr, -, hnetw, hi, hnot, hdis, hs⟩ := networkDisconnect_spec h
      · exact .of_db_eq rfl
      · obtain ⟨-, -, hdb⟩ := saveContainerAt_modify (DB.containerRef_lt hi) hs
        rw [(Container.disconnectNetwork_ok hdis).2] at hdb
        refine .modifyContainer hwf.containers (DB.containerRef_lt hi) rfl
          (fun n hn hpre hm => List.mem_filter.mpr ⟨hm, ?_⟩) (hdb.imp And.right And.right).symm
        simpa using id_ne_of_predefined hwf.networks hn (findByNameOrID_some hnetw).1 hpre hnot
    | networkPrune =>
      rcases h : networkPrune env w with ⟨r, w'⟩
      obtain ⟨-, -, removed, hsub, hdb, hnp, -⟩ := networkPrune_spec h
      simp only [Request.apply, NetworkRequest.apply, h]
      refine .filter_networks (fun n hn hpre => ?_) hdb
      simp only [decide_eq_true_eq, List.mem_map, not_exists, not_and]
      exact fun m hm he =>
        id_ne_of_predefined hwf.networks hn (hsub.subset hm) hpre (hnp m hm) he.symm

end Predefined

/-- No request removes a predefined network or a membership in one: `NetworkDelete` and
`NetworkDisconnect` of one are refused and change nothing, as is a disconnect of an unknown
container. -/
theorem predefined_networks_protected (env : Env) :
    (∀ (req : Request) (w : World), w.db.WellFormed env.idGen →
      PredefinedKept env w (req.apply env w)) ∧
    (∀ (w : World) (id : String) (n : Network), w.db.getNetworkByNameOrID id = some n →
      env.isPredefined n = true →
      networkDelete env id w =
        (.error statusForbidden (n.name ++ " is a pre-defined network and cannot be removed"), w)) ∧
    (∀ (w : World) (id : String) (req : NetworkDisconnectRequest) (n : Network) (c : Container),
      w.db.getNetworkByNameOrID id = some n → env.isPredefined n = true →
      w.db.getContainerByNameOrID req.container = some c →
      networkDisconnect env id (.ok req) w =
        (.error statusInternalServerError "cannot disconnect from predefined network", w)) ∧
    (∀ (w : World) (id : String) (req : NetworkDisconnectRequest),
      w.db.getContainerByNameOrID req.container = none →
      networkDisconnect env id (.ok req) w = (.error statusNotFound notFoundError, w)) := by
  refine ⟨fun req w hwf => req.apply_predefinedKept hwf, fun w id n hn hpre => ?_,
    fun w id req n c hn hpre hc => ?_, fun w id req hc => ?_⟩
  · simp [networkDelete, hn, hpre]
  · obtain ⟨i, hi, -⟩ := Option.map_eq_some'.mp ((DB.getContainerByNameOrID_eq _).symm.trans hc)
    simp [networkDisconnect, hn, hpre, hi]
  · simp only [networkDisconnect, DB.containerRef_eq_none.mpr hc]
    split <;> rfl

/-- A disconnect from the predefined network of a container the store does not hold is answered
with not-found, not refused with the predefined-network error. -/
theorem networkDisconnect_predefined_of_unknown_container :
    let w : World :=
      { db := { networks := [{ id := "a", name := "bridge" }], seq := 1 }
        pvcs := []
        faults := fun _ => [] }
    (w.db.getNetworkByNameOrID "bridge").map Env.sample.isPredefined = some true ∧
      (networkDisconnect Env.sample "bridge" (.ok { container := "ghost" }) w).1 =
        .error statusNotFound notFoundError := by
  decide

end Kubedock
