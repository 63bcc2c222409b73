import Kubedock.Concurrent
import Kubedock.Membership

/-! `NetworkConnect` running at once with `NetworkDelete` or `NetworkPrune`. The remover scans a
network's memberships and then deletes it; the connect resolves the network and later writes the
membership into the stored container, and nothing orders that write before the scan. A
membership of a network the store no longer holds arises only once the connect wrote it, whether
its save then succeeds or fails, and only of a network the remover reports it removed. -/

namespace Kubedock

/-- A connect that has written its membership through the pointer: past `ConnectNetwork`, or
replied after its save, which succeeded or failed. -/
def UpdatePhase.Joined : UpdatePhase → Prop
  | .joined _ | .merging _ _ _ | .save _ => True
  | .reply r => r = .ok statusOK () ∨ ∃ e, r = .error statusInternalServerError e
  | _ => False

/-- The network a connect has resolved and not yet joined. -/
def UpdatePhase.network : UpdatePhase → Option Network
  | .resolved netw | .found netw _ => some netw
  | _ => none

section Connect

variable {gone : List String} {dropping : Option Network} {p p' : UpdatePhase} {w w' : World}

/-- A connect in phase `p` racing a remover that deleted `gone` and is about to delete `dropping`:
a membership of a deleted network exists only once the connect joined. -/
structure ConnectRace (gone : List String) (dropping : Option Network) (p : UpdatePhase)
    (w : World) : Prop where
  stored : ∀ c ∈ w.db.containers, ∀ m ∈ c.networks,
    m ∈ w.db.networks.map Network.id ∨ p.Joined ∧ m ∈ gone
  resolved : ∀ netw, p.network = some netw →
    netw.id ∈ w.db.networks.map Network.id ∨ netw.id ∈ gone
  unattached : ∀ netw, dropping = some netw →
    (∀ c ∈ w.db.containers, netw.id ∉ c.networks) ∨ p.Joined
  listings : ∀ b ∈ w.faults .listContainers, b = false

/-- A call of the connect that adds no membership and keeps the networks. -/
theorem ConnectRace.retain (h : ConnectRace gone dropping p w) (hj : p.Joined → p'.Joined)
    (hnet : w'.db.networks = w.db.networks)
    (hmem : ∀ c ∈ w'.db.containers, ∀ m ∈ c.networks, ∃ d ∈ w.db.containers, m ∈ d.networks)
    (hc : World.Consumed w w')
    (hres : ∀ netw, p'.network = some netw →
      netw.id ∈ w.db.networks.map Network.id ∨ netw.id ∈ gone) :
    ConnectRace gone dropping p' w' where
  stored c hc' m hm := by
    obtain ⟨d, hd, hm⟩ := hmem c hc' m hm
    rw [hnet]
    exact (h.stored d hd m hm).imp_right (And.imp_left hj)
  resolved := hnet ▸ hres
  unattached netw hd := (h.unattached netw hd).imp
    (fun hfree c hc' hm => let ⟨d, hd, hm⟩ := hmem c hc' _ hm; hfree d hd hm) hj
  listings := hc.reliable h.listings

/-- A call of the connect that changes no table. -/
theorem ConnectRace.rephase (h : ConnectRace gone dropping p w) (hj : p.Joined → p'.Joined)
    (hres : ∀ netw, p'.network = some netw →
      netw.id ∈ w.db.networks.map Network.id ∨ netw.id ∈ gone) :
    ConnectRace gone dropping p' w :=
  h.retain hj rfl (fun c hc _ hm => ⟨c, hc, hm⟩) (World.Consumed.refl w) hres

/-- A call of the remover that changes no table and leaves it about to delete nothing. -/
theorem ConnectRace.quiet {d : Option Network} (h : ConnectRace gone dropping p w)
    (hdb : w'.db = w.db) (hc : World.Consumed w w') (hd : d = none) : ConnectRace gone d p w' where
  stored := hdb ▸ h.stored
  resolved := hdb ▸ h.resolved
  unattached _ hd' := nomatch hd.symm.trans hd'
  listings := hc.reliable h.listings

/-- The remover's membership scan found no member of `netw`, and it is about to delete it. -/
theorem ConnectRace.scan {netw : Network} (h : ConnectRace gone none p w) (hdb : w'.db = w.db)
    (hc : World.Consumed w w') (hfree : ∀ c ∈ w.db.containers, netw.id ∉ c.networks) :
    ConnectRace gone (some netw) p w' :=
  { h.quiet hdb hc rfl with unattached := fun _ hd => .inl (Option.some.inj hd ▸ hdb ▸ hfree) }

/-- The remover deleted `netw`. -/
theorem ConnectRace.drop {netw : Network} (h : ConnectRace gone (some netw) p w)
    (hdb : w'.db = { w.db with networks := w.db.networks.filter (fun m => m.id ≠ netw.id) })
    (hc : World.Consumed w w') : ConnectRace (gone ++ [netw.id]) none p w' := by
  have kept : ∀ m ∈ w.db.networks.map Network.id, m ≠ netw.id →
      m ∈ w'.db.networks.map Network.id := fun m hm he => by
    obtain ⟨x, hx, rfl⟩ := List.mem_map.mp hm
    exact hdb ▸ List.mem_map_of_mem _ (List.mem_filter.mpr ⟨hx, by simpa using he⟩)
  have keep : ∀ m, m ∈ w.db.networks.map Network.id ∨ m ∈ gone →
      m ∈ w'.db.networks.map Network.id ∨ m ∈ gone ++ [netw.id] := by
    rintro m (hm | hm)
    · by_cases he : m = netw.id
      · exact .inr (by simp [he])
      · exact .inl (kept m hm he)
    · exact .inr (List.mem_append_left _ hm)
  refine ⟨fun c hc' m hm => ?_, fun n hp => keep n.id (h.resolved n hp), nofun,
    hc.reliable h.listings⟩
  rw [hdb] at hc'
  rcases h.stored c hc' m hm with hs | ⟨hp, hg⟩
  · by_cases he : m = netw.id
    · rcases h.unattached netw rfl with hfree | hp
      · exact absurd (he ▸ hm) (hfree c hc')
      · exact .inr ⟨hp, by simp [he]⟩
    · exact .inl (kept m hs he)
  · exact .inr ⟨hp, List.mem_append_left _ hg⟩

/-- The connect's write of the membership of the network it resolved, through the pointer `i`. -/
theorem ConnectRace.join {netw : Network} {i : Nat} (h : ConnectRace gone dropping (.found netw i) w) :
    ConnectRace gone dropping (.joined i)
      { w with db := w.db.modifyContainer i (·.connectNetwork netw.id) } where
  stored c hc m hm := by
    have unjoined : ∀ d ∈ w.db.containers, m ∈ d.networks → m ∈ w.db.networks.map Network.id :=
      fun d hd hm => (h.stored d hd m hm).resolve_right fun h' => nomatch h'.1
    refine (?_ : _ ∨ m ∈ gone).imp_right fun hg => ⟨trivial, hg⟩
    rcases DB.mem_modifyContainer hc with hc | rfl
    · exact .inl (unjoined c hc hm)
    · rcases Container.mem_connectNetwork.mp hm with hm | rfl
      · obtain ⟨d, hd, hm⟩ := DB.mem_networks_containerAt hm
        exact .inl (unjoined d hd hm)
      · exact h.resolved _ rfl
  resolved := nofun
  unattached _ _ := .inr trivial
  listings := h.listings

variable {env : Env} {i : Nat}

/-- The connect's save of what the pointer `i` reads; it replies 200 or 500. -/
theorem ConnectRace.saved (h : ConnectRace gone dropping p w) :
    ConnectRace gone dropping (UpdatePhase.saved env i w).1 (UpdatePhase.saved env i w).2 := by
  rw [UpdatePhase.saved]
  rcases hs : saveContainerAt env i w with ⟨r, w'⟩
  obtain ⟨hc, -, ⟨rfl, hdb⟩ | ⟨⟨e, rfl⟩, hdb⟩⟩ := saveContainerAt_spec hs
  · exact h.retain (fun _ => .inl rfl) (by rw [hdb]; rfl)
      (fun c hc m hm => DB.mem_networks_saveContainerAt (hdb ▸ hc) hm) hc nofun
  · exact h.retain (fun _ => .inr ⟨e, rfl⟩) (by rw [hdb])
      (fun c hc m hm => ⟨c, hdb ▸ hc, hm⟩) hc nofun

/-- The alias loop appends aliases through the pointer and then saves. -/
theorem ConnectRace.mergeAdvance (h : ConnectRace gone dropping p w) :
    ∀ done rest, ConnectRace gone dropping (UpdatePhase.mergeAdvance env i done rest w).1
      (UpdatePhase.mergeAdvance env i done rest w).2
  | _, [] => h.saved
  | done, a :: as => by
    dsimp only [UpdatePhase.mergeAdvance]
    split_ifs
    · exact h.mergeAdvance done as
    · exact h.retain (fun _ => trivial) rfl
        (fun c hc m hm => DB.mem_networks_modifyContainer hc hm fun _ => rfl)
        (World.Consumed.refl w) nofun

/-- Every call of a `NetworkConnect` keeps the race invariant. -/
theorem ConnectRace.advance {id : String} {req : NetworkConnectRequest}
    (h : ConnectRace gone dropping p w) :
    ConnectRace gone dropping (UpdatePhase.connectAdvance env id req p w).1
      (UpdatePhase.connectAdvance env id req p w).2 := by
  cases p with
  | lookup =>
    show ConnectRace gone dropping (UpdatePhase.resolve id w.db) w
    unfold UpdatePhase.resolve
    cases hn : w.db.getNetworkByNameOrID id with
    | none => exact h.rephase nofun nofun
    | some netw =>
      refine h.rephase nofun fun n hn' => ?_
      cases hn'
      exact .inl (List.mem_map_of_mem _ (findByNameOrID_some hn).1)
  | resolved netw =>
    dsimp only [UpdatePhase.connectAdvance]
    cases w.db.containerRef req.container with
    | none => exact h.rephase nofun nofun
    | some i => exact h.rephase nofun fun n hn => Option.some.inj hn ▸ h.resolved netw rfl
  | found netw i => exact h.join
  | joined i => exact h.rephase (fun _ => trivial) nofun
  | merging i done rest => exact h.mergeAdvance done rest
  | save i => exact h.saved
  | reply r => exact h

end Connect

/-- The network a `NetworkDelete` thread is about to delete. -/
def DeletePhase.dropping : DeletePhase → Option Network
  | .drop netw => some netw
  | _ => none

/-- `NetworkConnect` racing `NetworkDelete`: the connect's race invariant, with no network
deleted, or the one the delete replied with. -/
def DeleteRace (pA : UpdatePhase) (pB : DeletePhase) (w : World) : Prop :=
  ∃ gone, ConnectRace gone pB.dropping pA w ∧
    (gone = [] ∨ ∃ netw, gone = [netw.id] ∧ pB = .reply (.ok statusOK [netw]))

/-- The network a `NetworkPrune` thread is about to delete. -/
def PrunePhase.dropping : PrunePhase → Option Network
  | .drop _ netw _ => some netw
  | _ => none

/-- The networks a `NetworkPrune` thread has deleted, where its phase tells them. -/
def PrunePhase.pruned : PrunePhase → Option (List Network)
  | .list => some []
  | .loop pruned _ => some pruned
  | .drop pruned _ _ => some pruned
  | .reply (.ok _ pruned) => some pruned
  | .reply (.error _ _) => none

/-- `NetworkConnect` racing `NetworkPrune`: the connect's race invariant, with the networks the
prune deleted. -/
def PruneRace (pA : UpdatePhase) (pB : PrunePhase) (w : World) : Prop :=
  ∃ gone, ConnectRace gone pB.dropping pA w ∧
    ∀ pruned, pB.pruned = some pruned → gone = pruned.map Network.id

section Remove

variable {env : Env} {gone : List String} {pA : UpdatePhase} {w : World}

theorem DeleteRace.advance_connect {pB : DeletePhase} {id : String} {req : NetworkConnectRequest}
    (h : DeleteRace pA pB w) :
    DeleteRace (UpdatePhase.connectAdvance env id req pA w).1 pB
      (UpdatePhase.connectAdvance env id req pA w).2 :=
  let ⟨gone, hc, hg⟩ := h
  ⟨gone, hc.advance, hg⟩

/-- The membership scan of `netw`: with listings that do not fail it reports every member. -/
theorem scan_spec {netw : Network} {members : List Container} {w' : World}
    (hs : getContainersInNetwork w netw = (members, w')) (hl : ∀ b ∈ w.faults .listContainers, b = false) :
    World.Consumed w w' ∧ w'.db = w.db ∧
      (members.length ≠ 0 ∨ ∀ c ∈ w.db.containers, netw.id ∉ c.networks) := by
  obtain ⟨hcons, hdb, -, hmem | ⟨-, hf⟩⟩ := getContainersInNetwork_spec hs
  · refine ⟨hcons, hdb, or_iff_not_imp_left.mpr fun hne c hc hn => hne ?_⟩
    rw [hmem]
    exact (List.length_pos_of_mem (List.mem_filter.mpr ⟨hc, decide_eq_true hn⟩)).ne'
  · rw [World.fails_eq_false_of_reliable hl] at hf
    cases hf

/-- Every call of a `NetworkDelete` keeps the race invariant. -/
theorem DeleteRace.advance {pB : DeletePhase} {key : String} (h : DeleteRace pA pB w) :
    DeleteRace pA (DeletePhase.advance env key pB w).1 (DeletePhase.advance env key pB w).2 := by
  obtain ⟨gone, hc, hg⟩ := h
  have hgone : ∀ {pB' : DeletePhase}, pB = pB' → (∀ r, pB' ≠ .reply r) → gone = [] :=
    fun he hp => hg.resolve_right fun ⟨_, _, h⟩ => hp _ (he ▸ h)
  cases pB with
  | lookup =>
    dsimp only [DeletePhase.advance]
    refine ⟨gone, hc.quiet rfl (World.Consumed.refl w) ?_, .inl (hgone rfl nofun)⟩
    cases w.db.getNetworkByNameOrID key with
    | none => rfl
    | some netw => dsimp only; split_ifs <;> rfl
  | scan netw =>
    dsimp only [DeletePhase.advance]
    rcases hs : getContainersInNetwork w netw with ⟨members, w'⟩
    obtain ⟨hcons, hdb, hne | hfree⟩ := scan_spec hs hc.listings
    · rw [if_pos hne]
      exact ⟨gone, hc.quiet hdb hcons rfl, .inl (hgone rfl nofun)⟩
    · split_ifs
      · exact ⟨gone, hc.quiet hdb hcons rfl, .inl (hgone rfl nofun)⟩
      · exact ⟨gone, hc.scan hdb hcons hfree, .inl (hgone rfl nofun)⟩
  | drop netw =>
    dsimp only [DeletePhase.advance]
    rcases hd : w.dbDeleteNetwork netw with ⟨r, w'⟩
    obtain ⟨hcons, -, ⟨hdb, -, hr⟩ | ⟨rfl, hdel⟩⟩ := World.dbDeleteNetwork_spec hd
    · cases r with
      | ok u => exact absurd rfl (hr u)
      | error e => exact ⟨gone, hc.quiet hdb hcons rfl, .inl (hgone rfl nofun)⟩
    · exact ⟨gone ++ [netw.id], hc.drop (DB.deleteNetwork_some hdel) hcons,
        .inr ⟨netw, by rw [hgone rfl nofun]; rfl, rfl⟩⟩
  | reply r => exact ⟨gone, hc, hg⟩

theorem PruneRace.advance_connect {pB : PrunePhase} {id : String} {req : NetworkConnectRequest}
    (h : PruneRace pA pB w) :
    PruneRace (UpdatePhase.connectAdvance env id req pA w).1 pB
      (UpdatePhase.connectAdvance env id req pA w).2 :=
  let ⟨gone, hc, hg⟩ := h
  ⟨gone, hc.advance, hg⟩

/-- Every call of the loop of `NetworkPrune` keeps the race invariant. -/
theorem PruneRace.loop {pruned : List Network} (hc : ConnectRace gone none pA w)
    (hg : gone = pruned.map Network.id) : ∀ netws,
    PruneRace pA (PrunePhase.loopAdvance env pruned netws w).1
      (PrunePhase.loopAdvance env pruned netws w).2
  | [] => ⟨gone, hc, fun _ h => by cases h; exact hg⟩
  | netw :: netws => by
    by_cases hp : env.isPredefined netw = true
    · simp only [PrunePhase.loopAdvance, if_pos hp]
      exact PruneRace.loop hc hg netws
    · simp only [PrunePhase.loopAdvance, if_neg hp]
      rcases hs : getContainersInNetwork w netw with ⟨members, w'⟩
      obtain ⟨hcons, hdb, hne | hfree⟩ := scan_spec hs hc.listings
      · rw [if_pos hne]
        exact ⟨gone, hc.quiet hdb hcons rfl, fun _ h => by cases h; exact hg⟩
      · split_ifs
        · exact ⟨gone, hc.quiet hdb hcons rfl, fun _ h => by cases h; exact hg⟩
        · exact ⟨gone, hc.scan hdb hcons hfree, fun _ h => by cases h; exact hg⟩

/-- Every call of a `NetworkPrune` keeps the race invariant. -/
theorem PruneRace.advance {pB : PrunePhase} (h : PruneRace pA pB w) :
    PruneRace pA (PrunePhase.advance env pB w).1 (PrunePhase.advance env pB w).2 := by
  obtain ⟨gone, hc, hg⟩ := h
  cases pB with
  | list =>
    dsimp only [PrunePhase.advance]
    rcases hl : w.dbGetNetworks with ⟨r, w'⟩
    obtain ⟨hcons, hdb⟩ := World.dbGetNetworks_spec w
    rw [hl] at hcons hdb
    cases r with
    | error e => exact ⟨gone, hc.quiet hdb hcons rfl, fun _ h => nomatch h⟩
    | ok netws => exact ⟨gone, hc.quiet hdb hcons rfl, fun _ h => by cases h; exact hg [] rfl⟩
  | loop pruned netws => exact PruneRace.loop hc (hg pruned rfl) netws
  | drop pruned netw netws =>
    dsimp only [PrunePhase.advance]
    rcases hd : w.dbDeleteNetwork netw with ⟨r, w'⟩
    obtain ⟨hcons, -, ⟨hdb, -, hr⟩ | ⟨rfl, hdel⟩⟩ := World.dbDeleteNetwork_spec hd
    · cases r with
      | ok u => exact absurd rfl (hr u)
      | error e => exact ⟨gone, hc.quiet hdb hcons rfl, fun _ h => nomatch h⟩
    · refine ⟨gone ++ [netw.id], hc.drop (DB.deleteNetwork_some hdel) hcons, fun _ h => ?_⟩
      cases h
      rw [hg pruned rfl, List.map_append]
      rfl
  | reply r => exact ⟨gone, hc, hg⟩

/-- The race invariant from a store whose memberships are all of stored networks. -/
theorem ConnectRace.initial (hm : MembershipsStored w.db)
    (hl : ∀ b ∈ w.faults .listContainers, b = false) : ConnectRace [] none .lookup w :=
  ⟨fun c hc m hm' => .inl (hm c hc m hm'), nofun, nofun, hl⟩

/-- A connect that joined has replied 200 or 500. -/
theorem UpdatePhase.joined_reply {r : Response Unit} (h : (UpdatePhase.reply r).Joined) :
    r = .ok statusOK () ∨ ∃ e, r = .error statusInternalServerError e := h

/-- `NetworkConnect` and `NetworkDelete` under any schedule, with listings that do not fail,
from a store whose memberships are all of stored networks: a membership of a network the store
no longer holds is of the network the delete replied with, once the connect saved. -/
theorem connect_delete_race {id key : String} {req : NetworkConnectRequest}
    (hm : MembershipsStored w.db) (hl : ∀ b ∈ w.faults .listContainers, b = false) (s : List Bool) :
    let r := interleave s (networkConnectThread env id req) (networkDeleteThread env key) w
    ∀ c ∈ r.2.2.db.containers, ∀ m ∈ c.networks, m ∈ r.2.2.db.networks.map Network.id ∨
      (r.1 = .ok statusOK () ∨ ∃ e, r.1 = .error statusInternalServerError e) ∧
        ∃ netw, r.2.1 = .ok statusOK [netw] ∧ m = netw.id := by
  obtain ⟨qA, qB, hA, hB, gone, hJ, hg⟩ := interleave_phases (J := DeleteRace)
    (UpdatePhase.connect_refines env id req) (DeletePhase.refines env key)
    (fun _ _ _ h => h.advance_connect) (fun _ _ _ h => h.advance) s
    (show DeleteRace .lookup .lookup w from ⟨[], ConnectRace.initial hm hl, .inl rfl⟩)
  obtain rfl := UpdatePhase.connectThread_eq_done env id hA
  obtain rfl := DeletePhase.thread_eq_done env key hB
  simp only [UpdatePhase.connectThread_lookup, DeletePhase.thread_lookup] at hJ hg ⊢
  intro c hc m hm'
  rcases hJ.stored c hc m hm' with hs | ⟨hr, hg'⟩
  · exact .inl hs
  · rcases hg with rfl | ⟨netw, rfl, hrB⟩
    · cases hg'
    · exact .inr ⟨UpdatePhase.joined_reply hr, netw, DeletePhase.reply.inj hrB,
        List.mem_singleton.mp hg'⟩

/-- `NetworkConnect` and `NetworkPrune` under any schedule: a dangling membership arises only once
the connect wrote it, and is of a network a successful prune reports. -/
theorem connect_prune_race {id : String} {req : NetworkConnectRequest}
    (hm : MembershipsStored w.db) (hl : ∀ b ∈ w.faults .listContainers, b = false) (s : List Bool) :
    let r := interleave s (networkConnectThread env id req) (networkPruneThread env) w
    ∀ c ∈ r.2.2.db.containers, ∀ m ∈ c.networks, m ∈ r.2.2.db.networks.map Network.id ∨
      (r.1 = .ok statusOK () ∨ ∃ e, r.1 = .error statusInternalServerError e) ∧
        ∀ pruned, r.2.1 = .ok statusOK pruned → m ∈ pruned.map Network.id := by
  obtain ⟨qA, qB, hA, hB, gone, hJ, hg⟩ := interleave_phases (J := PruneRace)
    (UpdatePhase.connect_refines env id req) (PrunePhase.refines env)
    (fun _ _ _ h => h.advance_connect) (fun _ _ _ h => h.advance) s
    (show PruneRace .lookup .list w from ⟨[], ConnectRace.initial hm hl, fun _ h => by cases h; rfl⟩)
  obtain rfl := UpdatePhase.connectThread_eq_done env id hA
  simp only [UpdatePhase.connectThread_lookup, PrunePhase.thread_list] at hB hJ hg ⊢
  intro c hc m hm'
  rcases hJ.stored c hc m hm' with hs | ⟨hr, hg'⟩
  · exact .inl hs
  · refine .inr ⟨UpdatePhase.joined_reply hr, fun pruned hrB => ?_⟩
    rcases PrunePhase.thread_eq_done env hB with hq | ⟨pruned', netws, hq, hrB'⟩
    · rw [hq, hrB] at hg
      rwa [hg pruned rfl] at hg'
    · rw [hrB] at hrB'
      obtain rfl := (Response.ok.inj hrB').2
      rw [hq] at hg
      rwa [hg pruned rfl] at hg'

end Remove

/-- `NetworkConnect` racing a network remover under any schedule: a dangling membership arises
only once the connect wrote it, and only of a network the remover reports it removed. -/
theorem concurrent_connect_and_remove (env : Env) (s : List Bool) (w : World) (id : String)
    (req : NetworkConnectRequest) (hm : MembershipsStored w.db)
    (hl : ∀ b ∈ w.faults .listContainers, b = false) :
    (∀ key : String,
      let r := interleave s (networkConnectThread env id req) (networkDeleteThread env key) w
      ∀ c ∈ r.2.2.db.containers, ∀ m ∈ c.networks, m ∈ r.2.2.db.networks.map Network.id ∨
        (r.1 = .ok statusOK () ∨ ∃ e, r.1 = .error statusInternalServerError e) ∧
          ∃ netw, r.2.1 = .ok statusOK [netw] ∧ m = netw.id) ∧
    (let r := interleave s (networkConnectThread env id req) (networkPruneThread env) w
      ∀ c ∈ r.2.2.db.containers, ∀ m ∈ c.networks, m ∈ r.2.2.db.networks.map Network.id ∨
        (r.1 = .ok statusOK () ∨ ∃ e, r.1 = .error statusInternalServerError e) ∧
          ∀ pruned, r.2.1 = .ok statusOK pruned → m ∈ pruned.map Network.id) :=
  ⟨fun _ => connect_delete_race hm hl s, connect_prune_race hm hl s⟩

theorem concurrent_connect_and_remove_of_one_network :
    let w : World :=
      { db :=
          { networks := [{ id := "a", name := "net" }]
            containers := [{ id := "b", name := "app" }]
            seq := 2 }
        pvcs := []
        faults := fun _ => [] }
    let r := interleave [true, true, false, false, false, true, true, true]
      (networkConnectThread Env.sample "net" { container := "app" })
      (networkDeleteThread Env.sample "net") w
    MembershipsStored w.db ∧ (∀ b ∈ w.faults .listContainers, b = false) ∧
      ∀ c ∈ r.2.2.db.containers, ∀ m ∈ c.networks, m ∈ r.2.2.db.networks.map Network.id ∨
        (r.1 = .ok statusOK () ∨ ∃ e, r.1 = .error statusInternalServerError e) ∧
          ∃ netw, r.2.1 = .ok statusOK [netw] ∧ m = netw.id := by
  intro w r
  have hm : MembershipsStored w.db := by decide
  have hl : ∀ b ∈ w.faults .listContainers, b = false := nofun
  exact ⟨hm, hl, (concurrent_connect_and_remove Env.sample _ w _ _ hm hl).1 "net"⟩

/-- A `NetworkConnect` that resolves the network and the container before a `NetworkDelete`
runs, and writes the membership after it: both succeed, and the stored container is a member of
the network the store no longer holds. -/
theorem connect_around_delete_strands_membership :
    let w : World :=
      { db :=
          { networks := [{ id := "a", name := "net" }]
            containers := [{ id := "b", name := "app" }]
            seq := 2 }
        pvcs := []
        faults := fun _ => [] }
    let r := interleave [true, true, false, false, false, true, true, true]
      (networkConnectThread Env.sample "net" { container := "app" })
      (networkDeleteThread Env.sample "net") w
    MembershipsStored w.db ∧ ¬ MembershipsStored r.2.2.db ∧ r.1 = .ok statusOK () ∧
      r.2.1 = .ok statusOK [{ id := "a", name := "net" }] := by
  decide

/- The same run with the connect's save failing: the membership was written through the pointer
before the save, so it dangles although the connect answers 500. -/
example :
    let w : World :=
      { db :=
          { networks := [{ id := "a", name := "net" }]
            containers := [{ id := "b", name := "app" }]
            seq := 2 }
        pvcs := []
        faults := fun c => if c = .saveContainer then [true] else [] }
    let r := interleave [true, true, false, false, false, true, true, true]
      (networkConnectThread Env.sample "net" { container := "app" })
      (networkDeleteThread Env.sample "net") w
    ¬ MembershipsStored r.2.2.db ∧ r.1 = .error statusInternalServerError storeError ∧
      r.2.1 = .ok statusOK [{ id := "a", name := "net" }] := by
  decide

end Kubedock
