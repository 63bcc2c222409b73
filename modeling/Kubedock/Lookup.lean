import Kubedock.Names

/-! Creating by name and resolving by name or ID. Create looks the name up by exact name, while
info, exists, connect and delete resolve their key by ID first. The two agree on a created entity
unless the name is the ID of another stored entity of its kind, which the key then resolves to. -/

namespace Kubedock

variable {env : Env} {w w' w'' : World}

/-- With no stored volume having the requested name as ID, the key of a successful
`VolumeCreate` resolves to the volume it answers with. -/
theorem volumeCreate_resolves {req : VolumeCreateRequest} {s : Nat} {v : Volume}
    (hwf : w.db.WellFormed env.idGen) (hid : ∀ u ∈ w.db.volumes, u.id ≠ req.name)
    (h : volumeCreate env (.ok req) w = (.ok s v, w')) :
    w'.db.getVolumeByNameOrID req.name = some v := by
  cases hv : w.db.getVolumeByName req.name with
  | some u =>
    rw [volumeCreate_of_stored hv] at h
    obtain ⟨⟨⟩, rfl⟩ := Prod.mk.inj h
    rw [DB.getVolumeByNameOrID, findByNameOrID_of_no_id hid]
    exact hv
  | none =>
    obtain ⟨hname, hvol⟩ := volumeCreate_of_not_stored hwf hv h
    rw [DB.getVolumeByNameOrID, hvol, ← hname]
    exact findByNameOrID_append (fun u hu => by simpa [hname] using hid u hu)
      (fun u hu => by simpa [hname] using findByName_eq_none.mp hv u hu)

theorem networkCreate_resolves {req : NetworkCreateRequest} {s : Nat} {n : Network}
    (hwf : w.db.WellFormed env.idGen) (hid : ∀ m ∈ w.db.networks, m.id ≠ req.name)
    (h : networkCreate env (.ok req) w = (.ok s n, w')) :
    w'.db.getNetworkByNameOrID req.name = some n := by
  cases hn : w.db.getNetworkByName req.name with
  | some m =>
    rw [networkCreate_of_stored hn] at h
    obtain ⟨⟨⟩, rfl⟩ := Prod.mk.inj h
    rw [DB.getNetworkByNameOrID, findByNameOrID_of_no_id hid]
    exact hn
  | none =>
    obtain ⟨hname, hnet⟩ := networkCreate_of_not_stored hwf hn h
    rw [DB.getNetworkByNameOrID, hnet, ← hname]
    exact findByNameOrID_append (fun m hm => by simpa [hname] using hid m hm)
      (fun m hm => by simpa [hname] using findByName_eq_none.mp hn m hm)

/-- A `VolumeDelete` whose key resolves to `v` removes `v` and no other volume, unless its store
delete fails. -/
theorem volumeDelete_removes_resolved {id : String} {v : Volume} {r : Response Unit}
    (hk : Keyed w.db.volumes) (hv : w.db.getVolumeByNameOrID id = some v)
    (h : volumeDelete env id w = (r, w')) :
    (∀ u, u ∈ w'.db.volumes ↔ u ∈ w.db.volumes ∧ u ≠ v) ∨
      w'.db.volumes = w.db.volumes ∧ w.fails .deleteVolume = true := by
  have hmem := (findByNameOrID_some hv).1
  obtain ⟨-, ⟨-, -, hnone⟩ | ⟨v', hv', -, ⟨hdb, hf⟩ | ⟨-, hdel⟩⟩⟩ := volumeDelete_spec h
  · rw [hv] at hnone; cases hnone
  all_goals obtain rfl : v' = v := Option.some.inj (hv'.symm.trans hv)
  · refine .inr ⟨by rw [hdb], hf.resolve_right (DB.deleteVolume_ne_none (List.mem_map_of_mem _ hmem))⟩
  · refine .inl fun u => ?_
    rw [DB.deleteVolume_some hdel]
    exact hk.mem_filter_id_ne hmem

/-- A `NetworkDelete` whose key resolves to `n` removes `n` and no other network, unless `n` is
predefined, has a member, or the store delete fails. -/
theorem networkDelete_removes_resolved {id : String} {n : Network} {r : Response (List Network)}
    (hk : Keyed w.db.networks) (hn : w.db.getNetworkByNameOrID id = some n)
    (h : networkDelete env id w = (r, w')) :
    (∀ m, m ∈ w'.db.networks ↔ m ∈ w.db.networks ∧ m ≠ n) ∨
      w'.db.networks = w.db.networks ∧ (env.isPredefined n = true ∨
        (∃ c ∈ w.db.containers, n.id ∈ c.networks) ∨ w.fails .deleteNetwork = true) := by
  have hmem := (findByNameOrID_some hn).1
  obtain ⟨-, -, ⟨hdb, hwhy⟩ | ⟨netw, hnetw, -, -, -, hdel⟩⟩ := networkDelete_spec h
  · refine .inr ⟨by rw [hdb], ?_⟩
    rcases hwhy n hn with h' | h' | h' | h'
    exacts [.inl h', .inr (.inl h'), .inr (.inr h'),
      absurd h' (DB.deleteNetwork_ne_none (List.mem_map_of_mem _ hmem))]
  · obtain rfl : netw = n := Option.some.inj (hnetw.symm.trans hn)
    refine .inl fun m => ?_
    rw [DB.deleteNetwork_some hdel]
    exact hk.mem_filter_id_ne hmem

/-- A decoded `NetworkConnect` whose key resolves to `n` and whose container resolves leaves that
container a member of `n`, whether its save fails or not. -/
theorem networkConnect_joins_resolved {id : String} {req : NetworkConnectRequest} {n : Network}
    {c : Container} {r : Response Unit} (hk : Keyed w.db.containers)
    (hn : w.db.getNetworkByNameOrID id = some n) (hc : w.db.getContainerByNameOrID req.container = some c)
    (h : networkConnect env id (.ok req) w = (r, w')) :
    ∃ c' ∈ w'.db.containers, c'.id = c.id ∧ n.id ∈ c'.networks := by
  obtain ⟨-, hnone⟩ | ⟨_, netw, i, hreq, hnetw, hi, hs⟩ := networkConnect_spec h
  · rcases hnone req rfl with h' | h'
    · rw [hn] at h'; cases h'
    · rw [DB.containerRef_eq_none.mp h'] at hc; cases hc
  cases hreq
  obtain rfl : netw = n := Option.some.inj (hnetw.symm.trans hn)
  obtain rfl : w.db.containerAt i = c := Option.some.inj ((DB.containerRef_some hi).symm.trans hc)
  have hlt := DB.containerRef_lt hi
  have hmem : connectedContainer env.toLower (w.db.containerAt i) netw req.aliases ∈
      (w.db.modifyContainer i (connectedContainer env.toLower · netw req.aliases)).containers := by
    rw [← DB.containerAt_modifyContainer (f := (connectedContainer env.toLower · netw req.aliases)) hlt]
    exact DB.containerAt_mem (by simpa using hlt)
  refine ⟨connectedContainer env.toLower (w.db.containerAt i) netw req.aliases, ?_, by simp,
    mem_connectedContainer.mpr (.inr rfl)⟩
  obtain ⟨-, -, ⟨-, hdb⟩ | ⟨-, hdb⟩⟩ := saveContainerAt_modify hlt hs <;> rw [hdb]
  · rw [DB.saveContainer_stored (by simpa using hk.2 _ (DB.containerAt_mem hlt))]
    exact mem_upsert.mpr (.inl rfl)
  · exact hmem

/-- When the created name is the ID of no stored entity of its kind, the lookups of the name after
a successful create resolve to the created entity, a connect joins it, and a delete removes it or
fails on its store call, the predefined check or a membership. -/
theorem created_entity_resolves (env : Env) :
    (∀ (w w' : World) (req : VolumeCreateRequest) (s : Nat) (v : Volume),
      w.db.WellFormed env.idGen → (∀ u ∈ w.db.volumes, u.id ≠ req.name) →
      volumeCreate env (.ok req) w = (.ok s v, w') →
      w'.db.getVolumeByNameOrID req.name = some v ∧
      (volumeInfo req.name w').1 = .ok statusOK v ∧
      (volumeExists req.name w').1 = .ok statusNoContent () ∧
      ∀ r w'', volumeDelete env req.name w' = (r, w'') →
        (∀ u, u ∈ w''.db.volumes ↔ u ∈ w'.db.volumes ∧ u ≠ v) ∨
          w''.db.volumes = w'.db.volumes ∧ w'.fails .deleteVolume = true) ∧
    (∀ (w w' : World) (req : NetworkCreateRequest) (s : Nat) (n : Network),
      w.db.WellFormed env.idGen → (∀ m ∈ w.db.networks, m.id ≠ req.name) →
      networkCreate env (.ok req) w = (.ok s n, w') →
      w'.db.getNetworkByNameOrID req.name = some n ∧
      (networkInfo req.name w').1 = .ok statusOK n ∧
      (∀ (creq : NetworkConnectRequest) c r w'', w'.db.getContainerByNameOrID creq.container = some c →
        networkConnect env req.name (.ok creq) w' = (r, w'') →
        ∃ c' ∈ w''.db.containers, c'.id = c.id ∧ n.id ∈ c'.networks) ∧
      ∀ r w'', networkDelete env req.name w' = (r, w'') →
        (∀ m, m ∈ w''.db.networks ↔ m ∈ w'.db.networks ∧ m ≠ n) ∨
          w''.db.networks = w'.db.networks ∧ (env.isPredefined n = true ∨
            (∃ c ∈ w'.db.containers, n.id ∈ c.networks) ∨ w'.fails .deleteNetwork = true)) := by
  refine ⟨fun w w' req s v hwf hid h => ?_, fun w w' req s n hwf hid h => ?_⟩
  · have hv := volumeCreate_resolves hwf hid h
    have hwf' : w'.db.WellFormed env.idGen := by
      simpa [Request.apply, VolumeRequest.apply, h] using
        (Request.volume (.volumeCreate (.ok req))).apply_wellFormed hwf
    exact ⟨hv, by simp [volumeInfo, hv], by simp [volumeExists, hv],
      fun r w'' hd => volumeDelete_removes_resolved hwf'.volumes hv hd⟩
  · have hn := networkCreate_resolves hwf hid h
    have hwf' : w'.db.WellFormed env.idGen := by
      simpa [Request.apply, NetworkRequest.apply, h] using
        (Request.network (.networkCreate (.ok req))).apply_wellFormed hwf
    exact ⟨hn, by simp [networkInfo, hn],
      fun creq c r w'' hc hcon => networkConnect_joins_resolved hwf'.containers hn hc hcon,
      fun r w'' hd => networkDelete_removes_resolved hwf'.networks hn hd⟩

/-- Named after the ID of a stored volume, a new volume is not what its name resolves to: a
volume `x` takes the ID `a`, and after creating a volume named `a`, `VolumeInfo` of `a` answers
with `x`. -/
theorem volumeInfo_after_create_resolves_other :
    let w : World := run Env.sample (World.initial fun _ => [])
      [.volume (.volumeCreate (.ok { name := "x" }))]
    let v : Volume :=
      { id := "aa", shortId := "aa", name := "a", driver := "local"
        mountpoint := "/var/lib/kubedock/volumes/a" }
    (volumeCreate Env.sample (.ok { name := "a" }) w).1 = .ok statusCreated v ∧
      (volumeInfo "a" (volumeCreate Env.sample (.ok { name := "a" }) w).2).1 ≠ .ok statusOK v := by
  decide

end Kubedock
