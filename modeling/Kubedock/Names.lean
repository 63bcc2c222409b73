import Kubedock.Server

/-! Create by name is idempotent: `VolumeCreate` and `NetworkCreate` return a stored entity of
the name untouched and otherwise append a new one with a fresh ID, and deletes and prunes only
drop entities, so no run from the empty store stores two volumes, or two networks, of one name. -/

namespace Kubedock

section Unique

variable {α : Type} [Entity α]

/-- No two entities of a table share a name. -/
def NamesUnique (xs : List α) : Prop := (xs.map Entity.name).Nodup

theorem NamesUnique.filter {xs : List α} (h : NamesUnique xs) (p : α → Bool) :
    NamesUnique (xs.filter p) :=
  h.sublist ((List.filter_sublist xs).map _)

theorem NamesUnique.append_fresh {xs : List α} {x : α} (h : NamesUnique xs)
    (hx : findByName xs (Entity.name x) = none) : NamesUnique (xs ++ [x]) := by
  rw [findByName_eq_none] at hx
  unfold NamesUnique at h ⊢
  simpa [List.nodup_append, h] using hx

/-- In a table without repeated names, the name lookup finds the entity of that name. -/
theorem NamesUnique.findByName_eq {xs : List α} {x : α} (h : NamesUnique xs) (hx : x ∈ xs) :
    findByName xs (Entity.name x) = some x := by
  obtain ⟨y, hy⟩ := Option.ne_none_iff_exists'.mp
    (mt findByName_eq_none.mp fun hn => hn x hx rfl)
  obtain ⟨hym, hyn⟩ := findByName_some hy
  rw [hy, List.inj_on_of_nodup_map h hym hx hyn]

end Unique

variable {env : Env} {w w' : World}

/-- With the name stored, `VolumeCreate` answers with the stored volume and changes nothing: no
store call, no PVC create call. -/
theorem volumeCreate_of_stored {req : VolumeCreateRequest} {v : Volume}
    (hv : w.db.getVolumeByName req.name = some v) :
    volumeCreate env (.ok req) w = (.ok statusCreated v, w) := by
  simp [volumeCreate, hv]

theorem networkCreate_of_stored {req : NetworkCreateRequest} {n : Network}
    (hn : w.db.getNetworkByName req.name = some n) :
    networkCreate env (.ok req) w = (.ok statusOK n, w) := by
  simp [networkCreate, hn]

/-- With the name not stored, a successful `VolumeCreate` appends one volume of that name. -/
theorem volumeCreate_of_not_stored {req : VolumeCreateRequest} {s : Nat} {v : Volume}
    (hwf : w.db.WellFormed env.idGen) (hnone : w.db.getVolumeByName req.name = none)
    (h : volumeCreate env (.ok req) w = (.ok s v, w')) :
    v.name = req.name ∧ w'.db.volumes = w.db.volumes ++ [v] := by
  obtain ⟨-, -, ⟨-, hr⟩ | ⟨req', u, hreq, hname, hid, -, -, hr, hdb⟩⟩ := volumeCreate_spec h
  · obtain ⟨-, req', hreq, hv⟩ := hr s v rfl
    cases hreq
    rw [hnone] at hv
    cases hv
  · cases hreq
    rw [DB.saveVolume_new hwf hid] at hr hdb
    cases hr
    simp [hdb, hname]

theorem networkCreate_of_not_stored {req : NetworkCreateRequest} {s : Nat} {n : Network}
    (hwf : w.db.WellFormed env.idGen) (hnone : w.db.getNetworkByName req.name = none)
    (h : networkCreate env (.ok req) w = (.ok s n, w')) :
    n.name = req.name ∧ w'.db.networks = w.db.networks ++ [n] := by
  obtain ⟨-, -, ⟨-, hr⟩ | ⟨req', m, hreq, hname, hid, -, hr, hdb⟩⟩ := networkCreate_spec h
  · obtain ⟨-, req', hreq, hn⟩ := hr s n rfl
    cases hreq
    rw [hnone] at hn
    cases hn
  · cases hreq
    rw [DB.saveNetwork_new hwf hid] at hr hdb
    cases hr
    simp [hdb, hname]

/-- The store's tables repeat no name. -/
structure DB.NamesUnique (db : DB) : Prop where
  volumes : Kubedock.NamesUnique db.volumes
  networks : Kubedock.NamesUnique db.networks

/-- Every request of a well-formed store keeps names unique. -/
theorem Request.apply_namesUnique (req : Request) (hwf : w.db.WellFormed env.idGen)
    (hu : w.db.NamesUnique) : (req.apply env w).db.NamesUnique := by
  cases req with
  | volume req =>
    obtain ⟨-, hdb | ⟨v, hid, hnone, hdb⟩ | ⟨p, hdb⟩⟩ := req.apply_spec env w <;>
      simp only [Request.apply, hdb]
    · exact hu
    · rw [DB.saveVolume_new hwf hid]
      exact ⟨hu.volumes.append_fresh (by simpa using hnone), hu.networks⟩
    · exact ⟨hu.volumes.filter p, hu.networks⟩
  | network req =>
    obtain ⟨-, -, hdb | ⟨n, hid, hnone, hdb⟩ | ⟨p, hdb⟩ | ⟨i, f, -, -, hdb | hdb⟩⟩ :=
      req.apply_spec env w <;> simp only [Request.apply, hdb]
    · exact hu
    · rw [DB.saveNetwork_new hwf hid]
      exact ⟨hu.volumes, hu.networks.append_fresh (by simpa using hnone)⟩
    · exact ⟨hu.volumes, hu.networks.filter p⟩
    all_goals exact ⟨by simpa using hu.volumes, by simpa using hu.networks⟩

/-- No run from the empty store stores two volumes, or two networks, of one name. -/
theorem run_namesUnique (faults : Call → List Bool) (reqs : List Request) :
    (run env (World.initial faults) reqs).db.NamesUnique := by
  refine (run_preserves env (P := fun w => w.db.WellFormed env.idGen ∧ w.db.NamesUnique)
    (Q := fun _ => True) (fun req w _ h => ⟨req.apply_wellFormed h.1, req.apply_namesUnique h.1 h.2⟩)
    reqs _ (fun _ _ => trivial) ⟨DB.wellFormed_empty _, ?_⟩).2
  exact ⟨List.nodup_nil, List.nodup_nil⟩

/-- Create by name is idempotent: with the name stored it answers the entity and changes nothing,
otherwise it appends one entity of the name; no run from the empty store repeats a name. -/
theorem create_by_name_idempotent (env : Env) :
    (∀ (w : World) (req : VolumeCreateRequest) (v : Volume), v ∈ w.db.volumes →
      v.name = req.name → NamesUnique w.db.volumes →
      volumeCreate env (.ok req) w = (.ok statusCreated v, w)) ∧
    (∀ (w : World) (req : NetworkCreateRequest) (n : Network), n ∈ w.db.networks →
      n.name = req.name → NamesUnique w.db.networks →
      networkCreate env (.ok req) w = (.ok statusOK n, w)) ∧
    (∀ (w w' : World) (req : VolumeCreateRequest) (s : Nat) (v : Volume),
      w.db.WellFormed env.idGen → (∀ u ∈ w.db.volumes, u.name ≠ req.name) →
      volumeCreate env (.ok req) w = (.ok s v, w') →
      v.name = req.name ∧ w'.db.volumes = w.db.volumes ++ [v]) ∧
    (∀ (w w' : World) (req : NetworkCreateRequest) (s : Nat) (n : Network),
      w.db.WellFormed env.idGen → (∀ m ∈ w.db.networks, m.name ≠ req.name) →
      networkCreate env (.ok req) w = (.ok s n, w') →
      n.name = req.name ∧ w'.db.networks = w.db.networks ++ [n]) ∧
    ∀ (faults : Call → List Bool) (reqs : List Request),
      NamesUnique (run env (World.initial faults) reqs).db.volumes ∧
      NamesUnique (run env (World.initial faults) reqs).db.networks := by
  refine ⟨fun w req v hv hname hu => volumeCreate_of_stored ?_,
    fun w req n hn hname hu => networkCreate_of_stored ?_,
    fun w w' req s v hwf hnone h => volumeCreate_of_not_stored hwf (findByName_eq_none.mpr hnone) h,
    fun w w' req s n hwf hnone h => networkCreate_of_not_stored hwf (findByName_eq_none.mpr hnone) h,
    fun faults reqs => ⟨(run_namesUnique faults reqs).volumes, (run_namesUnique faults reqs).networks⟩⟩
  · rw [← hname]; exact hu.findByName_eq hv
  · rw [← hname]; exact hu.findByName_eq hn

end Kubedock
