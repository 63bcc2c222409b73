import Mathlib.Data.List.Basic

/-! The entities the server keeps (`internal/model/types`), with the fields the handlers read. A
Go `map[string]string` is the list of its entries. `Volume.match` is the entity side of the filter
engine, with `regexp.MatchString` a parameter; container methods whose bodies are not among the
sources are written from the spec and say so. -/

namespace Kubedock

/-- A Go `map[string]string`, as the list of its entries. -/
abbrev Labels := List (String × String)

/-- `m[k] = v`: the entry for `k` is replaced. -/
def Labels.set (m : Labels) (k v : String) : Labels := (k, v) :: m.filter (fun p => p.1 ≠ k)

/-- `for k, v := range src { m[k] = v }`. -/
def Labels.merge (m src : Labels) : Labels := src.foldl (fun m p => m.set p.1 p.2) m

@[simp] theorem Labels.lookup_set_self (m : Labels) (k v : String) :
    (m.set k v).lookup k = some v :=
  List.lookup_cons_self

namespace Labels

theorem lookup_filter_ne {k k' : String} (h : k' ≠ k) :
    ∀ m : Labels, (m.filter (fun p => p.1 ≠ k)).lookup k' = m.lookup k'
  | [] => rfl
  | (a, b) :: m => by
    by_cases ha : a = k
    · subst ha
      rw [List.filter_cons_of_neg (by simp), lookup_filter_ne h m, List.lookup_cons,
        beq_false_of_ne h]
    · rw [List.filter_cons_of_pos (by simpa using ha), List.lookup_cons, List.lookup_cons,
        lookup_filter_ne h m]

/-- A map read after `m[k] = v`. -/
theorem lookup_set (m : Labels) (k v k' : String) :
    (m.set k v).lookup k' = if k' = k then some v else m.lookup k' := by
  by_cases h : k' = k
  · subst h; simp
  · rw [set, List.lookup_cons, lookup_filter_ne h, beq_false_of_ne h, if_neg h]

theorem keys_set (m : Labels) (k v : String) :
    (m.set k v).map Prod.fst = k :: (m.map Prod.fst).filter (· ≠ k) := by
  simp [set, List.filter_map, Function.comp_def]

/-- `m[k] = v` keeps the keys of a map distinct. -/
theorem nodup_keys_set {m : Labels} (h : (m.map Prod.fst).Nodup) (k v : String) :
    ((m.set k v).map Prod.fst).Nodup := by
  rw [keys_set]
  exact List.nodup_cons.mpr ⟨by simp, h.filter _⟩

theorem nodup_keys_merge : ∀ {m : Labels} (src : Labels), (m.map Prod.fst).Nodup →
    ((m.merge src).map Prod.fst).Nodup
  | _, [], h => h
  | _, p :: src, h => nodup_keys_merge src (nodup_keys_set h p.1 p.2)

/-- A map read after copying into it a map with distinct keys: the copied entry wins. -/
theorem lookup_merge (k : String) : ∀ {m src : Labels}, (src.map Prod.fst).Nodup →
    (m.merge src).lookup k = (src.lookup k).or (m.lookup k)
  | _, [], _ => rfl
  | m, (a, b) :: src, h => by
    obtain ⟨ha, hsrc⟩ := List.nodup_cons.mp h
    show ((m.set a b).merge src).lookup k = _
    rw [lookup_merge k hsrc, lookup_set, List.lookup_cons]
    by_cases hk : k = a
    · have hnone : src.lookup k = none := List.lookup_eq_none_iff.mpr fun p hp =>
        bne_iff_ne.mpr fun he => ha (by
          show a ∈ src.map Prod.fst
          rw [← hk, he]
          exact List.mem_map_of_mem _ hp)
      rw [hnone, if_pos hk, hk, beq_self_eq_true]
      rfl
    · rw [if_neg hk, beq_false_of_ne hk]

end Labels

/-- `types.Volume`. `Created` is not modelled: no handler decision reads it. -/
structure Volume where
  id : String := ""
  shortId : String := ""
  name : String
  driver : String := ""
  labels : Labels := []
  mountpoint : String := ""
  deriving DecidableEq, Repr

/-- `Volume.nameMatch`: the exact name first, then the key as a regular expression. -/
def Volume.nameMatch (matchString : String → String → Except String Bool) (v : Volume)
    (key : String) : Except String Bool :=
  if v.name = key then .ok true else matchString key v.name

/-- `Volume.Match`. -/
def Volume.match (matchString : String → String → Except String Bool) (v : Volume)
    (typ key val : String) : Except String Bool :=
  if typ = "name" then v.nameMatch matchString key
  else if typ = "driver" then .ok (v.driver == key)
  else if typ ≠ "label" then .ok true
  else match v.labels.lookup key with
    | none => .ok false
    | some vv => .ok (vv == val)

/-- A filter of a type other than `name` never fails: `driver` matches the driver, `label` a
stored label of the key with the value, and every other type matches. -/
theorem Volume.match_of_ne_name (matchString : String → String → Except String Bool) (v : Volume)
    {typ : String} (key val : String) (h : typ ≠ "name") :
    v.match matchString typ key val = .ok (decide ((typ = "driver" → v.driver = key) ∧
      (typ = "label" → v.labels.lookup key = some val))) := by
  unfold Volume.match
  rw [if_neg h]
  by_cases hd : typ = "driver"
  · subst hd; simp [Bool.beq_eq_decide_eq]
  · by_cases hl : typ = "label"
    · subst hl
      cases v.labels.lookup key <;> simp [Bool.beq_eq_decide_eq]
    · simp [hd, hl]

/-- A `name` filter of the volume's own name matches without the regular expression. -/
theorem Volume.match_own_name (matchString : String → String → Except String Bool) (v : Volume)
    (val : String) : v.match matchString "name" v.name val = .ok true := by
  simp [Volume.match, Volume.nameMatch]

/- The cases of `TestVolumeMatch`, with a regular expression that matches only where the test
expects it to. -/
example :
    let v : Volume := { name := "myvolume", driver := "local", labels := [("env", "test")] }
    let re : String → String → Except String Bool := fun k n => .ok (k = "my.*" && n = "myvolume")
    v.match re "label" "env" "test" = .ok true ∧ v.match re "label" "env" "prod" = .ok false ∧
      v.match re "label" "missing" "test" = .ok false ∧ v.match re "name" "myvolume" "" = .ok true ∧
      v.match re "name" "other" "" = .ok false ∧ v.match re "name" "my.*" "" = .ok true ∧
      v.match re "driver" "local" "" = .ok true ∧ v.match re "driver" "nfs" "" = .ok false ∧
      v.match re "unknown" "foo" "bar" = .ok true :=
  ⟨rfl, rfl, rfl, rfl, rfl, rfl, rfl, rfl, rfl⟩

/-- `types.Network`, with the fields the libpod handlers read; `Created` is not modelled. -/
structure Network where
  id : String := ""
  name : String
  labels : Labels := []
  deriving DecidableEq, Repr

/-- `types.Container`, with the fields the network handlers read and write. -/
structure Container where
  id : String
  name : String
  networks : List String := []
  networkAliases : List String := []
  deriving DecidableEq, Repr, Inhabited

/-- Modelled from the spec: `Container.ConnectNetwork` (absent from the sources) adds the
membership and is idempotent. -/
def Container.connectNetwork (c : Container) (id : String) : Container :=
  if id ∈ c.networks then c else { c with networks := c.networks ++ [id] }

/-- Modelled from the spec: `Container.DisconnectNetwork` (absent from the sources) removes the
membership, and fails with a not-found error when the container was not a member. -/
def Container.disconnectNetwork (c : Container) (id : String) : Except String Container :=
  if id ∈ c.networks then .ok { c with networks := c.networks.filter (· ≠ id) }
  else .error ("container is not connected to network " ++ id)

theorem Container.mem_connectNetwork {c : Container} {id m : String} :
    m ∈ (c.connectNetwork id).networks ↔ m ∈ c.networks ∨ m = id := by
  unfold connectNetwork
  split_ifs with h
  · exact ⟨Or.inl, by rintro (hm | rfl) <;> assumption⟩
  · simp

@[simp] theorem Container.connectNetwork_id (c : Container) (id : String) :
    (c.connectNetwork id).id = c.id := by
  unfold connectNetwork; split_ifs <;> rfl

@[simp] theorem Container.connectNetwork_name (c : Container) (id : String) :
    (c.connectNetwork id).name = c.name := by
  unfold connectNetwork; split_ifs <;> rfl

@[simp] theorem Container.connectNetwork_networkAliases (c : Container) (id : String) :
    (c.connectNetwork id).networkAliases = c.networkAliases := by
  unfold connectNetwork; split_ifs <;> rfl

theorem Container.disconnectNetwork_ok {c c' : Container} {id : String}
    (h : c.disconnectNetwork id = .ok c') :
    id ∈ c.networks ∧ c' = { c with networks := c.networks.filter (· ≠ id) } := by
  unfold disconnectNetwork at h
  split_ifs at h with hm
  · exact ⟨hm, (Except.ok.inj h).symm⟩

end Kubedock
