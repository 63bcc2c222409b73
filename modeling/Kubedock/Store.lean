import Kubedock.Types
import Mathlib.Data.List.Nodup
import Mathlib.Data.List.GetD

/-! Modelled from the spec: the entity store (`cr.DB`), not among the sources. Each kind is a list,
with one definition per operation through `Entity`: `GetByNameOrID` tries the ID first, `Save`
gives an entity without an ID the next one, `Delete` removes by ID. Containers are held by
reference: a lookup hands out a pointer (`containerRef`) that handlers write through.
`DB.WellFormed` is the store's invariant. -/

namespace Kubedock

/-- What the store reads of an entity, and how an entity takes the ID the store gives it. -/
class Entity (α : Type) where
  id : α → String
  name : α → String
  assignId : α → String → α
  id_assignId : ∀ x i, id (assignId x i) = i
  name_assignId : ∀ x i, name (assignId x i) = name x

open Entity

/-- A volume's short ID is a twelve-character prefix of its ID. -/
instance : Entity Volume where
  id := Volume.id
  name := Volume.name
  assignId v i := { v with id := i, shortId := i.take 12 }
  id_assignId _ _ := rfl
  name_assignId _ _ := rfl

instance : Entity Network where
  id := Network.id
  name := Network.name
  assignId n i := { n with id := i }
  id_assignId _ _ := rfl
  name_assignId _ _ := rfl

instance : Entity Container where
  id := Container.id
  name := Container.name
  assignId c i := { c with id := i }
  id_assignId _ _ := rfl
  name_assignId _ _ := rfl

@[simp] theorem Entity.id_volume (v : Volume) : Entity.id v = v.id := rfl
@[simp] theorem Entity.name_volume (v : Volume) : Entity.name v = v.name := rfl
@[simp] theorem Entity.id_network (n : Network) : Entity.id n = n.id := rfl
@[simp] theorem Entity.name_network (n : Network) : Entity.name n = n.name := rfl
@[simp] theorem Entity.id_container (c : Container) : Entity.id c = c.id := rfl
@[simp] theorem Entity.name_container (c : Container) : Entity.name c = c.name := rfl
attribute [simp] Entity.id_assignId Entity.name_assignId

@[simp] theorem Entity.assignId_volume (v : Volume) (i : String) :
    Entity.assignId v i = { v with id := i, shortId := i.take 12 } := rfl
@[simp] theorem Entity.assignId_network (n : Network) (i : String) :
    Entity.assignId n i = { n with id := i } := rfl

/-- The store's source of IDs: distinct, non-empty, one for each new entity. -/
structure IdGen where
  next : Nat → String
  next_injective : Function.Injective next
  next_ne_empty : ∀ k, next k ≠ ""

/-- A generator whose `k`-th ID is `k + 1` letters `a`. -/
def IdGen.unary : IdGen where
  next k := String.mk (List.replicate (k + 1) 'a')
  next_injective a b h := by simpa using congrArg String.length h
  next_ne_empty k h := by simpa using congrArg String.length h

/-- A search by a predicate that a map keeps on the list's members finds the mapped element. -/
theorem find?_map_of_mem {α : Type} {h : α → α} {p : α → Bool} :
    ∀ {xs : List α}, (∀ y ∈ xs, p (h y) = p y) → (xs.map h).find? p = (xs.find? p).map h
  | [], _ => rfl
  | y :: ys, hp => by
    have ih := find?_map_of_mem fun z hz => hp z (List.mem_cons_of_mem y hz)
    rw [List.map_cons, List.find?_cons, List.find?_cons, hp y (List.mem_cons_self y ys)]
    cases p y <;> simp [ih]

/-- A search by position reads back as a search by value. -/
theorem findIdx?_map_getD {α : Type} [Inhabited α] (p : α → Bool) :
    ∀ xs : List α, (xs.findIdx? p).map (xs.getD · default) = xs.find? p
  | [] => rfl
  | x :: xs => by
    rw [List.findIdx?_cons, List.find?_cons]
    cases p x
    · rw [if_neg Bool.false_ne_true, List.findIdx?_succ, Option.map_map]
      exact findIdx?_map_getD p xs
    · rfl

/-- A search by position is not changed by a write that keeps what it tests. -/
theorem findIdx?_set {α : Type} [Inhabited α] {p : α → Bool} {y : α} :
    ∀ {xs : List α} {i : Nat}, p y = p (xs.getD i default) → (xs.set i y).findIdx? p = xs.findIdx? p
  | [], _, _ => rfl
  | x :: xs, 0, hp => by
    simp only [List.set_cons_zero, List.findIdx?_cons, List.getD_cons_zero] at hp ⊢
    rw [hp]
  | x :: xs, i + 1, hp => by
    simp only [List.set_cons_succ, List.findIdx?_cons, List.findIdx?_succ,
      List.getD_cons_succ] at hp ⊢
    rw [findIdx?_set hp]

section Ops

variable {α : Type} [Entity α]

/-- `GetXByName`. -/
def findByName (xs : List α) (name : String) : Option α := xs.find? (fun x => Entity.name x = name)

/-- `GetXByID`. -/
def findByID (xs : List α) (id : String) : Option α := xs.find? (fun x => Entity.id x = id)

/-- `GetXByNameOrID`: the ID first, then the name. -/
def findByNameOrID (xs : List α) (id : String) : Option α :=
  match findByID xs id with
  | some x => some x
  | none => findByName xs id

/-- An insert into the store's table: it replaces the entity with the same ID, if any. -/
def upsert (xs : List α) (x : α) : List α :=
  if xs.any (fun y => Entity.id y = Entity.id x) then
    xs.map (fun y => if Entity.id y = Entity.id x then x else y)
  else xs ++ [x]

/-- `SaveX`: an entity without an ID takes the next ID; the result is the saved entity, the
table and the generator's position. -/
def save (gen : IdGen) (seq : Nat) (xs : List α) (x : α) : α × List α × Nat :=
  if Entity.id x = "" then
    let x := Entity.assignId x (gen.next seq)
    (x, upsert xs x, seq + 1)
  else (x, upsert xs x, seq)

/-- `DeleteX`: the entity with the given entity's ID leaves the table; none is not found. -/
def remove (xs : List α) (x : α) : Option (List α) :=
  if xs.any (fun y => Entity.id y = Entity.id x) then
    some (xs.filter (fun y => Entity.id y ≠ Entity.id x))
  else none

/-- A table the store can hold: IDs non-empty and pairwise distinct. -/
def Keyed (xs : List α) : Prop := (xs.map Entity.id).Nodup ∧ ∀ x ∈ xs, Entity.id x ≠ ""

instance (xs : List α) : Decidable (Keyed xs) :=
  inferInstanceAs (Decidable ((xs.map Entity.id).Nodup ∧ ∀ x ∈ xs, Entity.id x ≠ ""))

theorem findByName_some {xs : List α} {name : String} {x : α} (h : findByName xs name = some x) :
    x ∈ xs ∧ Entity.name x = name := by
  unfold findByName at h
  exact ⟨List.mem_of_find?_eq_some h, by simpa using List.find?_some h⟩

theorem findByName_eq_none {xs : List α} {name : String} :
    findByName xs name = none ↔ ∀ x ∈ xs, Entity.name x ≠ name := by
  simp [findByName]

theorem findByID_some {xs : List α} {id : String} {x : α} (h : findByID xs id = some x) :
    x ∈ xs ∧ Entity.id x = id := by
  unfold findByID at h
  exact ⟨List.mem_of_find?_eq_some h, by simpa using List.find?_some h⟩

theorem findByID_eq_none {xs : List α} {id : String} :
    findByID xs id = none ↔ ∀ x ∈ xs, Entity.id x ≠ id := by
  simp [findByID]

theorem findByNameOrID_some {xs : List α} {id : String} {x : α}
    (h : findByNameOrID xs id = some x) : x ∈ xs ∧ (Entity.id x = id ∨ Entity.name x = id) := by
  unfold findByNameOrID at h
  split at h
  · cases h; exact (findByID_some ‹_›).imp_right Or.inl
  · exact (findByName_some h).imp_right Or.inr

/-- With no entity whose ID is the key, a name-or-ID lookup is a name lookup. -/
theorem findByNameOrID_of_no_id {xs : List α} {id : String} (h : ∀ x ∈ xs, Entity.id x ≠ id) :
    findByNameOrID xs id = findByName xs id := by
  simp [findByNameOrID, findByID_eq_none.mpr h]

/-- `GetXByNameOrID` handing out a pointer into the table: the position of the entity it finds,
by ID first and by name second. -/
def findIdxByNameOrID (xs : List α) (id : String) : Option Nat :=
  match xs.findIdx? (fun x => Entity.id x = id) with
  | some i => some i
  | none => xs.findIdx? (fun x => Entity.name x = id)

theorem findIdxByNameOrID_map [Inhabited α] (xs : List α) (id : String) :
    (findIdxByNameOrID xs id).map (xs.getD · default) = findByNameOrID xs id := by
  unfold findIdxByNameOrID findByNameOrID findByID findByName
  rw [← findIdx?_map_getD, ← findIdx?_map_getD]
  cases xs.findIdx? (fun x => Entity.id x = id) <;> rfl

theorem findIdxByNameOrID_lt {xs : List α} {id : String} {i : Nat}
    (h : findIdxByNameOrID xs id = some i) : i < xs.length := by
  unfold findIdxByNameOrID at h
  split at h
  · cases h; exact (List.findIdx?_eq_some_iff_findIdx_eq.mp ‹_›).1
  · exact (List.findIdx?_eq_some_iff_findIdx_eq.mp h).1

theorem findIdxByNameOrID_set [Inhabited α] {xs : List α} {i : Nat} {y : α} {id : String}
    (hid : Entity.id y = Entity.id (xs.getD i default))
    (hname : Entity.name y = Entity.name (xs.getD i default)) :
    findIdxByNameOrID (xs.set i y) id = findIdxByNameOrID xs id := by
  unfold findIdxByNameOrID
  rw [findIdx?_set (by simp [hid]), findIdx?_set (by simp [hname])]

theorem mem_upsert {xs : List α} {x y : α} :
    y ∈ upsert xs x ↔ y = x ∨ (y ∈ xs ∧ Entity.id y ≠ Entity.id x) := by
  unfold upsert
  split_ifs with h
  · obtain ⟨z, hz, hzx⟩ := List.any_eq_true.mp h
    simp only [List.mem_map]
    constructor
    · rintro ⟨w, hw, rfl⟩
      by_cases hwx : Entity.id w = Entity.id x
      · simp [hwx]
      · simp [hwx, hw]
    · rintro (rfl | ⟨hy, hyx⟩)
      · simp only [decide_eq_true_eq] at hzx
        exact ⟨z, hz, by simp [hzx]⟩
      · exact ⟨y, hy, by simp [hyx]⟩
  · simp only [List.any_eq_true, decide_eq_true_eq, not_exists, not_and] at h
    simp only [List.mem_append, List.mem_singleton]
    constructor
    · rintro (hy | rfl)
      · exact Or.inr ⟨hy, h y hy⟩
      · exact Or.inl rfl
    · rintro (rfl | ⟨hy, -⟩)
      · exact Or.inr rfl
      · exact Or.inl hy

/-- Inserting an entity whose ID is new appends it. -/
theorem upsert_of_fresh {xs : List α} {x : α} (h : ∀ y ∈ xs, Entity.id y ≠ Entity.id x) :
    upsert xs x = xs ++ [x] := by
  unfold upsert
  rw [if_neg]
  simpa using h

theorem ids_upsert_of_mem {xs : List α} {x : α} (h : ∃ y ∈ xs, Entity.id y = Entity.id x) :
    (upsert xs x).map Entity.id = xs.map Entity.id := by
  have h' : xs.any (fun y => Entity.id y = Entity.id x) = true := by simpa using h
  simp only [upsert, h', if_true, List.map_map]
  exact List.map_congr_left fun y _ => by by_cases hy : Entity.id y = Entity.id x <;> simp [hy]

theorem remove_some {xs ys : List α} {x : α} (h : remove xs x = some ys) :
    ys = xs.filter (fun y => Entity.id y ≠ Entity.id x) := by
  unfold remove at h
  split_ifs at h
  exact (Option.some.inj h).symm

theorem remove_eq_none {xs : List α} {x : α} :
    remove xs x = none ↔ ∀ y ∈ xs, Entity.id y ≠ Entity.id x := by
  unfold remove
  split_ifs with h <;> simp_all

theorem Keyed.upsert_fresh {xs : List α} {x : α} (hk : Keyed xs) (hx : Entity.id x ≠ "")
    (hfresh : ∀ y ∈ xs, Entity.id y ≠ Entity.id x) : Keyed (upsert xs x) := by
  rw [upsert_of_fresh hfresh]
  refine ⟨?_, ?_⟩
  · simpa [List.nodup_append, hk.1] using hfresh
  · simpa using fun y hy => hy.elim (hk.2 y) fun e => e ▸ hx

theorem Keyed.upsert_mem {xs : List α} {x : α} (hk : Keyed xs)
    (hx : ∃ y ∈ xs, Entity.id y = Entity.id x) : Keyed (upsert xs x) := by
  refine ⟨by rw [ids_upsert_of_mem hx]; exact hk.1, fun y hy => ?_⟩
  rcases mem_upsert.mp hy with rfl | ⟨hy, -⟩
  · obtain ⟨z, hz, hzx⟩ := hx
    exact hzx ▸ hk.2 z hz
  · exact hk.2 y hy

theorem Keyed.filter {xs : List α} (hk : Keyed xs) (p : α → Bool) : Keyed (xs.filter p) :=
  ⟨List.Nodup.sublist ((List.filter_sublist xs).map _) hk.1,
    fun y hy => hk.2 y (List.mem_of_mem_filter hy)⟩

/-- In a keyed table, dropping the entities with a stored entity's ID drops that entity alone. -/
theorem Keyed.mem_filter_id_ne {xs : List α} {x y : α} (hk : Keyed xs) (hx : x ∈ xs) :
    y ∈ xs.filter (fun z => Entity.id z ≠ Entity.id x) ↔ y ∈ xs ∧ y ≠ x := by
  simp only [List.mem_filter, decide_eq_true_eq]
  exact and_congr_right fun hy =>
    ⟨fun h he => h (he ▸ rfl), fun h he => h (List.inj_on_of_nodup_map hk.1 hy hx he)⟩

/-- The first entity of a name, appended to a table where no entity has that name or that ID, is
what a name-or-ID lookup of the name finds. -/
theorem findByNameOrID_append {xs : List α} {x : α} (hid : ∀ y ∈ xs, Entity.id y ≠ Entity.name x)
    (hname : ∀ y ∈ xs, Entity.name y ≠ Entity.name x) :
    findByNameOrID (xs ++ [x]) (Entity.name x) = some x := by
  have h1 : xs.find? (fun y => Entity.id y = Entity.name x) = none :=
    List.find?_eq_none.mpr fun y hy => by simpa using hid y hy
  have h2 : xs.find? (fun y => Entity.name y = Entity.name x) = none :=
    List.find?_eq_none.mpr fun y hy => by simpa using hname y hy
  by_cases hx : Entity.id x = Entity.name x <;>
    simp [findByNameOrID, findByID, findByName, List.find?_append, h1, h2, hx]

/-- Two upserts of entities with one stored ID: the later one stands. -/
theorem upsert_upsert {xs : List α} {x x' : α} (h : ∃ y ∈ xs, Entity.id y = Entity.id x)
    (hid : Entity.id x' = Entity.id x) : upsert (upsert xs x) x' = upsert xs x' := by
  have h₁ : xs.any (fun y => Entity.id y = Entity.id x) = true := by simpa using h
  have h₂ : xs.any (fun y => Entity.id y = Entity.id x') = true := by simpa [hid] using h
  have h₃ : (upsert xs x).any (fun y => Entity.id y = Entity.id x') = true :=
    List.any_eq_true.mpr ⟨x, mem_upsert.mpr (.inl rfl), by simp [hid]⟩
  rw [upsert, if_pos h₃, upsert, if_pos h₁, upsert, if_pos h₂, List.map_map]
  exact List.map_congr_left fun y _ => by
    by_cases hy : Entity.id y = Entity.id x <;> simp [hy, hid]

/-- In a keyed table, an upsert of a stored entity changes nothing. -/
theorem Keyed.upsert_self {xs : List α} {x : α} (hk : Keyed xs) (hx : x ∈ xs) : upsert xs x = xs := by
  unfold upsert
  rw [if_pos (List.any_eq_true.mpr ⟨x, hx, by simp⟩)]
  conv_rhs => rw [← List.map_id xs]
  refine List.map_congr_left fun y hy => ?_
  split_ifs with hyx
  · exact (List.inj_on_of_nodup_map hk.1 hy hx hyx).symm
  · rfl

/-- In a keyed table, a lookup that found `x` finds what replaced `x` with its ID and name. -/
theorem Keyed.findByNameOrID_upsert {xs : List α} {x x' : α} {key : String} (hk : Keyed xs)
    (hfind : findByNameOrID xs key = some x) (hid : Entity.id x' = Entity.id x)
    (hname : Entity.name x' = Entity.name x) : findByNameOrID (upsert xs x') key = some x' := by
  have hx := (findByNameOrID_some hfind).1
  let h : α → α := fun y => if Entity.id y = Entity.id x then x' else y
  have hup : upsert xs x' = xs.map h := by
    unfold upsert
    rw [if_pos (List.any_eq_true.mpr ⟨x, hx, by simp [hid]⟩)]
    simp only [hid]
  have hkeep : ∀ y ∈ xs, Entity.id (h y) = Entity.id y ∧ Entity.name (h y) = Entity.name y := by
    intro y hy
    by_cases hyx : Entity.id y = Entity.id x
    · obtain rfl := List.inj_on_of_nodup_map hk.1 hy hx hyx
      simp only [h, if_pos hyx]
      exact ⟨hid, hname⟩
    · simp only [h, if_neg hyx, and_self]
  have hI : findByID (upsert xs x') key = (findByID xs key).map h := by
    rw [hup]; exact find?_map_of_mem fun y hy => by simp [(hkeep y hy).1]
  have hN : findByName (upsert xs x') key = (findByName xs key).map h := by
    rw [hup]; exact find?_map_of_mem fun y hy => by simp [(hkeep y hy).2]
  have hhx : h x = x' := by simp [h]
  unfold findByNameOrID at hfind ⊢
  rw [hI, hN]
  cases hid' : findByID xs key with
  | some z =>
    rw [hid'] at hfind
    cases hfind
    simp [hhx]
  | none =>
    rw [hid'] at hfind
    exact congrArg (Option.map h) hfind |>.trans (congrArg some hhx)

/-- No ID the generator hands out from position `seq` on is in the table. -/
def Fresh (gen : IdGen) (seq : Nat) (xs : List α) : Prop :=
  ∀ k, seq ≤ k → gen.next k ∉ xs.map Entity.id

theorem Fresh.mono {gen : IdGen} {seq seq' : Nat} {xs : List α} (hf : Fresh gen seq xs)
    (h : seq ≤ seq') : Fresh gen seq' xs := fun k hk => hf k (h.trans hk)

theorem Fresh.filter {gen : IdGen} {seq : Nat} {xs : List α} (hf : Fresh gen seq xs)
    (p : α → Bool) : Fresh gen seq (xs.filter p) := fun k hk hm =>
  hf k hk (((List.filter_sublist xs).map _).subset hm)

theorem save_new {gen : IdGen} {seq : Nat} {xs : List α} {x : α} (hx : Entity.id x = "")
    (hf : Fresh gen seq xs) :
    save gen seq xs x =
      (Entity.assignId x (gen.next seq), xs ++ [Entity.assignId x (gen.next seq)], seq + 1) := by
  have hfresh : ∀ y ∈ xs, Entity.id y ≠ Entity.id (Entity.assignId x (gen.next seq)) :=
    fun y hy he => hf seq le_rfl (List.mem_map.mpr ⟨y, hy, by simpa using he⟩)
  simp [save, hx, upsert_of_fresh hfresh]

theorem save_stored {gen : IdGen} {seq : Nat} {xs : List α} {x : α} (hx : Entity.id x ≠ "") :
    save gen seq xs x = (x, upsert xs x, seq) := by
  simp [save, hx]

/-- Saving a new entity, or one whose ID the table holds, keeps the table keyed and fresh. -/
theorem save_wf {gen : IdGen} {seq : Nat} {xs : List α} {x : α} (hk : Keyed xs)
    (hf : Fresh gen seq xs) (hx : Entity.id x = "" ∨ ∃ y ∈ xs, Entity.id y = Entity.id x) :
    Keyed (save gen seq xs x).2.1 ∧ Fresh gen (save gen seq xs x).2.2 (save gen seq xs x).2.1 := by
  rcases hx with hx | hx
  · have hfresh : ∀ y ∈ xs, Entity.id y ≠ Entity.id (Entity.assignId x (gen.next seq)) :=
      fun y hy he => hf seq le_rfl (List.mem_map.mpr ⟨y, hy, by simpa using he⟩)
    rw [save_new hx hf]
    refine ⟨?_, fun k hk' hm => ?_⟩
    · rw [← upsert_of_fresh hfresh]
      exact hk.upsert_fresh (by simpa using gen.next_ne_empty seq) hfresh
    · rw [List.map_append, List.mem_append] at hm
      rcases hm with hm | hm
      · exact hf k (Nat.le_of_succ_le hk') hm
      · have := gen.next_injective (by simpa using hm)
        simp only at hk'
        omega
  · obtain ⟨y, hy, hyx⟩ := hx
    have hne : Entity.id x ≠ "" := hyx ▸ hk.2 y hy
    rw [save_stored hne]
    exact ⟨hk.upsert_mem ⟨y, hy, hyx⟩, by
      simpa [Fresh, ids_upsert_of_mem ⟨y, hy, hyx⟩] using hf⟩

theorem save_seq_le (gen : IdGen) (seq : Nat) (xs : List α) (x : α) :
    seq ≤ (save gen seq xs x).2.2 := by
  unfold save; split_ifs <;> simp

/-- A save keeps every ID of the table: it replaces entities only by one with their ID. -/
theorem id_mem_save {gen : IdGen} {seq : Nat} {xs : List α} {x y : α} (hy : y ∈ xs) :
    Entity.id y ∈ (save gen seq xs x).2.1.map Entity.id := by
  have key : ∀ z : α, Entity.id y ∈ (upsert xs z).map Entity.id := fun z => by
    by_cases h : Entity.id y = Entity.id z
    · exact List.mem_map.mpr ⟨z, mem_upsert.mpr (Or.inl rfl), h.symm⟩
    · exact List.mem_map_of_mem _ (mem_upsert.mpr (Or.inr ⟨hy, h⟩))
  unfold save; split_ifs <;> exact key _

/-- A saved table holds what it held and the saved entity. -/
theorem mem_save {gen : IdGen} {seq : Nat} {xs : List α} {x y : α}
    (hy : y ∈ (save gen seq xs x).2.1) : y ∈ xs ∨ y = (save gen seq xs x).1 := by
  unfold save at *
  split_ifs at * <;> rcases mem_upsert.mp hy with rfl | ⟨hy, -⟩
  all_goals first | exact Or.inr rfl | exact Or.inl hy

/-- The saved entity is in the saved table, under its own name. -/
theorem save_fst_mem (gen : IdGen) (seq : Nat) (xs : List α) (x : α) :
    (save gen seq xs x).1 ∈ (save gen seq xs x).2.1 ∧
      Entity.name (save gen seq xs x).1 = Entity.name x := by
  unfold save
  split_ifs <;> exact ⟨mem_upsert.mpr (.inl rfl), by simp⟩

/-- Saving an entity of a name the table does not hold makes it the one found by that name. -/
theorem findByName_save {gen : IdGen} {seq : Nat} {xs : List α} {x : α}
    (hfree : findByName xs (Entity.name x) = none) :
    findByName (save gen seq xs x).2.1 (Entity.name x) = some (save gen seq xs x).1 := by
  obtain ⟨hmem, hname⟩ := save_fst_mem gen seq xs x
  cases hfind : findByName (save gen seq xs x).2.1 (Entity.name x) with
  | none => exact absurd hname (findByName_eq_none.mp hfind _ hmem)
  | some y =>
    obtain ⟨hy, hyn⟩ := findByName_some hfind
    rcases mem_save hy with hy | rfl
    · exact absurd hyn (findByName_eq_none.mp hfree y hy)
    · rfl

end Ops

/-- Modelled from the spec: the store's tables and its generator's position. -/
structure DB where
  volumes : List Volume := []
  networks : List Network := []
  containers : List Container := []
  seq : Nat := 0

namespace DB

def getVolumeByName (db : DB) (name : String) : Option Volume := findByName db.volumes name
def getVolumeByNameOrID (db : DB) (id : String) : Option Volume := findByNameOrID db.volumes id
def getNetworkByName (db : DB) (name : String) : Option Network := findByName db.networks name
def getNetworkByNameOrID (db : DB) (id : String) : Option Network :=
  findByNameOrID db.networks id
def getContainerByNameOrID (db : DB) (id : String) : Option Container :=
  findByNameOrID db.containers id

/-- `SaveVolume`. -/
def saveVolume (gen : IdGen) (db : DB) (v : Volume) : Volume × DB :=
  let (v, vs, seq) := save gen db.seq db.volumes v
  (v, { db with volumes := vs, seq := seq })

/-- `SaveNetwork`. -/
def saveNetwork (gen : IdGen) (db : DB) (n : Network) : Network × DB :=
  let (n, ns, seq) := save gen db.seq db.networks n
  (n, { db with networks := ns, seq := seq })

/-- `SaveContainer`. -/
def saveContainer (gen : IdGen) (db : DB) (c : Container) : Container × DB :=
  let (c, cs, seq) := save gen db.seq db.containers c
  (c, { db with containers := cs, seq := seq })

/-- `DeleteVolume`. -/
def deleteVolume (db : DB) (v : Volume) : Option DB :=
  (remove db.volumes v).map fun vs => { db with volumes := vs }

/-- `DeleteNetwork`. -/
def deleteNetwork (db : DB) (n : Network) : Option DB :=
  (remove db.networks n).map fun ns => { db with networks := ns }

/-- `GetContainerByNameOrID` as the network handlers use it: a pointer to the stored container,
its position in the table. -/
def containerRef (db : DB) (id : String) : Option Nat := findIdxByNameOrID db.containers id

/-- What the pointer `i` reads: the container at its position. -/
def containerAt (db : DB) (i : Nat) : Container := db.containers.getD i default

/-- A write through the pointer `i`: the container at its position becomes `f` of itself. -/
def modifyContainer (db : DB) (i : Nat) (f : Container → Container) : DB :=
  { db with containers := db.containers.set i (f (db.containerAt i)) }

/-- The store's invariant. -/
structure WellFormed (gen : IdGen) (db : DB) : Prop where
  volumes : Keyed db.volumes
  networks : Keyed db.networks
  containers : Keyed db.containers
  volumes_fresh : Fresh gen db.seq db.volumes
  networks_fresh : Fresh gen db.seq db.networks
  containers_fresh : Fresh gen db.seq db.containers

theorem wellFormed_empty (gen : IdGen) : WellFormed gen {} :=
  ⟨⟨List.nodup_nil, by simp⟩, ⟨List.nodup_nil, by simp⟩, ⟨List.nodup_nil, by simp⟩,
    fun _ _ => by simp, fun _ _ => by simp, fun _ _ => by simp⟩

variable {gen : IdGen} {db db' : DB}

@[simp] theorem saveVolume_networks (v : Volume) : (db.saveVolume gen v).2.networks = db.networks := rfl
@[simp] theorem saveVolume_containers (v : Volume) :
    (db.saveVolume gen v).2.containers = db.containers := rfl
@[simp] theorem saveNetwork_volumes (n : Network) : (db.saveNetwork gen n).2.volumes = db.volumes := rfl
@[simp] theorem saveNetwork_containers (n : Network) :
    (db.saveNetwork gen n).2.containers = db.containers := rfl
@[simp] theorem saveContainer_volumes (c : Container) :
    (db.saveContainer gen c).2.volumes = db.volumes := rfl
@[simp] theorem saveContainer_networks (c : Container) :
    (db.saveContainer gen c).2.networks = db.networks := rfl

/-- The saved volume keeps its name, and is the one the store then finds by that name when it
held no volume of the name. -/
theorem getVolumeByName_saveVolume {v : Volume} (hfree : db.getVolumeByName v.name = none) :
    (db.saveVolume gen v).1.name = v.name ∧
      (db.saveVolume gen v).2.getVolumeByName v.name = some (db.saveVolume gen v).1 :=
  ⟨(save_fst_mem gen db.seq db.volumes v).2, findByName_save hfree⟩

/-- A new volume takes the next ID and goes to the end of its table. -/
theorem saveVolume_new (hwf : db.WellFormed gen) {v : Volume} (hv : v.id = "") :
    db.saveVolume gen v = (Entity.assignId v (gen.next db.seq),
      { db with
        volumes := db.volumes ++ [Entity.assignId v (gen.next db.seq)]
        seq := db.seq + 1 }) := by
  simp only [saveVolume, save_new (α := Volume) hv hwf.volumes_fresh]

theorem saveNetwork_new (hwf : db.WellFormed gen) {n : Network} (hn : n.id = "") :
    db.saveNetwork gen n = (Entity.assignId n (gen.next db.seq),
      { db with
        networks := db.networks ++ [Entity.assignId n (gen.next db.seq)]
        seq := db.seq + 1 }) := by
  simp only [saveNetwork, save_new (α := Network) hn hwf.networks_fresh]

/-- The saved container keeps its memberships. -/
@[simp] theorem saveContainer_fst_networks (c : Container) :
    (db.saveContainer gen c).1.networks = c.networks := by
  simp only [saveContainer, save]; split_ifs <;> rfl

theorem mem_saveContainer {c d : Container} (hd : d ∈ (db.saveContainer gen c).2.containers) :
    d ∈ db.containers ∨ d.networks = c.networks := by
  rcases mem_save hd with hd | rfl
  · exact Or.inl hd
  · exact Or.inr (saveContainer_fst_networks c)

theorem id_mem_saveNetwork {n m : Network} (hn : n ∈ db.networks) :
    n.id ∈ (db.saveNetwork gen m).2.networks.map Network.id :=
  id_mem_save hn

theorem saveContainer_stored {c : Container} (hc : c.id ≠ "") :
    db.saveContainer gen c = (c, { db with containers := upsert db.containers c }) := by
  simp only [saveContainer, save_stored (α := Container) hc]

theorem deleteVolume_some {v : Volume} (h : db.deleteVolume v = some db') :
    db' = { db with volumes := db.volumes.filter (fun u => u.id ≠ v.id) } := by
  unfold deleteVolume at h
  obtain ⟨vs, hvs, rfl⟩ := Option.map_eq_some'.mp h
  rw [remove_some hvs]; rfl

theorem deleteNetwork_some {n : Network} (h : db.deleteNetwork n = some db') :
    db' = { db with networks := db.networks.filter (fun m => m.id ≠ n.id) } := by
  unfold deleteNetwork at h
  obtain ⟨ns, hns, rfl⟩ := Option.map_eq_some'.mp h
  rw [remove_some hns]; rfl

theorem deleteVolume_ne_none {v : Volume} (hv : v.id ∈ db.volumes.map Volume.id) :
    db.deleteVolume v ≠ none := by
  obtain ⟨u, hu, hid⟩ := List.mem_map.mp hv
  simp only [deleteVolume, ne_eq, Option.map_eq_none', remove_eq_none]
  exact fun h => h u hu hid

theorem deleteNetwork_ne_none {n : Network} (hn : n.id ∈ db.networks.map Network.id) :
    db.deleteNetwork n ≠ none := by
  obtain ⟨m, hm, hid⟩ := List.mem_map.mp hn
  simp only [deleteNetwork, ne_eq, Option.map_eq_none', remove_eq_none]
  exact fun h => h m hm hid

theorem WellFormed.saveVolume (hwf : db.WellFormed gen) {v : Volume}
    (hv : v.id = "" ∨ ∃ u ∈ db.volumes, u.id = v.id) : (db.saveVolume gen v).2.WellFormed gen := by
  obtain ⟨hk, hf⟩ := save_wf hwf.volumes hwf.volumes_fresh hv
  have hle := save_seq_le gen db.seq db.volumes v
  exact ⟨hk, hwf.networks, hwf.containers, hf, hwf.networks_fresh.mono hle,
    hwf.containers_fresh.mono hle⟩

theorem WellFormed.saveNetwork (hwf : db.WellFormed gen) {n : Network}
    (hn : n.id = "" ∨ ∃ m ∈ db.networks, m.id = n.id) : (db.saveNetwork gen n).2.WellFormed gen := by
  obtain ⟨hk, hf⟩ := save_wf hwf.networks hwf.networks_fresh hn
  have hle := save_seq_le gen db.seq db.networks n
  exact ⟨hwf.volumes, hk, hwf.containers, hwf.volumes_fresh.mono hle, hf,
    hwf.containers_fresh.mono hle⟩

theorem WellFormed.saveContainer (hwf : db.WellFormed gen) {c : Container}
    (hc : c.id = "" ∨ ∃ d ∈ db.containers, d.id = c.id) :
    (db.saveContainer gen c).2.WellFormed gen := by
  obtain ⟨hk, hf⟩ := save_wf hwf.containers hwf.containers_fresh hc
  have hle := save_seq_le gen db.seq db.containers c
  exact ⟨hwf.volumes, hwf.networks, hk, hwf.volumes_fresh.mono hle,
    hwf.networks_fresh.mono hle, hf⟩

/-- Dropping volumes keeps the store well formed. -/
theorem WellFormed.filter_volumes (hwf : db.WellFormed gen) (p : Volume → Bool) :
    WellFormed gen { db with volumes := db.volumes.filter p } :=
  ⟨hwf.volumes.filter _, hwf.networks, hwf.containers, hwf.volumes_fresh.filter _,
    hwf.networks_fresh, hwf.containers_fresh⟩

/-- Dropping networks keeps the store well formed. -/
theorem WellFormed.filter_networks (hwf : db.WellFormed gen) (p : Network → Bool) :
    WellFormed gen { db with networks := db.networks.filter p } :=
  ⟨hwf.volumes, hwf.networks.filter _, hwf.containers, hwf.volumes_fresh,
    hwf.networks_fresh.filter _, hwf.containers_fresh⟩

theorem WellFormed.deleteVolume (hwf : db.WellFormed gen) {v : Volume}
    (h : db.deleteVolume v = some db') : db'.WellFormed gen :=
  deleteVolume_some h ▸ hwf.filter_volumes _

theorem WellFormed.deleteNetwork (hwf : db.WellFormed gen) {n : Network}
    (h : db.deleteNetwork n = some db') : db'.WellFormed gen :=
  deleteNetwork_some h ▸ hwf.filter_networks _

section Pointers

variable {i : Nat} {f g : Container → Container}

@[simp] theorem modifyContainer_volumes : (db.modifyContainer i f).volumes = db.volumes := rfl
@[simp] theorem modifyContainer_networks : (db.modifyContainer i f).networks = db.networks := rfl
@[simp] theorem modifyContainer_seq : (db.modifyContainer i f).seq = db.seq := rfl
@[simp] theorem length_modifyContainer :
    (db.modifyContainer i f).containers.length = db.containers.length := List.length_set ..

/-- A lookup hands out a pointer to the container a lookup by value finds. -/
theorem getContainerByNameOrID_eq (id : String) :
    db.getContainerByNameOrID id = (db.containerRef id).map db.containerAt :=
  (findIdxByNameOrID_map db.containers id).symm

theorem containerRef_lt {id : String} (h : db.containerRef id = some i) :
    i < db.containers.length :=
  findIdxByNameOrID_lt h

theorem containerRef_some {id : String} (h : db.containerRef id = some i) :
    db.getContainerByNameOrID id = some (db.containerAt i) := by
  rw [getContainerByNameOrID_eq, h]; rfl

theorem containerRef_eq_none {id : String} :
    db.containerRef id = none ↔ db.getContainerByNameOrID id = none := by
  rw [getContainerByNameOrID_eq, Option.map_eq_none']

theorem containerAt_mem (hi : i < db.containers.length) : db.containerAt i ∈ db.containers := by
  rw [containerAt, List.getD_eq_getElem _ _ hi]
  exact List.getElem_mem hi

/-- A pointer reads a stored container, or past the table the empty one. -/
theorem containerAt_mem_or_default (db : DB) (i : Nat) :
    db.containerAt i ∈ db.containers ∨ db.containerAt i = default := by
  by_cases hi : i < db.containers.length
  · exact .inl (containerAt_mem hi)
  · exact .inr (List.getD_eq_default _ _ (Nat.le_of_not_lt hi))

/-- Every membership the pointer `i` reads is one of a stored container. -/
theorem mem_networks_containerAt {m : String} (hm : m ∈ (db.containerAt i).networks) :
    ∃ c ∈ db.containers, m ∈ c.networks := by
  rcases containerAt_mem_or_default db i with h | h
  · exact ⟨_, h, hm⟩
  · rw [h] at hm; cases hm

theorem containerAt_modifyContainer (hi : i < db.containers.length) :
    (db.modifyContainer i f).containerAt i = f (db.containerAt i) := by
  rw [containerAt, modifyContainer, List.getD_eq_getElem _ _ (by simpa using hi),
    List.getElem_set_self]

/-- A pointer past the table writes nothing. -/
theorem modifyContainer_of_le (hi : db.containers.length ≤ i) : db.modifyContainer i f = db := by
  simp only [modifyContainer, List.set_eq_of_length_le hi]

/-- A write that changes nothing. -/
@[simp] theorem modifyContainer_id : db.modifyContainer i (fun c => c) = db := by
  by_cases hi : i < db.containers.length
  · have h : db.containers.set i (db.containerAt i) = db.containers := by
      apply List.ext_getElem (by simp)
      intro j h₁ h₂
      rw [List.getElem_set]
      split_ifs with hj
      · subst hj; rw [containerAt, List.getD_eq_getElem _ _ hi]
      · rfl
    simp only [modifyContainer, h]
  · exact modifyContainer_of_le (Nat.le_of_not_lt hi)

/-- A write depends on the change only at the container it writes. -/
theorem modifyContainer_congr (h : f (db.containerAt i) = g (db.containerAt i)) :
    db.modifyContainer i f = db.modifyContainer i g := by
  rw [modifyContainer, modifyContainer, h]

/-- Two writes through one pointer are one write of both changes. -/
theorem modifyContainer_modifyContainer :
    (db.modifyContainer i f).modifyContainer i g = db.modifyContainer i (g ∘ f) := by
  by_cases hi : i < db.containers.length
  · have h := containerAt_modifyContainer (f := f) hi
    simp only [modifyContainer] at h ⊢
    simp only [h, List.set_set, Function.comp]
  · have hle : db.containers.length ≤ i := Nat.le_of_not_lt hi
    rw [modifyContainer_of_le hle, modifyContainer_of_le hle, modifyContainer_of_le hle]

theorem mem_modifyContainer {d : Container} (hd : d ∈ (db.modifyContainer i f).containers) :
    d ∈ db.containers ∨ d = f (db.containerAt i) :=
  List.mem_or_eq_of_mem_set hd

/-- A write through a pointer that keeps the container's memberships adds none to the store. -/
theorem mem_networks_modifyContainer {d : Container} {m : String}
    (hd : d ∈ (db.modifyContainer i f).containers) (hm : m ∈ d.networks)
    (hf : ∀ c, (f c).networks = c.networks) :
    ∃ c ∈ db.containers, m ∈ c.networks := by
  rcases mem_modifyContainer hd with hd | rfl
  · exact ⟨d, hd, hm⟩
  · exact mem_networks_containerAt (hf _ ▸ hm)

/-- Saving what the pointer `i` reads adds no membership to the store. -/
theorem mem_networks_saveContainerAt {d : Container} {m : String}
    (hd : d ∈ (db.saveContainer gen (db.containerAt i)).2.containers) (hm : m ∈ d.networks) :
    ∃ c ∈ db.containers, m ∈ c.networks := by
  rcases mem_saveContainer hd with hd | he
  · exact ⟨d, hd, hm⟩
  · exact mem_networks_containerAt (he ▸ hm)

/-- A write through a pointer keeps every container of another ID. -/
theorem mem_modifyContainer_of_ne {d : Container} (hd : d ∈ db.containers)
    (hne : d.id ≠ (db.containerAt i).id) : d ∈ (db.modifyContainer i f).containers := by
  obtain ⟨j, hj, rfl⟩ := List.getElem_of_mem hd
  have hji : i ≠ j := fun he => hne (by
    subst he; rw [containerAt, List.getD_eq_getElem _ _ hj])
  have h := List.getElem_mem (l := (db.modifyContainer i f).containers) (n := j) (by simpa using hj)
  simpa only [modifyContainer, List.getElem_set_ne hji] using h

/-- A write that keeps the container's ID and name leaves every lookup's pointer. -/
theorem containerRef_modifyContainer {id : String} (hid : (f (db.containerAt i)).id = (db.containerAt i).id)
    (hname : (f (db.containerAt i)).name = (db.containerAt i).name) :
    (db.modifyContainer i f).containerRef id = db.containerRef id :=
  findIdxByNameOrID_set hid hname

theorem map_id_modifyContainer (hid : (f (db.containerAt i)).id = (db.containerAt i).id) :
    (db.modifyContainer i f).containers.map Entity.id = db.containers.map Entity.id := by
  apply List.ext_getElem (by simp)
  intro j h₁ h₂
  simp only [modifyContainer, List.getElem_map, List.getElem_set]
  split_ifs with hj
  · subst hj
    simp only [Entity.id_container, hid]
    rw [containerAt, List.getD_eq_getElem _ _ (by simpa using h₂)]
  · rfl

theorem keyed_modifyContainer (hk : Keyed db.containers)
    (hid : (f (db.containerAt i)).id = (db.containerAt i).id) :
    Keyed (db.modifyContainer i f).containers := by
  have hmap := map_id_modifyContainer hid
  refine ⟨hmap ▸ hk.1, fun d hd => ?_⟩
  have : Entity.id d ∈ (db.modifyContainer i f).containers.map Entity.id :=
    List.mem_map_of_mem _ hd
  rw [hmap] at this
  obtain ⟨e, he, hde⟩ := List.mem_map.mp this
  exact hde ▸ hk.2 e he

theorem WellFormed.modifyContainer (hwf : db.WellFormed gen)
    (hid : (f (db.containerAt i)).id = (db.containerAt i).id) :
    (db.modifyContainer i f).WellFormed gen := by
  refine ⟨hwf.volumes, hwf.networks, keyed_modifyContainer hwf.containers hid, hwf.volumes_fresh,
    hwf.networks_fresh, fun k hk => ?_⟩
  show gen.next k ∉ (db.modifyContainer i f).containers.map Entity.id
  rw [map_id_modifyContainer hid]
  exact hwf.containers_fresh k hk

/-- In a keyed table, saving the container a pointer reads changes nothing: it is stored. -/
theorem saveContainer_containerAt (hk : Keyed db.containers) (hi : i < db.containers.length) :
    (db.saveContainer gen (db.containerAt i)).2 = db := by
  have hmem := containerAt_mem hi
  rw [saveContainer_stored (by simpa using hk.2 _ hmem), hk.upsert_self hmem]

end Pointers

end DB

end Kubedock
