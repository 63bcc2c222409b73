import Kubedock.Store
import Kubedock.Backend

/-! What the route handlers run on (`common.ContextRouter`): the store, the platform's PVCs, and
for each kind of call that can fail the outcomes of its next calls. `World.dbCall` and
`World.backendCall` are the one place where a call consumes its outcome, so a run of handlers
ranges over every failure pattern by ranging over the initial `faults`. -/

namespace Kubedock

/-- The kinds of call that can fail otherwise than by not-found or already-exists: a save, a
delete or a listing of each table of the store, and the platform's create and delete. -/
inductive Call where
  | saveVolume
  | saveNetwork
  | saveContainer
  | deleteVolume
  | deleteNetwork
  | listVolumes
  | listNetworks
  | listContainers
  | createPVC
  | deletePVC
  deriving DecidableEq, Repr

/-- The store, the platform's PVCs, and for each kind of call the outcomes of its next calls:
`true` fails, and once the list is used up calls succeed. -/
structure World where
  db : DB
  pvcs : List PVC
  faults : Call → List Bool

/-- The handlers' parameters from outside the sources. -/
structure Env where
  backend : Instance
  idGen : IdGen
  isPredefined : Network → Bool
  toLower : String → String

/-- A handler's reply: `c.JSON(status, body)` or `WriteHeader(status)`, or
`httputil.Error(c, status, err)`. -/
inductive Response (α : Type) where
  | ok (status : Nat) (body : α)
  | error (status : Nat) (msg : String)
  deriving DecidableEq, Repr

def statusOK : Nat := 200
def statusCreated : Nat := 201
def statusNoContent : Nat := 204
def statusForbidden : Nat := 403
def statusNotFound : Nat := 404
def statusConflict : Nat := 409
def statusInternalServerError : Nat := 500

/-- Modelled from the spec: the store's error texts. -/
def notFoundError : String := "not found"
def storeError : String := "store unavailable"

namespace World

/-- Whether the next call of kind `c` fails. -/
def fails (w : World) (c : Call) : Bool := (w.faults c).headD false

/-- The world after a call of kind `c` consumed its outcome. -/
def next (w : World) (c : Call) : World :=
  { w with faults := Function.update w.faults c (w.faults c).tail }

@[simp] theorem next_db (w : World) (c : Call) : (w.next c).db = w.db := rfl
theorem fails_next {c c' : Call} (w : World) (h : c' ≠ c) : (w.next c).fails c' = w.fails c' := by
  simp [fails, next, Function.update_noteq h]
@[simp] theorem next_pvcs (w : World) (c : Call) : (w.next c).pvcs = w.pvcs := rfl

/-- A store call of kind `c`: it fails, leaving the store as it was, or runs `f`. -/
def dbCall {α : Type} (w : World) (c : Call) (f : DB → Except String (α × DB)) :
    Except String α × World :=
  if w.fails c then (.error storeError, w.next c)
  else match f w.db with
    | .ok (a, db) => (.ok a, { w.next c with db := db })
    | .error e => (.error e, w.next c)

/-- A platform call of kind `c`, told whether it fails. -/
def backendCall {α : Type} (w : World) (c : Call)
    (f : List PVC → Bool → Except String α × List PVC) : Except String α × World :=
  let r := f w.pvcs (w.fails c)
  (r.1, { w.next c with pvcs := r.2 })

variable (env : Env)

/-- `cr.DB.SaveVolume`. -/
def dbSaveVolume (w : World) (v : Volume) : Except String Volume × World :=
  w.dbCall .saveVolume fun db => .ok (db.saveVolume env.idGen v)

/-- `cr.DB.SaveNetwork`. -/
def dbSaveNetwork (w : World) (n : Network) : Except String Network × World :=
  w.dbCall .saveNetwork fun db => .ok (db.saveNetwork env.idGen n)

/-- `cr.DB.SaveContainer`. -/
def dbSaveContainer (w : World) (c : Container) : Except String Container × World :=
  w.dbCall .saveContainer fun db => .ok (db.saveContainer env.idGen c)

/-- `cr.DB.DeleteVolume`. -/
def dbDeleteVolume (w : World) (v : Volume) : Except String Unit × World :=
  w.dbCall .deleteVolume fun db => match db.deleteVolume v with
    | some db => .ok ((), db)
    | none => .error notFoundError

/-- `cr.DB.DeleteNetwork`. -/
def dbDeleteNetwork (w : World) (n : Network) : Except String Unit × World :=
  w.dbCall .deleteNetwork fun db => match db.deleteNetwork n with
    | some db => .ok ((), db)
    | none => .error notFoundError

/-- `cr.DB.GetVolumes`. -/
def dbGetVolumes (w : World) : Except String (List Volume) × World :=
  w.dbCall .listVolumes fun db => .ok (db.volumes, db)

/-- `cr.DB.GetNetworks`. -/
def dbGetNetworks (w : World) : Except String (List Network) × World :=
  w.dbCall .listNetworks fun db => .ok (db.networks, db)

/-- `cr.DB.GetContainers`. -/
def dbGetContainers (w : World) : Except String (List Container) × World :=
  w.dbCall .listContainers fun db => .ok (db.containers, db)

/-- `cr.Backend.CreateVolume`. -/
def backendCreateVolume (w : World) (v : Volume) : Except String Volume × World :=
  w.backendCall .createPVC (env.backend.createVolume v)

/-- `cr.Backend.DeleteVolume`. -/
def backendDeleteVolume (w : World) (v : Volume) : Except String Unit × World :=
  w.backendCall .deletePVC (env.backend.deleteVolume v)

theorem dbCall_pvcs {α : Type} (w : World) (c : Call) (f : DB → Except String (α × DB)) :
    (w.dbCall c f).2.pvcs = w.pvcs := by
  unfold dbCall; split_ifs
  · rfl
  · split <;> rfl

theorem backendCall_fails {α : Type} {c c' : Call} (w : World)
    (f : List PVC → Bool → Except String α × List PVC) (h : c' ≠ c) :
    (w.backendCall c f).2.fails c' = w.fails c' := fails_next w h

theorem backendCall_db {α : Type} (w : World) (c : Call)
    (f : List PVC → Bool → Except String α × List PVC) : (w.backendCall c f).2.db = w.db := rfl

/-- What a store call can do: fail and change nothing, or do what `f` says. -/
theorem dbCall_cases {α : Type} {w w' : World} {c : Call} {f : DB → Except String (α × DB)}
    {r : Except String α} (h : w.dbCall c f = (r, w')) :
    w'.db = w.db ∨ ∃ a db, f w.db = .ok (a, db) ∧ r = .ok a ∧ w'.db = db := by
  unfold dbCall at h
  split_ifs at h
  · exact Or.inl (by rw [← (Prod.mk.inj h).2]; rfl)
  · split at h
    · rename_i a db hf
      exact Or.inr ⟨a, db, hf, (Prod.mk.inj h).1.symm, by rw [← (Prod.mk.inj h).2]⟩
    · exact Or.inl (by rw [← (Prod.mk.inj h).2]; rfl)

theorem dbCall_ok {α : Type} {w w' : World} {c : Call} {f : DB → Except String (α × DB)}
    {a : α} (h : w.dbCall c f = (.ok a, w')) : f w.db = .ok (a, w'.db) := by
  unfold dbCall at h
  split_ifs at h
  · cases h
  · split at h
    · rename_i a' db hf
      obtain ⟨h1, h2⟩ := Prod.mk.inj h
      cases h1; rw [← h2]; exact hf
    · cases h

/-- `w'` has consumed outcomes of `w`'s calls and no more: every kind's remaining outcomes are a
suffix of what they were. -/
def Consumed (w w' : World) : Prop := ∀ c, w'.faults c <:+ w.faults c

theorem Consumed.refl (w : World) : Consumed w w := fun _ => List.suffix_refl _

theorem Consumed.trans {w₁ w₂ w₃ : World} (h₁ : Consumed w₁ w₂) (h₂ : Consumed w₂ w₃) :
    Consumed w₁ w₃ := fun c => (h₂ c).trans (h₁ c)

theorem consumed_next (w : World) (c : Call) : Consumed w (w.next c) := by
  intro c'
  by_cases h : c' = c
  · subst h; simpa [next] using List.tail_suffix _
  · simp [next, Function.update_noteq h]

theorem consumed_dbCall {α : Type} (w : World) (c : Call) (f : DB → Except String (α × DB)) :
    Consumed w (w.dbCall c f).2 := by
  unfold dbCall; split_ifs
  · exact consumed_next w c
  · split <;> exact consumed_next w c

theorem consumed_backendCall {α : Type} (w : World) (c : Call)
    (f : List PVC → Bool → Except String α × List PVC) : Consumed w (w.backendCall c f).2 :=
  consumed_next w c

/-- What a store call can do: fail, because its outcome says so or `f` does, and change nothing
but its outcome; or do what `f` says. -/
theorem dbCall_spec {α : Type} {w w' : World} {c : Call} {f : DB → Except String (α × DB)}
    {r : Except String α} (h : w.dbCall c f = (r, w')) :
    Consumed w w' ∧ w'.pvcs = w.pvcs ∧
      ((w'.db = w.db ∧ (w.fails c = true ∨ ∃ e, f w.db = .error e) ∧ ∀ a, r ≠ .ok a) ∨
        ∃ a, f w.db = .ok (a, w'.db) ∧ r = .ok a) := by
  have hc := consumed_dbCall w c f
  have hp := dbCall_pvcs w c f
  rw [h] at hc hp
  refine ⟨hc, hp, ?_⟩
  unfold dbCall at h
  split_ifs at h with hf
  · obtain ⟨rfl, rfl⟩ := Prod.mk.inj h
    exact Or.inl ⟨rfl, Or.inl hf, fun a ha => by cases ha⟩
  · split at h <;> obtain ⟨rfl, rfl⟩ := Prod.mk.inj h
    · exact Or.inr ⟨_, ‹_›, rfl⟩
    · exact Or.inl ⟨rfl, Or.inr ⟨_, ‹_›⟩, fun a ha => by cases ha⟩

/-- The next call of kind `c` fails only if its outcome says so. -/
theorem fails_eq_false_of_reliable {w : World} {c : Call} (h : ∀ b ∈ w.faults c, b = false) :
    w.fails c = false := by
  unfold fails; cases hc : w.faults c with
  | nil => rfl
  | cons b bs => exact h b (by simp [hc])

/-- A store call whose outcome is success does what `f` says. -/
theorem dbCall_of_not_fails {α : Type} {w : World} {c : Call} {f : DB → Except String (α × DB)}
    {a : α} {db : DB} (hc : w.fails c = false) (hf : f w.db = .ok (a, db)) :
    w.dbCall c f = (.ok a, { w.next c with db := db }) := by
  simp [dbCall, hc, hf]

/-- A store call that only reads changes nothing but its outcome. -/
theorem dbCall_read_db {α : Type} (w : World) (c : Call) (g : DB → α) :
    (w.dbCall c fun db => .ok (g db, db)).2.db = w.db := by
  unfold dbCall; split_ifs <;> rfl

theorem dbGetNetworks_spec (w : World) :
    Consumed w w.dbGetNetworks.2 ∧ w.dbGetNetworks.2.db = w.db :=
  ⟨consumed_dbCall w _ _, dbCall_read_db w _ _⟩

theorem dbGetVolumes_spec (w : World) :
    Consumed w w.dbGetVolumes.2 ∧ w.dbGetVolumes.2.db = w.db ∧ w.dbGetVolumes.2.pvcs = w.pvcs ∧
      ∀ vols, w.dbGetVolumes.1 = .ok vols → vols = w.db.volumes :=
  ⟨consumed_dbCall w _ _, dbCall_read_db w _ _, dbCall_pvcs w _ _, fun vols h => by
    unfold dbGetVolumes dbCall at h
    split_ifs at h
    exact (Except.ok.inj h).symm⟩

theorem dbSaveVolume_of_not_fails {w : World} (hc : w.fails .saveVolume = false) (v : Volume) :
    w.dbSaveVolume env v = (.ok (w.db.saveVolume env.idGen v).1,
      { w.next .saveVolume with db := (w.db.saveVolume env.idGen v).2 }) :=
  dbCall_of_not_fails hc rfl

theorem dbSaveNetwork_of_not_fails {w : World} (hc : w.fails .saveNetwork = false) (n : Network) :
    w.dbSaveNetwork env n = (.ok (w.db.saveNetwork env.idGen n).1,
      { w.next .saveNetwork with db := (w.db.saveNetwork env.idGen n).2 }) :=
  dbCall_of_not_fails hc rfl

theorem dbSaveContainer_of_not_fails {w : World} (hc : w.fails .saveContainer = false)
    (c : Container) : w.dbSaveContainer env c = (.ok (w.db.saveContainer env.idGen c).1,
      { w.next .saveContainer with db := (w.db.saveContainer env.idGen c).2 }) :=
  dbCall_of_not_fails hc rfl

/-- A world whose calls of kind `c` all succeed stays so. -/
theorem Consumed.reliable {w w' : World} {c : Call} (h : Consumed w w')
    (hr : ∀ b ∈ w.faults c, b = false) : ∀ b ∈ w'.faults c, b = false :=
  fun b hb => hr b ((h c).subset hb)

end World

end Kubedock
