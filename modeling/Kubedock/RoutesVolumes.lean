import Kubedock.Router

/-! The volume handlers of both API dialects. `VolumeCreate`, `VolumeInfo`, `VolumeExists` and
`VolumeDelete` have one body in the two dialects, whose reply carries the volume the presenter
is given; the prunes share `volumesPruneWith` and differ in what they report. Create asks the
backend for the claim before it saves; delete and prune delete the claim first. -/

namespace Kubedock

/-- `VolumeCreateRequest` (both dialects); `DriverOpts` and `Options` are decoded and never
read. -/
structure VolumeCreateRequest where
  name : String
  driver : String := ""
  labels : Labels := []
  deriving DecidableEq, Repr

variable (env : Env)

/-- `VolumeCreate` of both dialects. -/
def volumeCreate (body : Except String VolumeCreateRequest) (w : World) : Response Volume × World :=
  match body with
  | .error e => (.error statusInternalServerError e, w)
  | .ok req =>
    let driver := if req.driver = "" then "local" else req.driver
    match w.db.getVolumeByName req.name with
    | some existing => (.ok statusCreated existing, w)
    | none =>
      let vol : Volume := { name := req.name, driver := driver, labels := req.labels }
      match w.backendCreateVolume env vol with
      | (.error e, w) => (.error statusInternalServerError e, w)
      | (.ok vol, w) =>
        match w.dbSaveVolume env vol with
        | (.error e, w) => (.error statusInternalServerError e, w)
        | (.ok vol, w) => (.ok statusCreated vol, w)

/-- `VolumeInfo` of both dialects. -/
def volumeInfo (id : String) (w : World) : Response Volume × World :=
  match w.db.getVolumeByNameOrID id with
  | none => (.error statusNotFound notFoundError, w)
  | some vol => (.ok statusOK vol, w)

/-- libpod `VolumeExists`. -/
def volumeExists (name : String) (w : World) : Response Unit × World :=
  match w.db.getVolumeByNameOrID name with
  | none => (.error statusNotFound notFoundError, w)
  | some _ => (.ok statusNoContent (), w)

/-- `VolumeDelete` of both dialects: a failed PVC delete is only logged. -/
def volumeDelete (id : String) (w : World) : Response Unit × World :=
  match w.db.getVolumeByNameOrID id with
  | none => (.error statusNotFound notFoundError, w)
  | some vol =>
    let w := (w.backendDeleteVolume env vol).2
    match w.dbDeleteVolume vol with
    | (.error e, w) => (.error statusNotFound e, w)
    | (.ok (), w) => (.ok statusNoContent (), w)

/-- The loop of the prune handlers: a volume whose store delete fails is skipped. -/
def pruneVolumes {β : Type} (report : Volume → β) (acc : List β) : List Volume → World → List β × World
  | [], w => (acc, w)
  | vol :: vols, w =>
    let w := (w.backendDeleteVolume env vol).2
    match w.dbDeleteVolume vol with
    | (.error _, w) => pruneVolumes report acc vols w
    | (.ok (), w) => pruneVolumes report (acc ++ [report vol]) vols w

/-- The prune handlers, reporting each pruned volume by `report`. -/
def volumesPruneWith {β : Type} (report : Volume → β) (w : World) : Response (List β) × World :=
  match w.dbGetVolumes with
  | (.error e, w) => (.error statusInternalServerError e, w)
  | (.ok vols, w) =>
    let r := pruneVolumes env report [] vols w
    (.ok statusOK r.1, r.2)

/-- docker `VolumesPrune`: reports the names of the pruned volumes. -/
def Docker.volumesPrune (w : World) : Response (List String) × World :=
  volumesPruneWith env Volume.name w

/-- libpod `VolumePrune`: reports the IDs of the pruned volumes. -/
def Libpod.volumePrune (w : World) : Response (List String) × World :=
  volumesPruneWith env Volume.id w

namespace World

variable {env : Env} {w w' : World}

theorem backendCreateVolume_spec {v : Volume} {r : Except String Volume}
    (h : w.backendCreateVolume env v = (r, w')) :
    Consumed w w' ∧ w'.db = w.db ∧ (∀ p ∈ w.pvcs, p ∈ w'.pvcs) ∧
      ∀ v', r = .ok v' → v' = { v with mountpoint := "/var/lib/kubedock/volumes/" ++ v.name } ∧
        ∃ p ∈ w'.pvcs, p.name = env.backend.getVolumePVCName v := by
  obtain ⟨hp, hok⟩ := env.backend.createVolume_spec v w.pvcs (w.fails .createPVC)
  obtain ⟨rfl, rfl⟩ := Prod.mk.inj h
  refine ⟨consumed_backendCall _ _ _, rfl, fun p hm => ?_, hok⟩
  rcases hp with hp | hp <;> simp [backendCall, hp, hm]

theorem backendCreateVolume_of_not_fails {v : Volume} (hc : w.fails .createPVC = false) :
    w.backendCreateVolume env v = (.ok { v with mountpoint := "/var/lib/kubedock/volumes/" ++ v.name },
      { w.next .createPVC with
        pvcs := if w.pvcs.any (·.name = env.backend.getVolumePVCName v) then w.pvcs
          else w.pvcs ++ [env.backend.volumePVC v] }) := by
  simp only [backendCreateVolume, backendCall, hc, Instance.createVolume_of_not_fails]

/-- `CreateVolume` whose call fails reports the failure and submits no claim. -/
theorem backendCreateVolume_of_fails {v : Volume} (hc : w.fails .createPVC = true) :
    ∃ e, w.backendCreateVolume env v = (.error e, w.next .createPVC) :=
  ⟨_, by simp only [backendCreateVolume, backendCall, hc, Instance.createVolume, createPVC, if_true]; rfl⟩

theorem backendDeleteVolume_spec (v : Volume) :
    Consumed w (w.backendDeleteVolume env v).2 ∧ (w.backendDeleteVolume env v).2.db = w.db ∧
      ((w.backendDeleteVolume env v).2.pvcs = w.pvcs ∨ (w.backendDeleteVolume env v).2.pvcs =
        w.pvcs.filter (·.name ≠ env.backend.getVolumePVCName v)) :=
  ⟨consumed_backendCall _ _ _, rfl, env.backend.deleteVolume_spec v w.pvcs _⟩

theorem dbSaveVolume_spec {v : Volume} {r : Except String Volume}
    (h : w.dbSaveVolume env v = (r, w')) :
    Consumed w w' ∧ w'.pvcs = w.pvcs ∧
      ((w'.db = w.db ∧ ∀ u, r ≠ .ok u) ∨ (r = .ok (w.db.saveVolume env.idGen v).1 ∧
        w'.db = (w.db.saveVolume env.idGen v).2)) := by
  obtain ⟨hc, hp, ⟨hdb, -, hr⟩ | ⟨a, hf, rfl⟩⟩ := dbCall_spec h
  · exact ⟨hc, hp, Or.inl ⟨hdb, hr⟩⟩
  · obtain ⟨rfl, hdb⟩ := Prod.mk.inj (Except.ok.inj hf)
    exact ⟨hc, hp, Or.inr ⟨rfl, hdb.symm⟩⟩

theorem dbDeleteVolume_spec {v : Volume} {r : Except String Unit}
    (h : w.dbDeleteVolume v = (r, w')) :
    Consumed w w' ∧ w'.pvcs = w.pvcs ∧
      ((w'.db = w.db ∧ (w.fails .deleteVolume = true ∨ w.db.deleteVolume v = none) ∧
          ∀ a, r ≠ .ok a) ∨
        (r = .ok () ∧ w.db.deleteVolume v = some w'.db)) := by
  obtain ⟨hc, hp, ⟨hdb, hf | ⟨e, he⟩, hr⟩ | ⟨a, hf, rfl⟩⟩ := dbCall_spec h
  · exact ⟨hc, hp, Or.inl ⟨hdb, Or.inl hf, hr⟩⟩
  · refine ⟨hc, hp, Or.inl ⟨hdb, Or.inr ?_, hr⟩⟩
    revert he; cases w.db.deleteVolume v <;> simp
  · refine ⟨hc, hp, Or.inr ⟨rfl, ?_⟩⟩
    revert hf; cases w.db.deleteVolume v <;> simp

/-- A store delete that does not fail leaves the entries without the volume's ID: it removes
them, or reports not-found when there are none. -/
theorem dbDeleteVolume_of_not_fails {v : Volume} (hf : w.fails .deleteVolume = false) :
    Consumed w (w.dbDeleteVolume v).2 ∧ (w.dbDeleteVolume v).2.pvcs = w.pvcs ∧
      (w.dbDeleteVolume v).2.db = { w.db with volumes := w.db.volumes.filter (·.id ≠ v.id) } := by
  rcases hd : w.dbDeleteVolume v with ⟨r, w₁⟩
  obtain ⟨hc, hp, ⟨hdb, hf', -⟩ | ⟨-, hdel⟩⟩ := dbDeleteVolume_spec hd
  · rw [hf] at hf'
    have hnone : w.db.deleteVolume v = none := hf'.resolve_left Bool.false_ne_true
    simp only [DB.deleteVolume, Option.map_eq_none', remove_eq_none] at hnone
    have hkeep : w.db.volumes.filter (·.id ≠ v.id) = w.db.volumes :=
      List.filter_eq_self.mpr fun u hu => decide_eq_true (hnone u hu)
    refine ⟨hc, hp, ?_⟩
    rw [hdb, hkeep]
  · exact ⟨hc, hp, DB.deleteVolume_some hdel⟩

/-- A store delete of a stored volume that does not fail removes the entries with its ID. -/
theorem dbDeleteVolume_of_stored {v : Volume} (hf : w.fails .deleteVolume = false)
    (hv : v ∈ w.db.volumes) :
    (w.dbDeleteVolume v).1 = .ok () ∧ Consumed w (w.dbDeleteVolume v).2 ∧
      (w.dbDeleteVolume v).2.pvcs = w.pvcs ∧
      (w.dbDeleteVolume v).2.db = { w.db with volumes := w.db.volumes.filter (·.id ≠ v.id) } := by
  rcases hd : w.dbDeleteVolume v with ⟨r, w₁⟩
  obtain ⟨hc, hp, ⟨-, hf', -⟩ | ⟨rfl, hdel⟩⟩ := dbDeleteVolume_spec hd
  · rw [hf] at hf'
    exact absurd (hf'.resolve_left Bool.false_ne_true)
      (DB.deleteVolume_ne_none (List.mem_map_of_mem _ hv))
  · exact ⟨rfl, hc, hp, DB.deleteVolume_some hdel⟩

/-- One volume's removal, as `VolumeDelete` and the prune loop do it: the claim first, its
failure only logged, then the store entry. -/
theorem purgeVolume_spec {v : Volume} {r : Except String Unit}
    (h : (w.backendDeleteVolume env v).2.dbDeleteVolume v = (r, w')) :
    Consumed w w' ∧ (w'.pvcs = w.pvcs ∨
        w'.pvcs = w.pvcs.filter (·.name ≠ env.backend.getVolumePVCName v)) ∧
      ((w'.db = w.db ∧ (w.fails .deleteVolume = true ∨ w.db.deleteVolume v = none) ∧
          ∀ a, r ≠ .ok a) ∨
        (r = .ok () ∧ w.db.deleteVolume v = some w'.db)) := by
  obtain ⟨hc₁, hdb₁, hp₁⟩ := @backendDeleteVolume_spec env w v
  obtain ⟨hc₂, hp₂, ⟨hdb₂, hf, hr⟩ | ⟨rfl, hd⟩⟩ := dbDeleteVolume_spec h
  · refine ⟨hc₁.trans hc₂, hp₂ ▸ hp₁, Or.inl ⟨hdb₂.trans hdb₁, ?_, hr⟩⟩
    rw [hdb₁] at hf
    rwa [backendDeleteVolume, backendCall_fails _ _ (by decide)] at hf
  · exact ⟨hc₁.trans hc₂, hp₂ ▸ hp₁, Or.inr ⟨rfl, hdb₁ ▸ hd⟩⟩

end World

variable {env : Env} {w w' : World}

/-- `VolumeInfo` and `VolumeExists` only read the store. -/
@[simp] theorem volumeInfo_world (id : String) (w : World) : (volumeInfo id w).2 = w := by
  unfold volumeInfo; split <;> rfl

@[simp] theorem volumeExists_world (name : String) (w : World) : (volumeExists name w).2 = w := by
  unfold volumeExists; split <;> rfl

/-- What `VolumeCreate` can do: answer the stored volume of the name, fail and change no volume,
or save a new volume of the name once its claim exists. -/
theorem volumeCreate_spec {body : Except String VolumeCreateRequest} {r : Response Volume}
    (h : volumeCreate env body w = (r, w')) :
    World.Consumed w w' ∧ (∀ p ∈ w.pvcs, p ∈ w'.pvcs) ∧
      ((w'.db = w.db ∧ ∀ s v, r = .ok s v →
          w' = w ∧ ∃ req, body = .ok req ∧ w.db.getVolumeByName req.name = some v) ∨
        ∃ req v, body = .ok req ∧ v.name = req.name ∧ v.id = "" ∧
        w.db.getVolumeByName v.name = none ∧
        (∃ p ∈ w'.pvcs, p.name = env.backend.getVolumePVCName v) ∧
        r = .ok statusCreated (w.db.saveVolume env.idGen v).1 ∧
        w'.db = (w.db.saveVolume env.idGen v).2) := by
  unfold volumeCreate at h
  split at h
  · obtain ⟨rfl, rfl⟩ := Prod.mk.inj h
    exact ⟨.refl _, fun _ => id, Or.inl ⟨rfl, fun _ _ h => by cases h⟩⟩
  rename_i req
  generalize (if req.driver = "" then "local" else req.driver) = driver at h
  split at h
  · rename_i v hv
    obtain ⟨rfl, rfl⟩ := Prod.mk.inj h
    exact ⟨.refl _, fun _ => id, Or.inl ⟨rfl, fun _ _ h => by cases h; exact ⟨rfl, req, rfl, hv⟩⟩⟩
  rename_i hnone
  dsimp only at h
  split at h
  · rename_i e w₁ hc
    obtain ⟨hc₁, hdb₁, hp₁, -⟩ := World.backendCreateVolume_spec hc
    obtain ⟨rfl, rfl⟩ := Prod.mk.inj h
    exact ⟨hc₁, hp₁, Or.inl ⟨hdb₁, fun _ _ h => by cases h⟩⟩
  rename_i vol w₁ hc
  obtain ⟨hc₁, hdb₁, hp₁, hok⟩ := World.backendCreateVolume_spec hc
  obtain ⟨hv, hex⟩ := hok vol rfl
  split at h
  · rename_i e w₂ hs
    obtain ⟨hc₂, hp₂, ⟨hdb₂, -⟩ | ⟨hr, -⟩⟩ := World.dbSaveVolume_spec hs
    · obtain ⟨rfl, rfl⟩ := Prod.mk.inj h
      exact ⟨hc₁.trans hc₂, fun p hp => hp₂ ▸ hp₁ p hp,
        Or.inl ⟨hdb₂.trans hdb₁, fun _ _ h => by cases h⟩⟩
    · cases hr
  rename_i vol' w₂ hs
  obtain ⟨hc₂, hp₂, ⟨-, hr⟩ | ⟨hr, hdb₂⟩⟩ := World.dbSaveVolume_spec hs
  · exact absurd rfl (hr vol')
  obtain ⟨rfl, rfl⟩ := Prod.mk.inj h
  refine ⟨hc₁.trans hc₂, fun p hp => hp₂ ▸ hp₁ p hp, Or.inr ⟨req, vol, rfl, by rw [hv], by rw [hv],
    by rw [hv]; exact hnone, ?_, ?_, ?_⟩⟩
  · rw [hp₂]; exact hv ▸ hex
  · rw [← hdb₁, ← (Except.ok.inj hr)]
  · rw [hdb₂, hdb₁]

/-- What `VolumeDelete` can do: nothing when the key resolves to no volume; otherwise it may
remove the claims with the resolved volume's PVC name, and it removes that volume from the store
unless the store delete fails. -/
theorem volumeDelete_spec {id : String} {r : Response Unit} (h : volumeDelete env id w = (r, w')) :
    World.Consumed w w' ∧ ((w'.db = w.db ∧ w'.pvcs = w.pvcs ∧ w.db.getVolumeByNameOrID id = none) ∨
      ∃ v, w.db.getVolumeByNameOrID id = some v ∧
        (w'.pvcs = w.pvcs ∨ w'.pvcs = w.pvcs.filter (·.name ≠ env.backend.getVolumePVCName v)) ∧
        ((w'.db = w.db ∧ (w.fails .deleteVolume = true ∨ w.db.deleteVolume v = none)) ∨
          (r = .ok statusNoContent () ∧ w.db.deleteVolume v = some w'.db))) := by
  unfold volumeDelete at h
  split at h
  · obtain ⟨-, rfl⟩ := Prod.mk.inj h
    exact ⟨.refl _, Or.inl ⟨rfl, rfl, ‹_›⟩⟩
  rename_i v hv
  dsimp only at h
  split at h <;> rename_i w₁ hd <;> obtain ⟨rfl, rfl⟩ := Prod.mk.inj h
  · obtain ⟨hc, hp, ⟨hdb, hf, -⟩ | ⟨hr, -⟩⟩ := World.purgeVolume_spec hd
    · exact ⟨hc, Or.inr ⟨v, hv, hp, Or.inl ⟨hdb, hf⟩⟩⟩
    · cases hr
  · obtain ⟨hc, hp, ⟨-, -, hr⟩ | ⟨-, hdel⟩⟩ := World.purgeVolume_spec hd
    · exact absurd rfl (hr ())
    · exact ⟨hc, Or.inr ⟨v, hv, hp, Or.inr ⟨rfl, hdel⟩⟩⟩

/-- The prune loop removes some given volumes, reports exactly those and removes no claim but the
given volumes'; with store deletes that do not fail, it removes every stored one. -/
theorem pruneVolumes_spec {β : Type} (report : Volume → β) (acc : List β) (vols : List Volume)
    (w : World) : World.Consumed w (pruneVolumes env report acc vols w).2 ∧
      (∀ p ∈ w.pvcs, (∀ v ∈ vols, p.name ≠ env.backend.getVolumePVCName v) →
        p ∈ (pruneVolumes env report acc vols w).2.pvcs) ∧
      ∃ removed : List Volume, removed.Sublist vols ∧
        (pruneVolumes env report acc vols w).1 = acc ++ removed.map report ∧
        (pruneVolumes env report acc vols w).2.db =
          { w.db with volumes := w.db.volumes.filter (fun u => u.id ∉ removed.map Volume.id) } ∧
        ((∀ b ∈ w.faults .deleteVolume, b = false) →
          ∀ v ∈ vols, v.id ∈ w.db.volumes.map Volume.id → v.id ∈ removed.map Volume.id) := by
  induction vols generalizing acc w with
  | nil =>
    refine ⟨.refl _, fun p hp _ => hp, [], List.Sublist.slnil, by simp [pruneVolumes], ?_, by simp⟩
    simp only [pruneVolumes, List.map_nil, List.not_mem_nil, not_false_eq_true, decide_True,
      List.filter_true]
  | cons vol vols ih =>
    rcases hd : (w.backendDeleteVolume env vol).2.dbDeleteVolume vol with ⟨r, w₂⟩
    obtain ⟨hc, hp, hcase⟩ := World.purgeVolume_spec hd
    have hkeep : ∀ p ∈ w.pvcs, (∀ v ∈ vol :: vols, p.name ≠ env.backend.getVolumePVCName v) →
        p ∈ w₂.pvcs := fun p hpw hne => by
      rcases hp with hp | hp <;> simp [hp, hpw, hne vol (List.mem_cons_self _ _)]
    rcases hcase with ⟨hdb, hf, hr⟩ | ⟨rfl, hdel⟩
    · obtain ⟨e, rfl⟩ : ∃ e, r = .error e := by
        cases r with
        | error e => exact ⟨e, rfl⟩
        | ok a => exact absurd rfl (hr a)
      obtain ⟨hc', hp', removed, hsub, hres, hdb', hrel⟩ := ih acc w₂
      simp only [pruneVolumes, hd]
      refine ⟨hc.trans hc', fun p hpw hne => hp' p (hkeep p hpw hne)
        fun v hv => hne v (List.mem_cons_of_mem _ hv), removed, hsub.cons _, hres,
        by rw [hdb', hdb], fun hrel₀ v hv hvin => ?_⟩
      have hf₀ : w.fails .deleteVolume = false := World.fails_eq_false_of_reliable hrel₀
      rcases List.mem_cons.mp hv with rfl | hv
      · rw [hf₀] at hf
        exact absurd (hf.resolve_left Bool.false_ne_true) (DB.deleteVolume_ne_none hvin)
      · exact hrel (hc.reliable hrel₀) v hv (hdb ▸ hvin)
    · obtain ⟨hc', hp', removed, hsub, hres, hdb', hrel⟩ := ih (acc ++ [report vol]) w₂
      simp only [pruneVolumes, hd]
      refine ⟨hc.trans hc', fun p hpw hne => hp' p (hkeep p hpw hne)
        fun v hv => hne v (List.mem_cons_of_mem _ hv), vol :: removed, hsub.cons₂ _,
        by simp [hres], ?_, fun hrel₀ v hv hvin => ?_⟩
      · rw [hdb', DB.deleteVolume_some hdel]
        simp only [List.filter_filter, List.map_cons, List.mem_cons, not_or]
        congr 2
        funext u
        rw [Bool.and_comm, Bool.decide_and]
      · rcases List.mem_cons.mp hv with rfl | hv
        · exact List.mem_cons_self _ _
        · by_cases hid : v.id = vol.id
          · simp [hid]
          · refine List.mem_cons_of_mem _ (hrel (hc.reliable hrel₀) v hv ?_)
            rw [DB.deleteVolume_some hdel]
            obtain ⟨u, hu, hu'⟩ := List.mem_map.mp hvin
            exact List.mem_map.mpr ⟨u, List.mem_filter.mpr ⟨hu, by simp [hu', hid]⟩, hu'⟩

/-- What the prune handlers can do: fail on the listing and change nothing, or run the prune loop
over every stored volume. -/
theorem volumesPruneWith_spec {β : Type} {report : Volume → β} {r : Response (List β)}
    (h : volumesPruneWith env report w = (r, w')) :
    World.Consumed w w' ∧ ((w'.db = w.db ∧ w'.pvcs = w.pvcs ∧ w.fails .listVolumes = true) ∨
      (∀ p ∈ w.pvcs, (∀ v ∈ w.db.volumes, p.name ≠ env.backend.getVolumePVCName v) →
        p ∈ w'.pvcs) ∧
      ∃ removed : List Volume, removed.Sublist w.db.volumes ∧
        r = .ok statusOK (removed.map report) ∧
        w'.db = { w.db with volumes := w.db.volumes.filter (fun u => u.id ∉ removed.map Volume.id) } ∧
        ((∀ b ∈ w.faults .deleteVolume, b = false) →
          ∀ v ∈ w.db.volumes, v.id ∈ removed.map Volume.id)) := by
  unfold volumesPruneWith at h
  rcases hl : w.dbGetVolumes with ⟨l, w₁⟩
  rw [hl] at h
  obtain ⟨hc₁, hp₁, hl'⟩ := World.dbCall_spec hl
  rcases hl' with ⟨hdb₁, hf, hr⟩ | ⟨vols, hvols, rfl⟩
  · cases l with
    | error e =>
      obtain ⟨-, rfl⟩ := Prod.mk.inj h
      exact ⟨hc₁, Or.inl ⟨hdb₁, hp₁, hf.resolve_right fun ⟨_, he⟩ => by cases he⟩⟩
    | ok a => exact absurd rfl (hr a)
  · obtain ⟨rfl, hdb₁⟩ := Prod.mk.inj (Except.ok.inj hvols)
    obtain ⟨hc₂, hp₂, removed, hsub, hres, hdb₂, hrel⟩ := @pruneVolumes_spec env _ report [] w.db.volumes w₁
    obtain ⟨rfl, rfl⟩ := Prod.mk.inj h
    refine ⟨hc₁.trans hc₂, Or.inr ⟨fun p hp hne => hp₂ p (hp₁ ▸ hp) hne, removed, hsub,
      by simp [hres], by rw [hdb₂, hdb₁], fun hrel₀ v hv => ?_⟩⟩
    exact hrel (hc₁.reliable hrel₀) v hv (hdb₁ ▸ List.mem_map_of_mem _ hv)

end Kubedock
