import Kubedock.Server

/-! The presenters `volumeToJSON` and `volumeToLibpodJSON` against the stored volumes. Both fall
back to the driver `local` and to a mount point built from the name; `VolumeCreate` stores only
volumes with a driver and the mount point `CreateVolume` gives, so over every run the fallbacks
never fire on a stored volume. -/

namespace Kubedock

/-- The fields of a volume reply. `CreatedAt` is left out with `Volume.Created`; `UsageData` is
a field of the docker reply only, always null. Go's nil labels map, which the presenters replace
by an empty one, is not told apart from an empty one. -/
structure VolumeJSON where
  name : String
  driver : String
  mountpoint : String
  labels : Labels
  scope : String
  options : Labels
  usageData : Bool
  deriving DecidableEq, Repr

/-- The presenters' common body; `usageData` says whether the reply has the field `UsageData`. -/
def volumeReply (usageData : Bool) (vol : Volume) : VolumeJSON where
  name := vol.name
  driver := if vol.driver = "" then "local" else vol.driver
  mountpoint := if vol.mountpoint = "" then "/var/lib/kubedock/volumes/" ++ vol.name else vol.mountpoint
  labels := vol.labels
  scope := "local"
  options := []
  usageData := usageData

/-- docker `volumeToJSON`. -/
def volumeToJSON (vol : Volume) : VolumeJSON := volumeReply true vol

/-- libpod `volumeToLibpodJSON`. -/
def volumeToLibpodJSON (vol : Volume) : VolumeJSON := volumeReply false vol

/-- A volume with a driver and the mount point `CreateVolume` gives it. -/
def Volume.Mounted (v : Volume) : Prop :=
  v.driver ≠ "" ∧ v.mountpoint = "/var/lib/kubedock/volumes/" ++ v.name

instance (v : Volume) : Decidable v.Mounted :=
  inferInstanceAs (Decidable (v.driver ≠ "" ∧ v.mountpoint = "/var/lib/kubedock/volumes/" ++ v.name))

/-- On a mounted volume neither fallback fires. -/
theorem Volume.Mounted.volumeReply {v : Volume} (h : v.Mounted) (usageData : Bool) :
    Kubedock.volumeReply usageData v =
      ⟨v.name, v.driver, v.mountpoint, v.labels, "local", [], usageData⟩ := by
  have hm : v.mountpoint ≠ "" := by
    rw [h.2]
    exact fun he => by simpa using congrArg String.data he
  simp only [Kubedock.volumeReply, if_neg h.1, if_neg hm]

theorem DB.mem_saveVolume {gen : IdGen} {db : DB} {v u : Volume}
    (hu : u ∈ (db.saveVolume gen v).2.volumes) : u ∈ db.volumes ∨ u = (db.saveVolume gen v).1 :=
  mem_save hu

theorem DB.saveVolume_fst_mounted {gen : IdGen} {db : DB} {v : Volume} (h : v.Mounted) :
    (db.saveVolume gen v).1.Mounted := by
  simp only [DB.saveVolume, save]
  split_ifs <;> exact h

section Runs

variable {env : Env}

/-- `VolumeCreate` stores nothing but a mounted volume with a driver. -/
theorem volumeCreate_mounted (body : Except String VolumeCreateRequest) (w : World) :
    ∀ v ∈ (volumeCreate env body w).2.db.volumes, v ∈ w.db.volumes ∨ v.Mounted := by
  intro v hv
  cases body with
  | error e => exact .inl hv
  | ok req =>
    simp only [volumeCreate] at hv
    cases hl : w.db.getVolumeByName req.name with
    | some e =>
      simp only [hl] at hv
      exact .inl hv
    | none =>
      simp only [hl] at hv
      set vol : Volume := { name := req.name, driver := if req.driver = "" then "local" else req.driver
                            labels := req.labels }
      have hdriver : vol.driver ≠ "" := by
        show (if req.driver = "" then "local" else req.driver) ≠ ""
        split_ifs with h
        · decide
        · exact h
      rcases hr : w.backendCreateVolume env vol with ⟨_ | vol', w₁⟩ <;> simp only [hr] at hv
      · obtain ⟨-, hdb, -⟩ := World.backendCreateVolume_spec hr
        exact .inl (hdb ▸ hv)
      · obtain ⟨-, hdb, -, hok⟩ := World.backendCreateVolume_spec hr
        obtain ⟨rfl, -⟩ := hok _ rfl
        rcases hs : w₁.dbSaveVolume env { vol with mountpoint := "/var/lib/kubedock/volumes/" ++ vol.name }
          with ⟨_ | _, w₂⟩ <;> simp only [hs] at hv <;>
          obtain ⟨-, -, ⟨hdb₂, -⟩ | ⟨-, hdb₂⟩⟩ := World.dbSaveVolume_spec hs
        all_goals first
          | exact .inl (hdb ▸ hdb₂ ▸ hv)
          | (rw [hdb₂] at hv
             rcases DB.mem_saveVolume hv with hv | rfl
             · exact .inl (hdb ▸ hv)
             · exact .inr (DB.saveVolume_fst_mounted ⟨hdriver, rfl⟩))

/-- The prunes store no volume. -/
theorem volumesPruneWith_volumes {β : Type} (report : Volume → β) (w : World) :
    ∀ v ∈ (volumesPruneWith env report w).2.db.volumes, v ∈ w.db.volumes := by
  intro v hv
  rcases hr : volumesPruneWith env report w with ⟨r, w'⟩
  rw [hr] at hv
  obtain ⟨-, ⟨hdb, -⟩ | ⟨-, removed, -, -, hdb, -⟩⟩ := volumesPruneWith_spec hr
  · exact hdb ▸ hv
  · rw [hdb] at hv
    exact List.mem_of_mem_filter hv

/-- Every request stores nothing but mounted volumes with a driver: the other handlers store no
volume, and the deletes and prunes drop volumes. -/
theorem Request.apply_mounted (req : Request) (w : World) :
    ∀ v ∈ (req.apply env w).db.volumes, v ∈ w.db.volumes ∨ v.Mounted := by
  intro v hv
  cases req with
  | volume req =>
    cases req with
    | volumeCreate body => exact volumeCreate_mounted body w v hv
    | volumeInfo id => exact .inl (by simpa [Request.apply, VolumeRequest.apply] using hv)
    | volumeExists name => exact .inl (by simpa [Request.apply, VolumeRequest.apply] using hv)
    | volumeDelete id =>
      rcases hr : volumeDelete env id w with ⟨r, w'⟩
      simp only [Request.apply, VolumeRequest.apply, hr] at hv
      obtain ⟨-, ⟨hdb, -⟩ | ⟨u, -, -, ⟨hdb, -⟩ | ⟨-, hdel⟩⟩⟩ := volumeDelete_spec hr
      · exact .inl (hdb ▸ hv)
      · exact .inl (hdb ▸ hv)
      · rw [DB.deleteVolume_some hdel] at hv
        exact .inl (List.mem_of_mem_filter hv)
    | volumesPrune => exact .inl (volumesPruneWith_volumes Volume.name w v hv)
    | volumePrune => exact .inl (volumesPruneWith_volumes Volume.id w v hv)
  | network req => exact .inl ((req.apply_volumes env w) ▸ hv)

end Runs

/-- Every run of requests from a store of mounted volumes with drivers, under every pattern of
failures, stores only such volumes, so the presenters of both dialects show every stored volume's
own driver and mount point: neither fallback fires. -/
theorem run_volumes_presented (env : Env) (w : World) (reqs : List Request)
    (h : ∀ v ∈ w.db.volumes, v.Mounted) :
    ∀ v ∈ (run env w reqs).db.volumes, v.Mounted ∧
      volumeToJSON v = ⟨v.name, v.driver, v.mountpoint, v.labels, "local", [], true⟩ ∧
      volumeToLibpodJSON v = ⟨v.name, v.driver, v.mountpoint, v.labels, "local", [], false⟩ := by
  have hrun := run_preserves env (P := fun w => ∀ v ∈ w.db.volumes, v.Mounted)
    (Q := fun _ => True) (fun req w _ hw v hv => (req.apply_mounted w v hv).elim (hw v) id)
    reqs w (fun _ _ => trivial) h
  exact fun v hv => ⟨hrun v hv, (hrun v hv).volumeReply true, (hrun v hv).volumeReply false⟩

theorem run_volumes_presented_of_default_driver :
    let reqs : List Request :=
      [.volume (.volumeCreate (.ok { name := "data" })),
        .volume (.volumeCreate (.ok { name := "cache", driver := "nfs" })), .volume .volumesPrune,
        .volume (.volumeCreate (.ok { name := "logs" }))]
    (∀ v ∈ (World.initial fun _ => []).db.volumes, v.Mounted) ∧
      ∀ v ∈ (run Env.sample (World.initial fun _ => []) reqs).db.volumes, v.Mounted ∧
        volumeToJSON v = ⟨v.name, v.driver, v.mountpoint, v.labels, "local", [], true⟩ ∧
        volumeToLibpodJSON v = ⟨v.name, v.driver, v.mountpoint, v.labels, "local", [], false⟩ := by
  intro reqs
  have h : ∀ v ∈ (World.initial fun _ => []).db.volumes, v.Mounted := nofun
  exact ⟨h, run_volumes_presented Env.sample _ reqs h⟩

end Kubedock
