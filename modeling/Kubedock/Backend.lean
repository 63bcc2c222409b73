import Kubedock.Types
import Mathlib.Data.Set.Finite.List
import Mathlib.Data.Fintype.Card

/-! The platform side of volumes (`internal/backend`): the claim `CreateVolume` submits, its name
`getVolumePVCName`, and `DeleteVolume`, over the list of the namespace's PVCs. `CreateVolume`
absorbs already-exists and `DeleteVolume` not-found. Names are Go byte strings: the PVC name is
cut at 63 bytes, so two volumes share it when their converted names agree on 50 bytes. -/

namespace Kubedock

/-- The bytes of a Go string. -/
def goBytes (s : String) : List UInt8 := s.toUTF8.data.toList

/-- `corev1.PersistentVolumeAccessMode`, the values `parseAccessMode` returns. -/
inductive AccessMode where
  | readWriteOnce
  | readWriteMany
  | readOnlyMany
  deriving DecidableEq, Repr

/-- The `PersistentVolumeClaim` that `CreateVolume` builds; its namespace is the instance's. -/
structure PVC where
  name : List UInt8
  labels : Labels
  annotations : Labels
  accessModes : List AccessMode
  storage : String
  storageClassName : Option String
  deriving DecidableEq, Repr

/-- The fields of `backend.instance` that the volume code reads, the package configuration it
reads (`config.SystemLabels`, `config.DefaultLabels`, `config.DefaultAnnotations`), and the
helper `toKubernetesName`, whose body is not among the sources. -/
structure Instance where
  volumeSize : String
  storageClass : String
  volumeAccessMode : String
  systemLabels : Labels
  defaultLabels : Labels
  defaultAnnotations : Labels
  toKubernetesName : String → List UInt8

/-- How a platform call fails: `errors.IsAlreadyExists`, `errors.IsNotFound`, or otherwise. -/
inductive ApiError where
  | alreadyExists
  | notFound
  | failed
  deriving DecidableEq, Repr

def ApiError.text : ApiError → String
  | .alreadyExists => "already exists"
  | .notFound => "not found"
  | .failed => "request failed"

/-- `PersistentVolumeClaims(namespace).Create`. -/
def createPVC (pvcs : List PVC) (pvc : PVC) (fails : Bool) : Except ApiError (List PVC) :=
  if fails then .error .failed
  else if pvcs.any (·.name = pvc.name) then .error .alreadyExists
  else .ok (pvcs ++ [pvc])

/-- `PersistentVolumeClaims(namespace).Delete`. -/
def deletePVC (pvcs : List PVC) (name : List UInt8) (fails : Bool) : Except ApiError (List PVC) :=
  if fails then .error .failed
  else if pvcs.any (·.name = name) then .ok (pvcs.filter (·.name ≠ name))
  else .error .notFound

/-- `parseAccessMode`. -/
def parseAccessMode (mode : String) : AccessMode :=
  if mode = "ReadWriteMany" ∨ mode = "RWX" then .readWriteMany
  else if mode = "ReadOnlyMany" ∨ mode = "ROX" then .readOnlyMany
  else .readWriteOnce

namespace Instance

/-- `getVolumePVCName`. -/
def getVolumePVCName (bk : Instance) (vol : Volume) : List UInt8 :=
  let name := goBytes "kubedock-vol-" ++ bk.toKubernetesName vol.name
  if name.length > 63 then name.take 63 else name

/-- The claim `CreateVolume` submits for `vol`. -/
def volumePVC (bk : Instance) (vol : Volume) : PVC where
  name := bk.getVolumePVCName vol
  labels := Labels.set (Labels.merge (Labels.merge [] bk.systemLabels) bk.defaultLabels)
    "kubedock.volumeid" vol.shortId
  annotations := Labels.set (Labels.merge [] bk.defaultAnnotations) "kubedock.volumename" vol.name
  accessModes := [parseAccessMode bk.volumeAccessMode]
  storage := bk.volumeSize
  storageClassName := if bk.storageClass ≠ "" then some bk.storageClass else none

/-- `CreateVolume`: on success the volume gets its mount point. -/
def createVolume (bk : Instance) (vol : Volume) (pvcs : List PVC) (fails : Bool) :
    Except String Volume × List PVC :=
  let mounted := { vol with mountpoint := "/var/lib/kubedock/volumes/" ++ vol.name }
  match createPVC pvcs (bk.volumePVC vol) fails with
  | .ok pvcs => (.ok mounted, pvcs)
  | .error e =>
    if e = .alreadyExists then (.ok mounted, pvcs)
    else (.error ("failed to create PVC for volume " ++ vol.name ++ ": " ++ e.text), pvcs)

/-- `DeleteVolume`. -/
def deleteVolume (bk : Instance) (vol : Volume) (pvcs : List PVC) (fails : Bool) :
    Except String Unit × List PVC :=
  match deletePVC pvcs (bk.getVolumePVCName vol) fails with
  | .ok pvcs => (.ok (), pvcs)
  | .error e =>
    if e = .notFound then (.ok (), pvcs)
    else (.error ("failed to delete PVC for volume " ++ vol.name ++ ": " ++ e.text), pvcs)

theorem volumePVC_name (bk : Instance) (vol : Volume) :
    (bk.volumePVC vol).name = bk.getVolumePVCName vol := rfl

/-- `CreateVolume` whose call does not fail mounts the volume, and submits its claim unless a
claim of its PVC name exists. -/
theorem createVolume_of_not_fails (bk : Instance) (vol : Volume) (pvcs : List PVC) :
    bk.createVolume vol pvcs false =
      (.ok { vol with mountpoint := "/var/lib/kubedock/volumes/" ++ vol.name },
        if pvcs.any (·.name = bk.getVolumePVCName vol) then pvcs else pvcs ++ [bk.volumePVC vol]) := by
  unfold createVolume createPVC
  rw [volumePVC_name]
  by_cases h : pvcs.any (·.name = bk.getVolumePVCName vol) <;>
    simp only [h, Bool.false_eq_true, if_true, if_false]

/-- What `CreateVolume` can do to the platform: nothing, or add the volume's claim. On success
the volume is mounted and a claim with its PVC name exists. -/
theorem createVolume_spec (bk : Instance) (vol : Volume) (pvcs : List PVC) (fails : Bool) :
    ((bk.createVolume vol pvcs fails).2 = pvcs ∨
      (bk.createVolume vol pvcs fails).2 = pvcs ++ [bk.volumePVC vol]) ∧
    ∀ v, (bk.createVolume vol pvcs fails).1 = .ok v →
      v = { vol with mountpoint := "/var/lib/kubedock/volumes/" ++ vol.name } ∧
      ∃ p ∈ (bk.createVolume vol pvcs fails).2, p.name = bk.getVolumePVCName vol := by
  cases fails
  · rw [createVolume_of_not_fails]
    by_cases hex : pvcs.any (·.name = bk.getVolumePVCName vol)
    · obtain ⟨p, hp, hpn⟩ := List.any_eq_true.mp hex
      simp only [hex, if_true, true_or, Except.ok.injEq, true_and]
      exact fun v hv => ⟨hv.symm, p, hp, of_decide_eq_true hpn⟩
    · simp only [hex, Bool.false_eq_true, if_false, or_true, Except.ok.injEq, true_and]
      exact fun v hv => ⟨hv.symm, bk.volumePVC vol, List.mem_append_right _ (List.mem_singleton_self _),
        rfl⟩
  · simp [createVolume, createPVC]

/-- What `DeleteVolume` can do to the platform: nothing, or remove the claims with the volume's
PVC name. -/
theorem deleteVolume_spec (bk : Instance) (vol : Volume) (pvcs : List PVC) (fails : Bool) :
    (bk.deleteVolume vol pvcs fails).2 = pvcs ∨
      (bk.deleteVolume vol pvcs fails).2 = pvcs.filter (·.name ≠ bk.getVolumePVCName vol) := by
  unfold deleteVolume deletePVC
  split_ifs <;> simp

theorem goBytes_prefix_length : (goBytes "kubedock-vol-").length = 13 := by decide

/-- The PVC name is the first 63 bytes of the prefixed converted name. -/
theorem getVolumePVCName_eq (bk : Instance) (vol : Volume) :
    bk.getVolumePVCName vol = goBytes "kubedock-vol-" ++ (bk.toKubernetesName vol.name).take 50 := by
  have h13 := goBytes_prefix_length
  simp only [getVolumePVCName]
  split_ifs with h
  · rw [show 63 = (goBytes "kubedock-vol-").length + 50 by omega, List.take_append]
  · simp only [List.length_append, h13, gt_iff_lt, not_lt] at h
    rw [List.take_of_length_le (by omega)]

theorem getVolumePVCName_length_le (bk : Instance) (vol : Volume) :
    (bk.getVolumePVCName vol).length ≤ 63 := by
  rw [getVolumePVCName_eq, List.length_append, goBytes_prefix_length, List.length_take]
  omega

/-- Two volumes get the same PVC name exactly when the converted forms of their names agree on
their first 50 bytes. -/
theorem getVolumePVCName_eq_iff (bk : Instance) (v₁ v₂ : Volume) :
    bk.getVolumePVCName v₁ = bk.getVolumePVCName v₂ ↔
      (bk.toKubernetesName v₁.name).take 50 = (bk.toKubernetesName v₂.name).take 50 := by
  rw [getVolumePVCName_eq, getVolumePVCName_eq, List.append_cancel_left_eq]

/-- Whatever `toKubernetesName` computes, two distinct volume names share a PVC name. -/
theorem getVolumePVCName_collides (bk : Instance) :
    ∃ v₁ v₂ : Volume, v₁.name ≠ v₂.name ∧ bk.getVolumePVCName v₁ = bk.getVolumePVCName v₂ := by
  haveI : Finite UInt8 := Finite.of_injective (fun x : UInt8 => (⟨x.toNat, x.toNat_lt_size⟩ :
    Fin UInt8.size)) fun a b h => UInt8.toNat.inj (Fin.mk.inj_iff.mp h)
  haveI : Finite {l : List UInt8 // l.length ≤ 50} := (List.finite_length_le UInt8 50).to_subtype
  obtain ⟨n₁, n₂, hne, heq⟩ := Finite.exists_ne_map_eq_of_infinite
    fun n : String => (⟨(bk.toKubernetesName n).take 50, by simp⟩ : {l : List UInt8 // l.length ≤ 50})
  refine ⟨{ name := n₁ }, { name := n₂ }, hne, ?_⟩
  rw [getVolumePVCName_eq, getVolumePVCName_eq]
  exact congrArg (goBytes "kubedock-vol-" ++ ·) (congrArg Subtype.val heq)

/-- No conversion of names gives every two volume names two PVC names. -/
theorem getVolumePVCName_not_injective :
    ¬ ∃ bk : Instance, ∀ v₁ v₂ : Volume, v₁.name ≠ v₂.name →
      bk.getVolumePVCName v₁ ≠ bk.getVolumePVCName v₂ := by
  rintro ⟨bk, hinj⟩
  obtain ⟨v₁, v₂, hne, heq⟩ := bk.getVolumePVCName_collides
  exact hinj v₁ v₂ hne heq

/-- Two volumes share a PVC name exactly when their converted names agree on 50 bytes, and some
two distinct names do; then `CreateVolume` of one adopts the other's claim and `DeleteVolume` of
one deletes it. -/
theorem getVolumePVCName_shared (bk : Instance) :
    (∀ v₁ v₂ : Volume, bk.getVolumePVCName v₁ = bk.getVolumePVCName v₂ ↔
      (bk.toKubernetesName v₁.name).take 50 = (bk.toKubernetesName v₂.name).take 50) ∧
    (∃ v₁ v₂ : Volume, v₁.name ≠ v₂.name ∧ bk.getVolumePVCName v₁ = bk.getVolumePVCName v₂) ∧
    ∀ v₁ v₂ : Volume, bk.getVolumePVCName v₁ = bk.getVolumePVCName v₂ →
      ∀ pvcs, bk.volumePVC v₁ ∈ pvcs →
        bk.createVolume v₂ pvcs false =
            (.ok { v₂ with mountpoint := "/var/lib/kubedock/volumes/" ++ v₂.name }, pvcs) ∧
          bk.deleteVolume v₂ pvcs false =
            (.ok (), pvcs.filter (·.name ≠ bk.getVolumePVCName v₁)) ∧
          bk.volumePVC v₁ ∉ (bk.deleteVolume v₂ pvcs false).2 := by
  refine ⟨bk.getVolumePVCName_eq_iff, bk.getVolumePVCName_collides, fun v₁ v₂ hname pvcs hp => ?_⟩
  have hany : pvcs.any (·.name = bk.getVolumePVCName v₂) = true :=
    List.any_eq_true.mpr ⟨_, hp, by simp [volumePVC_name, hname]⟩
  have hdel : bk.deleteVolume v₂ pvcs false =
      (.ok (), pvcs.filter (·.name ≠ bk.getVolumePVCName v₁)) := by
    simp only [deleteVolume, deletePVC, hany, hname, Bool.false_eq_true, if_false, if_true]
  refine ⟨by rw [createVolume_of_not_fails, if_pos hany], hdel, ?_⟩
  rw [hdel]
  simp [volumePVC_name]

end Instance

end Kubedock
