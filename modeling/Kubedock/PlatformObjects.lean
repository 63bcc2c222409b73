import Kubedock.Server
import Mathlib.Data.String.Basic

/-! The objects the backend hands to the platform: the claim's name, labels and annotations, and
the pod volumes and mounts of `addNamedVolumes`. The label `kubedock.volumeid` is always empty,
since `VolumeCreate` calls `CreateVolume` before `SaveVolume` gives the ID. `addNamedVolumes`
names a pod volume `nv-` and the uncut converted name, which a long name takes past 63 bytes. -/

namespace Kubedock

section Labels

/-- A lower-case ASCII letter or digit. -/
def isLowerAlnum (b : UInt8) : Bool := (97 ≤ b && b ≤ 122) || (48 ≤ b && b ≤ 57)

/-- A byte a DNS-1123 label may hold: a lower-case alphanumeric or `-`. -/
def isLabelByte (b : UInt8) : Bool := isLowerAlnum b || b == 45

/-- The platform's `IsDNS1123Label`: at most 63 bytes, all lower-case alphanumerics or `-`, the
first and the last alphanumeric. -/
def isDNS1123Label (s : List UInt8) : Bool :=
  decide (s.length ≤ 63) && s.all isLabelByte && s.head?.any isLowerAlnum &&
    s.getLast?.any isLowerAlnum

theorem isDNS1123Label_prefix_append (k : List UInt8) :
    isDNS1123Label (goBytes "kubedock-vol-" ++ k) =
      (decide ((goBytes "kubedock-vol-" ++ k).length ≤ 63) && k.all isLabelByte &&
        k.getLast?.any isLowerAlnum) := by
  have hall : (goBytes "kubedock-vol-").all isLabelByte = true := by decide
  have hhead : (goBytes "kubedock-vol-").head? = some 107 := by decide
  have hlast : (goBytes "kubedock-vol-").getLast? = some 45 := by decide
  rcases List.eq_nil_or_concat k with rfl | ⟨L, b, rfl⟩
  · simp [isDNS1123Label, hlast]
    decide
  · simp only [isDNS1123Label, List.all_append, hall, List.head?_append, hhead,
      List.getLast?_append, List.getLast?_concat]
    simp [isLowerAlnum]

/-- The PVC name of a volume is at most 63 bytes long, and it is a valid DNS-1123 label exactly
when the first 50 bytes of the converted name are lower-case alphanumerics and `-` and end with
an alphanumeric, so are not empty: the prefix `kubedock-vol-` ends with `-`. -/
theorem getVolumePVCName_isDNS1123Label_iff (bk : Instance) (vol : Volume) :
    (bk.getVolumePVCName vol).length ≤ 63 ∧
      (isDNS1123Label (bk.getVolumePVCName vol) = true ↔
        ((bk.toKubernetesName vol.name).take 50).all isLabelByte = true ∧
          ((bk.toKubernetesName vol.name).take 50).getLast?.any isLowerAlnum = true) := by
  have hlen := bk.getVolumePVCName_length_le vol
  refine ⟨hlen, ?_⟩
  rw [Instance.getVolumePVCName_eq] at hlen ⊢
  rw [isDNS1123Label_prefix_append, decide_eq_true hlen, Bool.true_and, Bool.and_eq_true]

/-- Every conversion that keeps the valid label of 49 `a` and then `-b` as it is cuts its PVC name
right after the `-`. -/
theorem getVolumePVCName_cut_after_hyphen (bk : Instance)
    (hk : bk.toKubernetesName "aaaaaaaaaaaaaaaaaaaaaaaaaaaaaaaaaaaaaaaaaaaaaaaaa-b" =
      goBytes "aaaaaaaaaaaaaaaaaaaaaaaaaaaaaaaaaaaaaaaaaaaaaaaaa-b") :
    isDNS1123Label (goBytes "aaaaaaaaaaaaaaaaaaaaaaaaaaaaaaaaaaaaaaaaaaaaaaaaa-b") = true ∧
      isDNS1123Label (bk.getVolumePVCName { name := "aaaaaaaaaaaaaaaaaaaaaaaaaaaaaaaaaaaaaaaaaaaaaaaaa-b" }) =
        false := by
  rw [Instance.getVolumePVCName_eq, hk]
  decide

/-- Under the sample conversion, which keeps every name as it is, a name with `-` as its 50th
character and the empty name both get PVC names that end with `-`. -/
theorem getVolumePVCName_not_label :
    isDNS1123Label
        (Env.sample.backend.getVolumePVCName { name := "aaaaaaaaaaaaaaaaaaaaaaaaaaaaaaaaaaaaaaaaaaaaaaaaa-b" }) =
      false ∧
      isDNS1123Label (Env.sample.backend.getVolumePVCName { name := "" }) = false :=
  ⟨(getVolumePVCName_cut_after_hyphen Env.sample.backend rfl).2, by decide⟩

end Labels

section Metadata

/-- The claim's labels: `kubedock.volumeid` is the volume's short ID, and every other label the
default label of its key, or else the system label. -/
theorem Instance.volumePVC_labels_lookup (bk : Instance) (vol : Volume)
    (hsys : (bk.systemLabels.map Prod.fst).Nodup) (hdef : (bk.defaultLabels.map Prod.fst).Nodup)
    (k : String) :
    (bk.volumePVC vol).labels.lookup k =
      (if k = "kubedock.volumeid" then some vol.shortId
        else (bk.defaultLabels.lookup k).or (bk.systemLabels.lookup k)) := by
  simp only [Instance.volumePVC, Labels.lookup_set, Labels.lookup_merge k hdef,
    Labels.lookup_merge k hsys, List.lookup_nil, Option.or_none]

/-- For configuration maps with distinct keys, the claim's labels and annotations have distinct
keys: `kubedock.volumeid` and `kubedock.volumename` carry the volume, every other key the default
value, or else the system label. -/
theorem Instance.volumePVC_labels (bk : Instance) (vol : Volume)
    (hsys : (bk.systemLabels.map Prod.fst).Nodup) (hdef : (bk.defaultLabels.map Prod.fst).Nodup)
    (hann : (bk.defaultAnnotations.map Prod.fst).Nodup) :
    ((bk.volumePVC vol).labels.map Prod.fst).Nodup ∧
      ((bk.volumePVC vol).annotations.map Prod.fst).Nodup ∧
      ∀ k, (bk.volumePVC vol).labels.lookup k =
          (if k = "kubedock.volumeid" then some vol.shortId
            else (bk.defaultLabels.lookup k).or (bk.systemLabels.lookup k)) ∧
        (bk.volumePVC vol).annotations.lookup k =
          (if k = "kubedock.volumename" then some vol.name else bk.defaultAnnotations.lookup k) := by
  have hnil : (([] : Labels).map Prod.fst).Nodup := List.nodup_nil
  refine ⟨Labels.nodup_keys_set (Labels.nodup_keys_merge _ (Labels.nodup_keys_merge _ hnil)) _ _,
    Labels.nodup_keys_set (Labels.nodup_keys_merge _ hnil) _ _,
    fun k => ⟨bk.volumePVC_labels_lookup vol hsys hdef k, ?_⟩⟩
  simp only [Instance.volumePVC, Labels.lookup_set, Labels.lookup_merge k hann, List.lookup_nil,
    Option.or_none]

theorem Instance.volumePVC_labels_of_overlapping_config :
    let bk : Instance :=
      { Env.sample.backend with
        systemLabels := [("app", "kubedock"), ("tier", "system")]
        defaultLabels := [("tier", "db"), ("kubedock.volumeid", "x")]
        defaultAnnotations := [("kubedock.volumename", "y"), ("owner", "ci")] }
    (bk.systemLabels.map Prod.fst).Nodup ∧ (bk.defaultLabels.map Prod.fst).Nodup ∧
      (bk.defaultAnnotations.map Prod.fst).Nodup ∧
      (((bk.volumePVC { name := "data", shortId := "a1" }).labels.map Prod.fst).Nodup ∧
        ((bk.volumePVC { name := "data", shortId := "a1" }).annotations.map Prod.fst).Nodup ∧
        ∀ k, (bk.volumePVC { name := "data", shortId := "a1" }).labels.lookup k =
            (if k = "kubedock.volumeid" then some "a1"
              else (bk.defaultLabels.lookup k).or (bk.systemLabels.lookup k)) ∧
          (bk.volumePVC { name := "data", shortId := "a1" }).annotations.lookup k =
            (if k = "kubedock.volumename" then some "data" else bk.defaultAnnotations.lookup k)) := by
  intro bk
  exact ⟨by decide, by decide, by decide,
    Instance.volumePVC_labels bk { name := "data", shortId := "a1" } (by decide) (by decide)
      (by decide)⟩

end Metadata

section Claims

variable {env : Env} {w : World}

/-- A volume saved without an ID takes the generator's next ID, so its short ID is not empty. -/
theorem saveVolume_shortId_ne_empty {gen : IdGen} {db : DB} {v : Volume} (hv : v.id = "") :
    (db.saveVolume gen v).1.shortId ≠ "" := by
  have hne := gen.next_ne_empty db.seq
  simp only [DB.saveVolume, save, Entity.id_volume, hv, if_true, Entity.assignId_volume]
  intro h
  have hdata := congrArg String.data h
  rw [String.data_take, List.take_eq_nil_iff] at hdata
  rcases hdata with h0 | h0
  · cases h0
  · exact hne (String.ext h0)

/-- A `VolumeCreate` that creates a volume submits its claim with an empty `kubedock.volumeid`,
since `CreateVolume` runs before `SaveVolume` gives the ID the stored volume then has. -/
theorem volumeCreate_claim_without_volumeid {req : VolumeCreateRequest} {v : Volume} {w' : World}
    (hfree : w.db.getVolumeByName req.name = none)
    (hnew : ∀ p ∈ w.pvcs, p.name ≠ env.backend.getVolumePVCName { name := req.name })
    (h : volumeCreate env (.ok req) w = (.ok statusCreated v, w')) :
    w'.db.getVolumeByName req.name = some v ∧ v.shortId ≠ "" ∧
      ∃ p, w'.pvcs = w.pvcs ++ [p] ∧ p.name = env.backend.getVolumePVCName v ∧
        p.labels.lookup "kubedock.volumeid" = some "" ∧
        p.annotations.lookup "kubedock.volumename" = some v.name := by
  simp only [volumeCreate, hfree] at h
  set vol₀ : Volume :=
    { name := req.name, driver := if req.driver = "" then "local" else req.driver
      labels := req.labels }
  cases hc : w.fails .createPVC
  · have hany :
        (w.pvcs.any fun p => decide (p.name = env.backend.getVolumePVCName vol₀)) = false :=
      List.any_eq_false.mpr fun p hp => by simpa using hnew p hp
    rw [World.backendCreateVolume_of_not_fails hc, hany] at h
    simp only [Bool.false_eq_true, if_false] at h
    set vol : Volume := { vol₀ with mountpoint := "/var/lib/kubedock/volumes/" ++ vol₀.name }
    rcases hs : World.dbSaveVolume env
      { w.next .createPVC with pvcs := w.pvcs ++ [env.backend.volumePVC vol₀] } vol with ⟨r, w₂⟩
    rw [hs] at h
    obtain ⟨-, hp₂, ⟨-, hr⟩ | ⟨rfl, hdb⟩⟩ := World.dbSaveVolume_spec hs
    · cases r with
      | error e => cases h
      | ok a => exact absurd rfl (hr a)
    obtain ⟨hv, rfl⟩ := Prod.mk.inj h
    obtain rfl := (Response.ok.inj hv).2
    obtain ⟨hname, hfind⟩ := @DB.getVolumeByName_saveVolume env.idGen (w.next .createPVC).db vol hfree
    refine ⟨hdb ▸ hfind, saveVolume_shortId_ne_empty rfl, env.backend.volumePVC vol₀, hp₂, ?_, ?_, ?_⟩
    · simp only [Instance.volumePVC_name, Instance.getVolumePVCName, hname]
    · simp [Instance.volumePVC]
    · simp only [Instance.volumePVC, Labels.lookup_set_self, hname]
  · simp [World.backendCreateVolume, World.backendCall, hc, Instance.createVolume, createPVC] at h

theorem volumeCreate_claim_without_volumeid_on_empty_store :
    let w := World.initial fun _ => []
    let v : Volume :=
      { id := "a", shortId := "a", name := "data", driver := "local"
        mountpoint := "/var/lib/kubedock/volumes/data" }
    let w' := (volumeCreate Env.sample (.ok { name := "data" }) w).2
    w.db.getVolumeByName "data" = none ∧
      (∀ p ∈ w.pvcs, p.name ≠ Env.sample.backend.getVolumePVCName { name := "data" }) ∧
      volumeCreate Env.sample (.ok { name := "data" }) w = (.ok statusCreated v, w') ∧
      (w'.db.getVolumeByName "data" = some v ∧ v.shortId ≠ "" ∧
        ∃ p, w'.pvcs = w.pvcs ++ [p] ∧ p.name = Env.sample.backend.getVolumePVCName v ∧
          p.labels.lookup "kubedock.volumeid" = some "" ∧
          p.annotations.lookup "kubedock.volumename" = some v.name) := by
  intro w v w'
  have h : volumeCreate Env.sample (.ok { name := "data" }) w = (.ok statusCreated v, w') :=
    Prod.ext (by decide) rfl
  have hnew : ∀ p ∈ w.pvcs, p.name ≠ Env.sample.backend.getVolumePVCName { name := "data" } :=
    fun p hp => absurd hp (List.not_mem_nil p)
  exact ⟨by decide, hnew, h,
    @volumeCreate_claim_without_volumeid Env.sample w { name := "data" } v w' (by decide) hnew h⟩

end Claims

section Pods

/-- A volume of a pod spec (`corev1.Volume`): its name and, for one backed by a claim, the claim's
name (`PersistentVolumeClaim.ClaimName`); `none` stands for every other volume source. -/
structure PodVolume where
  name : List UInt8
  claimName : Option (List UInt8)
  deriving DecidableEq, Repr

/-- `corev1.VolumeMount`. -/
structure VolumeMount where
  name : List UInt8
  mountPath : String
  deriving DecidableEq, Repr

/-- A container of a pod spec, with the field `addNamedVolumes` writes. -/
structure PodContainer where
  volumeMounts : List VolumeMount := []
  deriving DecidableEq, Repr

/-- `corev1.Pod`, with the spec fields `addNamedVolumes` writes. -/
structure Pod where
  volumes : List PodVolume := []
  containers : List PodContainer := []
  deriving DecidableEq, Repr

namespace Instance

/-- The name `addNamedVolumes` gives the pod volume of `vol` (its `volName`). -/
def namedVolumeName (bk : Instance) (vol : Volume) : List UInt8 :=
  goBytes "nv-" ++ bk.toKubernetesName vol.name

/-- `addNamedVolumes`, over the entries of the mount map in the order the loop visits them, which
Go leaves open; indexing the first container of a pod without containers panics, which is
`none`. The container argument is never read. -/
def addNamedVolumes (bk : Instance) : List (String × Volume) → Pod → Option Pod
  | [], pod => some pod
  | (mountPath, vol) :: namedVolumes, pod =>
    let volName := bk.namedVolumeName vol
    let pvcName := bk.getVolumePVCName vol
    let pod : Pod :=
      { pod with volumes := pod.volumes ++ [{ name := volName, claimName := some pvcName }] }
    match pod.containers with
    | [] => none
    | c :: cs =>
      bk.addNamedVolumes namedVolumes
        { pod with
          containers :=
            { c with volumeMounts := c.volumeMounts ++ [{ name := volName, mountPath }] } :: cs }

/-- `addNamedVolumes` appends one claim-backed pod volume and one mount per entry, named `nv-` and
the uncut converted name: two entries share a name exactly when their converted names agree, and a
name is at most 63 bytes exactly when the converted name is at most 60. -/
theorem addNamedVolumes_spec (bk : Instance) (namedVolumes : List (String × Volume))
    (vols : List PodVolume) (c : PodContainer) (cs : List PodContainer) :
    bk.addNamedVolumes namedVolumes { volumes := vols, containers := c :: cs } =
        some
          { volumes := vols ++ namedVolumes.map fun e =>
              { name := goBytes "nv-" ++ bk.toKubernetesName e.2.name
                claimName := some (bk.getVolumePVCName e.2) }
            containers :=
              { c with
                volumeMounts := c.volumeMounts ++ namedVolumes.map fun e =>
                  { name := goBytes "nv-" ++ bk.toKubernetesName e.2.name, mountPath := e.1 } } ::
                cs } ∧
      (∀ e₁ ∈ namedVolumes, ∀ e₂ ∈ namedVolumes, bk.namedVolumeName e₁.2 = bk.namedVolumeName e₂.2 ↔
        bk.toKubernetesName e₁.2.name = bk.toKubernetesName e₂.2.name) ∧
      ∀ e ∈ namedVolumes, (bk.namedVolumeName e.2).length ≤ 63 ↔
        (bk.toKubernetesName e.2.name).length ≤ 60 := by
  have h3 : (goBytes "nv-").length = 3 := by decide
  refine ⟨?_, fun _ _ _ _ => ?_, fun _ _ => ?_⟩
  · induction namedVolumes generalizing vols c with
    | nil => simp [addNamedVolumes]
    | cons entry namedVolumes ih =>
      simp only [addNamedVolumes]
      rw [ih]
      simp [namedVolumeName]
  · simp only [namedVolumeName, List.append_cancel_left_eq]
  · rw [namedVolumeName, List.length_append, h3]
    omega

/-- An entry whose converted volume name is longer than 60 bytes gets a pod volume name longer
than 63 bytes, which the platform does not take, while the claim it names, cut by
`getVolumePVCName`, is at most 63. -/
theorem addNamedVolumes_long_name (bk : Instance) (namedVolumes : List (String × Volume))
    (vols : List PodVolume) (c : PodContainer) (cs : List PodContainer) {e : String × Volume}
    (he : e ∈ namedVolumes) (hlong : 60 < (bk.toKubernetesName e.2.name).length) :
    ∃ pod, bk.addNamedVolumes namedVolumes { volumes := vols, containers := c :: cs } = some pod ∧
      { name := bk.namedVolumeName e.2, claimName := some (bk.getVolumePVCName e.2) } ∈
        pod.volumes ∧
      63 < (bk.namedVolumeName e.2).length ∧ (bk.getVolumePVCName e.2).length ≤ 63 := by
  obtain ⟨hpod, -, hlen⟩ := bk.addNamedVolumes_spec namedVolumes vols c cs
  refine ⟨_, hpod, List.mem_append_right _ (List.mem_map.mpr ⟨e, he, rfl⟩), ?_,
    bk.getVolumePVCName_length_le _⟩
  exact Nat.lt_of_not_le fun h => absurd ((hlen e he).mp h) (by omega)

theorem addNamedVolumes_long_name_of_61_letters :
    let vol : Volume := { name := "aaaaaaaaaaaaaaaaaaaaaaaaaaaaaaaaaaaaaaaaaaaaaaaaaaaaaaaaaaaaa" }
    let bk := Env.sample.backend
    ("/data", vol) ∈ [("/data", vol)] ∧ 60 < (bk.toKubernetesName vol.name).length ∧
      ∃ pod, bk.addNamedVolumes [("/data", vol)] { volumes := [], containers := [{}] } = some pod ∧
        { name := bk.namedVolumeName vol, claimName := some (bk.getVolumePVCName vol) } ∈
          pod.volumes ∧
        63 < (bk.namedVolumeName vol).length ∧ (bk.getVolumePVCName vol).length ≤ 63 :=
  ⟨List.mem_singleton_self _, by decide,
    addNamedVolumes_long_name _ _ [] {} [] (List.mem_singleton_self _) (by decide)⟩

end Instance

end Pods

end Kubedock
