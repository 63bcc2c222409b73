import Kubedock.Server

/-! Filters on lists and prunes. The filter engine is not among the sources and is modelled from
the spec: an entity matches when it matches a value of every filter type present. The list
handlers answer the stored volumes the filter matches; the prune handlers never read it, so they
remove volumes and networks it rejects. -/

namespace Kubedock

/-- Modelled from the spec: a parsed `filters` parameter, each filter type with its values. -/
structure Filter where
  entries : List (String × List String) := []
  deriving DecidableEq, Repr

/-- The characters before the first `=` and those after it. -/
def splitAtEq : List Char → List Char × List Char
  | [] => ([], [])
  | c :: cs => if c = '=' then ([], cs) else ((c :: (splitAtEq cs).1), (splitAtEq cs).2)

/-- Modelled from the spec: a filter value `key=value` split at its first `=`; a value-less
`key` has the empty value. -/
def splitFilterValue (s : String) : String × String :=
  (String.mk (splitAtEq s.data).1, String.mk (splitAtEq s.data).2)

/-- Modelled from the spec: `filterSet.Match` over an entity's `Match(type, key, value)`. -/
def Filter.match (filtr : Filter) (m : String → String → String → Except String Bool) : Bool :=
  filtr.entries.all fun e => e.2.any fun s =>
    match m e.1 (splitFilterValue s).1 (splitFilterValue s).2 with
    | .ok b => b
    | .error _ => true

/-- No filter type present: every entity matches. -/
@[simp] theorem Filter.match_empty (m : String → String → String → Except String Bool) :
    Filter.match {} m = true := rfl

/-- `VolumeList` of both dialects; `matchString` is `regexp.MatchString`. -/
def volumeList (matchString : String → String → Except String Bool) (filtr : Filter) (w : World) :
    Response (List Volume) × World :=
  match w.dbGetVolumes with
  | (.error e, w) => (.error statusInternalServerError e, w)
  | (.ok vols, w) => (.ok statusOK (vols.filter fun vol => filtr.match (vol.match matchString)), w)

/-- When its listing does not fail, `VolumeList` answers with the stored volumes the filter
matches, in store order, and changes nothing but the listing's outcome. -/
theorem volumeList_of_listed {w : World} (matchString : String → String → Except String Bool)
    (filtr : Filter) (hl : w.fails .listVolumes = false) :
    (volumeList matchString filtr w).1 =
      .ok statusOK (w.db.volumes.filter fun vol => filtr.match (vol.match matchString)) ∧
    (volumeList matchString filtr w).2 = w.next .listVolumes := by
  simp [volumeList, World.dbGetVolumes, World.dbCall, hl]
  rfl

/-- Docker `VolumesPrune` removes a volume that the request's filter `{"driver": ["nfs"]}`
rejects, which `VolumeList` with that filter leaves out. -/
theorem volumesPrune_removes_rejected_volume :
    let w : World := run Env.sample (World.initial fun _ => [])
      [.volume (.volumeCreate (.ok { name := "data" }))]
    let filtr : Filter := { entries := [("driver", ["nfs"])] }
    w.db.volumes.map (fun vol => filtr.match (vol.match fun _ _ => .ok false)) = [false] ∧
      (volumeList (fun _ _ => .ok false) filtr w).1 = .ok statusOK [] ∧
      (Docker.volumesPrune Env.sample w).1 = .ok statusOK ["data"] ∧
      (Docker.volumesPrune Env.sample w).2.db.volumes = [] := by
  decide

variable {env : Env} {w : World}

/-- With no store call failing, a prune handler of either dialect removes every stored volume,
whatever the request's filters. -/
theorem volumesPruneWith_removes_all {β : Type} (report : Volume → β)
    (hl : ∀ b ∈ w.faults .listVolumes, b = false) (hd : ∀ b ∈ w.faults .deleteVolume, b = false) :
    (volumesPruneWith env report w).2.db.volumes = [] := by
  rcases h : volumesPruneWith env report w with ⟨r, w'⟩
  obtain ⟨-, ⟨-, -, hf⟩ | ⟨-, removed, -, -, hdb, hall⟩⟩ := volumesPruneWith_spec h
  · rw [World.fails_eq_false_of_reliable hl] at hf
    cases hf
  · rw [hdb, List.filter_eq_nil_iff]
    exact fun v hv => by simpa using hall hd v hv

theorem volumesPruneWith_removes_all_of_two :
    let w : World := run Env.sample (World.initial fun _ => [])
      [.volume (.volumeCreate (.ok { name := "data" })),
        .volume (.volumeCreate (.ok { name := "logs", driver := "nfs" }))]
    (∀ b ∈ w.faults .listVolumes, b = false) ∧ (∀ b ∈ w.faults .deleteVolume, b = false) ∧
      (volumesPruneWith Env.sample Volume.name w).2.db.volumes = [] := by
  intro w
  exact ⟨by decide, by decide, volumesPruneWith_removes_all Volume.name (by decide) (by decide)⟩

/-- With no store call failing, in a store whose networks have distinct IDs, `NetworkPrune`
keeps exactly the predefined networks and those some stored container is a member of, whatever
the request's filters. -/
theorem networkPrune_keeps_exactly (hn : ∀ b ∈ w.faults .listNetworks, b = false)
    (hl : ∀ b ∈ w.faults .listContainers, b = false) (hd : ∀ b ∈ w.faults .deleteNetwork, b = false)
    (hk : Keyed w.db.networks) :
    ∀ n, n ∈ (networkPrune env w).2.db.networks ↔ n ∈ w.db.networks ∧
      (env.isPredefined n = true ∨ ∃ c ∈ w.db.containers, n.id ∈ c.networks) := by
  rcases h : networkPrune env w with ⟨r, w'⟩
  obtain ⟨-, -, removed, hsub, hdb, hnp, hfree, hall⟩ := networkPrune_spec h
  obtain ⟨-, hin⟩ := hall hn hl hd hk.1
  intro n
  rw [hdb, List.mem_filter, decide_eq_true_eq]
  refine and_congr_right fun hn => ⟨fun hout => ?_, fun hkeep hrem => ?_⟩
  · by_contra hno
    push_neg at hno
    exact hout (List.mem_map_of_mem _ (hin n hn (by simpa using hno.1) hno.2))
  · obtain ⟨m, hm, he⟩ := List.mem_map.mp hrem
    obtain rfl := List.inj_on_of_nodup_map hk.1 (hsub.subset hm) hn he
    rcases hkeep with hpre | ⟨c, hc, hcn⟩
    · rw [hnp m hm] at hpre
      cases hpre
    · exact hfree hl m hm c hc hcn

theorem networkPrune_keeps_predefined_and_used :
    let w : World :=
      { db :=
          { networks := [{ id := "a", name := "bridge" }, { id := "b", name := "used" },
              { id := "c", name := "idle" }]
            containers := [{ id := "d", name := "app", networks := ["b"] }]
            seq := 4 }
        pvcs := []
        faults := fun _ => [] }
    (∀ b ∈ w.faults .listNetworks, b = false) ∧ (∀ b ∈ w.faults .listContainers, b = false) ∧
      (∀ b ∈ w.faults .deleteNetwork, b = false) ∧ Keyed w.db.networks ∧
      ∀ n, n ∈ (networkPrune Env.sample w).2.db.networks ↔ n ∈ w.db.networks ∧
        (Env.sample.isPredefined n = true ∨ ∃ c ∈ w.db.containers, n.id ∈ c.networks) := by
  intro w
  exact ⟨nofun, nofun, nofun, by decide, networkPrune_keeps_exactly nofun nofun nofun (by decide)⟩

end Kubedock
