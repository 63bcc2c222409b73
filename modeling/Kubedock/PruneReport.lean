import Kubedock.Server

/-! What the prune handlers report against what they remove. The volume prunes skip a volume
whose store delete fails and report exactly the others. `NetworkPrune` reports exactly what it
removed when it answers 200, but stops at the first failed delete and answers the error, so the
networks it removed before go unreported. -/

namespace Kubedock

/-- In a table whose keys are distinct, the entries of a sublist removed by key are exactly the
entries the table loses. -/
theorem mem_removed_iff {α : Type} {f : α → String} {xs removed : List α} (hnd : (xs.map f).Nodup)
    (hsub : removed.Sublist xs) (x : α) :
    x ∈ removed ↔ x ∈ xs ∧ x ∉ xs.filter (fun u => f u ∉ removed.map f) := by
  rw [List.mem_filter]
  constructor
  · intro hx
    exact ⟨hsub.subset hx, fun h => by simpa [List.mem_map_of_mem f hx] using h.2⟩
  · rintro ⟨hx, hout⟩
    have hfx : f x ∈ removed.map f := by
      by_contra hn
      exact hout ⟨hx, by simpa using hn⟩
    obtain ⟨u, hu, hux⟩ := List.mem_map.mp hfx
    rwa [List.inj_on_of_nodup_map hnd (hsub.subset hu) hx hux] at hu

variable {env : Env} {w : World}

/-- A prune handler of either dialect, under every pattern of failures, from a store whose
volumes have distinct IDs: its listing fails, it answers with the error and removes no volume;
or it answers 200 reporting, by `report`, exactly the volumes it removed, in store order. -/
theorem volumesPruneWith_reports_removed {β : Type} (report : Volume → β)
    (hk : (w.db.volumes.map Volume.id).Nodup) :
    ((volumesPruneWith env report w).1 = .error statusInternalServerError storeError ∧
        (volumesPruneWith env report w).2.db.volumes = w.db.volumes) ∨
      ∃ removed : List Volume, removed.Sublist w.db.volumes ∧
        (volumesPruneWith env report w).1 = .ok statusOK (removed.map report) ∧
        ∀ v, v ∈ removed ↔ v ∈ w.db.volumes ∧ v ∉ (volumesPruneWith env report w).2.db.volumes := by
  rcases h : volumesPruneWith env report w with ⟨r, w'⟩
  obtain ⟨-, ⟨hdb, -, hf⟩ | ⟨-, removed, hsub, hr, hdb, -⟩⟩ := volumesPruneWith_spec h
  · refine .inl ⟨?_, by rw [hdb]⟩
    have hr : (volumesPruneWith env report w).1 = .error statusInternalServerError storeError := by
      simp [volumesPruneWith, World.dbGetVolumes, World.dbCall, hf]
    rwa [h] at hr
  · refine .inr ⟨removed, hsub, hr, fun v => ?_⟩
    rw [hdb]
    exact mem_removed_iff hk hsub v

theorem volumesPruneWith_reports_removed_of_failed_delete :
    let w : World :=
      { db := { volumes := [{ id := "a", name := "data" }, { id := "b", name := "logs" }], seq := 2 }
        pvcs := []
        faults := fun c => if c = .deleteVolume then [true] else [] }
    (w.db.volumes.map Volume.id).Nodup ∧
      (Docker.volumesPrune Env.sample w).1 = .ok statusOK ["logs"] ∧
      (((volumesPruneWith Env.sample Volume.name w).1 =
            .error statusInternalServerError storeError ∧
          (volumesPruneWith Env.sample Volume.name w).2.db.volumes = w.db.volumes) ∨
        ∃ removed : List Volume, removed.Sublist w.db.volumes ∧
          (volumesPruneWith Env.sample Volume.name w).1 = .ok statusOK (removed.map Volume.name) ∧
          ∀ v, v ∈ removed ↔
            v ∈ w.db.volumes ∧ v ∉ (volumesPruneWith Env.sample Volume.name w).2.db.volumes) := by
  intro w
  exact ⟨by decide, by decide, volumesPruneWith_reports_removed Volume.name (by decide)⟩

/-- When `NetworkPrune` answers 200, from a store whose networks have distinct IDs, it lists
exactly the networks it removed, in store order. -/
theorem networkPrune_reports_removed (hk : (w.db.networks.map Network.id).Nodup)
    {netws : List Network} (h : (networkPrune env w).1 = .ok statusOK netws) :
    netws.Sublist w.db.networks ∧
      ∀ n, n ∈ netws ↔ n ∈ w.db.networks ∧ n ∉ (networkPrune env w).2.db.networks := by
  unfold networkPrune at h ⊢
  rcases hl : w.dbGetNetworks with ⟨l, w₁⟩
  rw [hl] at h
  obtain ⟨-, -, ⟨-, -, hr⟩ | ⟨netws₀, hnetws, rfl⟩⟩ := World.dbCall_spec hl
  · cases l with
    | error e => cases h
    | ok a => exact absurd rfl (hr a)
  obtain ⟨rfl, hdb₁⟩ := Prod.mk.inj (Except.ok.inj hnetws)
  obtain ⟨-, -, removed, hsub, hdb, -, -, hres, -⟩ := @pruneNetworks_spec env [] w.db.networks w₁
  rcases hres with hres | ⟨e, he⟩
  · rw [hres, List.nil_append] at h
    obtain rfl := (Response.ok.inj h).2
    refine ⟨hsub, fun n => ?_⟩
    rw [hdb, ← hdb₁]
    exact mem_removed_iff hk hsub n
  · rw [he] at h
    cases h

theorem networkPrune_reports_removed_of_two_unused :
    let w : World :=
      { db := { networks := [{ id := "a", name := "n1" }, { id := "b", name := "n2" }], seq := 2 }
        pvcs := []
        faults := fun _ => [] }
    (w.db.networks.map Network.id).Nodup ∧
      (networkPrune Env.sample w).1 = .ok statusOK w.db.networks ∧
      (w.db.networks.Sublist w.db.networks ∧ ∀ n, n ∈ w.db.networks ↔
        n ∈ w.db.networks ∧ n ∉ (networkPrune Env.sample w).2.db.networks) := by
  intro w
  have h : (networkPrune Env.sample w).1 = .ok statusOK w.db.networks := by decide
  exact ⟨by decide, h, networkPrune_reports_removed (by decide) h⟩

/-- Two unused networks, the store delete of the second failing: `NetworkPrune` removes the
first and answers with the error, whose reply lists no network. -/
theorem networkPrune_error_hides_removed :
    let w : World :=
      { db := { networks := [{ id := "a", name := "n1" }, { id := "b", name := "n2" }], seq := 2 }
        pvcs := []
        faults := fun c => if c = .deleteNetwork then [false, true] else [] }
    (networkPrune Env.sample w).1 = .error statusNotFound storeError ∧
      (networkPrune Env.sample w).2.db.networks = [{ id := "b", name := "n2" }] := by
  decide

end Kubedock
