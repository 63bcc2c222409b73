import Kubedock.Concurrent
import Kubedock.Aliases

/-! Two requests that update one container at once: `NetworkConnect`s and `NetworkDisconnect`s.
The store holds containers by reference: `ConnectNetwork`, each alias append and
`DisconnectNetwork` write through the pointer the lookup handed out, and the save writes back
what the pointer reads, so neither update is lost. Both alias loops append to one list, so a
case-duplicate can arise, but the stored aliases stay lower case. -/

namespace Kubedock

/-- A request that updates a container: a `NetworkConnect` or a `NetworkDisconnect`. -/
inductive ContainerUpdate where
  | connect (id : String) (req : NetworkConnectRequest)
  | disconnect (id : String) (req : NetworkDisconnectRequest)

namespace ContainerUpdate

variable (env : Env)

def thread : ContainerUpdate → UpdatePhase → Thread (Response Unit)
  | connect id req => UpdatePhase.connectThread env id req
  | disconnect id req => UpdatePhase.disconnectThread env id req

def advance : ContainerUpdate → UpdatePhase → World → UpdatePhase × World
  | connect id req => UpdatePhase.connectAdvance env id req
  | disconnect id req => UpdatePhase.disconnectAdvance env id req

theorem refines : ∀ u : ContainerUpdate, Refines (u.thread env) (u.advance env)
  | connect id req => UpdatePhase.connect_refines env id req
  | disconnect id req => UpdatePhase.disconnect_refines env id req

theorem thread_eq_done {u : ContainerUpdate} {p : UpdatePhase} {r : Response Unit}
    (h : u.thread env p = .done r) : p = .reply r := by
  cases u with
  | connect id req => exact UpdatePhase.connectThread_eq_done env id h
  | disconnect id req => exact UpdatePhase.disconnectThread_eq_done env id h

/-- The key of the network the request names. -/
def key : ContainerUpdate → String
  | connect id _ | disconnect id _ => id

/-- The key of the container the request names. -/
def container : ContainerUpdate → String
  | connect _ req => req.container
  | disconnect _ req => req.container

end ContainerUpdate

/-- `c'` is `c` after writes that keep its ID and name, add only memberships of `adds`, drop only
memberships of `drops`, and append only aliases of `als`. -/
structure Grows (adds drops als : List String) (c c' : Container) : Prop where
  id : c'.id = c.id
  name : c'.name = c.name
  added : ∀ m ∈ c'.networks, m ∈ c.networks ∨ m ∈ adds
  kept : ∀ m ∈ c.networks, m ∉ drops → m ∈ c'.networks
  appended : ∀ a ∈ c'.networkAliases, a ∈ c.networkAliases ∨ a ∈ als
  aliases : ∀ a ∈ c.networkAliases, a ∈ c'.networkAliases

namespace Grows

variable {adds drops als : List String} {c c' c'' : Container}

theorem refl : Grows adds drops als c c :=
  ⟨rfl, rfl, fun _ h => .inl h, fun _ h _ => h, fun _ h => .inl h, fun _ h => h⟩

/-- Writes of a second kind after writes of a first are writes of both. -/
theorem absorb {adds' drops' als' : List String} (h : Grows adds drops als c c')
    (h' : Grows adds' drops' als' c' c'') (ha : adds' ⊆ adds) (hd : drops' ⊆ drops)
    (hl : als' ⊆ als) : Grows adds drops als c c'' where
  id := h'.id.trans h.id
  name := h'.name.trans h.name
  added m hm := (h'.added m hm).elim (h.added m) fun hm => .inr (ha hm)
  kept m hm hn := h'.kept m (h.kept m hm hn) fun hm => hn (hd hm)
  appended a ha' := (h'.appended a ha').elim (h.appended a) fun ha' => .inr (hl ha')
  aliases a ha' := h'.aliases a (h.aliases a ha')

theorem swap {adds' drops' als' : List String}
    (h : Grows (adds ++ adds') (drops ++ drops') (als ++ als') c c') :
    Grows (adds' ++ adds) (drops' ++ drops) (als' ++ als) c c' :=
  refl.absorb h (fun _ => List.mem_append.mpr ∘ Or.symm ∘ List.mem_append.mp)
    (fun _ => List.mem_append.mpr ∘ Or.symm ∘ List.mem_append.mp)
    (fun _ => List.mem_append.mpr ∘ Or.symm ∘ List.mem_append.mp)

theorem connectNetwork (c : Container) (id : String) :
    Grows [id] [] als c (c.connectNetwork id) where
  id := by simp
  name := by simp
  added m hm := (Container.mem_connectNetwork.mp hm).imp_right List.mem_singleton.mpr
  kept m hm _ := Container.mem_connectNetwork.mpr (.inl hm)
  appended a ha := .inl (by simpa using ha)
  aliases a ha := by simpa using ha

theorem disconnectNetwork (c : Container) (id : String) :
    Grows [] [id] [] c { c with networks := c.networks.filter (· ≠ id) } where
  id := rfl
  name := rfl
  added m hm := .inl (List.mem_filter.mp hm).1
  kept m hm hn := List.mem_filter.mpr ⟨hm, by simpa using hn⟩
  appended a ha := .inl ha
  aliases a ha := ha

theorem appendAlias (c : Container) {a : String} (ha : a ∈ als) :
    Grows adds drops als c { c with networkAliases := c.networkAliases ++ [a] } where
  id := rfl
  name := rfl
  added m hm := .inl hm
  kept m hm _ := hm
  appended x hx := (List.mem_append.mp hx).imp_right fun hx => by rw [List.mem_singleton.mp hx]; exact ha
  aliases x hx := List.mem_append_left _ hx

end Grows

/-- A container update with the network its key resolves to. -/
structure Side where
  update : ContainerUpdate
  netw : Network

namespace Side

variable (toLower : String → String)

/-- The memberships the update adds. -/
def adds (s : Side) : List String :=
  match s.update with
  | .connect _ _ => [s.netw.id]
  | .disconnect _ _ => []

/-- The memberships the update drops. -/
def drops (s : Side) : List String :=
  match s.update with
  | .connect _ _ => []
  | .disconnect _ _ => [s.netw.id]

/-- The aliases the update appends. -/
def appends (s : Side) : List String :=
  match s.update with
  | .connect _ req => req.aliases.map toLower
  | .disconnect _ _ => []

/-- How far a `NetworkConnect` to `netw` of the container at the pointer `i₀` has got, read off
the container's value `c`: a member from `ConnectNetwork` on, with the aliases it read or
handled. -/
def connectProgress (netw : Network) (req : NetworkConnectRequest) (i₀ : Nat) :
    UpdatePhase → Container → Prop
  | .lookup, _ => True
  | .resolved n, _ => n = netw
  | .found n i, _ => n = netw ∧ i = i₀
  | .joined i, c => i = i₀ ∧ netw.id ∈ c.networks
  | .merging i done rest, c => i = i₀ ∧ netw.id ∈ c.networks ∧
      (∀ a ∈ done, a ∈ c.networkAliases) ∧
      ∃ pre, pre ++ rest = req.aliases ∧ ∀ a ∈ pre, toLower a ∈ c.networkAliases
  | .save _, _ => False
  | .reply r, c => r = .ok statusOK () ∧ netw.id ∈ c.networks ∧
      ∀ a ∈ req.aliases, toLower a ∈ c.networkAliases

/-- How far a `NetworkDisconnect` from `netw` of the container at the pointer `i₀` has got: a
member until `DisconnectNetwork`, and none after. -/
def disconnectProgress (netw : Network) (i₀ : Nat) : UpdatePhase → Container → Prop
  | .lookup, c => netw.id ∈ c.networks
  | .resolved n, c => n = netw ∧ netw.id ∈ c.networks
  | .found n i, c => n = netw ∧ i = i₀ ∧ netw.id ∈ c.networks
  | .joined _, _ | .merging _ _ _, _ => False
  | .save i, c => i = i₀ ∧ netw.id ∉ c.networks
  | .reply r, c => r = .ok statusOK () ∧ netw.id ∉ c.networks

/-- How far the update of the container at the pointer `i₀` has got. -/
def Progress (i₀ : Nat) (s : Side) : UpdatePhase → Container → Prop :=
  match s.update with
  | .connect _ req => connectProgress toLower s.netw req i₀
  | .disconnect _ _ => disconnectProgress s.netw i₀

/-- The other update's writes keep this one's progress: they drop none of its memberships, and
add none it dropped. -/
def Apart (s t : Side) : Prop :=
  (∀ m ∈ s.adds ++ s.drops, m ∉ t.drops) ∧ ∀ m ∈ s.drops, m ∉ t.adds

/-- In `db₀`, the update's network key resolves to its network and its container key to the
pointer `i₀`, and a disconnect's network is not predefined. -/
structure Resolves (env : Env) (db₀ : DB) (i₀ : Nat) (s : Side) : Prop where
  network : db₀.getNetworkByNameOrID s.update.key = some s.netw
  container : db₀.containerRef s.update.container = some i₀
  permitted : ∀ id req, s.update = .disconnect id req → env.isPredefined s.netw = false

variable {toLower} {s t : Side} {i₀ : Nat} {p : UpdatePhase} {c c' : Container}

/-- The other update's writes, apart from this one, keep its progress. -/
theorem Progress.grows {adds drops als : List String} (h : s.Progress toLower i₀ p c)
    (hg : Grows adds drops als c c') (hd : ∀ m ∈ s.adds ++ s.drops, m ∉ drops)
    (ha : ∀ m ∈ s.drops, m ∉ adds) : s.Progress toLower i₀ p c' := by
  obtain ⟨u, netw⟩ := s
  have hin (hn : netw.id ∉ drops) : netw.id ∈ c.networks → netw.id ∈ c'.networks :=
    fun h => hg.kept _ h hn
  have hal {xs : List String} (h : ∀ a ∈ xs, a ∈ c.networkAliases) :
      ∀ a ∈ xs, a ∈ c'.networkAliases := fun a h' => hg.aliases a (h a h')
  cases u with
  | connect id req =>
    have hn := hin (hd _ (by simp [Side.adds]))
    cases p with
    | joined i => exact ⟨h.1, hn h.2⟩
    | merging i done rest =>
      obtain ⟨hi, hm, hdone, pre, hpre, hpa⟩ := h
      exact ⟨hi, hn hm, hal hdone, pre, hpre, fun a h => hal (List.forall_mem_map.mpr hpa) _
        (List.mem_map_of_mem _ h)⟩
    | reply r =>
      exact ⟨h.1, hn h.2.1, fun a h' => hal (List.forall_mem_map.mpr h.2.2) _
        (List.mem_map_of_mem _ h')⟩
    | _ => exact h
  | disconnect id req =>
    have hn := hin (hd _ (by simp [Side.drops]))
    have hout : netw.id ∉ c.networks → netw.id ∉ c'.networks := fun h h' =>
      (hg.added _ h').elim h (ha _ (by simp [Side.drops]))
    cases p with
    | lookup => exact hn h
    | resolved n => exact ⟨h.1, hn h.2⟩
    | found n i => exact ⟨h.1, h.2.1, hn h.2.2⟩
    | save i => exact ⟨h.1, hout h.2⟩
    | reply r => exact ⟨h.1, hout h.2⟩
    | _ => exact h

end Side

section Step

variable {env : Env} {db₀ : DB} {i₀ : Nat} {c : Container} {w : World}

/-- What the calls of the update `s` read of the world `w`, in which the pointer `i₀` of `db₀`
reads `c`. -/
structure View (env : Env) (db₀ : DB) (i₀ : Nat) (s : Side) (c : Container) (w : World) :
    Prop where
  db : w.db = db₀.modifyContainer i₀ fun _ => c
  network : w.db.getNetworkByNameOrID s.update.key = some s.netw
  container : w.db.containerRef s.update.container = some i₀
  reads : w.db.containerAt i₀ = c
  saved : UpdatePhase.saved env i₀ w = (.reply (.ok statusOK ()), w.next .saveContainer)

theorem View.of {s : Side} (hk : Keyed db₀.containers) (hi₀ : i₀ < db₀.containers.length)
    (hr : s.Resolves env db₀ i₀) (hw : w.db = db₀.modifyContainer i₀ fun _ => c)
    (hid : c.id = (db₀.containerAt i₀).id) (hname : c.name = (db₀.containerAt i₀).name)
    (hs : w.fails .saveContainer = false) : View env db₀ i₀ s c w where
  db := hw
  network := hw ▸ hr.network
  container := by rw [hw, DB.containerRef_modifyContainer hid hname]; exact hr.container
  reads := by rw [hw]; exact DB.containerAt_modifyContainer hi₀
  saved := by
    rw [UpdatePhase.saved, saveContainerAt_of_not_fails (hw ▸ DB.keyed_modifyContainer hk hid)
      (by rw [hw]; simpa using hi₀) hs]

variable {s : Side}

theorem View.write (v : View env db₀ i₀ s c w) (f : Container → Container) :
    w.db.modifyContainer i₀ f = db₀.modifyContainer i₀ fun _ => f c := by
  rw [v.db, DB.modifyContainer_modifyContainer]; rfl

/-- One call of the update `s`: the pointer then reads `c'`, grown from `c` by the update's own
writes, and the update's progress is read off `c'`. -/
def Stepped (env : Env) (db₀ : DB) (i₀ : Nat) (s : Side) (c : Container) (w : World)
    (next : UpdatePhase × World) : Prop :=
  ∃ c', next.2.db = db₀.modifyContainer i₀ (fun _ => c') ∧
    Grows s.adds s.drops (s.appends env.toLower) c c' ∧
    s.Progress env.toLower i₀ next.1 c' ∧ World.Consumed w next.2

theorem View.stay (v : View env db₀ i₀ s c w) {p : UpdatePhase}
    (hp : s.Progress env.toLower i₀ p c) : Stepped env db₀ i₀ s c w (p, w) :=
  ⟨c, v.db, .refl, hp, .refl w⟩

variable {id : String} {req : NetworkConnectRequest} {netw : Network}

/-- The alias loop of a connect: each call appends an alias it had not handled, or saves. -/
theorem connect_merge (v : View env db₀ i₀ ⟨.connect id req, netw⟩ c w)
    (hn : netw.id ∈ c.networks) :
    ∀ {done rest : List String} (pre : List String), (∀ a ∈ done, a ∈ c.networkAliases) →
      pre ++ rest = req.aliases → (∀ a ∈ pre, env.toLower a ∈ c.networkAliases) →
      Stepped env db₀ i₀ ⟨.connect id req, netw⟩ c w
        (UpdatePhase.mergeAdvance env i₀ done rest w)
  | _, [], pre, _, hpre, hpa => by
    rw [UpdatePhase.mergeAdvance, v.saved]
    exact ⟨c, v.db, .refl, ⟨rfl, hn, by simpa [← hpre] using hpa⟩, World.consumed_next w _⟩
  | done, a :: as, pre, hdone, hpre, hpa => by
    have hpre' : (pre ++ [a]) ++ as = req.aliases := by simp [← hpre]
    dsimp only [UpdatePhase.mergeAdvance]
    split_ifs with ha
    · exact connect_merge v hn (pre ++ [a]) hdone hpre'
        (List.forall_mem_append.mpr ⟨hpa, List.forall_mem_singleton.mpr (hdone _ ha)⟩)
    · have hmem : env.toLower a ∈ req.aliases.map env.toLower :=
        List.mem_map_of_mem _ (hpre ▸ List.mem_append_right _ (List.mem_cons_self a as))
      have hnew : env.toLower a ∈ c.networkAliases ++ [env.toLower a] :=
        List.mem_append_right _ (List.mem_singleton_self _)
      have hdone' : done ++ [env.toLower a] ⊆ c.networkAliases ++ [env.toLower a] :=
        List.append_subset.mpr ⟨List.subset_append_of_subset_left _ hdone,
          List.subset_append_right _ _⟩
      exact ⟨_, v.write fun c => { c with networkAliases := c.networkAliases ++ [env.toLower a] },
        .appendAlias c hmem, ⟨rfl, hn, fun _ hx => hdone' hx, pre ++ [a], hpre',
          List.forall_mem_append.mpr ⟨fun x hx => List.mem_append_left _ (hpa x hx),
            List.forall_mem_singleton.mpr hnew⟩⟩, fun _ => List.suffix_refl _⟩

/-- Every call of a connect. -/
theorem connect_step (v : View env db₀ i₀ ⟨.connect id req, netw⟩ c w) {p : UpdatePhase}
    (hp : Side.connectProgress env.toLower netw req i₀ p c) :
    Stepped env db₀ i₀ ⟨.connect id req, netw⟩ c w (UpdatePhase.connectAdvance env id req p w) := by
  have hnet : w.db.getNetworkByNameOrID id = some netw := v.network
  have href : w.db.containerRef req.container = some i₀ := v.container
  cases p with
  | lookup =>
    refine v.stay ?_
    show Side.connectProgress _ _ _ _ (UpdatePhase.resolve id w.db) c
    rw [UpdatePhase.resolve, hnet]
    rfl
  | resolved n =>
    obtain rfl := hp
    dsimp only [UpdatePhase.connectAdvance]
    rw [href]
    exact v.stay ⟨rfl, rfl⟩
  | found n i =>
    obtain ⟨rfl, rfl⟩ := hp
    exact ⟨_, v.write (·.connectNetwork n.id), .connectNetwork c _,
      ⟨rfl, Container.mem_connectNetwork.mpr (.inr rfl)⟩,
      fun _ => List.suffix_refl _⟩
  | joined i =>
    obtain ⟨rfl, hn⟩ := hp
    refine v.stay ⟨rfl, hn, fun a ha => v.reads ▸ ha, [], rfl, nofun⟩
  | merging i done rest =>
    obtain ⟨rfl, hn, hdone, pre, hpre, hpa⟩ := hp
    exact connect_merge v hn pre hdone hpre hpa
  | save i => exact hp.elim
  | reply r => exact v.stay hp

variable {reqD : NetworkDisconnectRequest}

/-- Every call of a disconnect. -/
theorem disconnect_step (v : View env db₀ i₀ ⟨.disconnect id reqD, netw⟩ c w)
    (hpre : env.isPredefined netw = false) {p : UpdatePhase}
    (hp : Side.disconnectProgress netw i₀ p c) :
    Stepped env db₀ i₀ ⟨.disconnect id reqD, netw⟩ c w
      (UpdatePhase.disconnectAdvance env id reqD p w) := by
  have hnet : w.db.getNetworkByNameOrID id = some netw := v.network
  have href : w.db.containerRef reqD.container = some i₀ := v.container
  cases p with
  | lookup =>
    refine v.stay ?_
    show Side.disconnectProgress _ _ (UpdatePhase.resolve id w.db) c
    rw [UpdatePhase.resolve, hnet]
    exact ⟨rfl, hp⟩
  | resolved n =>
    obtain ⟨rfl, hn⟩ := hp
    dsimp only [UpdatePhase.disconnectAdvance]
    rw [href]
    dsimp only
    rw [if_neg (by simp [hpre])]
    exact v.stay ⟨rfl, rfl, hn⟩
  | found n i =>
    obtain ⟨rfl, rfl, hn⟩ := hp
    dsimp only [UpdatePhase.disconnectAdvance]
    rw [v.reads, Container.disconnectNetwork, if_pos hn]
    exact ⟨_, v.write fun _ => { c with networks := c.networks.filter (· ≠ n.id) },
      .disconnectNetwork c _, ⟨rfl, by simp⟩, fun _ => List.suffix_refl _⟩
  | save i =>
    obtain ⟨rfl, hn⟩ := hp
    show Stepped env db₀ i _ c w (UpdatePhase.saved env i w)
    rw [v.saved]
    exact ⟨c, v.db, .refl, ⟨rfl, hn⟩, World.consumed_next w _⟩
  | reply r => exact v.stay hp
  | _ => exact hp.elim

theorem Side.step (v : View env db₀ i₀ s c w) (hr : s.Resolves env db₀ i₀) {p : UpdatePhase}
    (hp : s.Progress env.toLower i₀ p c) :
    Stepped env db₀ i₀ s c w (s.update.advance env p w) := by
  obtain ⟨u, netw⟩ := s
  cases u with
  | connect id req => exact connect_step v hp
  | disconnect id req => exact disconnect_step v (hr.permitted id req rfl) hp

end Step

/-- Two updates `s₁` and `s₂` of the container at the pointer `i₀` of `db₀`: the store is `db₀`
with the pointer reading the container's value `c`, which both updates' writes grew from the
one `db₀` holds, and each update's progress is read off `c`; saves do not fail. -/
structure UpdateRace (env : Env) (db₀ : DB) (i₀ : Nat) (s₁ s₂ : Side) (p₁ p₂ : UpdatePhase)
    (w : World) : Prop where
  current : ∃ c, w.db = db₀.modifyContainer i₀ (fun _ => c) ∧
    Grows (s₁.adds ++ s₂.adds) (s₁.drops ++ s₂.drops)
      (s₁.appends env.toLower ++ s₂.appends env.toLower) (db₀.containerAt i₀) c ∧
    s₁.Progress env.toLower i₀ p₁ c ∧ s₂.Progress env.toLower i₀ p₂ c
  saves : ∀ b ∈ w.faults .saveContainer, b = false

section Race

variable {env : Env} {db₀ : DB} {i₀ : Nat} {s₁ s₂ : Side} {p₁ p₂ : UpdatePhase} {w : World}

theorem UpdateRace.symm (h : UpdateRace env db₀ i₀ s₁ s₂ p₁ p₂ w) :
    UpdateRace env db₀ i₀ s₂ s₁ p₂ p₁ w :=
  let ⟨⟨c, hw, hg, h₁, h₂⟩, hs⟩ := h
  ⟨⟨c, hw, hg.swap, h₂, h₁⟩, hs⟩

/-- Every call of the first update keeps the race invariant. -/
theorem UpdateRace.advance (hk : Keyed db₀.containers) (hi₀ : i₀ < db₀.containers.length)
    (hr : s₁.Resolves env db₀ i₀) (hapart : Side.Apart s₂ s₁)
    (h : UpdateRace env db₀ i₀ s₁ s₂ p₁ p₂ w) :
    UpdateRace env db₀ i₀ s₁ s₂ (s₁.update.advance env p₁ w).1 p₂
      (s₁.update.advance env p₁ w).2 := by
  obtain ⟨⟨c, hw, hg, h₁, h₂⟩, hs⟩ := h
  obtain ⟨c', hw', hg', h₁', hc⟩ := Side.step
    (View.of hk hi₀ hr hw hg.id hg.name (World.fails_eq_false_of_reliable hs)) hr h₁
  exact ⟨⟨c', hw', hg.absorb hg' (List.subset_append_left _ _)
      (List.subset_append_left _ _) (List.subset_append_left _ _), h₁', h₂.grows hg' hapart.1 hapart.2⟩, hc.reliable hs⟩

end Race

/-- Every stored alias is lower case. -/
def ContainersLower (toLower : String → String) (db : DB) : Prop :=
  ∀ c ∈ db.containers, ∀ a ∈ c.networkAliases, toLower a = a

instance (toLower : String → String) (db : DB) : Decidable (ContainersLower toLower db) :=
  inferInstanceAs (Decidable (∀ c ∈ db.containers, ∀ a ∈ c.networkAliases, toLower a = a))

section AliasRace

variable {env : Env} {w : World}

theorem ContainersLower.containerAt {db : DB} (h : ContainersLower env.toLower db) (i : Nat) :
    ∀ a ∈ (db.containerAt i).networkAliases, env.toLower a = a := by
  rcases DB.containerAt_mem_or_default db i with hc | hc
  · exact h _ hc
  · rw [hc]; exact nofun

theorem ContainersLower.modifyContainer {db : DB} {i : Nat} {f : Container → Container}
    (h : ContainersLower env.toLower db)
    (hf : ∀ a ∈ (f (db.containerAt i)).networkAliases, env.toLower a = a) :
    ContainersLower env.toLower (db.modifyContainer i f) := fun d hd =>
  (DB.mem_modifyContainer hd).elim (h d) fun he => he ▸ hf

theorem ContainersLower.saveContainerAt {i : Nat} (h : ContainersLower env.toLower w.db) :
    ContainersLower env.toLower (Kubedock.saveContainerAt env i w).2.db := by
  rcases hs : Kubedock.saveContainerAt env i w with ⟨r, w'⟩
  obtain ⟨-, -, ⟨-, hdb⟩ | ⟨-, hdb⟩⟩ := saveContainerAt_spec hs
  · rw [hdb]
    intro d hd
    rcases mem_save hd with hd | rfl
    · exact h d hd
    · rw [save_fst_networkAliases]; exact h.containerAt i
  · rw [hdb]; exact h

/-- The alias loop appends lower-cased aliases, then saves. -/
theorem ContainersLower.mergeAdvance (hidem : ∀ s, env.toLower (env.toLower s) = env.toLower s)
    (h : ContainersLower env.toLower w.db) {i : Nat} : ∀ done rest,
    ContainersLower env.toLower (UpdatePhase.mergeAdvance env i done rest w).2.db
  | _, [] => h.saveContainerAt
  | done, a :: as => by
    dsimp only [UpdatePhase.mergeAdvance]
    split_ifs
    · exact h.mergeAdvance hidem done as
    · refine h.modifyContainer fun x hx => ?_
      rcases List.mem_append.mp hx with hx | hx
      · exact h.containerAt i x hx
      · rw [List.mem_singleton.mp hx, hidem]

end AliasRace

/- Two connects that both read the aliases before either appends both append "web": the stored
aliases stay lower case but are no longer distinct (the lower-casing here is the identity, which
`decide` evaluates). -/
example :
    let w : World :=
      { db :=
          { networks := [{ id := "a", name := "n1" }, { id := "b", name := "n2" }]
            containers := [{ id := "c", name := "app" }]
            seq := 3 }
        pvcs := []
        faults := fun _ => [] }
    let r := interleave [true, true, true, true, false, false, false, false, true, false]
      (networkConnectThread { Env.sample with toLower := id } "n1"
        { container := "app", aliases := ["web"] })
      (networkConnectThread { Env.sample with toLower := id } "n2"
        { container := "app", aliases := ["web"] }) w
    r.2.2.db.containers.map Container.networkAliases = [["web", "web"]] := by
  decide

end Kubedock
