import Kubedock.Server
import Mathlib.Data.List.Pairwise
import Mathlib.Data.List.Infix

/-! The libpod routes (`RegisterLibpodRoutes`) and how a request reaches a handler. gin's router
is modelled from its rules: a `:name` segment takes one path segment, a trailing `*name` the
rest. No two routes of a method match one path, so the server receives exactly the requests sent
to their route with a key without `/`, and every route sits behind `LibpodHeadersMiddleware`. -/

namespace Kubedock

/-- The HTTP methods of the table. -/
inductive Method where
  | GET | HEAD | POST | PUT | DELETE
  deriving DecidableEq

/-- The functions `RegisterLibpodRoutes` registers. -/
inductive Handler where
  | version | ping
  | containerCreate | containerStart | containerExists | containerAttach | containerStop
  | containerRestart | containerKill | containerWait | containerRename | containerResize
  | containerDelete | containerList | containerInfo | containerLogs
  | headArchive | getArchive | putArchive
  | containerExec | execStart | execInfo | execResize
  | imagePull | imageList | imageJSON
  | info | events
  | volumeCreate | volumeList | volumeInfo | volumeExists | volumeDelete | volumePrune
  | networkList | networkInfo | networkExists | networkCreate | networkDelete | networkConnect
  | networkDisconnect | networkPrune
  | notImplemented
  deriving DecidableEq

/-- `RegisterLibpodRoutes`: each route's method, pattern and handler, in registration order. -/
def libpodRoutes : List (Method × String × Handler) := [
  (.GET, "/libpod/version", .version),
  (.GET, "/libpod/_ping", .ping),
  (.HEAD, "/libpod/_ping", .ping),
  (.POST, "/libpod/containers/create", .containerCreate),
  (.POST, "/libpod/containers/:id/start", .containerStart),
  (.GET, "/libpod/containers/:id/exists", .containerExists),
  (.POST, "/libpod/containers/:id/attach", .containerAttach),
  (.POST, "/libpod/containers/:id/stop", .containerStop),
  (.POST, "/libpod/containers/:id/restart", .containerRestart),
  (.POST, "/libpod/containers/:id/kill", .containerKill),
  (.POST, "/libpod/containers/:id/wait", .containerWait),
  (.POST, "/libpod/containers/:id/rename", .containerRename),
  (.POST, "/libpod/containers/:id/resize", .containerResize),
  (.DELETE, "/libpod/containers/:id", .containerDelete),
  (.GET, "/libpod/containers/json", .containerList),
  (.GET, "/libpod/containers/:id/json", .containerInfo),
  (.GET, "/libpod/containers/:id/logs", .containerLogs),
  (.HEAD, "/libpod/containers/:id/archive", .headArchive),
  (.GET, "/libpod/containers/:id/archive", .getArchive),
  (.PUT, "/libpod/containers/:id/archive", .putArchive),
  (.POST, "/libpod/containers/:id/exec", .containerExec),
  (.POST, "/libpod/exec/:id/start", .execStart),
  (.GET, "/libpod/exec/:id/json", .execInfo),
  (.POST, "/libpod/exec/:id/resize", .execResize),
  (.POST, "/libpod/images/pull", .imagePull),
  (.GET, "/libpod/images/json", .imageList),
  (.GET, "/libpod/images/:image/*json", .imageJSON),
  (.GET, "/libpod/info", .info),
  (.GET, "/libpod/events", .events),
  (.POST, "/libpod/volumes/create", .volumeCreate),
  (.GET, "/libpod/volumes/json", .volumeList),
  (.GET, "/libpod/volumes/:name/json", .volumeInfo),
  (.GET, "/libpod/volumes/:name/exists", .volumeExists),
  (.DELETE, "/libpod/volumes/:name", .volumeDelete),
  (.POST, "/libpod/volumes/prune", .volumePrune),
  (.GET, "/libpod/networks/json", .networkList),
  (.GET, "/libpod/networks/:id/json", .networkInfo),
  (.GET, "/libpod/networks/:id/exists", .networkExists),
  (.POST, "/libpod/networks/create", .networkCreate),
  (.DELETE, "/libpod/networks/:id", .networkDelete),
  (.POST, "/libpod/networks/:id/connect", .networkConnect),
  (.POST, "/libpod/networks/:id/disconnect", .networkDisconnect),
  (.POST, "/libpod/networks/prune", .networkPrune),
  (.POST, "/libpod/build", .notImplemented),
  (.POST, "/libpod/images/load", .notImplemented)]

/-- A segment of a route pattern: a fixed text, a parameter, or a catch-all. -/
inductive Segment where
  | lit (s : String)
  | param (name : String)
  | catchAll (name : String)
  deriving DecidableEq

/-- A path cut at each `/`. -/
def pathSegments (path : String) : List String := (path.data.splitOn '/').map String.mk

/-- Segments joined by `/`: the path a client sends. -/
def joinSegments (segs : List String) : String :=
  String.mk (['/'].intercalate (segs.map String.data))

/-- A segment of a pattern as gin reads it: `:name` a parameter, `*name` a catch-all. -/
def Segment.ofText (s : String) : Segment :=
  match s.data with
  | ':' :: name => .param (String.mk name)
  | '*' :: name => .catchAll (String.mk name)
  | _ => .lit s

/-- A route pattern cut into its segments. -/
def patternSegments (pattern : String) : List Segment := (pathSegments pattern).map Segment.ofText

/-- A pattern's segments against a path's: the parameters the match binds, in order. -/
def matchSegments : List Segment → List String → Option (List (String × String))
  | [], [] => some []
  | .lit s :: pat, x :: xs => if s = x then matchSegments pat xs else none
  | .param n :: pat, x :: xs => (matchSegments pat xs).map ((n, x) :: ·)
  | .catchAll n :: _, x :: xs => some [(n, "/" ++ joinSegments (x :: xs))]
  | _, _ => none

/-- The handler gin runs for a method and a path, with the parameters its route binds. -/
def dispatch (m : Method) (path : String) : Option (Handler × List (String × String)) :=
  libpodRoutes.findSome? fun r =>
    if r.1 = m then (matchSegments (patternSegments r.2.1) (pathSegments path)).map (r.2.2, ·)
    else none

/-- `c.Param(name)`: the parameter's value, or the empty text when the route binds none. -/
def param (params : List (String × String)) (name : String) : String :=
  (params.lookup name).getD ""

/-- A request's body as each handler's decoder reads it
(`json.NewDecoder(c.Request.Body).Decode`). -/
structure Payload where
  volumeCreate : Except String VolumeCreateRequest
  networkCreate : Except String NetworkCreateRequest
  networkConnect : Except String NetworkConnectRequest
  networkDisconnect : Except String NetworkDisconnectRequest

/-- The model request a handler makes of its parameters and its body; the container, image,
system and listing handlers serve no request of the model. -/
def Request.ofRoute (h : Handler) (params : List (String × String)) (body : Payload) :
    Option Request :=
  match h with
  | .volumeCreate => some (.volume (.volumeCreate body.volumeCreate))
  | .volumeInfo => some (.volume (.volumeInfo (param params "name")))
  | .volumeExists => some (.volume (.volumeExists (param params "name")))
  | .volumeDelete => some (.volume (.volumeDelete (param params "name")))
  | .volumePrune => some (.volume .volumePrune)
  | .networkInfo => some (.network (.networkInfo (param params "id")))
  | .networkExists => some (.network (.networkExists (param params "id")))
  | .networkCreate => some (.network (.networkCreate body.networkCreate))
  | .networkDelete => some (.network (.networkDelete (param params "id")))
  | .networkConnect => some (.network (.networkConnect (param params "id") body.networkConnect))
  | .networkDisconnect =>
    some (.network (.networkDisconnect (param params "id") body.networkDisconnect))
  | .networkPrune => some (.network .networkPrune)
  | _ => none

/-- The model request the server receives for a method, a path and a body. -/
def receive (m : Method) (path : String) (body : Payload) : Option Request :=
  (dispatch m path).bind fun r => Request.ofRoute r.1 r.2 body

/-- Where a client sends each request of the model on the libpod API; docker `VolumesPrune` has
no libpod route. -/
def Request.endpoint : Request → Option (Method × String)
  | .volume (.volumeCreate _) => some (.POST, joinSegments ["", "libpod", "volumes", "create"])
  | .volume (.volumeInfo id) => some (.GET, joinSegments ["", "libpod", "volumes", id, "json"])
  | .volume (.volumeExists name) =>
    some (.GET, joinSegments ["", "libpod", "volumes", name, "exists"])
  | .volume (.volumeDelete id) => some (.DELETE, joinSegments ["", "libpod", "volumes", id])
  | .volume .volumesPrune => none
  | .volume .volumePrune => some (.POST, joinSegments ["", "libpod", "volumes", "prune"])
  | .network (.networkCreate _) => some (.POST, joinSegments ["", "libpod", "networks", "create"])
  | .network (.networkInfo id) => some (.GET, joinSegments ["", "libpod", "networks", id, "json"])
  | .network (.networkExists id) =>
    some (.GET, joinSegments ["", "libpod", "networks", id, "exists"])
  | .network (.networkDelete id) => some (.DELETE, joinSegments ["", "libpod", "networks", id])
  | .network (.networkConnect id _) =>
    some (.POST, joinSegments ["", "libpod", "networks", id, "connect"])
  | .network (.networkDisconnect id _) =>
    some (.POST, joinSegments ["", "libpod", "networks", id, "disconnect"])
  | .network .networkPrune => some (.POST, joinSegments ["", "libpod", "networks", "prune"])

/-- The key a request names its volume or network by. -/
def Request.key : Request → Option String
  | .volume (.volumeInfo id) | .volume (.volumeExists id) | .volume (.volumeDelete id)
  | .network (.networkInfo id) | .network (.networkExists id) | .network (.networkDelete id)
  | .network (.networkConnect id _) | .network (.networkDisconnect id _) => some id
  | _ => none

/-- The body a client sends a request with, as the request's handler decodes it. -/
def Request.Sent (req : Request) (body : Payload) : Prop :=
  match req with
  | .volume (.volumeCreate b) => body.volumeCreate = b
  | .network (.networkCreate b) => body.networkCreate = b
  | .network (.networkConnect _ b) => body.networkConnect = b
  | .network (.networkDisconnect _ b) => body.networkDisconnect = b
  | _ => True

section Paths

/-- No piece of a list cut at `x` holds `x`. -/
theorem not_mem_of_mem_splitOn {α : Type} [DecidableEq α] (x : α) :
    ∀ (xs : List α), ∀ l ∈ xs.splitOn x, x ∉ l
  | [] => by simp
  | c :: cs => by
    have ih := not_mem_of_mem_splitOn x cs
    obtain ⟨hd, tl, he⟩ := List.exists_cons_of_ne_nil (List.splitOnP_ne_nil (· == x) cs)
    simp only [List.splitOn] at ih ⊢
    rw [List.splitOnP_cons]
    split_ifs with hc
    · intro l hl
      rcases List.mem_cons.mp hl with rfl | hl
      · exact List.not_mem_nil x
      · exact ih l hl
    · rw [he] at ih ⊢
      intro l hl
      rcases List.mem_cons.mp hl with rfl | hl
      · refine List.not_mem_cons_of_ne_of_not_mem (fun h => hc ?_) (ih hd (List.mem_cons_self _ _))
        simp [h]
      · exact ih l (List.mem_cons_of_mem _ hl)

theorem joinSegments_pathSegments (path : String) : joinSegments (pathSegments path) = path := by
  simp only [joinSegments, pathSegments, List.map_map]
  rw [show String.data ∘ String.mk = id from rfl, List.map_id, List.intercalate_splitOn]

theorem pathSegments_joinSegments {segs : List String} (h : ∀ s ∈ segs, '/' ∉ s.data)
    (hne : segs ≠ []) : pathSegments (joinSegments segs) = segs := by
  simp only [joinSegments, pathSegments]
  rw [List.splitOn_intercalate _ _ (by simpa using h) (by simpa using hne), List.map_map]
  exact List.map_id'' (fun _ => rfl) segs

theorem slash_not_mem_of_mem_pathSegments {path s : String} (hs : s ∈ pathSegments path) :
    '/' ∉ s.data := by
  obtain ⟨l, hl, rfl⟩ := List.mem_map.mp hs
  exact not_mem_of_mem_splitOn '/' path.data l hl

theorem patternSegments_ne_nil (pattern : String) : patternSegments pattern ≠ [] := by
  simpa [patternSegments, pathSegments, List.splitOn] using List.splitOnP_ne_nil _ pattern.data

end Paths

section Dispatch

/-- Two patterns no path matches both of: of different lengths, or with different fixed texts
at one position, before any catch-all. -/
def Apart : List Segment → List Segment → Bool
  | [], [] => false
  | [], _ :: _ => true
  | _ :: _, [] => true
  | .catchAll _ :: _, _ :: _ => false
  | _ :: _, .catchAll _ :: _ => false
  | .lit a :: ps, .lit b :: qs => a != b || Apart ps qs
  | _ :: ps, _ :: qs => Apart ps qs

theorem apart_comm : ∀ p q : List Segment, Apart p q = Apart q p
  | [], [] => rfl
  | [], t :: _ => by cases t <;> rfl
  | s :: _, [] => by cases s <;> rfl
  | s :: p, t :: q => by
    cases s <;> cases t <;> first
      | rfl
      | exact apart_comm p q
      | exact congrArg₂ (· || ·) (congrArg (!·) Bool.beq_comm) (apart_comm p q)

theorem matchSegments_eq_none_of_apart :
    ∀ {p q : List Segment} {xs : List String}, Apart p q = true →
      (matchSegments p xs).isSome → matchSegments q xs = none
  | [], [], _, h, _ => absurd h (by decide)
  | [], _ :: _, [], _, _ => by simp [matchSegments]
  | [], _ :: _, _ :: _, _, hp => by simp [matchSegments] at hp
  | s :: _, [], [], _, hp => by cases s <;> simp [matchSegments] at hp
  | _ :: _, [], _ :: _, _, _ => rfl
  | s :: _, _ :: _, [], _, hp => by cases s <;> simp [matchSegments] at hp
  | s :: p, t :: q, x :: xs, h, hp => by
    have ih := @matchSegments_eq_none_of_apart p q xs
    cases s with
    | catchAll => cases t <;> simp [Apart] at h
    | lit a =>
      have ⟨ha, hp⟩ : a = x ∧ (matchSegments p xs).isSome := by
        simp only [matchSegments] at hp
        split_ifs at hp with ha
        · exact ⟨ha, hp⟩
        · simp at hp
      cases t with
      | catchAll => simp [Apart] at h
      | lit b =>
        simp only [Apart, Bool.or_eq_true, bne_iff_ne] at h
        simp only [matchSegments]
        split_ifs with hb
        · exact ih (h.resolve_left (not_not.mpr (ha.trans hb.symm))) hp
        · rfl
      | param => simp [matchSegments, ih h hp]
    | param =>
      have hp' : (matchSegments p xs).isSome := by simpa [matchSegments] using hp
      cases t with
      | catchAll => simp [Apart] at h
      | lit => simp [matchSegments, ih h hp']
      | param => simp [matchSegments, ih h hp']

/-- No two routes of the table match one method and path. -/
theorem libpodRoutes_apart : libpodRoutes.Pairwise fun r₁ r₂ =>
    r₁.1 ≠ r₂.1 ∨ Apart (patternSegments r₁.2.1) (patternSegments r₂.2.1) = true := by
  decide

theorem eq_of_matchSegments {m : Method} {path : String} {r₁ r₂ : Method × String × Handler}
    (h₁ : r₁ ∈ libpodRoutes) (h₂ : r₂ ∈ libpodRoutes) (hm₁ : r₁.1 = m)
    (hm₂ : r₂.1 = m)
    (hp₁ : (matchSegments (patternSegments r₁.2.1) (pathSegments path)).isSome)
    (hp₂ : (matchSegments (patternSegments r₂.2.1) (pathSegments path)).isSome) :
    r₁ = r₂ := by
  by_contra hne
  rcases libpodRoutes_apart.forall (fun a b h => h.imp Ne.symm (by rw [apart_comm]; exact id))
    h₁ h₂ hne with hm | ha
  · exact hm (hm₁.trans hm₂.symm)
  · simp [matchSegments_eq_none_of_apart ha hp₁] at hp₂

theorem dispatch_of_matchSegments {m : Method} {path : String} {r : Method × String × Handler}
    {ps : List (String × String)} (hr : r ∈ libpodRoutes) (hm : r.1 = m)
    (h : matchSegments (patternSegments r.2.1) (pathSegments path) = some ps) :
    dispatch m path = some (r.2.2, ps) := by
  unfold dispatch
  cases hf : libpodRoutes.findSome? _ with
  | none =>
    have := List.findSome?_eq_none_iff.mp hf r hr
    simp [hm, h] at this
  | some y =>
    obtain ⟨r', hr', hy⟩ := List.exists_of_findSome?_eq_some hf
    split_ifs at hy with hm'
    obtain ⟨ps', hps', rfl⟩ := Option.map_eq_some'.mp hy
    obtain rfl := eq_of_matchSegments hr' hr hm' hm (by rw [hps']; rfl) (by rw [h]; rfl)
    rw [h] at hps'
    cases hps'
    rfl

theorem exists_route_of_dispatch {m : Method} {path : String} {h : Handler}
    {ps : List (String × String)} (hd : dispatch m path = some (h, ps)) :
    ∃ r ∈ libpodRoutes, r.1 = m ∧ r.2.2 = h ∧
      matchSegments (patternSegments r.2.1) (pathSegments path) = some ps := by
  obtain ⟨r, hr, hy⟩ := List.exists_of_findSome?_eq_some hd
  split_ifs at hy with hm
  obtain ⟨ps', hps', he⟩ := Option.map_eq_some'.mp hy
  cases he
  exact ⟨r, hr, hm, rfl, hps'⟩

/-- gin runs a route's handler, with the parameters the route binds, exactly when the route is
one of the table's for the method and matches the path: the table's order decides nothing. -/
theorem dispatch_eq_some_iff (m : Method) (path : String) (h : Handler)
    (ps : List (String × String)) :
    dispatch m path = some (h, ps) ↔ ∃ r ∈ libpodRoutes, r.1 = m ∧ r.2.2 = h ∧
      matchSegments (patternSegments r.2.1) (pathSegments path) = some ps :=
  ⟨exists_route_of_dispatch,
    fun ⟨_, hr, hm, he, hps⟩ => he ▸ dispatch_of_matchSegments hr hm hps⟩

end Dispatch

section Receive

/-- The path segments a pattern matches with its parameters given the values `vs`, in order. -/
def fillSegments : List Segment → List String → List String
  | [], _ => []
  | .lit s :: pat, vs => s :: fillSegments pat vs
  | .param _ :: pat, vs => vs.headD "" :: fillSegments pat vs.tail
  | .catchAll _ :: _, _ => []

/-- A pattern's parameter names, in order. -/
def paramNames : List Segment → List String
  | [] => []
  | .param n :: pat => n :: paramNames pat
  | _ :: pat => paramNames pat

/-- Whether a pattern has a catch-all segment. -/
def hasCatchAll : List Segment → Bool
  | [] => false
  | .catchAll _ :: _ => true
  | _ :: pat => hasCatchAll pat

/-- A pattern without a catch-all matches exactly the paths it fills, binding its parameter
names to segments of the path. -/
theorem matchSegments_some :
    ∀ {pat : List Segment} {xs : List String} {ps : List (String × String)},
    matchSegments pat xs = some ps → hasCatchAll pat = false →
      xs = fillSegments pat (ps.map Prod.snd) ∧ ps.map Prod.fst = paramNames pat ∧
        ∀ v ∈ ps.map Prod.snd, v ∈ xs
  | [], [], _, h, _ => by cases h; exact ⟨rfl, rfl, nofun⟩
  | [], _ :: _, _, h, _ => by simp [matchSegments] at h
  | s :: _, [], _, h, _ => by cases s <;> simp [matchSegments] at h
  | .lit s :: pat, x :: xs, ps, h, hc => by
    simp only [matchSegments] at h
    split_ifs at h with hs
    obtain ⟨h₁, h₂, h₃⟩ := matchSegments_some h hc
    exact ⟨by rw [← hs, h₁]; rfl, h₂, fun v hv => List.mem_cons_of_mem _ (h₃ v hv)⟩
  | .param n :: pat, x :: xs, ps, h, hc => by
    obtain ⟨ps', h', rfl⟩ := Option.map_eq_some'.mp h
    obtain ⟨h₁, h₂, h₃⟩ := matchSegments_some h' hc
    refine ⟨by simp [fillSegments, h₁], by simp [paramNames, h₂], ?_⟩
    simpa using fun v hv => List.mem_cons_of_mem _ (h₃ v hv)
  | .catchAll _ :: _, _ :: _, _, _, hc => by simp [hasCatchAll] at hc

/-- A pattern's fixed texts are pieces of it cut at `/`. -/
theorem Segment.ofText_eq_lit {s t : String} (h : Segment.ofText s = .lit t) : t = s := by
  unfold Segment.ofText at h
  split at h
  · cases h
  · cases h
  · cases h; rfl

theorem slash_not_mem_of_lit_mem {pattern t : String}
    (h : Segment.lit t ∈ patternSegments pattern) : '/' ∉ t.data := by
  obtain ⟨s, hs, he⟩ := List.mem_map.mp h
  exact Segment.ofText_eq_lit he ▸ slash_not_mem_of_mem_pathSegments hs

/-- A pattern filled with values that have no `/` is cut back into its segments. -/
theorem slash_not_mem_of_mem_fillSegments : ∀ {pat : List Segment} {vs : List String},
    (∀ t, Segment.lit t ∈ pat → '/' ∉ t.data) → (∀ v ∈ vs, '/' ∉ v.data) →
    ∀ s ∈ fillSegments pat vs, '/' ∉ s.data
  | [], _, _, _ => nofun
  | .lit t :: pat, vs, hl, hv => List.forall_mem_cons.mpr ⟨hl t (List.mem_cons_self _ _),
    slash_not_mem_of_mem_fillSegments (fun t' ht => hl t' (List.mem_cons_of_mem _ ht)) hv⟩
  | .param _ :: pat, vs, hl, hv => by
    refine List.forall_mem_cons.mpr ⟨?_, slash_not_mem_of_mem_fillSegments
      (fun t' ht => hl t' (List.mem_cons_of_mem _ ht))
      fun v hv' => hv v (List.mem_of_mem_tail hv')⟩
    cases vs with
    | nil => exact List.not_mem_nil _
    | cons v vs => exact hv v (List.mem_cons_self _ _)
  | .catchAll _ :: _, _, _, _ => nofun

theorem fillSegments_ne_nil : ∀ {pat : List Segment} {vs : List String}, pat ≠ [] →
    hasCatchAll pat = false → fillSegments pat vs ≠ []
  | [], _, h, _ => absurd rfl h
  | .lit _ :: _, _, _, _ | .param _ :: _, _, _, _ => List.cons_ne_nil _ _
  | .catchAll _ :: _, _, _, hc => by cases hc

/-- A pattern without a catch-all matches itself filled with as many values as it names
parameters, binding each name to its value. -/
theorem matchSegments_fillSegments : ∀ {pat : List Segment} {vs : List String},
    hasCatchAll pat = false → vs.length = (paramNames pat).length →
      matchSegments pat (fillSegments pat vs) = some ((paramNames pat).zip vs)
  | [], [], _, _ => rfl
  | [], _ :: _, _, hl => by cases hl
  | .lit s :: pat, vs, hc, hl => by
    rw [fillSegments, matchSegments, if_pos rfl]
    exact matchSegments_fillSegments hc hl
  | .param _ :: _, [], _, hl => by cases hl
  | .param n :: pat, v :: vs, hc, hl => by
    have ih : matchSegments pat (fillSegments pat vs) = some ((paramNames pat).zip vs) :=
      matchSegments_fillSegments hc (Nat.succ.inj hl)
    simp only [fillSegments, List.headD_cons, List.tail_cons, matchSegments, ih]
    rfl
  | .catchAll _ :: _, _, hc, _ => by cases hc

/-- Only the images route ends in a catch-all. -/
theorem hasCatchAll_libpodRoutes : ∀ r ∈ libpodRoutes, r.2.2 ≠ .imageJSON →
    hasCatchAll (patternSegments r.2.1) = false := by
  decide

/-- What each route's handler makes of the parameters its pattern binds: the request whose
endpoint is the pattern filled with their values, carrying the body, keyed by a value. -/
theorem endpoint_ofRoute {r : Method × String × Handler} (hr : r ∈ libpodRoutes)
    {ps : List (String × String)} {body : Payload} {req : Request}
    (hnames : ps.map Prod.fst = paramNames (patternSegments r.2.1))
    (hreq : Request.ofRoute r.2.2 ps body = some req) :
    req.endpoint =
        some (r.1, joinSegments (fillSegments (patternSegments r.2.1) (ps.map Prod.snd))) ∧
      req.Sent body ∧ ∀ k ∈ req.key, k ∈ ps.map Prod.snd := by
  simp only [libpodRoutes, List.mem_cons, List.not_mem_nil, or_false] at hr
  rcases hr with rfl | rfl | rfl | rfl | rfl | rfl | rfl | rfl | rfl | rfl | rfl | rfl |
      rfl | rfl | rfl | rfl | rfl | rfl | rfl | rfl | rfl | rfl | rfl | rfl |
      rfl | rfl | rfl | rfl | rfl | rfl | rfl | rfl | rfl | rfl | rfl | rfl |
      rfl | rfl | rfl | rfl | rfl | rfl | rfl | rfl | rfl <;>
    cases hreq <;>
    rcases ps with _ | ⟨⟨n, v⟩, _ | ⟨p, ps⟩⟩ <;> cases hnames <;>
    exact ⟨rfl, by trivial, by simp [Request.key, param]⟩

theorem receive_fillSegments {m : Method} {pattern : String} {h : Handler} (vs : List String)
    (hr : (m, pattern, h) ∈ libpodRoutes) (hh : h ≠ .imageJSON)
    (hs : ∀ v ∈ vs, '/' ∉ v.data)
    (hlen : vs.length = (paramNames (patternSegments pattern)).length) (body : Payload) :
    receive m (joinSegments (fillSegments (patternSegments pattern) vs)) body =
      Request.ofRoute h ((paramNames (patternSegments pattern)).zip vs) body := by
  have hc := hasCatchAll_libpodRoutes _ hr hh
  have hsegs : ∀ s ∈ fillSegments (patternSegments pattern) vs, '/' ∉ s.data :=
    slash_not_mem_of_mem_fillSegments (fun _ => slash_not_mem_of_lit_mem) hs
  rw [receive, dispatch_of_matchSegments hr rfl, Option.some_bind]
  rw [pathSegments_joinSegments hsegs (fillSegments_ne_nil (patternSegments_ne_nil _) hc)]
  exact matchSegments_fillSegments hc hlen

/-- Each request with a libpod endpoint is sent to the route of its handler, with its key as the
value of the route's parameter; the handler makes the request again of the body it was sent
with. -/
theorem route_of_endpoint {req : Request} {m : Method} {path : String}
    (he : req.endpoint = some (m, path)) :
    ∃ pattern h, (m, pattern, h) ∈ libpodRoutes ∧ h ≠ .imageJSON ∧
      path = joinSegments (fillSegments (patternSegments pattern) req.key.toList) ∧
      req.key.toList.length = (paramNames (patternSegments pattern)).length ∧
      ∀ body, req.Sent body → Request.ofRoute h
        ((paramNames (patternSegments pattern)).zip req.key.toList) body = some req := by
  cases req with
  | volume req =>
    cases req <;>
      simp only [Request.endpoint, Option.some.injEq, Prod.mk.injEq, reduceCtorEq] at he <;>
      obtain ⟨rfl, rfl⟩ := he
    · exact ⟨"/libpod/volumes/create", .volumeCreate, List.getElem?_mem (n := 29) rfl,
        by decide, rfl, rfl, fun _ hs => by cases hs; rfl⟩
    · exact ⟨"/libpod/volumes/:name/json", .volumeInfo, List.getElem?_mem (n := 31) rfl,
        by decide, rfl, rfl, fun _ hs => by cases hs; rfl⟩
    · exact ⟨"/libpod/volumes/:name/exists", .volumeExists, List.getElem?_mem (n := 32) rfl,
        by decide, rfl, rfl, fun _ hs => by cases hs; rfl⟩
    · exact ⟨"/libpod/volumes/:name", .volumeDelete, List.getElem?_mem (n := 33) rfl,
        by decide, rfl, rfl, fun _ hs => by cases hs; rfl⟩
    · exact ⟨"/libpod/volumes/prune", .volumePrune, List.getElem?_mem (n := 34) rfl,
        by decide, rfl, rfl, fun _ hs => by cases hs; rfl⟩
  | network req =>
    cases req <;> simp only [Request.endpoint, Option.some.injEq, Prod.mk.injEq] at he <;>
      obtain ⟨rfl, rfl⟩ := he
    · exact ⟨"/libpod/networks/create", .networkCreate, List.getElem?_mem (n := 38) rfl,
        by decide, rfl, rfl, fun _ hs => by cases hs; rfl⟩
    · exact ⟨"/libpod/networks/:id/json", .networkInfo, List.getElem?_mem (n := 36) rfl,
        by decide, rfl, rfl, fun _ hs => by cases hs; rfl⟩
    · exact ⟨"/libpod/networks/:id/exists", .networkExists, List.getElem?_mem (n := 37) rfl,
        by decide, rfl, rfl, fun _ hs => by cases hs; rfl⟩
    · exact ⟨"/libpod/networks/:id", .networkDelete, List.getElem?_mem (n := 39) rfl,
        by decide, rfl, rfl, fun _ hs => by cases hs; rfl⟩
    · exact ⟨"/libpod/networks/:id/connect", .networkConnect, List.getElem?_mem (n := 40) rfl,
        by decide, rfl, rfl, fun _ hs => by cases hs; rfl⟩
    · exact ⟨"/libpod/networks/:id/disconnect", .networkDisconnect,
        List.getElem?_mem (n := 41) rfl,
        by decide, rfl, rfl, fun _ hs => by cases hs; rfl⟩
    · exact ⟨"/libpod/networks/prune", .networkPrune, List.getElem?_mem (n := 42) rfl,
        by decide, rfl, rfl, fun _ hs => by cases hs; rfl⟩

theorem endpoint_of_receive {m : Method} {path : String} {body : Payload} {req : Request}
    (hrecv : receive m path body = some req) :
    req.endpoint = some (m, path) ∧ req.Sent body ∧ ∀ k ∈ req.key, '/' ∉ k.data := by
  obtain ⟨⟨h, ps⟩, hd, hreq⟩ := Option.bind_eq_some.mp hrecv
  obtain ⟨r, hr, rfl, rfl, hps⟩ := exists_route_of_dispatch hd
  have hc : hasCatchAll (patternSegments r.2.1) = false :=
    hasCatchAll_libpodRoutes r hr fun hj => by simp [hj, Request.ofRoute] at hreq
  obtain ⟨hsegs, hnames, hvals⟩ := matchSegments_some hps hc
  obtain ⟨he, hsent, hkey⟩ := endpoint_ofRoute hr hnames hreq
  exact ⟨by rw [he, ← hsegs, joinSegments_pathSegments], hsent,
    fun k hk => slash_not_mem_of_mem_pathSegments (hvals k (hkey k hk))⟩

theorem receive_of_endpoint {m : Method} {path : String} {body : Payload} {req : Request}
    (he : req.endpoint = some (m, path)) (hsent : req.Sent body)
    (hkey : ∀ k ∈ req.key, '/' ∉ k.data) : receive m path body = some req := by
  obtain ⟨pattern, h, hr, hh, rfl, hlen, hreq⟩ := route_of_endpoint he
  rw [receive_fillSegments _ hr hh (fun v hv => hkey v (Option.mem_toList.mp hv)) hlen,
    hreq body hsent]

/-- The server receives a request of the model exactly when it was sent to its endpoint with its
body, and its key, if it has one, has no `/`: each handler reads the parameter its route names
and the body its decoder reads, and no other route matches the endpoint. -/
theorem receive_eq_some_iff (m : Method) (path : String) (body : Payload) (req : Request) :
    receive m path body = some req ↔
      req.endpoint = some (m, path) ∧ req.Sent body ∧ ∀ k ∈ req.key, '/' ∉ k.data :=
  ⟨endpoint_of_receive, fun ⟨he, hsent, hkey⟩ => receive_of_endpoint he hsent hkey⟩

end Receive

section Headers

/-- `LibpodHeadersMiddleware`: the headers it sets on the reply to a request for `path`, with
`config.LibpodAPIVersion` as `apiVersion` (`strings.Contains` is an infix test). -/
def libpodHeaders (apiVersion path : String) : List (String × String) :=
  if "/libpod/".data <:+: path.data then [("Libpod-API-Version", apiVersion)] else []

/-- Every pattern of the table starts with the segments `""` and `libpod` and has more. -/
theorem libpodRoutes_libpod_prefix : ∀ r ∈ libpodRoutes,
    (patternSegments r.2.1).take 2 = [.lit "", .lit "libpod"] ∧
      2 < (patternSegments r.2.1).length := by
  decide

theorem matchSegments_lit_lit {a b : String} {pat : List Segment} {xs : List String}
    {ps : List (String × String)} (h : matchSegments pat xs = some ps)
    (htake : pat.take 2 = [.lit a, .lit b]) (hlen : 2 < pat.length) :
    ∃ x xs', xs = a :: b :: x :: xs' := by
  obtain ⟨s, rest, rfl⟩ : ∃ s rest, pat = .lit a :: .lit b :: s :: rest := by
    rcases pat with _ | ⟨p₁, _ | ⟨p₂, _ | ⟨s, rest⟩⟩⟩ <;> simp at htake hlen ⊢
    exact ⟨htake.1, htake.2⟩
  rcases xs with _ | ⟨x₁, _ | ⟨x₂, _ | ⟨x, xs⟩⟩⟩
  · simp [matchSegments] at h
  · simp [matchSegments] at h
  · cases s <;> simp [matchSegments] at h
  · simp only [matchSegments] at h
    split_ifs at h with h₁ h₂
    exact ⟨x, xs, by rw [h₁, h₂]⟩

theorem libpod_prefix_of_dispatch {m : Method} {path : String} {h : Handler}
    {ps : List (String × String)} (hd : dispatch m path = some (h, ps)) :
    "/libpod/".data <+: path.data := by
  obtain ⟨r, hr, -, -, hps⟩ := exists_route_of_dispatch hd
  obtain ⟨htake, hlen⟩ := libpodRoutes_libpod_prefix r hr
  obtain ⟨x, xs, hxs⟩ := matchSegments_lit_lit hps htake hlen
  rw [← joinSegments_pathSegments path, hxs]
  exact ⟨_, rfl⟩

/-- The reply to every request that reaches a route of the table carries the libpod API
version header. -/
theorem libpodHeaders_of_dispatch {m : Method} {path : String} (hd : (dispatch m path).isSome)
    (apiVersion : String) :
    libpodHeaders apiVersion path = [("Libpod-API-Version", apiVersion)] := by
  obtain ⟨⟨h, ps⟩, hd⟩ := Option.isSome_iff_exists.mp hd
  rw [libpodHeaders, if_pos (libpod_prefix_of_dispatch hd).isInfix]

theorem libpodHeaders_of_dispatch_volumeInfo :
    (dispatch .GET "/libpod/volumes/data/json").isSome ∧
      libpodHeaders "4.2.0" "/libpod/volumes/data/json" = [("Libpod-API-Version", "4.2.0")] :=
  ⟨by decide, libpodHeaders_of_dispatch (m := .GET) (by decide) "4.2.0"⟩

end Headers

end Kubedock
