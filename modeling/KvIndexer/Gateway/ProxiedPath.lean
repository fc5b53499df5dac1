import KvIndexer.Lib.NetURL

/-!
The path of a proxied PATCH or DELETE (`internal/gateway/gateway.go`,
`internal/httpapi/router.go`).

The gateway's router decodes the path of the request, and `forward` appends the decoded path
to the URL of the backend, which is parsed once more. A question mark, a number sign or a
percent sign of an id is read as part of the URL there, and the backend finds another id:
`sameOrRefused_iff`.
-/

namespace KvIndexer.Gateway

open NetURL

inductive Method
  | patch
  | delete
deriving DecidableEq

/-- The routes of the kvindexer that name a resource; the gateway has the same. -/
inductive ResourceRoute
  | patchCluster
  | patchEngine
  | patchPolicy
  | deletePolicy
  | deleteModelProfile
deriving DecidableEq

namespace ResourceRoute

def method : ResourceRoute → Method
  | patchCluster => .patch
  | patchEngine => .patch
  | patchPolicy => .patch
  | deletePolicy => .delete
  | deleteModelProfile => .delete

/-- The first segment of the path. -/
def collection : ResourceRoute → Octets
  | patchCluster => bytes "clusters"
  | patchEngine => bytes "engines"
  | patchPolicy => bytes "policies"
  | deletePolicy => bytes "policies"
  | deleteModelProfile => bytes "model-profiles"

/-- The route ends in `*id`; the others end in `:id`. -/
def catchAll : ResourceRoute → Bool
  | deleteModelProfile => true
  | _ => false

/-- The path up to the id. -/
def base (route : ResourceRoute) : Octets := bytes "/" ++ route.collection ++ bytes "/"

end ResourceRoute

/-! ### Routers -/

/-- What a router does with a path. -/
inductive Answer
  | handled (route : ResourceRoute) (param : Octets)
  | redirected (path : Octets)
  | notFound
deriving DecidableEq

/-- gin's router with these routes: `:id` matches one segment, `*id` the rest of the path with
the slash before it. A path that matches but for a slash at its end is redirected to the one
without it. -/
structure Router where
  answer : Method → Octets → Answer
  one : ∀ (route : ResourceRoute) (id : Octets), route.catchAll = false → id ≠ [] →
    byte '/' ∉ id → answer route.method (route.base ++ id) = .handled route id
  all : ∀ (route : ResourceRoute) (id : Octets), route.catchAll = true →
    answer route.method (route.base ++ id) = .handled route (byte '/' :: id)
  trailing : ∀ (route : ResourceRoute) (id : Octets), route.catchAll = false → id ≠ [] →
    byte '/' ∉ id →
    answer route.method (route.base ++ (id ++ [byte '/'])) = .redirected (route.base ++ id)
  unmatched : ∀ (route : ResourceRoute) (rest : Octets), route.catchAll = false →
    rest = [] ∨ byte '/' ∈ rest.dropLast → answer route.method (route.base ++ rest) = .notFound
  emptySegment : ∀ route : ResourceRoute, route.catchAll = false →
    answer route.method (route.base ++ [byte '/']) = .notFound ∨
      answer route.method (route.base ++ [byte '/']) = .redirected route.base
  root : ∀ method, answer method (bytes "/") = .notFound
  collection : ∀ route : ResourceRoute, route.catchAll = false →
    answer route.method (bytes "/" ++ route.collection) = .notFound

/-- `strings.TrimPrefix` of a slash. -/
def trimSlash (param : Octets) : Octets :=
  if param.head? = some (byte '/') then param.tail else param

/-- A request as its handler finds it: `r.URL.Path` and `r.PathValue("id")`. -/
structure Arrival where
  route : ResourceRoute
  path : Octets
  id : Octets
deriving DecidableEq

inductive Refusal
  | badRequest
  | notFound
  | badGateway
  | tooManyRedirects

/-- A request of a client that follows redirects, as browsers and `http.Client` do. -/
def exchange (router : Router) (method : Method) : Nat → Octets → Except Refusal Arrival
  | 0, _ => .error .tooManyRedirects
  | hops + 1, target =>
      match readTarget target with
      | none => .error .badRequest
      | some path =>
          match router.answer method path with
          | .handled route param => .ok ⟨route, path, trimSlash param⟩
          | .redirected other => exchange router method hops (location (escape keepsPath other))
          | .notFound => .error .notFound

/-- `forward`, as far as it is about the path. The URL of a backend is its origin. -/
def forward (backend : Router) (method : Method) (path : Octets) : Except Refusal Arrival :=
  match parse path with
  | none => .error .badGateway
  | some u => exchange backend method 10 u.requestURI

/-- How a write on the resource with this id arrives at the backend. -/
def proxied (gateway backend : Router) (route : ResourceRoute) (id : Octets) :
    Except Refusal Arrival :=
  match exchange gateway route.method 10 (route.base ++ encodeURIComponent id) with
  | .error refusal => .error refusal
  | .ok r => forward backend route.method r.path

/-! ### What a route takes -/

/-- What the route takes from a path after its base, directly or after a redirect. -/
def ResourceRoute.takes (route : ResourceRoute) (rest : Octets) : Option Octets :=
  if route.catchAll then some rest
  else if rest ≠ [] ∧ byte '/' ∉ rest then some rest
  else if rest.getLast? = some (byte '/') ∧ Proper rest.dropLast then some rest.dropLast
  else none

section Routes

variable (route : ResourceRoute)

theorem base_append (rest : Octets) :
    route.base ++ rest = byte '/' :: [byte '/'].intercalate [route.collection, rest] := by
  simp only [ResourceRoute.base, List.intercalate, List.intersperse, List.flatten_cons,
    List.flatten_nil, List.append_nil, List.append_assoc]
  rfl

theorem keepsPath_base : route.base.all keepsPath = true := by
  cases route with
  | patchCluster => rfl
  | patchEngine => rfl
  | patchPolicy => rfl
  | deletePolicy => rfl
  | deleteModelProfile => rfl

theorem proper_collection : Proper route.collection := by
  cases route <;> decide

theorem escape_base (rest : Octets) :
    escape keepsPath (route.base ++ rest) = route.base ++ escape keepsPath rest := by
  have kept : escape keepsPath route.base = route.base := by
    cases route with
    | patchCluster => rfl
    | patchEngine => rfl
    | patchPolicy => rfl
    | deletePolicy => rfl
    | deleteModelProfile => rfl
  unfold escape at kept ⊢
  rw [List.flatMap_append, kept]

theorem notMem_base {c : UInt8} (special : keepsPath c = false) : c ∉ route.base := by
  intro member
  have kept := List.all_eq_true.mp (keepsPath_base route) c member
  rw [special] at kept
  cases kept

/-- A path that was escaped is read as it was. -/
theorem readTarget_base {keeps : UInt8 → Bool} (inPath : ∀ c, keeps c = true → InPath c)
    (percent : keeps (byte '%') = false) (rest : Octets) :
    readTarget (route.base ++ escape keeps rest) = some (route.base ++ rest) := by
  rw [readTarget_of_inPath, unescape_append (notMem_base route (by decide)),
    unescape_escape percent]
  · rfl
  · intro c member
    rcases List.mem_append.mp member with inBase | later
    · exact inPath_of_keepsPath (List.all_eq_true.mp (keepsPath_base route) c inBase)
    · exact inPath_escape inPath rest c later

theorem location_base {segment : Octets} (proper : Proper segment) :
    location (escape keepsPath (route.base ++ segment)) =
      route.base ++ escape keepsPath segment := by
  rw [escape_base, base_append]
  refine location_of_proper nofun fun part member => ?_
  simp only [List.mem_cons, List.not_mem_nil, or_false] at member
  rcases member with rfl | rfl
  · exact proper_collection route
  · exact proper.escape

end Routes

section Exchange

variable (router : Router)

/-- One answer of the router. -/
theorem exchange_succ {target path : Octets} (reads : readTarget target = some path)
    (method : Method) (hops : Nat) :
    exchange router method (hops + 1) target =
      match router.answer method path with
      | .handled route param => .ok ⟨route, path, trimSlash param⟩
      | .redirected other => exchange router method hops (location (escape keepsPath other))
      | .notFound => .error .notFound := by
  simp only [exchange, reads]

variable (route : ResourceRoute)

/-- The handler of a route, with the part of the path that is the id. -/
def ResourceRoute.arrival (id : Octets) : Arrival := ⟨route, route.base ++ id, id⟩

theorem exchange_one {target id : Octets} (reads : readTarget target = some (route.base ++ id))
    (single : route.catchAll = false) (some : id ≠ []) (noSlash : byte '/' ∉ id) (hops : Nat) :
    exchange router route.method (hops + 1) target = .ok (route.arrival id) := by
  have trimmed : trimSlash id = id := by
    refine if_neg fun here => noSlash ?_
    exact List.mem_of_mem_head? here
  rw [exchange_succ router reads, router.one route id single some noSlash]
  simp only [trimmed, ResourceRoute.arrival]

theorem exchange_notFound {target path : Octets} (reads : readTarget target = some path)
    {method : Method} (none : router.answer method path = .notFound) (hops : Nat) :
    exchange router method (hops + 1) target = .error .notFound := by
  rw [exchange_succ router reads, none]

/-- A redirect for a slash at the end leads to the segment before it, unless that is a dot
segment. -/
theorem exchange_redirected {id : Octets} (single : route.catchAll = false) (some : id ≠ [])
    (noSlash : byte '/' ∉ id) (hops : Nat) :
    exchange router route.method (hops + 1) (location (escape keepsPath (route.base ++ id))) =
      if Proper id then .ok (route.arrival id) else .error .notFound := by
  split
  · rename_i proper
    rw [location_base route proper]
    exact exchange_one router route
      (readTarget_base route (fun c => inPath_of_keepsPath) (by decide) id) single some noSlash hops
  · rename_i improper
    have dots : id = bytes "." ∨ id = bytes ".." := by
      by_contra other
      rw [not_or] at other
      exact improper ⟨some, noSlash, other.1, other.2⟩
    rcases dots with rfl | rfl
    · refine exchange_notFound router ?_ (router.collection route single) hops
      cases route <;> decide +kernel
    · refine exchange_notFound router ?_ (router.root _) hops
      cases route <;> decide +kernel

/-- A path that ends in its only slash after the base. -/
theorem exchange_slash {target front : Octets}
    (reads : readTarget target = some (route.base ++ (front ++ [byte '/'])))
    (single : route.catchAll = false) (noSlash : byte '/' ∉ front) (hops : Nat) :
    exchange router route.method (hops + 2) target =
      if Proper front then .ok (route.arrival front) else .error .notFound := by
  by_cases empty : front = []
  · subst empty
    have improper : ¬ Proper [] := fun proper => proper.nonempty rfl
    rw [if_neg improper]
    rcases router.emptySegment route single with none | redirected
    · exact exchange_notFound router reads none _
    · rw [exchange_succ router reads, List.nil_append, redirected]
      have none := router.unmatched route [] single (Or.inl rfl)
      rw [List.append_nil] at none
      refine exchange_notFound router ?_ none hops
      cases route <;> decide +kernel
  · rw [exchange_succ router reads, router.trailing route front single empty noSlash]
    exact exchange_redirected router route single empty noSlash hops

theorem takes_of_single (single : route.catchAll = false) (rest : Octets) :
    route.takes rest =
      if rest ≠ [] ∧ byte '/' ∉ rest then some rest
      else if rest.getLast? = some (byte '/') ∧ Proper rest.dropLast then some rest.dropLast
      else none := by
  unfold ResourceRoute.takes
  rw [single]
  rfl

/-- Where a request for a path below the base of a route arrives. -/
theorem exchange_base {target rest : Octets} (reads : readTarget target = some (route.base ++ rest))
    (hops : Nat) :
    exchange router route.method (hops + 2) target =
      match route.takes rest with
      | some id => .ok (route.arrival id)
      | none => .error .notFound := by
  cases kind : route.catchAll with
  | true =>
      have takes : route.takes rest = some rest := by
        unfold ResourceRoute.takes
        rw [if_pos kind]
      rw [exchange_succ router reads, router.all route rest kind, takes]
      rfl
  | false =>
      rw [takes_of_single route kind]
      rcases List.eq_nil_or_concat' rest with rfl | ⟨front, last, rfl⟩
      · exact exchange_notFound router reads (router.unmatched route [] kind (Or.inl rfl)) _
      · simp only [List.getLast?_concat, List.dropLast_concat, Option.some.injEq]
        by_cases inside : byte '/' ∈ front
        · have improper : ¬ Proper front := fun proper => proper.noSlash inside
          rw [if_neg (by simp [inside]), if_neg (by simp [improper])]
          refine exchange_notFound router reads (router.unmatched route _ kind (Or.inr ?_)) _
          rwa [List.dropLast_concat]
        · by_cases slash : last = byte '/'
          · subst slash
            rw [if_neg (by simp), exchange_slash router route reads kind inside hops]
            simp only [true_and]
            split
            · rfl
            · rfl
          · have noSlash : byte '/' ∉ front ++ [last] := by simp [inside, Ne.symm slash]
            rw [if_pos ⟨by simp, noSlash⟩]
            exact exchange_one router route reads kind (by simp) noSlash _

end Exchange

/-! ### Both hops -/

/-- An id at the end of a URL can be sent, and is read as this. -/
structure Reads (id read : Octets) : Prop where
  printable : (unfragmented id).any isCTL = false
  fragment : (unescape (fragmentPart id)).isSome
  unescaped : unescape (pathPart id) = some read
  noSpace : ∀ query ∈ queryPart id, byte ' ' ∉ query

section Forward

variable (route : ResourceRoute)

/-- The base of the route is parsed as itself, and what follows it as it would be alone. -/
theorem parse_base_iff {id : Octets} {u : URL} :
    parse (route.base ++ id) = some u ↔
      (unfragmented id).any isCTL = false ∧ (unescape (fragmentPart id)).isSome ∧
        ∃ read, unescape (pathPart id) = some read ∧
          u = URL.written (route.base ++ read) (route.base ++ pathPart id) (queryPart id) := by
  have noHash := notMem_base route (c := byte '#') (by decide)
  have noQuery := notMem_base route (c := byte '?') (by decide)
  have printable : route.base.any isCTL = false :=
    List.any_eq_false.mpr fun c member => by
      simp [(inPath_of_keepsPath (List.all_eq_true.mp (keepsPath_base route) c member)).printable]
  rw [parse_eq_some_iff, unfragmented_append noHash, fragmentPart_append noHash,
    pathPart_append noHash noQuery, queryPart_append noHash noQuery, List.any_append, printable,
    Bool.false_or, unescape_append (notMem_base route (by decide))]
  simp only [Option.map_eq_some_iff, exists_exists_and_eq_and]

/-- What is sent is read with its path, unless there is a space in the query. -/
theorem readTarget_written {id : Octets} (printable : (unfragmented id).any isCTL = false)
    (read : Octets) :
    readTarget (URL.written (route.base ++ read) (route.base ++ pathPart id)
        (queryPart id)).requestURI =
      if ∃ query ∈ queryPart id, byte ' ' ∈ query then none else some (route.base ++ read) := by
  refine readTarget_requestURI (by simp [URL.written, ResourceRoute.base, bytes]) ?_
  intro query here
  refine List.any_eq_false.mpr fun c member => ?_
  exact List.any_eq_false.mp printable c (mem_unfragmented_of_queryPart here member)

/-- Where the backend gets a request whose id can be sent. -/
theorem forward_of_reads (backend : Router) {id read : Octets} (reads : Reads id read) :
    forward backend route.method (route.base ++ id) =
      match route.takes read with
      | some taken => .ok (route.arrival taken)
      | none => .error .notFound := by
  have parsed := (parse_base_iff route).mpr
    ⟨reads.printable, reads.fragment, read, reads.unescaped, rfl⟩
  have sent := readTarget_written route reads.printable read
  rw [if_neg fun ⟨query, here, space⟩ => reads.noSpace query here space] at sent
  unfold forward
  rw [parsed]
  exact exchange_base backend route sent 8

theorem reads_of_forward {backend : Router} {id : Octets} {r : Arrival}
    (arrives : forward backend route.method (route.base ++ id) = .ok r) :
    ∃ read, Reads id read := by
  unfold forward at arrives
  split at arrives
  · cases arrives
  · rename_i u parsed
    obtain ⟨printable, fragment, read, unescaped, rfl⟩ := (parse_base_iff route).mp parsed
    refine ⟨read, printable, fragment, unescaped, fun query here space => ?_⟩
    have unread := readTarget_written route printable read
    rw [if_pos ⟨query, here, space⟩] at unread
    simp only [exchange, unread] at arrives
    cases arrives

theorem forward_eq_ok_iff (backend : Router) {id : Octets} {r : Arrival} :
    forward backend route.method (route.base ++ id) = .ok r ↔
      ∃ read taken, Reads id read ∧ route.takes read = some taken ∧ r = route.arrival taken := by
  constructor
  · intro arrives
    obtain ⟨read, reads⟩ := reads_of_forward route arrives
    rw [forward_of_reads route backend reads] at arrives
    split at arrives
    · rename_i taken takes
      exact ⟨read, taken, reads, takes, (Except.ok.inj arrives).symm⟩
    · cases arrives
  · rintro ⟨read, taken, reads, takes, rfl⟩
    rw [forward_of_reads route backend reads, takes]

end Forward

theorem proxied_eq_ok_iff (gateway backend : Router) (route : ResourceRoute) {id : Octets}
    {r : Arrival} :
    proxied gateway backend route id = .ok r ↔
      ∃ sent read taken, route.takes id = some sent ∧ Reads sent read ∧
        route.takes read = some taken ∧ r = route.arrival taken := by
  have reads : readTarget (route.base ++ encodeURIComponent id) = some (route.base ++ id) :=
    readTarget_base route (fun c => inPath_of_keepsComponent) (by decide) id
  unfold proxied
  rw [exchange_base gateway route reads]
  cases takes : route.takes id with
  | none => simp
  | some sent =>
      refine (forward_eq_ok_iff route backend).trans ?_
      simp

/-! ### The same resource -/

/-- No byte of the id has a meaning in a URL. -/
structure Plain (id : Octets) : Prop where
  noHash : byte '#' ∉ id
  noQuery : byte '?' ∉ id
  noPercent : byte '%' ∉ id

theorem Plain.reads {id read : Octets} (plain : Plain id) (reads : Reads id read) : read = id := by
  have unescaped := reads.unescaped
  unfold pathPart unfragmented at unescaped
  rw [cut_of_notMem plain.noHash, cut_of_notMem plain.noQuery,
    unescape_eq_self_iff.mpr plain.noPercent] at unescaped
  exact (Option.some.inj unescaped).symm

/-- Whatever has a meaning in a URL makes what is read shorter. -/
theorem length_reads {id read : Octets} (reads : Reads id read) :
    read.length ≤ id.length ∧ (read.length = id.length → Plain id) := by
  have hash := length_cut (byte '#') id
  have query := length_cut (byte '?') (unfragmented id)
  have percent := length_unescape reads.unescaped
  unfold pathPart at percent
  unfold unfragmented at percent query
  refine ⟨by omega, fun same => ?_⟩
  have noHash : byte '#' ∉ id := fun member => by
    have shorter := hash.2 member
    omega
  rw [cut_of_notMem noHash] at query percent
  dsimp only at query percent
  have noQuery : byte '?' ∉ id := fun member => by
    have shorter := query.2 member
    omega
  rw [cut_of_notMem noQuery] at percent
  dsimp only at percent
  refine ⟨noHash, noQuery, fun member => ?_⟩
  have shorter := percent.2 member
  omega

theorem length_takes {route : ResourceRoute} {rest id : Octets}
    (takes : route.takes rest = some id) :
    id.length ≤ rest.length ∧ (id.length = rest.length → id = rest) := by
  unfold ResourceRoute.takes at takes
  split at takes
  · cases takes
    exact ⟨Nat.le_refl _, fun _ => rfl⟩
  · split at takes
    · cases takes
      exact ⟨Nat.le_refl _, fun _ => rfl⟩
    · split at takes
      · rename_i ends
        cases takes
        have some := List.length_pos_iff.mpr ends.2.nonempty
        rw [List.length_dropLast] at some ⊢
        omega
      · cases takes

/-- A write that arrives at a handler of the backend is one on the resource that was named. -/
def SameOrRefused (gateway backend : Router) (route : ResourceRoute) (id : Octets) : Prop :=
  ∀ r, proxied gateway backend route id = .ok r → r.route = route ∧ r.id = id

/-- A write arrives as what it was, or is refused, exactly where the gateway's router takes
the whole id and no byte of it has a meaning in a URL, or what is sent to the backend is
refused. -/
theorem sameOrRefused_iff (gateway backend : Router) (route : ResourceRoute) (id : Octets) :
    SameOrRefused gateway backend route id ↔
      ∀ sent, route.takes id = some sent →
        (sent = id ∧ Plain id) ∨ ∀ read, Reads sent read → route.takes read = none := by
  unfold SameOrRefused
  simp only [proxied_eq_ok_iff]
  constructor
  · intro same sent takes
    by_contra wrong
    simp only [not_or, not_forall] at wrong
    obtain ⟨changed, read, reads, arrives⟩ := wrong
    obtain ⟨taken, arrives⟩ := Option.ne_none_iff_exists'.mp arrives
    obtain ⟨-, here⟩ := same _ ⟨sent, read, taken, takes, reads, arrives, rfl⟩
    obtain rfl : taken = id := here
    have outer := length_takes takes
    have middle := length_reads reads
    have inner := length_takes arrives
    obtain rfl : sent = taken := outer.2 (by omega)
    exact changed ⟨rfl, middle.2 (by omega)⟩
  · rintro condition r ⟨sent, read, taken, takes, reads, arrives, rfl⟩
    rcases condition sent takes with ⟨rfl, plain⟩ | refused
    · obtain rfl := plain.reads reads
      rw [takes] at arrives
      exact ⟨rfl, (Option.some.inj arrives).symm⟩
    · rw [refused read reads] at arrives
      cases arrives

/-! A router, and an id with a question mark in it. -/

/-- What a route answers to a path below its base. -/
def ResourceRoute.answer (route : ResourceRoute) (rest : Octets) : Answer :=
  if route.catchAll then .handled route (byte '/' :: rest)
  else if rest ≠ [] ∧ byte '/' ∉ rest then .handled route rest
  else if rest.getLast? = some (byte '/') ∧ rest.dropLast ≠ [] ∧ byte '/' ∉ rest.dropLast then
    .redirected (route.base ++ rest.dropLast)
  else .notFound

def routes : List ResourceRoute :=
  [.patchCluster, .patchEngine, .patchPolicy, .deletePolicy, .deleteModelProfile]

def routesAnswer (method : Method) (path : Octets) : Answer :=
  match routes.find? fun route => route.method = method ∧ route.base.isPrefixOf path with
  | none => .notFound
  | some route => route.answer (path.drop route.base.length)

theorem routesAnswer_base (route : ResourceRoute) (rest : Octets) :
    routesAnswer route.method (route.base ++ rest) = route.answer rest := by
  cases route with
  | patchCluster => rfl
  | patchEngine => rfl
  | patchPolicy => rfl
  | deletePolicy => rfl
  | deleteModelProfile => rfl

theorem answer_single {route : ResourceRoute} (single : route.catchAll = false) (rest : Octets) :
    route.answer rest =
      if rest ≠ [] ∧ byte '/' ∉ rest then .handled route rest
      else if rest.getLast? = some (byte '/') ∧ rest.dropLast ≠ [] ∧ byte '/' ∉ rest.dropLast then
        .redirected (route.base ++ rest.dropLast)
      else .notFound := by
  unfold ResourceRoute.answer
  rw [single]
  rfl

def router : Router where
  answer := routesAnswer
  one route id single some noSlash := by
    rw [routesAnswer_base, answer_single single, if_pos ⟨some, noSlash⟩]
  all route id catchAll := by
    rw [routesAnswer_base]
    exact if_pos catchAll
  trailing route id single some noSlash := by
    rw [routesAnswer_base, answer_single single, if_neg (by simp), if_pos (by simp [some, noSlash]),
      List.dropLast_concat]
  unmatched route rest single none := by
    rw [routesAnswer_base, answer_single single]
    rcases none with rfl | inside
    · rfl
    · have anywhere : byte '/' ∈ rest := List.dropLast_subset rest inside
      rw [if_neg (by simp [anywhere]), if_neg (by simp [inside])]
  emptySegment route single := by
    rw [routesAnswer_base, answer_single single]
    exact Or.inl rfl
  root method := by cases method <;> decide +kernel
  collection route single := by
    revert single
    cases route <;> decide +kernel

/-- A policy `a?b` is to be deleted, and the policy `a` is. -/
theorem not_sameOrRefused :
    ¬ ∀ gateway backend route id, SameOrRefused gateway backend route id := by
  intro always
  have arrives : proxied router router .deletePolicy (bytes "a?b") =
      .ok (ResourceRoute.deletePolicy.arrival (bytes "a")) := by
    rw [proxied_eq_ok_iff]
    refine ⟨bytes "a?b", bytes "a", bytes "a", by decide +kernel, ?_, by decide +kernel, rfl⟩
    exact ⟨by decide, by decide, by decide, by decide⟩
  exact absurd (always _ _ _ _ _ arrives).2 (by decide)

end KvIndexer.Gateway
