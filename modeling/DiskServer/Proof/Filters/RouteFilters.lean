import DiskServer.Construction.Filters.RouteFilters

namespace DiskServer.Filters

open Auth

section Definitions

/-- What a route has to require of a request. -/
inductive Protection where
  | administrators
  | counted
  | downloaders
  deriving Repr, DecidableEq

def Handler.protection : Handler → Protection
  | .access => .counted
  | .browse => .counted
  | .downloadInfo => .downloaders
  | .download => .downloaders
  | .save => .downloaders
  | _ => .administrators

/-- The filters of a handler look for this start of the path. -/
def Handler.start : Handler → String
  | .access => "/api/share/access/"
  | .browse => "/api/share/browse/"
  | .downloadInfo => "/api/share/download/"
  | .download => "/api/share/download/"
  | .save => "/api/share/save/"
  | _ => "/api/admin/"

/-- A request that reaches the handler has passed the token and the role check. -/
def AdmitsOnlyAdministrators (route : Route) (path : List Char) : Prop :=
  ∀ environment authorization shareToken clientIp admitted,
    (route.serve environment ⟨path, authorization, shareToken, clientIp⟩).verdict = .ok admitted →
    ∃ claims, verifyAccessToken environment.tokens.decodeAccess (bearerToken authorization) = .ok claims ∧
      claims.role = 1 ∧ claims.status = 1

def AdmitsOnlyDownloaders (route : Route) (path : List Char) : Prop :=
  ∀ environment authorization shareToken clientIp admitted,
    (route.serve environment ⟨path, authorization, shareToken, clientIp⟩).verdict = .ok admitted →
    ∃ claims, environment.tokens.verifyShareTokenWithRedis shareToken = .ok claims ∧
      claims.permission = "download"

/-- No request reaches the handler without being counted. -/
def CountsRequests (route : Route) (path : List Char) : Prop :=
  ∀ environment authorization shareToken clientIp admitted,
    (route.serve environment ⟨path, authorization, shareToken, clientIp⟩).verdict = .ok admitted →
    (route.serve environment ⟨path, authorization, shareToken, clientIp⟩).counted ≠ []

/-- The filters of a route require what its handler needs. -/
def Protects (route : Route) (path : List Char) : Prop :=
  match route.handler.protection with
  | .administrators => AdmitsOnlyAdministrators route path
  | .counted => CountsRequests route path
  | .downloaders => AdmitsOnlyDownloaders route path ∧ CountsRequests route path

end Definitions

section Dispatch

/-- The literal text at the start of a template. -/
def leading : List Segment → List Char
  | [] => []
  | .literal text :: more => '/' :: text ++ leading more
  | .parameter :: _ => ['/']

theorem leading_of_matches {pattern : List Segment} {path : List Char}
    (matching : matchesSegments pattern path = true) :
    (leading pattern).map Char.toLower <+: path.map Char.toLower := by
  induction pattern generalizing path with
  | nil => exact List.nil_prefix
  | cons piece more continues =>
      cases piece with
      | literal text =>
          rw [matchesSegments, Bool.and_eq_true, List.isPrefixOf_iff_prefix] at matching
          obtain ⟨⟨rest, same⟩, others⟩ := matching
          have later := continues others
          have length : (('/' :: text).map Char.toLower).length = text.length + 1 := List.length_map _
          rw [List.map_drop, ← same, ← length, List.drop_left] at later
          rw [leading, List.map_append, ← same]
          exact (List.prefix_append_right_inj _).mpr later
      | parameter =>
          rw [matchesSegments, Bool.and_eq_true, beq_iff_eq] at matching
          obtain ⟨front, -⟩ := matching
          cases path with
          | nil => cases front
          | cons head tail =>
              obtain rfl : head = '/' := Option.some.inj front
              exact ⟨tail.map Char.toLower, rfl⟩

theorem start_of_dispatches {route : Route} (listed : route ∈ routes) {path : List Char}
    (dispatched : route.dispatches path = true) :
    route.handler.start.toList <+: path.map Char.toLower := by
  have table : ∀ route ∈ routes, route.handler.start.toList.isPrefixOf
      ((leading (segments route.template)).map Char.toLower) = true := by decide
  exact (List.isPrefixOf_iff_prefix.mp (table route listed)).trans (leading_of_matches dispatched)

end Dispatch

section Tests

/-- The starts that filters look for. -/
def starts : List String :=
  ["/api/admin/", "/api/share/access/", "/api/share/browse/", "/api/share/download/",
    "/api/share/save/"]

/-- The paths that need no access token as a whole. -/
def publicPaths : List String :=
  ["/api/auth/register", "/api/auth/login", "/api/auth/refresh", "/api/health", "/api/health/live",
    "/api/health/ready", "/metrics"]

theorem startsWith_iff {path : List Char} {start : String} :
    startsWith path start = true ↔ start.toList <+: path := List.isPrefixOf_iff_prefix

theorem start_mem (handler : Handler) : handler.start ∈ starts := by
  cases handler <;> decide

variable {route : Route} {path : List Char}

/-- A dispatched path has no other start than the one of its handler. -/
theorem startsWith_other (listed : route ∈ routes) (dispatched : route.dispatches path = true)
    {other : String} (known : other ∈ starts) (different : other ≠ route.handler.start) :
    startsWith path other = false := by
  have lowered : ∀ start ∈ starts, start.toList.map Char.toLower = start.toList := by decide
  have apart : ∀ one ∈ starts, ∀ two ∈ starts, one.toList <+: two.toList → one = two := by decide
  by_contra found
  have spelled := (startsWith_iff.mp (Bool.not_eq_false _ ▸ found)).map Char.toLower
  rw [lowered other known] at spelled
  have own := start_of_dispatches listed dispatched
  rcases List.prefix_or_prefix_of_prefix spelled own with shorter | longer
  · exact different (apart other known _ (start_mem _) shorter)
  · exact different (apart _ (start_mem _) other known longer).symm

theorem not_publicPath (listed : route ∈ routes) (dispatched : route.dispatches path = true)
    {exempt : String} (known : exempt ∈ publicPaths) : path ≠ exempt.toList := by
  have apart : ∀ start ∈ starts, ∀ exempt ∈ publicPaths,
      start.toList.isPrefixOf (exempt.toList.map Char.toLower) = false := by decide
  intro same
  have own := start_of_dispatches listed dispatched
  rw [same, ← List.isPrefixOf_iff_prefix, apart _ (start_mem _) exempt known] at own
  cases own

/-- The routes that the filters let pass without a token. -/
theorem isPublicPath_eq (listed : route ∈ routes) (dispatched : route.dispatches path = true) :
    isPublicPath path =
      (startsWith path "/api/share/access/" || startsWith path "/api/share/browse/" ||
        startsWith path "/api/share/download/") := by
  have exempt : ∀ text ∈ publicPaths, (path == text.toList) = false := fun text known =>
    beq_eq_false_iff_ne.mpr (not_publicPath listed dispatched known)
  simp only [publicPaths, List.forall_mem_cons, List.not_mem_nil, false_implies, implies_true,
    and_true] at exempt
  obtain ⟨register, login, refresh, health, live, ready, metrics⟩ := exempt
  rw [isPublicPath, register, login, refresh, health, live, ready, metrics]
  simp only [Bool.false_or]

/-- Two paths of one route that agree on its start agree on every start. -/
theorem startsWith_congr (listed : route ∈ routes) (dispatched : route.dispatches path = true)
    {second : List Char} (again : route.dispatches second = true)
    (same : startsWith path route.handler.start = startsWith second route.handler.start)
    {other : String} (known : other ∈ starts) : startsWith path other = startsWith second other := by
  by_cases own : other = route.handler.start
  · rw [own, same]
  · rw [startsWith_other listed dispatched known own, startsWith_other listed again known own]

end Tests

section Chains

variable {environment : Environment}

/-- Filters see a path only through its starts. -/
theorem runFilters_congr {path second : List Char} (exempt : isPublicPath path = isPublicPath second)
    (same : ∀ start ∈ starts, startsWith path start = startsWith second start)
    (authorization shareToken clientIp : String) (filters : List Filter) (attributes : Attributes) :
    runFilters environment ⟨path, authorization, shareToken, clientIp⟩ filters attributes =
      runFilters environment ⟨second, authorization, shareToken, clientIp⟩ filters attributes := by
  simp only [starts, List.forall_mem_cons, List.not_mem_nil, false_implies, implies_true, and_true] at same
  obtain ⟨admin, access, browse, download, save⟩ := same
  have scope : requiresDownloadScope path = requiresDownloadScope second := by
    rw [requiresDownloadScope, requiresDownloadScope, download, save]
  have operation : resolveOperation path = resolveOperation second := by
    rw [resolveOperation, resolveOperation, browse, download, save]
  induction filters generalizing attributes with
  | nil => rfl
  | cons filter more continues =>
      have one : filter.doFilter environment ⟨path, authorization, shareToken, clientIp⟩ attributes =
          filter.doFilter environment ⟨second, authorization, shareToken, clientIp⟩ attributes := by
        cases filter with
        | jwtAuth => simp only [Filter.doFilter, jwtAuthFilter, bearerToken, exempt]
        | adminAuth => simp only [Filter.doFilter, adminAuthFilter, admin]
        | adminRateLimit => simp only [Filter.doFilter, adminRateLimitFilter, admin]
        | shareAuth =>
            rw [Filter.doFilter, Filter.doFilter, shareAuthFilter, shareAuthFilter, scope]
        | shareAccessRateLimit => simp only [Filter.doFilter, shareAccessRateLimitFilter, access]
        | shareOperationRateLimit =>
            simp only [Filter.doFilter, shareOperationRateLimitFilter, operation]
      simp only [runFilters, one, continues]

theorem runFilters_ok {message : Message} {filter : Filter} {more : List Filter}
    {attributes admitted : Attributes}
    (accepted : (runFilters environment message (filter :: more) attributes).verdict = .ok admitted) :
    ∃ next, (filter.doFilter environment message attributes).verdict = .ok next ∧
      (runFilters environment message more next).verdict = .ok admitted ∧
      (runFilters environment message (filter :: more) attributes).counted =
        (filter.doFilter environment message attributes).counted ++
          (runFilters environment message more next).counted := by
  cases verdict : (filter.doFilter environment message attributes).verdict with
  | error rejection =>
      simp only [runFilters, verdict] at accepted
      cases accepted
  | ok next =>
      simp only [runFilters, verdict] at accepted ⊢
      exact ⟨next, rfl, accepted, rfl⟩

theorem jwtAuthFilter_ok {message : Message} {attributes next : Attributes}
    (accepted : (jwtAuthFilter environment message attributes).verdict = .ok next)
    (closed : isPublicPath message.path = false) :
    ∃ claims, verifyAccessToken environment.tokens.decodeAccess (bearerToken message.authorization) = .ok claims ∧
      environment.tokens.isAccessTokenRevoked claims.jti = .ok false ∧
      next.userId = some claims.userId ∧ next.role = some claims.role ∧ next.status = some claims.status := by
  simp only [jwtAuthFilter, closed, Bool.false_eq_true, if_false] at accepted
  split at accepted
  · cases accepted
  split at accepted
  · cases accepted
  split at accepted
  · cases accepted
  · next claims verified =>
      split at accepted
      · cases accepted
      · cases accepted
      · next valid =>
          obtain rfl := Except.ok.inj accepted
          exact ⟨claims, verified, valid, rfl, rfl, rfl⟩

theorem adminAuthFilter_ok {message : Message} {attributes next : Attributes}
    (accepted : (adminAuthFilter message attributes).verdict = .ok next)
    (spelled : startsWith message.path "/api/admin/" = true) :
    next = attributes ∧ attributes.role.getD 0 = 1 ∧ attributes.status.getD 0 = 1 := by
  simp only [adminAuthFilter, spelled, Bool.true_eq_false, if_false] at accepted
  split at accepted
  · cases accepted
  · next role =>
      split at accepted
      · cases accepted
      · next status => exact ⟨(Except.ok.inj accepted).symm, not_not.mp role, not_not.mp status⟩

theorem countRequest_ok {attributes next : Attributes} {key : Int → String} {limit window : Int}
    (accepted : (countRequest environment attributes key limit window).verdict = .ok next) :
    next = attributes := by
  simp only [countRequest] at accepted
  split at accepted
  · exact (Except.ok.inj accepted).symm
  · split at accepted
    · cases accepted
    · exact (Except.ok.inj accepted).symm

theorem adminRateLimitFilter_ok {message : Message} {attributes next : Attributes}
    (accepted : (adminRateLimitFilter environment message attributes).verdict = .ok next) :
    next = attributes := by
  simp only [adminRateLimitFilter] at accepted
  split at accepted
  · exact (Except.ok.inj accepted).symm
  · split at accepted
    · exact (Except.ok.inj accepted).symm
    · exact countRequest_ok accepted

theorem verifyShareToken_jti {decode : String → Decoded SharePayload} {token : String}
    {claims : ShareTokenClaims} (verified : verifyShareToken decode token = .ok claims) :
    claims.jti ≠ "" := by
  simp only [verifyShareToken] at verified
  split at verified
  · cases verified
  split at verified
  · cases verified
  · cases verified
  · cases verified
  split at verified
  · cases verified
  split at verified
  · split at verified
    · cases verified
    · next filled =>
        split at verified
        · cases verified
        · obtain rfl := Except.ok.inj verified
          exact fun empty => filled (.inr (.inl empty))
  · cases verified

theorem verifyShareTokenWithRedis_ok {tokens : TokenEnvironment} {token : String}
    {claims : ShareTokenClaims} (verified : tokens.verifyShareTokenWithRedis token = .ok claims) :
    verifyShareToken tokens.decodeShare token = .ok claims := by
  rw [TokenEnvironment.verifyShareTokenWithRedis] at verified
  cases first : verifyShareToken tokens.decodeShare token with
  | error code =>
      rw [first] at verified
      cases verified
  | ok found =>
      rw [first] at verified
      cases revoked : tokens.isShareTokenRevoked token with
      | error code =>
          rw [revoked] at verified
          cases verified
      | ok answer =>
          rw [revoked] at verified
          cases answer with
          | true => cases verified
          | false =>
              obtain rfl := Except.ok.inj verified
              rfl

theorem shareAuthFilter_ok {message : Message} {attributes next : Attributes}
    (accepted : (shareAuthFilter environment message attributes).verdict = .ok next) :
    ∃ claims, environment.tokens.verifyShareTokenWithRedis message.shareToken = .ok claims ∧
      (requiresDownloadScope message.path = true → claims.permission = "download") ∧
      next.shareTokenJti = some claims.jti := by
  simp only [shareAuthFilter] at accepted
  split at accepted
  · cases accepted
  split at accepted
  · cases accepted
  · next claims verified =>
      split at accepted
      · cases accepted
      · next scope =>
          obtain rfl := Except.ok.inj accepted
          refine ⟨claims, verified, ?_, rfl⟩
          intro required
          rw [required, Bool.true_and] at scope
          simpa using scope

theorem countRequest_counted {attributes : Attributes} {key : Int → String} {limit window : Int} :
    (countRequest environment attributes key limit window).counted ≠ [] := by
  rw [countRequest]
  split
  · exact List.cons_ne_nil _ _
  · split
    · exact List.cons_ne_nil _ _
    · exact List.cons_ne_nil _ _

theorem shareOperationRateLimitFilter_counted (message : Message) {attributes : Attributes}
    {operation : ShareOperation} (resolved : resolveOperation message.path = some operation)
    {jti : String} (known : attributes.shareTokenJti = some jti) (filled : jti ≠ "") :
    (shareOperationRateLimitFilter environment message attributes).counted ≠ [] := by
  simp only [shareOperationRateLimitFilter, resolved, known, if_neg filled]
  cases operation with
  | browse => exact countRequest_counted
  | download => exact countRequest_counted

end Chains

section Spelling

variable {route : Route} {path : List Char}

theorem route_kinds : ∀ route ∈ routes,
    (route.handler.protection = .administrators ∧ route.handler.start = "/api/admin/" ∧
      route.filters = [.adminAuth, .adminRateLimit]) ∨
    (route.handler.protection = .counted ∧ route.handler.start = "/api/share/access/" ∧
      route.filters = [.shareAccessRateLimit]) ∨
    (route.handler.protection = .counted ∧ route.handler.start = "/api/share/browse/" ∧
      route.filters = [.shareAuth, .shareOperationRateLimit]) ∨
    (route.handler.protection = .downloaders ∧ route.handler.start = "/api/share/download/" ∧
      route.filters = [.shareAuth, .shareOperationRateLimit]) ∨
    (route.handler.protection = .downloaders ∧ route.handler.start = "/api/share/save/" ∧
      route.filters = [.shareAuth, .shareOperationRateLimit]) := by
  decide

/-- An admitted request of an administrator route has a valid token with the claims of an active
administrator. -/
theorem administrators_ok (listed : route ∈ routes) (dispatched : route.dispatches path = true)
    (filters : route.filters = [.adminAuth, .adminRateLimit]) (start : route.handler.start = "/api/admin/")
    (spelled : startsWith path "/api/admin/" = true) {environment : Environment}
    {authorization shareToken clientIp : String} {admitted : Attributes}
    (accepted : (route.serve environment ⟨path, authorization, shareToken, clientIp⟩).verdict =
      .ok admitted) :
    ∃ claims, verifyAccessToken environment.tokens.decodeAccess (bearerToken authorization) = .ok claims ∧
      environment.tokens.isAccessTokenRevoked claims.jti = .ok false ∧
      admitted.userId = some claims.userId ∧ claims.role = 1 ∧ claims.status = 1 := by
  have access : startsWith path "/api/share/access/" = false :=
    startsWith_other listed dispatched (by decide) (by rw [start]; decide)
  have browse : startsWith path "/api/share/browse/" = false :=
    startsWith_other listed dispatched (by decide) (by rw [start]; decide)
  have download : startsWith path "/api/share/download/" = false :=
    startsWith_other listed dispatched (by decide) (by rw [start]; decide)
  have closed : isPublicPath path = false := by
    rw [isPublicPath_eq listed dispatched, access, browse, download]
    rfl
  rw [Route.serve, filters] at accepted
  obtain ⟨signed, first, later, -⟩ := runFilters_ok accepted
  obtain ⟨checked, second, last, -⟩ := runFilters_ok later
  obtain ⟨limited, third, finished, -⟩ := runFilters_ok last
  obtain ⟨claims, verified, valid, user, role, status⟩ := jwtAuthFilter_ok first closed
  obtain ⟨rfl, administrator, active⟩ := adminAuthFilter_ok second spelled
  obtain rfl := adminRateLimitFilter_ok third
  obtain rfl : limited = admitted := Except.ok.inj finished
  rw [role] at administrator
  rw [status] at active
  exact ⟨claims, verified, valid, user, administrator, active⟩

theorem admits_of_spelled (listed : route ∈ routes) (dispatched : route.dispatches path = true)
    (filters : route.filters = [.adminAuth, .adminRateLimit]) (start : route.handler.start = "/api/admin/")
    (spelled : startsWith path "/api/admin/" = true) : AdmitsOnlyAdministrators route path := by
  intro environment authorization shareToken clientIp admitted accepted
  obtain ⟨claims, verified, -, -, administrator, active⟩ :=
    administrators_ok listed dispatched filters start spelled accepted
  exact ⟨claims, verified, administrator, active⟩

theorem counts_access (filters : route.filters = [.shareAccessRateLimit])
    (spelled : startsWith path "/api/share/access/" = true) : CountsRequests route path := by
  intro environment authorization shareToken clientIp admitted accepted
  rw [Route.serve, filters] at accepted ⊢
  obtain ⟨signed, -, later, counted⟩ := runFilters_ok accepted
  obtain ⟨_, -, -, counting⟩ := runFilters_ok later
  rw [counted, counting]
  simp only [Filter.doFilter, shareAccessRateLimitFilter, spelled, Bool.true_eq_false, if_false]
  intro empty
  obtain ⟨-, others⟩ := List.append_eq_nil_iff.mp empty
  exact countRequest_counted (List.append_eq_nil_iff.mp others).1

theorem counts_operation (filters : route.filters = [.shareAuth, .shareOperationRateLimit])
    {operation : ShareOperation} (resolved : resolveOperation path = some operation) :
    CountsRequests route path := by
  intro environment authorization shareToken clientIp admitted accepted
  rw [Route.serve, filters] at accepted ⊢
  obtain ⟨signed, -, later, counted⟩ := runFilters_ok accepted
  obtain ⟨shared, verified, last, authorized⟩ := runFilters_ok later
  obtain ⟨_, -, -, counting⟩ := runFilters_ok last
  obtain ⟨claims, token, -, jti⟩ := shareAuthFilter_ok verified
  rw [counted, authorized, counting]
  intro empty
  obtain ⟨-, others⟩ := List.append_eq_nil_iff.mp empty
  obtain ⟨-, limited⟩ := List.append_eq_nil_iff.mp others
  have filled := verifyShareToken_jti (verifyShareTokenWithRedis_ok token)
  exact shareOperationRateLimitFilter_counted ⟨path, authorization, shareToken, clientIp⟩ resolved jti filled
    (List.append_eq_nil_iff.mp limited).1

theorem downloads_of_scope (filters : route.filters = [.shareAuth, .shareOperationRateLimit])
    (required : requiresDownloadScope path = true) : AdmitsOnlyDownloaders route path := by
  intro environment authorization shareToken clientIp admitted accepted
  rw [Route.serve, filters] at accepted
  obtain ⟨signed, -, later, -⟩ := runFilters_ok accepted
  obtain ⟨shared, verified, -, -⟩ := runFilters_ok later
  obtain ⟨claims, token, scope, -⟩ := shareAuthFilter_ok verified
  exact ⟨claims, token, scope required⟩

/-- A user who is no administrator holds a share token for viewing. -/
def viewer : Environment :=
  { tokens :=
      { decodeAccess := fun _ => .payload ⟨"access", "7", "viewer", "a", some 0, some 1⟩
        decodeShare := fun _ => .payload ⟨"share", "s", "t", "5", some "s", some "view"⟩
        isAccessTokenRevoked := fun _ => .ok false
        isShareTokenRevoked := fun _ => .ok false }
    limits := ⟨0, 0, 0, 0, 0, 0, 0, 0⟩
    count := fun _ _ => .ok 1
    now := 0 }

def viewerMessage (path : List Char) : Message := ⟨path, "Bearer a", "s", "127.0.0.1"⟩

theorem viewer_passes :
    ∀ filters ∈ [[Filter.adminAuth, .adminRateLimit], [.shareAccessRateLimit],
        [.shareAuth, .shareOperationRateLimit]],
      (runFilters viewer (viewerMessage []) (.jwtAuth :: filters) Attributes.empty).verdict.toBool = true ∧
        (runFilters viewer (viewerMessage []) (.jwtAuth :: filters) Attributes.empty).counted = [] := by
  decide +kernel

/-- The filters that find no start let the request of the viewer through and count nothing. -/
theorem viewer_admitted (listed : route ∈ routes) (dispatched : route.dispatches path = true)
    (misspelled : startsWith path route.handler.start = false) :
    ∃ admitted, (route.serve viewer (viewerMessage path)).verdict = .ok admitted ∧
      (route.serve viewer (viewerMessage path)).counted = [] := by
  have none : ∀ start ∈ starts, startsWith path start = startsWith [] start := by
    intro start known
    have nowhere : ∀ start ∈ starts, startsWith [] start = false := by decide
    rw [nowhere start known]
    by_cases own : start = route.handler.start
    · rw [own, misspelled]
    · exact startsWith_other listed dispatched known own
  have closed : isPublicPath path = isPublicPath [] := by
    rw [isPublicPath_eq listed dispatched, none _ (by decide), none _ (by decide), none _ (by decide)]
    decide
  have same : route.serve viewer (viewerMessage path) =
      runFilters viewer (viewerMessage []) (.jwtAuth :: route.filters) Attributes.empty :=
    runFilters_congr closed none "Bearer a" "s" "127.0.0.1" (.jwtAuth :: route.filters) Attributes.empty
  have kind : route.filters ∈ [[Filter.adminAuth, .adminRateLimit], [.shareAccessRateLimit],
      [.shareAuth, .shareOperationRateLimit]] := by
    have table : ∀ route ∈ routes, route.filters ∈ [[Filter.adminAuth, .adminRateLimit],
        [.shareAccessRateLimit], [.shareAuth, .shareOperationRateLimit]] := by decide
    exact table route listed
  obtain ⟨passes, counts⟩ := viewer_passes route.filters kind
  rw [same]
  generalize runFilters viewer (viewerMessage []) (.jwtAuth :: route.filters) Attributes.empty = answer
    at passes counts
  obtain ⟨counted, verdict⟩ := answer
  cases verdict with
  | error rejection => cases passes
  | ok admitted => exact ⟨admitted, rfl, counts⟩

theorem not_admits_viewer : ∀ claims, verifyAccessToken viewer.tokens.decodeAccess
    (bearerToken "Bearer a") = .ok claims → claims.role ≠ 1 := by
  intro claims verified
  have known : verifyAccessToken viewer.tokens.decodeAccess (bearerToken "Bearer a") =
      .ok ⟨7, "viewer", "a", 0, 1⟩ := by rfl
  rw [known] at verified
  obtain rfl := Except.ok.inj verified
  decide

/-- A path in another spelling passes the filters. -/
theorem misspelled_not_protects (listed : route ∈ routes) (dispatched : route.dispatches path = true)
    (misspelled : startsWith path route.handler.start = false) : ¬ Protects route path := by
  obtain ⟨admitted, passes, uncounted⟩ := viewer_admitted listed dispatched misspelled
  intro protects
  cases kind : route.handler.protection with
  | administrators =>
      simp only [Protects, kind] at protects
      obtain ⟨claims, verified, role, -⟩ := protects viewer _ _ _ admitted passes
      exact not_admits_viewer claims verified role
  | counted =>
      simp only [Protects, kind] at protects
      exact protects viewer _ _ _ admitted passes uncounted
  | downloaders =>
      simp only [Protects, kind] at protects
      exact protects.2 viewer _ _ _ admitted passes uncounted

theorem spelled_protects (listed : route ∈ routes) (dispatched : route.dispatches path = true)
    (spelled : startsWith path route.handler.start = true) : Protects route path := by
  have other : ∀ start ∈ starts, start ≠ route.handler.start → startsWith path start = false :=
    fun start known different => startsWith_other listed dispatched known different
  rcases route_kinds route listed with ⟨kind, start, filters⟩ | ⟨kind, start, filters⟩ |
    ⟨kind, start, filters⟩ | ⟨kind, start, filters⟩ | ⟨kind, start, filters⟩
  · rw [start] at spelled
    simp only [Protects, kind]
    exact admits_of_spelled listed dispatched filters start spelled
  · rw [start] at spelled
    simp only [Protects, kind]
    exact counts_access filters spelled
  · rw [start] at spelled
    have resolved : resolveOperation path = some .browse := by
      rw [resolveOperation, spelled]
      rfl
    simp only [Protects, kind]
    exact counts_operation filters resolved
  · have browse := other "/api/share/browse/" (by decide) (by rw [start]; decide)
    rw [start] at spelled
    have required : requiresDownloadScope path = true := by
      rw [requiresDownloadScope, spelled, Bool.true_or]
    have resolved : resolveOperation path = some .download := by
      rw [resolveOperation, browse, spelled]
      rfl
    simp only [Protects, kind]
    exact ⟨downloads_of_scope filters required, counts_operation filters resolved⟩
  · have browse := other "/api/share/browse/" (by decide) (by rw [start]; decide)
    rw [start] at spelled
    have required : requiresDownloadScope path = true := by
      rw [requiresDownloadScope, spelled, Bool.or_true]
    have resolved : resolveOperation path = some .download := by
      rw [resolveOperation, browse, spelled, Bool.or_true]
      rfl
    simp only [Protects, kind]
    exact ⟨downloads_of_scope filters required, counts_operation filters resolved⟩

/-- A route is protected on the paths that spell its start. -/
theorem protects_iff (listed : route ∈ routes) (dispatched : route.dispatches path = true) :
    Protects route path ↔ route.handler.start.toList <+: path := by
  rw [← startsWith_iff]
  cases spelled : startsWith path route.handler.start with
  | true => exact iff_of_true (spelled_protects listed dispatched spelled) rfl
  | false => exact iff_of_false (misspelled_not_protects listed dispatched spelled) Bool.false_ne_true

/-- The decision of the filters for a path does not depend on its spelling. -/
def SameDecision (route : Route) (path second : List Char) : Prop :=
  ∀ environment authorization shareToken clientIp,
    route.serve environment ⟨path, authorization, shareToken, clientIp⟩ =
      route.serve environment ⟨second, authorization, shareToken, clientIp⟩

/-- Paths with the same decision are both protected or both not. -/
theorem SameDecision.protects {second : List Char} (same : SameDecision route path second) :
    Protects route path ↔ Protects route second := by
  cases kind : route.handler.protection with
  | administrators => simp only [Protects, kind, AdmitsOnlyAdministrators, same _ _ _ _]
  | counted => simp only [Protects, kind, CountsRequests, same _ _ _ _]
  | downloaders => simp only [Protects, kind, AdmitsOnlyDownloaders, CountsRequests, same _ _ _ _]

/-- The filters protect a handler exactly on the paths that spell the start of its template, and two paths
of a route get the same decision exactly when both or neither do. -/
theorem route_protection_by_spelling {second : List Char} (listed : route ∈ routes)
    (dispatched : route.dispatches path = true) (again : route.dispatches second = true) :
    (Protects route path ↔ route.handler.start.toList <+: path) ∧
      (SameDecision route path second ↔
        (route.handler.start.toList <+: path ↔ route.handler.start.toList <+: second)) := by
  refine ⟨protects_iff listed dispatched, ?_⟩
  constructor
  · intro same
    rw [← protects_iff listed dispatched, ← protects_iff listed again]
    exact same.protects
  · intro both environment authorization shareToken clientIp
    have start : startsWith path route.handler.start = startsWith second route.handler.start := by
      rw [Bool.eq_iff_iff, startsWith_iff, startsWith_iff]
      exact both
    have all : ∀ other ∈ starts, startsWith path other = startsWith second other :=
      fun other known => startsWith_congr listed dispatched again start known
    have exempt : isPublicPath path = isPublicPath second := by
      rw [isPublicPath_eq listed dispatched, isPublicPath_eq listed again, all _ (by decide),
        all _ (by decide), all _ (by decide)]
    exact runFilters_congr exempt all authorization shareToken clientIp _ _

def listUsersRoute : Route := adminRoute .listUsers "/api/admin/users" .get

/-- The list of users in its own spelling and in another. -/
theorem route_protection_of_user_list :
    Protects listUsersRoute "/api/admin/users".toList ∧
      ¬ SameDecision listUsersRoute "/api/admin/users".toList "/API/admin/users".toList := by
  obtain ⟨protects, decisions⟩ := route_protection_by_spelling (by decide : listUsersRoute ∈ routes)
    (by decide : listUsersRoute.dispatches "/api/admin/users".toList = true)
    (by decide : listUsersRoute.dispatches "/API/admin/users".toList = true)
  exact ⟨protects.mpr (by decide), mt decisions.mp (by decide)⟩

/-- The router takes a path in capital letters to the list of users, and the filters do not see it. -/
theorem capital_path_not_protected :
    listUsersRoute ∈ routes ∧ listUsersRoute.dispatches "/API/admin/users".toList = true ∧
      ¬ Protects listUsersRoute "/API/admin/users".toList := by
  have listed : listUsersRoute ∈ routes := by decide
  have dispatched : listUsersRoute.dispatches "/API/admin/users".toList = true := by decide
  have misspelled : startsWith "/API/admin/users".toList listUsersRoute.handler.start = false := by decide
  exact ⟨listed, dispatched, misspelled_not_protects listed dispatched misspelled⟩

end Spelling

end DiskServer.Filters
