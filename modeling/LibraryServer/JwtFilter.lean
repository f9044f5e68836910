import LibraryServer.Entities

/-!
Requests on their way to a handler. `JwtAuthFilter` looks for a token in the
cookies and the Authorization header and installs an authentication with what
the token says, except on the public paths, where it does not run. The path
matcher and the verification of tokens are parameters.
-/
namespace LibraryServer.JwtFilter
open LibraryServer.Java LibraryServer.Entities
set_option linter.unusedSimpArgs false

structure Cookie where
  name : String
  value : Option String
deriving DecidableEq

/-- What the filter reads of a request. -/
structure HttpRequest where
  requestURI : String
  cookies : Option (List Cookie)
  authorization : Option String

/-- The claims of a decoded token. -/
structure Claims where
  subject : Option String
  role : Option String
  expiresAt : Int
deriving DecidableEq

/-- What the security context holds and a handler is given. -/
structure Authentication where
  principal : Option String
  name : Option String
  authorities : List String
deriving DecidableEq

/-- The view that a handler returns, with the attributes and messages it adds. -/
structure Page where
  view : String
  attributes : List (String × String)
deriving DecidableEq

/-! ### Public paths -/

/-- A pattern in which every character stands for itself. -/
def plain (pattern : String) : Bool := pattern.toList.all (fun c => c ∉ ['?','*','{'])

/-- A path matcher, of which it is documented that a pattern without wildcards
    matches itself. -/
structure PathMatcher where
  covers : String → String → Bool
  covers_plain : ∀ pattern, plain pattern = true → covers pattern pattern = true

/-- The property `app.security.public-paths`. -/
def publicPaths : List String :=
  ["/","/home","/login","/register","auth/login","auth/register","/favicon.ico","/images/**","/css/**","/js/**","/home",
    "/logout","/add_user","/delete_user","/view_users","/add_books","/book_master","/borrow/verify-user-id"]

def shouldNotFilter (matcher : PathMatcher) (request : HttpRequest) : Bool :=
  publicPaths.any (fun pattern => matcher.covers pattern request.requestURI)

theorem shouldNotFilter_listed (matcher : PathMatcher) {request : HttpRequest} (listed : request.requestURI ∈ publicPaths)
    (literal : plain request.requestURI = true) : shouldNotFilter matcher request = true :=
  List.any_eq_true.mpr ⟨_,listed,matcher.covers_plain _ literal⟩

/-- The segments of a path. -/
def segments (path : String) : List (List Char) := (path.toList.splitOn '/').filter (fun segment => segment ≠ [])

/-- Ant patterns as far as the public paths use them: equal segments, or any
    segments in the place of a last double asterisk. -/
def antCovers (pattern path : String) : Bool :=
  (path.toList.head? == some '/') == (pattern.toList.head? == some '/') &&
    if (segments pattern).getLast? = some ['*','*'] then (segments pattern).dropLast.isPrefixOf (segments path)
    else segments pattern == segments path && (path.toList.getLast? == some '/') == (pattern.toList.getLast? == some '/')

def antMatcher : PathMatcher where
  covers := antCovers
  covers_plain := by
    intro pattern _
    have start : (segments pattern).dropLast <+: segments pattern := List.dropLast_prefix _
    simp [antCovers,start]

/-! ### The filter -/

/-- The value of the first cookie named `token`, even if it is null, and else
    what follows `Bearer` in the Authorization header. -/
def extractToken (request : HttpRequest) : Option String :=
  match (request.cookies.getD []).find? (fun cookie => cookie.name == "token") with
  | some cookie => cookie.value
  | none =>
    match request.authorization with
    | none => none
    | some header =>
      if "Bearer ".toList.isPrefixOf header.toList then some (String.ofList (header.toList.drop 7)) else none

/-- The authentication after the filter. That the subject is stored is looked up
    and logged, but makes no difference. -/
def doFilterInternal (decodeToken : String → Option Claims) (request : HttpRequest) (current : Option Authentication) :
    Option Authentication :=
  match current with
  | some authentication => some authentication
  | none =>
    match extractToken request with
    | none => none
    | some token =>
      match decodeToken token with
      | none => none
      | some claims =>
        some
          { principal := claims.subject
            name := some (claims.subject.getD "")
            authorities := ["ROLE_" ++ shown claims.role] }

/-- The authentication with which a request reaches its handler. -/
def doFilter (matcher : PathMatcher) (decodeToken : String → Option Claims) (request : HttpRequest) :
    Option Authentication :=
  if shouldNotFilter matcher request then none else doFilterInternal decodeToken request none

/-- The filter installs an authentication only for a token that is accepted, and
    with what the token says. -/
theorem doFilterInternal_some {decodeToken : String → Option Claims} {request : HttpRequest} {auth : Authentication}
    (installed : doFilterInternal decodeToken request none = some auth) :
    ∃ token claims, extractToken request = some token ∧ decodeToken token = some claims ∧
      auth.principal = claims.subject ∧ auth.authorities = ["ROLE_" ++ shown claims.role] := by
  simp only [doFilterInternal] at installed
  split at installed
  · cases installed
  · split at installed
    · cases installed
    · cases installed
      exact ⟨_,_,by assumption,by assumption,rfl,rfl⟩

end LibraryServer.JwtFilter
