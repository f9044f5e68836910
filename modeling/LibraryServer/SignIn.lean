import LibraryServer.Accountability

/-!
Browsers that sign in. A browser keeps the cookies that it is sent and sends them back
until they expire, and the filter reads the token from them. Any number of browsers and
other clients use the server at once. Who a browser is for the server is then what its
last login has made it (`Badge`): no other client has an influence on it, it is over
with the logout, and otherwise after the life of the token, although the cookie lives
longer and the home page goes by the cookie.
-/
namespace LibraryServer.SignIn
open LibraryServer.Java LibraryServer.Runs LibraryServer.Entities LibraryServer.JwtFilter LibraryServer.Accounts
open LibraryServer.Authority LibraryServer.Controllers LibraryServer.Application LibraryServer.Accountability
set_option linter.unusedSimpArgs false

/-! ### Cookies in a browser -/

/-- A cookie with the moment at which it expires, if that is not the end of the
    browser's session. -/
structure StoredCookie where
  name : String
  value : Option String
  expires : Option Int
deriving DecidableEq

def StoredCookie.alive (now : Int) (cookie : StoredCookie) : Bool := cookie.expires.all (fun expires => now < expires)

/-- The cookies of a browser for the server, one for each name. -/
structure Jar where
  cookies : List StoredCookie
  distinct : (cookies.map StoredCookie.name).Nodup

def Jar.empty : Jar := ⟨[],List.nodup_nil⟩

/-- The cookies that satisfy a condition. -/
def Jar.only (jar : Jar) (keeps : StoredCookie → Bool) : Jar :=
  ⟨jar.cookies.filter keeps,jar.distinct.sublist (List.filter_sublist.map _)⟩

def Jar.without (jar : Jar) (name : String) : Jar := jar.only (fun cookie => cookie.name != name)

/-- A cookie replaces the one with its name. -/
def Jar.put (jar : Jar) (cookie : StoredCookie) : Jar :=
  ⟨cookie :: (jar.without cookie.name).cookies,by
    rw [List.map_cons,List.nodup_cons]
    refine ⟨?_,(jar.without cookie.name).distinct⟩
    simp [Jar.without,Jar.only]⟩

/-- What the browser does with a cookie in a response. -/
def Jar.receive (now : Int) (jar : Jar) (cookie : SetCookie) : Jar :=
  match cookie.maxAge with
  | none => jar.put ⟨cookie.name,cookie.value,none⟩
  | some seconds =>
    if 0 < seconds then jar.put ⟨cookie.name,cookie.value,some (now + 1000 * seconds)⟩ else jar.without cookie.name

/-- The cookies in a request. -/
def Jar.sent (now : Int) (jar : Jar) : List Cookie :=
  ((jar.only (StoredCookie.alive now)).cookies).map (fun cookie => ⟨cookie.name,cookie.value⟩)

def Jar.find (jar : Jar) (name : String) : Option StoredCookie := jar.cookies.find? (fun cookie => cookie.name == name)

theorem find_only (jar : Jar) (keeps : StoredCookie → Bool) (name : String) :
    (jar.only keeps).find name = (jar.find name).filter keeps := by
  obtain ⟨cookies,distinct⟩ := jar
  simp only [Jar.only,Jar.find]
  induction cookies with
  | nil => rfl
  | cons cookie rest ih =>
    rw [List.map_cons,List.nodup_cons] at distinct
    obtain ⟨fresh,distinct⟩ := distinct
    by_cases isName : cookie.name = name
    · -- No other cookie has the name, so nothing is found if this one is left out.
      have others : (rest.filter keeps).find? (fun cookie => cookie.name == name) = none := by
        refine List.find?_eq_none.mpr (fun other member => ?_)
        intro same
        refine fresh (List.mem_map.mpr ⟨other,(List.mem_filter.mp member).1,?_⟩)
        rw [isName]
        exact beq_iff_eq.mp same
      cases kept : keeps cookie <;> simp [List.filter_cons,Option.filter,kept,isName,others]
    · cases kept : keeps cookie <;> simp [List.filter_cons,kept,isName,ih distinct]

theorem find_without (jar : Jar) (name other : String) :
    (jar.without name).find other = if other = name then none else jar.find other := by
  rw [Jar.without,find_only]
  cases found : jar.find other with
  | none => simp
  | some cookie =>
    have named : cookie.name = other := by simpa using List.find?_some found
    by_cases same : other = name <;> simp [Option.filter,named,same]

theorem find_put (jar : Jar) (cookie : StoredCookie) (other : String) :
    (jar.put cookie).find other = if other = cookie.name then some cookie else jar.find other := by
  have later := find_without jar cookie.name other
  by_cases same : other = cookie.name
  · simp [Jar.put,Jar.find,same]
  · rw [if_neg same] at later ⊢
    rw [← later]
    simp [Jar.put,Jar.find,Ne.symm same]

/-- Only the cookie with the name of the one that is received changes. -/
theorem find_receive (now : Int) (jar : Jar) (cookie : SetCookie) (name : String) :
    (jar.receive now cookie).find name =
      if name = cookie.name then
        match cookie.maxAge with
        | none => some ⟨cookie.name,cookie.value,none⟩
        | some seconds => if 0 < seconds then some ⟨cookie.name,cookie.value,some (now + 1000 * seconds)⟩ else none
      else jar.find name := by
  unfold Jar.receive
  cases cookie.maxAge with
  | none => rw [find_put]
  | some seconds =>
    dsimp only
    split_ifs <;> simp_all [find_put,find_without]

/-- The cookie of a name that a request brings. -/
theorem find_sent (jar : Jar) (now : Int) (name : String) :
    (jar.sent now).find? (fun cookie => cookie.name == name) =
      ((jar.find name).filter (StoredCookie.alive now)).map (fun cookie => ⟨cookie.name,cookie.value⟩) := by
  rw [← find_only,Jar.find,Jar.sent,List.find?_map]
  rfl

/-! ### Browsers and the server -/

/-- A browser, with the attributes of the session that it has on the server. -/
structure Browser where
  jar : Jar
  session : Session

structure World where
  server : Server
  browsers : Nat → Browser

/-- What a browser asks for, and under which circumstances. -/
structure Visit where
  action : Action
  env : Env
  permitted : Bool

/-- The request that a browser sends. -/
def World.request (world : World) (n : Nat) (visit : Visit) : WebRequest where
  action := visit.action
  cookies := some ((world.browsers n).jar.sent world.server.now)
  authorization := none
  session := (world.browsers n).session
  env := visit.env
  permitted := visit.permitted

/-- What can happen: time goes by, a browser visits the site or is closed, or another
    client sends whatever it likes. -/
inductive Move where
  | tick (millis : Nat)
  | visit (n : Nat) (visit : Visit)
  | close (n : Nat)
  | foreign (request : WebRequest)

/-- One browser changes. -/
def World.update (world : World) (n : Nat) (browser : Browser) : World :=
  { world with browsers := fun m => if m = n then browser else world.browsers m }

section
variable (config : Config)

def move (world : World) : Move → World
  | .tick millis => { world with server := step config world.server (.tick millis) }
  | .visit n visit =>
    let outcome := serve config world.server (world.request n visit)
    { world.update n ⟨outcome.cookies.foldl (Jar.receive world.server.now) (world.browsers n).jar,outcome.session⟩ with
      server := outcome.server }
  | .close n => world.update n ⟨(world.browsers n).jar.only (fun cookie => cookie.expires.isSome),⟨none,none⟩⟩
  | .foreign request => { world with server := step config world.server (.request request) }

end

/-! ### Badges -/

/-- What a browser has to show: nothing, the placeholder of `set_cookie`, or the token
    of a login until its cookie expires. -/
inductive Badge where
  | nothing
  | placeholder
  | token (claims : Claims) (expires : Int)

/-- Who a browser with the badge is. -/
def Badge.grants (now : Int) : Badge → Option Authentication
  | .nothing => none
  | .placeholder => none
  | .token claims expires =>
    if now < expires ∧ now < claims.expiresAt then
      some ⟨claims.subject,some (claims.subject.getD ""),["ROLE_" ++ shown claims.role]⟩
    else none

/-- Whether the home page takes the browser for signed in. -/
def Badge.shows (now : Int) : Badge → Bool
  | .nothing => false
  | .placeholder => true
  | .token _ expires => now < expires

/-- A placeholder goes with the browser's session. -/
def Badge.closed : Badge → Badge
  | .placeholder => .nothing
  | badge => badge

section
variable (config : Config)

/-- The badge after a request that is handled. -/
def Badge.after (server : Server) (badge : Badge) : Action → Badge
  | .login username password =>
    match loginUser config.encoder server.now config.lifetime username password server.db.users with
    | .ok claims => .token claims (server.now + 24 * 60 * 60 * 1000)
    | .error _ => badge
  | .logout => .nothing
  | .setCookie => .placeholder
  | _ => badge

/-- The badges of all browsers after a move. -/
def wear (world : World) (badges : Nat → Badge) : Move → Nat → Badge
  | .tick _ => badges
  | .visit n visit => fun m =>
    if m = n ∧ handled config world.server (world.request n visit) then (badges m).after config world.server visit.action
    else badges m
  | .close n => fun m => if m = n then (badges m).closed else badges m
  | .foreign _ => badges

/-- The world together with the badges. -/
def proceed (state : World × (Nat → Badge)) (m : Move) : World × (Nat → Badge) :=
  (move config state.1 m,wear config state.1 state.2 m)

/-- The cookie that belongs to a badge. -/
def Badge.cookie : Badge → Option StoredCookie
  | .nothing => none
  | .placeholder => some ⟨"token",some "yourGeneratedTokenHere",none⟩
  | .token claims expires => some ⟨"token",some (config.jwt.sign claims),some expires⟩

/-- Every browser has the cookie of its badge, and the server has signed the token. -/
structure Worn (state : World × (Nat → Badge)) : Prop where
  cookies : ∀ n, (state.1.browsers n).jar.find "token" = (state.2 n).cookie config
  signed : ∀ n claims expires, state.2 n = .token claims expires → claims ∈ state.1.server.issued

theorem perform_cookies (request : WebRequest) (authentication : Option Authentication) (server : Server) (jar : Jar)
    {badge : Badge} (worn : jar.find "token" = badge.cookie config) :
    ((perform config request authentication server).cookies.foldl (Jar.receive server.now) jar).find "token" =
      (badge.after config server request.action).cookie config := by
  obtain ⟨action,cookies,authorization,session,env,permitted⟩ := request
  cases action with
  | login username password =>
    simp only [perform,AuthController.login,Badge.after]
    cases loginUser config.encoder server.now config.lifetime username password server.db.users with
    | error e => exact worn
    | ok claims =>
      simp only [List.foldl_cons,List.foldl_nil,tokenCookie,find_receive,if_true]
      rfl
  | logout =>
    simp only [perform,clearedCookies,List.foldl_cons,List.foldl_nil,find_receive]
    rfl
  | setCookie =>
    simp only [perform,SetCookieController.setCookie,List.foldl_cons,List.foldl_nil,find_receive,if_true]
    rfl
  | _ => exact worn

/-- The cookies in the answer to a request change the token cookie of the browser as the
    request changes its badge. -/
theorem serve_cookies (server : Server) (request : WebRequest) (jar : Jar) (badge : Badge)
    (worn : jar.find "token" = badge.cookie config) :
    ((serve config server request).cookies.foldl (Jar.receive server.now) jar).find "token" =
      (if handled config server request then badge.after config server request.action else badge).cookie config := by
  simp only [serve]
  cases isHandled : handled config server request with
  | true => exact perform_cookies config request _ server jar worn
  | false =>
    simp only [Bool.false_eq_true,if_false]
    split_ifs <;> exact worn

theorem serve_signed {server : Server} {request : WebRequest} {claims : Claims} (signed : claims ∈ server.issued) :
    claims ∈ (serve config server request).server.issued := by
  rw [serve_server]
  split_ifs
  · rcases perform_issued config request (authenticate config server request) server with same | ⟨_,_,_,_,_,_,more⟩
    · rw [same]
      exact signed
    · rw [more]
      exact List.mem_cons_of_mem _ signed
  · exact signed

end

section
variable (config : Config)

theorem perform_login {request : WebRequest} {username password : Option String} {server : Server} {claims : Claims}
    (isLogin : request.action = .login username password)
    (returned : loginUser config.encoder server.now config.lifetime username password server.db.users = .ok claims)
    (authentication : Option Authentication) : claims ∈ (perform config request authentication server).server.issued := by
  obtain ⟨action,cookies,authorization,session,env,permitted⟩ := request
  cases isLogin
  simp [perform,AuthController.login,returned]

/-- The token of a badge is an old one, or the server has just signed it. -/
theorem after_signed {server : Server} (request : WebRequest) {badge : Badge} {claims : Claims} {expires : Int}
    (isHandled : handled config server request = true)
    (token : badge.after config server request.action = .token claims expires) :
    badge = .token claims expires ∨ claims ∈ (serve config server request).server.issued := by
  rw [serve_server,if_pos isHandled]
  cases action : request.action with
  | login username password =>
    rw [action,Badge.after] at token
    cases returned : loginUser config.encoder server.now config.lifetime username password server.db.users with
    | error e =>
      rw [returned] at token
      exact .inl token
    | ok signed =>
      rw [returned] at token
      cases token
      exact .inr (perform_login config action returned _)
  | logout =>
    rw [action] at token
    cases token
  | setCookie =>
    rw [action] at token
    cases token
  | _ =>
    rw [action] at token
    exact .inl token

theorem proceed_worn (state : World × (Nat → Badge)) (m : Move) (worn : Worn config state) :
    Worn config (proceed config state m) := by
  obtain ⟨world,badges⟩ := state
  obtain ⟨cookies,signed⟩ := worn
  cases m with
  | tick millis => exact ⟨cookies,signed⟩
  | foreign request => exact ⟨cookies,fun n claims expires token => serve_signed config (signed n claims expires token)⟩
  | close n =>
    refine ⟨fun k => ?_,fun k claims expires token => ?_⟩
    · by_cases own : k = n
      · subst own
        simp only [proceed,move,wear,World.update,if_true,find_only,cookies]
        cases badges k <;> rfl
      · simp only [proceed,move,wear,World.update,if_neg own,cookies]
    · refine signed k claims expires ?_
      simp only [proceed,wear] at token
      split_ifs at token
      · cases isBadge : badges k <;> rw [isBadge] at token <;> cases token
        exact isBadge
      · exact token
  | visit n visit =>
    refine ⟨fun k => ?_,fun k claims expires token => ?_⟩
    · by_cases own : k = n
      · subst own
        have received := serve_cookies config world.server (world.request k visit) _ _ (cookies k)
        simp only [proceed,move,wear,World.update,if_true,true_and]
        exact received
      · simp only [proceed,move,wear,World.update,own,if_false,false_and,cookies]
    · simp only [proceed,wear] at token
      split_ifs at token with own
      · rcases after_signed config (world.request n visit) own.2 token with old | new
        · exact serve_signed config (signed k claims expires old)
        · exact new
      · exact serve_signed config (signed k claims expires token)

/-! ### Who a browser is -/

theorem decodeToken_expired {jwt : Jwt} {site : Site} {claims : Claims} (expired : ¬ site.now < claims.expiresAt) :
    decodeToken jwt site (jwt.sign claims) = none := by
  refine List.find?_eq_none.mpr (fun other _ => ?_)
  simp only [Bool.and_eq_true,beq_iff_eq,decide_eq_true_eq,not_and]
  intro same
  rw [jwt.sign_inj _ _ same]
  exact expired

theorem decodeToken_unsigned {jwt : Jwt} {token : String} (unsigned : ∀ claims, jwt.sign claims ≠ token) (site : Site) :
    decodeToken jwt site token = none :=
  List.find?_eq_none.mpr (fun other _ => by simp [unsigned other])

/-- The filter takes a browser for what its badge says. -/
theorem doFilterInternal_badge (unsigned : ∀ claims, config.jwt.sign claims ≠ "yourGeneratedTokenHere")
    {state : World × (Nat → Badge)} (worn : Worn config state) (n : Nat) (visit : Visit) :
    doFilterInternal (decodeToken config.jwt state.1.server.toSite) (state.1.request n visit).http none =
      (state.2 n).grants state.1.server.now := by
  have brought : extractToken (state.1.request n visit).http =
      (((state.2 n).cookie config).filter (StoredCookie.alive state.1.server.now)).bind StoredCookie.value := by
    rw [← worn.cookies n]
    simp only [extractToken,WebRequest.http,World.request,Option.getD_some,find_sent]
    cases ((state.1.browsers n).jar.find "token").filter (StoredCookie.alive state.1.server.now) <;> rfl
  have signed := worn.signed n
  simp only [doFilterInternal,brought]
  cases isBadge : state.2 n with
  | nothing => rfl
  | placeholder => simp [Badge.cookie,Option.filter,StoredCookie.alive,decodeToken_unsigned unsigned,Badge.grants]
  | token claims expires =>
    by_cases kept : state.1.server.now < expires
    · by_cases live : state.1.server.now < claims.expiresAt
      · simp [Badge.cookie,Option.filter,StoredCookie.alive,kept,Badge.grants,live,
          decodeToken_signed config.jwt (signed claims expires isBadge) live]
      · simp [Badge.cookie,Option.filter,StoredCookie.alive,kept,Badge.grants,live,decodeToken_expired live]
    · simp [Badge.cookie,Option.filter,StoredCookie.alive,kept,Badge.grants]

/-- The home page takes a browser for signed in as long as it has the cookie. -/
theorem home_badge {state : World × (Nat → Badge)} (worn : Worn config state) (n : Nat) (visit : Visit) :
    HomeController.home (state.1.request n visit).http = (state.2 n).shows state.1.server.now := by
  have brought := find_sent (state.1.browsers n).jar state.1.server.now "token"
  rw [worn.cookies n] at brought
  have present : HomeController.home (state.1.request n visit).http =
      (((state.1.browsers n).jar.sent state.1.server.now).find? (fun cookie => cookie.name == "token")).isSome := by
    rw [Bool.eq_iff_iff,List.find?_isSome]
    exact List.any_eq_true
  rw [present,brought]
  cases state.2 n with
  | nothing => rfl
  | placeholder => rfl
  | token claims expires =>
    by_cases kept : state.1.server.now < expires <;>
      simp [Badge.cookie,Option.filter,StoredCookie.alive,kept,Badge.shows]

theorem fresh_worn {world : World} (fresh : ∀ n, (world.browsers n).jar = Jar.empty) :
    Worn config (world,fun _ => .nothing) := by
  refine ⟨fun n => ?_,fun n claims expires token => by cases token⟩
  rw [fresh n]
  rfl

/-- Whatever browsers and other clients do, at every moment a browser is for the server
    what its badge says, on the paths where the filter looks for a token; and the home page
    shows it as signed in for the life of the cookie. -/
theorem browsers_are_their_badges (unsigned : ∀ claims, config.jwt.sign claims ≠ "yourGeneratedTokenHere") {world : World}
    (fresh : ∀ n, (world.browsers n).jar = Jar.empty) (moves : List Move) :
    Always (proceed config)
      (fun state => ∀ n visit,
        authenticate config state.1.server (state.1.request n visit) =
            (if shouldNotFilter antMatcher (state.1.request n visit).http then none
              else (state.2 n).grants state.1.server.now) ∧
          HomeController.home (state.1.request n visit).http = (state.2 n).shows state.1.server.now)
      (world,fun _ => .nothing) moves := by
  refine always_imp (fun state worn n visit => ⟨?_,home_badge config worn n visit⟩)
    (always_kept (proceed_worn config) (fresh_worn config fresh) moves)
  rw [authenticate,doFilter,doFilterInternal_badge config unsigned worn n visit]

/-- The move is a login of the browser that succeeds. -/
def signsIn (n : Nat) (world : World) : Move → Bool
  | .visit k visit =>
    k == n && handled config world.server (world.request k visit) &&
      match visit.action with
      | .login username password =>
        (loginUser config.encoder world.server.now config.lifetime username password world.server.db.users).toBool
      | _ => false
  | _ => false

theorem noToken_kept {n : Nat} {m : Move} {state : World × (Nat → Badge)} (remains : signsIn config n state.1 m = false)
    (noToken : ∀ claims expires, state.2 n ≠ .token claims expires) (claims : Claims) (expires : Int) :
    (proceed config state m).2 n ≠ .token claims expires := by
  intro token
  cases m with
  | tick millis => exact noToken claims expires token
  | foreign request => exact noToken claims expires token
  | close k =>
    simp only [proceed,wear] at token
    split_ifs at token
    · cases isBadge : state.2 n with
      | token claims' expires' => exact noToken claims' expires' isBadge
      | nothing =>
        rw [isBadge] at token
        cases token
      | placeholder =>
        rw [isBadge] at token
        cases token
    · exact noToken claims expires token
  | visit k visit =>
    simp only [proceed,wear] at token
    split_ifs at token with own
    · obtain ⟨rfl,isHandled⟩ := own
      cases action : visit.action with
      | login username password =>
        simp only [signsIn,action,isHandled,beq_self_eq_true,Bool.and_self,Bool.true_and] at remains
        rw [action,Badge.after] at token
        cases returned : loginUser config.encoder state.1.server.now config.lifetime username password
            state.1.server.db.users with
        | ok claims' =>
          rw [returned] at remains
          cases remains
        | error e =>
          rw [returned] at token
          exact noToken claims expires token
      | logout =>
        rw [action] at token
        cases token
      | setCookie =>
        rw [action] at token
        cases token
      | _ =>
        rw [action] at token
        exact noToken claims expires token
    · exact noToken claims expires token

theorem noToken_run {n : Nat} {moves : List Move} {state : World × (Nat → Badge)}
    (remains : Throughout (move config) (fun world m => signsIn config n world m = false) state.1 moves)
    (noToken : ∀ claims expires, state.2 n ≠ .token claims expires) :
    ∀ claims expires, (moves.foldl (proceed config) state).2 n ≠ .token claims expires := by
  induction moves generalizing state with
  | nil => exact noToken
  | cons m rest ih =>
    refine ih ?_ (noToken_kept config remains.1 noToken)
    exact remains.2

theorem run_world (moves : List Move) (state : World × (Nat → Badge)) :
    (moves.foldl (proceed config) state).1 = moves.foldl (move config) state.1 := by
  induction moves generalizing state with
  | nil => rfl
  | cons m rest ih => exact ih (proceed config state m)

theorem logout_handled {server : Server} {request : WebRequest} (isLogout : request.action = .logout) :
    handled config server request = true := by
  have admitted : ∀ authentication, admits config.slash authentication "/logout" = true := by
    intro authentication
    have isPublic : isPublic config.slash "/logout" = true := by
      cases config.slash <;> decide +kernel
    simp [admits,isPublic]
  rw [handled,isLogout,Action.path,admitted]
  simp [show RateLimit.shouldRateLimit "/logout" = false by decide]

theorem logout_badge (state : World × (Nat → Badge)) (n : Nat) (env : Env) (permitted : Bool) :
    (proceed config state (.visit n ⟨.logout,env,permitted⟩)).2 n = .nothing :=
  if_pos ⟨rfl,logout_handled config rfl⟩

/-- After its logout a browser is nobody until a login of its own succeeds, whatever else
    it does and others do. -/
theorem logout_lasts (unsigned : ∀ claims, config.jwt.sign claims ≠ "yourGeneratedTokenHere") {world : World}
    (fresh : ∀ n, (world.browsers n).jar = Jar.empty) (n : Nat) (before after : List Move) (env : Env) (permitted : Bool)
    (remains : Throughout (move config) (fun world m => signsIn config n world m = false)
      (move config (before.foldl (move config) world) (.visit n ⟨.logout,env,permitted⟩)) after) (visit : Visit) :
    authenticate config ((before ++ .visit n ⟨.logout,env,permitted⟩ :: after).foldl (move config) world).server
      (((before ++ .visit n ⟨.logout,env,permitted⟩ :: after).foldl (move config) world).request n visit) = none := by
  have worn := run_kept (proceed_worn config) (fresh_worn config fresh) (before ++ .visit n ⟨.logout,env,permitted⟩ :: after)
  have isWorld := run_world config (before ++ .visit n ⟨.logout,env,permitted⟩ :: after) (world,fun _ => .nothing)
  have noToken : ∀ claims expires,
      ((before ++ .visit n ⟨.logout,env,permitted⟩ :: after).foldl (proceed config) (world,fun _ => .nothing)).2 n ≠
        .token claims expires := by
    rw [List.foldl_append,List.foldl_cons]
    refine noToken_run config ?_ (fun claims expires token => ?_)
    · rw [proceed,run_world]
      exact remains
    · rw [logout_badge] at token
      cases token
  rw [← isWorld]
  generalize (before ++ .visit n ⟨.logout,env,permitted⟩ :: after).foldl (proceed config) (world,fun _ => .nothing) = last
    at worn noToken
  rw [authenticate,doFilter,doFilterInternal_badge config unsigned worn n visit]
  split_ifs
  · rfl
  · cases isBadge : last.2 n with
    | nothing => rfl
    | placeholder => rfl
    | token claims expires => exact absurd isBadge (noToken claims expires)

end

/-! ### Two browsers -/

/-- A token that writes the claims out has a sign in it, the placeholder has none. -/
theorem plainJwt_unsigned (claims : Claims) : plainJwt.sign claims ≠ "yourGeneratedTokenHere" := by
  intro same
  have characters := congrArg String.toList same
  have sign : (if claims.expiresAt < 0 then '-' else '+') ∈ (plainJwt.sign claims).toList := by simp [plainJwt]
  rw [characters] at sign
  split_ifs at sign <;> exact absurd sign (by decide)

/-- Browsers without cookies, and a server with an administrator. -/
def freshWorld : World := ⟨rootServer,fun _ => ⟨Jar.empty,⟨none,none⟩⟩⟩

/-- The administrator signs in with one browser and out with the other. -/
def twoBrowsers : List Move :=
  [.visit 0 ⟨.login (some "root") (some "secret"),Confinement.sampleEnv,true⟩,.visit 1 ⟨.logout,Confinement.sampleEnv,true⟩]

theorem browsers_are_their_badges_two :
    Always (proceed plainConfig)
      (fun state => ∀ n visit,
        authenticate plainConfig state.1.server (state.1.request n visit) =
            (if shouldNotFilter antMatcher (state.1.request n visit).http then none
              else (state.2 n).grants state.1.server.now) ∧
          HomeController.home (state.1.request n visit).http = (state.2 n).shows state.1.server.now)
      (freshWorld,fun _ => .nothing) twoBrowsers :=
  browsers_are_their_badges plainConfig plainJwt_unsigned (fun _ => rfl) twoBrowsers

/-- Afterwards the first browser mistakes its password, while the other one signs in. -/
def afterwards : List Move :=
  [.visit 0 ⟨.login (some "root") (some "mistaken"),Confinement.sampleEnv,true⟩,.tick 60000,
    .visit 1 ⟨.login (some "root") (some "secret"),Confinement.sampleEnv,true⟩,
    .visit 0 ⟨.setCookie,Confinement.sampleEnv,true⟩,.close 0]

/-- The first browser has signed out as well and asks for the library page. -/
theorem logout_lasts_two :
    authenticate plainConfig
        ((twoBrowsers ++ Move.visit 0 ⟨.logout,Confinement.sampleEnv,true⟩ :: afterwards).foldl (move plainConfig)
          freshWorld).server
        (((twoBrowsers ++ Move.visit 0 ⟨.logout,Confinement.sampleEnv,true⟩ :: afterwards).foldl (move plainConfig)
          freshWorld).request 0 ⟨.getLibraryPage,Confinement.sampleEnv,true⟩) = none :=
  logout_lasts plainConfig plainJwt_unsigned (fun _ => rfl) 0 twoBrowsers afterwards Confinement.sampleEnv true
    (by decide +kernel) _

end LibraryServer.SignIn
