import LibraryServer.Authority
import LibraryServer.BookMaster
import LibraryServer.Changes
import LibraryServer.PageForms
import LibraryServer.RateLimit

/-!
The application: the server with its database, its tokens, its clock and its image
folder, and all requests that it handles. A request passes the token filter, the rules
of `SecurityConfig` and the rate limit before its handler is called. Time goes by
between the requests, and nothing else happens. What every request does to the database
is one of the changes of `Changes`, whatever is sent, so that their invariants hold in
every state that the server reaches.
-/
namespace LibraryServer.Application
open LibraryServer.Java LibraryServer.Tables LibraryServer.Programs LibraryServer.Runs LibraryServer.Entities
open LibraryServer.Repositories LibraryServer.LendingServices LibraryServer.LendingInvariant LibraryServer.JwtFilter
open LibraryServer.Accounts LibraryServer.Authority LibraryServer.Catalogue LibraryServer.BookMaster
open LibraryServer.Controllers LibraryServer.PageForms LibraryServer.Changes
set_option linter.unusedSimpArgs false

/-! ### Requests -/

/-- The requests and their parameters; `salt` is what the password encoder draws. -/
inductive Action where
  | home
  | logout
  | setCookie
  | login (username password : Option String)
  | handleRegistration (salt : Nat) (form : UserForm)
  | handleAddUser (salt : Nat) (bindingErrors : Bool) (form : UserForm)
  | viewUsersRoster
  | showDeleteUserPage
  | handleDeleteUser (userId : Id)
  | viewProfile
  | updateProfile (form : ProfileForm)
  | handleAddBook (disk : Disk) (form : BookForm) (image : Upload)
  | handleExcelUpload (file : ExcelUpload)
  | bookMaster
  | viewBooks (search : Option String)
  | deleteBooks (bookIds : List (Option Id))
  | getBorrowPage (search : Option String) (userId : Option Id) (selectedBookIds verify : Option String)
  | borrowBooks (bookIds : Option (List (Option Id))) (userId : Option Id)
  | verifyUserId (userId : Id)
  | showReturnPage (userId : Option Id)
  | returnBooks (bookIds : Option (List (Option Id))) (bookIdsAndUserIds : Option (List String))
  | viewBorrowedBooks (search : Option String)
  | getDashboardView
  | getLibraryPage

/-- The path that is mapped to the handler. -/
def Action.path : Action → String
  | .home => "/"
  | .logout => "/logout"
  | .setCookie => "/api/set_cookie"
  | .login _ _ => "/auth/login"
  | .handleRegistration _ _ => "/register"
  | .handleAddUser _ _ _ => "/add_user"
  | .viewUsersRoster => "/view_users"
  | .showDeleteUserPage => "/delete_user"
  | .handleDeleteUser _ => "/delete_user"
  | .viewProfile => "/profile"
  | .updateProfile _ => "/update_profile"
  | .handleAddBook _ _ _ => "/add_books"
  | .handleExcelUpload _ => "/upload_books_excel"
  | .bookMaster => "/book_master"
  | .viewBooks _ => "/view_books"
  | .deleteBooks _ => "/delete_books"
  | .getBorrowPage _ _ _ _ => "/borrow"
  | .borrowBooks _ _ => "/borrow"
  | .verifyUserId _ => "/borrow/verify-user-id"
  | .showReturnPage _ => "/return_books"
  | .returnBooks _ _ => "/return_books"
  | .viewBorrowedBooks _ => "/view_borrowed_books"
  | .getDashboardView => "/dashboard"
  | .getLibraryPage => "/library"

/-- A request with its headers, the session it belongs to, what its handler reads
    outside the database, and whether the rate limiter would let it pass. -/
structure WebRequest where
  action : Action
  cookies : Option (List Cookie)
  authorization : Option String
  session : Session
  env : Env
  permitted : Bool

def WebRequest.http (request : WebRequest) : HttpRequest :=
  ⟨request.action.path,request.cookies,request.authorization⟩

/-! ### Who is let in -/

/-- Whether the rules complete a pattern that does not begin with a slash, which the
    versions of the framework do not agree on. -/
inductive LeadingSlash where
  | asWritten
  | added
deriving DecidableEq

def LeadingSlash.pattern : LeadingSlash → String → String
  | .asWritten, pattern => pattern
  | .added, pattern => if pattern.toList.head? = some '/' then pattern else "/" ++ pattern

def isPublic (slash : LeadingSlash) (path : String) : Bool :=
  publicPaths.any (fun pattern => antCovers (slash.pattern pattern) path)

/-- `authorizeHttpRequests`; the first rule that covers the path decides. -/
def admits (slash : LeadingSlash) (authentication : Option Authentication) (path : String) : Bool :=
  if antCovers "/register" path then true
  else if isPublic slash path then true
  else if antCovers "/admin/**" path then authentication.any (fun auth => "ROLE_ADMIN" ∈ auth.authorities)
  else authentication.isSome

/-! ### The server -/

/-- Which of the two bodies of `DeleteUserController` is compiled. -/
inductive DeleteUserBody where
  | first
  | second
deriving DecidableEq

structure Config where
  encoder : PasswordEncoder
  missing : OnMissing
  jwt : Jwt
  lifetime : Int
  slash : LeadingSlash
  body : DeleteUserBody

structure Server extends Site where
  folder : Folder

/-- A cookie that a response sets; `maxAge` is in seconds, and without it the cookie
    lives as long as the browser. -/
structure SetCookie where
  name : String
  value : Option String
  maxAge : Option Int
deriving DecidableEq

inductive Reply where
  | unauthorized
  | accessDenied
  | tooManyRequests
  | thrown (e : Exc)
  | message (text : String)
  | page (page : Page)
  | messages (page : MessagePage)
  | home (loggedIn : Bool)
  | profile (user : Id × User)
  | users (view : String) (users : List (Id × User))
  | master (books : List Book)
  | books (page : ViewBooksPage)
  | borrow (page : BorrowPage)
  | verified (stored : Bool)
  | returns (page : ReturnPage)
  | loans (page : ViewPage)
  | dashboard (page : DashboardPage)
  | library (page : LibraryPage)

/-- The reply with what a handler returns or throws. -/
def Reply.ofExcept {α : Type} (reply : α → Reply) : Except Exc α → Reply
  | .ok a => reply a
  | .error e => .thrown e

/-- What a request leads to. -/
structure Outcome where
  reply : Reply
  cookies : List SetCookie
  session : Session
  server : Server

def redirect (path : String) : Reply := .page ⟨"redirect:" ++ path,[]⟩

/-! ### The handlers -/

/-- `logged_in` of the home page. -/
def HomeController.home (request : HttpRequest) : Bool :=
  (request.cookies.getD []).any (fun cookie => cookie.name == "token")

/-- POST /register. -/
def AuthController.handleRegistration (config : Config) (salt : Nat) (form : UserForm) (db : Db) : Page × Db :=
  match registerUser config.encoder config.missing salt form db with
  | (.error e,after) => (⟨"redirect:/register",[("errorMessage","Registration failed: " ++ e.message)]⟩,after)
  | (.ok _,after) => (⟨"redirect:/login",[("successMessage","Registration successful!")]⟩,after)

/-- The cookie of a login, for one day. -/
def tokenCookie (token : String) : SetCookie := ⟨"token",some token,some (24 * 60 * 60)⟩

/-- POST /auth/login, with the claims that it signs. -/
def AuthController.login (config : Config) (username password : Option String) (site : Site) :
    Page × List SetCookie × Option Claims :=
  match loginUser config.encoder site.now config.lifetime username password site.db.users with
  | .error e => (⟨"redirect:/login",[("errorMessage","Login failed: " ++ e.message)]⟩,[],none)
  | .ok claims =>
    (⟨"redirect:/dashboard",[("successMessage","Login successful!")]⟩,[tokenCookie (config.jwt.sign claims)],some claims)

/-- The cookies that a logout deletes. -/
def clearedCookies : List SetCookie :=
  [⟨"JSESSIONID",none,some 0⟩,⟨"token",none,some 0⟩,⟨"universal_token",none,some 0⟩]

/-- GET /api/set_cookie. -/
def SetCookieController.setCookie : String × List SetCookie :=
  ("Cookie set successfully",[⟨"token",some "yourGeneratedTokenHere",none⟩])

/-- GET /profile; no user is a redirection to the login. -/
def ProfileController.viewProfile (authentication : Option Authentication) (db : Db) : Except Exc (Option (Id × User)) :=
  match usernameOf authentication with
  | none => .ok none
  | some username =>
    match findByUsername db.users (some username) with
    | .error e => .error e
    | .ok none => .error (.runtimeException ("User not found with username: " ++ username))
    | .ok (some user) => .ok (some user)

/-- GET /view_users. No method security is enabled, so `@Secured` checks nothing. -/
def ViewUsersController.viewUsersRoster (db : Db) : List (Id × User) := db.users.rows

/-- GET /delete_user; the second body denies where the first does not. -/
def DeleteUserController.showDeleteUserPage (body : DeleteUserBody) (authentication : Option Authentication) (db : Db) :
    Except Exc Reply :=
  match Authority.isAdmin db.users authentication with
  | .error e => .error e
  | .ok admin =>
    if admin == (body == .second) then .ok (.page Authority.accessDenied)
    else .ok (.users "delete_user" db.users.rows)

/-- POST /delete_user. -/
def DeleteUserController.handleDeleteUser (body : DeleteUserBody) :
    Option Authentication → Id → Db → Except Exc Page × Db :=
  match body with
  | .first => handleDeleteUserFirst
  | .second => handleDeleteUserSecond

section
variable (config : Config)

/-- The handler of a request. -/
def perform (request : WebRequest) (authentication : Option Authentication) (server : Server) : Outcome :=
  let reads := fun reply => (⟨reply,[],request.session,server⟩ : Outcome)
  let writes := fun reply (db : Db) => (⟨reply,[],request.session,{ server with db := db }⟩ : Outcome)
  match request.action with
  | .home => reads (.home (HomeController.home request.http))
  -- The framework's own filter handles the logout.
  | .logout => { reads (redirect "/login?logout=true") with cookies := clearedCookies, session := ⟨none,none⟩ }
  | .setCookie =>
    let (text,cookies) := SetCookieController.setCookie
    { reads (.message text) with cookies := cookies }
  | .login username password =>
    let (page,cookies,claims) := AuthController.login config username password server.toSite
    { reads (.page page) with
      cookies := cookies
      server := { server with issued := claims.toList ++ server.issued } }
  | .handleRegistration salt form =>
    let (page,db) := AuthController.handleRegistration config salt form server.db
    writes (.page page) db
  | .handleAddUser salt bindingErrors form =>
    let (page,db) := handleAddUser config.encoder config.missing salt bindingErrors form server.db
    writes (.page page) db
  | .viewUsersRoster => reads (.users "users_roster" (ViewUsersController.viewUsersRoster server.db))
  | .showDeleteUserPage =>
    reads (.ofExcept id (DeleteUserController.showDeleteUserPage config.body authentication server.db))
  | .handleDeleteUser userId =>
    let (page,db) := DeleteUserController.handleDeleteUser config.body authentication userId server.db
    writes (.ofExcept .page page) db
  | .viewProfile =>
    reads (.ofExcept (fun user => (user.map Reply.profile).getD (redirect "/login"))
      (ProfileController.viewProfile authentication server.db))
  | .updateProfile form =>
    let (page,db) := updateProfile authentication form server.db
    writes (.ofExcept .page page) db
  | .handleAddBook disk form image =>
    let (page,folder,db) := handleAddBook config.missing disk form image server.folder server.db
    ⟨.messages page,[],request.session,{ server with db := db, folder := folder }⟩
  | .handleExcelUpload file =>
    let (page,db) := handleExcelUpload file server.db
    writes (.messages page) db
  | .bookMaster => reads (.master (getBooksMaster server.db))
  | .viewBooks search => reads (.books (BookController.viewBooks request.env authentication search server.db))
  | .deleteBooks bookIds =>
    let (page,db) := BookController.deleteBooks bookIds server.db
    writes (.messages page) db
  | .getBorrowPage search userId selectedBookIds verify =>
    let (page,session) := BorrowedBooksController.getBorrowPage request.env authentication search userId selectedBookIds verify
      request.session server.db
    { reads (.ofExcept (fun page => (page.map Reply.borrow).getD (redirect "/login")) page) with session := session }
  | .borrowBooks bookIds userId =>
    let (page,session,db) := BorrowedBooksController.borrowBooks request.env bookIds userId authentication request.session
      server.db
    { writes (.ofExcept (fun page => (page.map Reply.borrow).getD (redirect "/login")) page) db with session := session }
  | .verifyUserId userId => reads (.verified (existsById server.db.users userId))
  | .showReturnPage userId =>
    reads (.ofExcept .returns (ReturnBooksController.showReturnPage authentication userId server.db))
  | .returnBooks bookIds bookIdsAndUserIds =>
    let (page,db) := ReturnBooksController.returnBooks bookIds bookIdsAndUserIds authentication server.db
    writes (.ofExcept .returns page) db
  | .viewBorrowedBooks search =>
    reads (.ofExcept .loans (ViewBorrowedBooksController.viewBorrowedBooks request.env authentication search server.db))
  | .getDashboardView =>
    reads (.ofExcept .dashboard (DashboardController.getDashboardView request.env authentication server.db))
  | .getLibraryPage => reads (.ofExcept .library (LibraryController.getLibraryPage request.env authentication server.db))

/-- The authentication with which a request gets to the rules. -/
def authenticate (server : Server) (request : WebRequest) : Option Authentication :=
  doFilter antMatcher (decodeToken config.jwt server.toSite) request.http

/-- Whether the handler of a request is called. -/
def handled (server : Server) (request : WebRequest) : Bool :=
  admits config.slash (authenticate config server request) request.action.path &&
    (request.permitted || !RateLimit.shouldRateLimit request.action.path)

/-- A request on its way through the filters. -/
def serve (server : Server) (request : WebRequest) : Outcome :=
  let authentication := authenticate config server request
  let refused := fun reply => (⟨reply,[],request.session,server⟩ : Outcome)
  if handled config server request then perform config request authentication server
  else if admits config.slash authentication request.action.path then refused .tooManyRequests
  else if authentication.isSome then refused .accessDenied
  else refused .unauthorized

inductive Event where
  | tick (millis : Nat)
  | request (request : WebRequest)

def step (server : Server) : Event → Server
  | .tick millis => { server with now := server.now + millis }
  | .request request => (serve config server request).server

end

/-! ### What a request does to the database -/

/-- Who is asking, as the handlers look it up. -/
def Requester (users : Table User) (authentication : Option Authentication) (k : Id) (requester : User) : Prop :=
  ∃ name, usernameOf authentication = some name ∧ findByUsername users (some name) = .ok (some (k,requester))

theorem isAdmin_found {users : Table User} {name : String} {k : Id} {requester : User}
    (found : findByUsername users (some name) = .ok (some (k,requester))) :
    Controllers.isAdmin users name = .ok true ↔ requester.role = some .ADMIN := by
  simp only [Controllers.isAdmin,found]
  cases requester.role with
  | none => simp [shown,equalsIgnoreCase]
  | some role => cases role <;> simp [shown,Role.name] <;> decide

theorem getUserIdByUsername_found {users : Table User} {name : String} {k : Id} (isId : getUserIdByUsername users name = .ok k) :
    ∃ requester, findByUsername users (some name) = .ok (some (k,requester)) := by
  unfold getUserIdByUsername at isId
  split at isId
  · cases isId
  · cases isId
  · rename_i requester found
    cases isId
    exact ⟨requester,found⟩

/-- A request to borrow changes nothing or calls the service, for the requester or, if
    the requester is an administrator, for anybody. -/
theorem borrowBooks_outcomes (env : Env) (bookIds : Option (List (Option Id))) (userId : Option Id)
    (authentication : Option Authentication) (session : Session) (db : Db) :
    (BorrowedBooksController.borrowBooks env bookIds userId authentication session db).2.2 = db ∨
      ∃ k requester u, Requester db.users authentication k requester ∧ (u = k ∨ requester.role = some .ADMIN) ∧
        (BorrowedBooksController.borrowBooks env bookIds userId authentication session db).2.2 =
          (transactional (borrowBooksForUser env.clock bookIds (some u)) db).2 := by
  unfold BorrowedBooksController.borrowBooks
  split
  · exact .inl rfl
  · rename_i name isName
    split
    · exact .inl rfl
    · exact .inl rfl
    · rename_i k isId isAdmin
      obtain ⟨requester,found⟩ := getUserIdByUsername_found isId
      generalize (if userId.isSome then { session with verifiedUserId := userId } else session) = session
      dsimp only
      cases verified : session.verifiedUserId.filter (existsById db.users) with
      | none => exact .inl rfl
      | some u =>
        rcases Confinement.borrowFor_db env bookIds name k u (some u) db with same | lent
        · exact .inl same
        · exact .inr ⟨k,requester,u,⟨name,isName,found⟩,.inr ((isAdmin_found found).mp isAdmin),lent⟩
    · rename_i k isId notAdmin
      obtain ⟨requester,found⟩ := getUserIdByUsername_found isId
      rcases Confinement.borrowFor_db env bookIds name k k none db with same | lent
      · exact .inl same
      · exact .inr ⟨k,requester,k,⟨name,isName,found⟩,.inl rfl,lent⟩

/-- A request to return calls the service in the name and the role of the requester. -/
theorem returnBooks_found {authentication : Option Authentication} {name : String}
    (isName : usernameOf authentication = some name) {db : Db} {k : Id} {requester : User}
    (found : findByUsername db.users (some name) = .ok (some (k,requester))) {role : Role} (isRole : requester.role = some role)
    (bookIds : Option (List (Option Id))) (bookIdsAndUserIds : Option (List String)) :
    (ReturnBooksController.returnBooks bookIds bookIdsAndUserIds authentication db).2 =
      (transactional (LendingServices.returnBooks (some (returnLists (some role) bookIds bookIdsAndUserIds).1)
        (returnLists (some role) bookIds bookIdsAndUserIds).2.1 (some k) (some role.name)) db).2 := by
  have isId : getUserIdByUsername db.users name = .ok k := by simp only [getUserIdByUsername,found]
  have hasRole : getUserRoleByUsername db.users name = .ok (some role) := by simp only [getUserRoleByUsername,found,isRole]
  simp only [ReturnBooksController.returnBooks,isName,isId,hasRole,roleName]
  split <;> simp_all

/-- Otherwise it changes nothing. -/
theorem returnBooks_outcomes (bookIds : Option (List (Option Id))) (bookIdsAndUserIds : Option (List String))
    (authentication : Option Authentication) (db : Db) :
    (ReturnBooksController.returnBooks bookIds bookIdsAndUserIds authentication db).2 = db ∨
      ∃ k requester role ids userIds, Requester db.users authentication k requester ∧ requester.role = some role ∧
        (ReturnBooksController.returnBooks bookIds bookIdsAndUserIds authentication db).2 =
          (transactional (LendingServices.returnBooks ids userIds (some k) (some role.name)) db).2 := by
  cases isName : usernameOf authentication with
  | none => exact .inl (by simp only [ReturnBooksController.returnBooks,isName])
  | some name =>
    cases isId : getUserIdByUsername db.users name with
    | error e => exact .inl (by simp only [ReturnBooksController.returnBooks,isName,isId])
    | ok k =>
      obtain ⟨requester,found⟩ := getUserIdByUsername_found isId
      cases isRole : requester.role with
      | none =>
        have noRole : getUserRoleByUsername db.users name = .ok none := by simp only [getUserRoleByUsername,found,isRole]
        exact .inl (by simp only [ReturnBooksController.returnBooks,isName,isId,noRole,roleName])
      | some role =>
        exact .inr ⟨k,requester,role,_,_,⟨name,isName,found⟩,isRole,returnBooks_found isName found isRole _ _⟩

theorem handleRegistration_db (config : Config) (salt : Nat) (form : UserForm) (db : Db) :
    (AuthController.handleRegistration config salt form db).2 =
      account config.encoder config.missing db (.registerUser salt form) := by
  rw [AuthController.handleRegistration,account]
  split <;> simp_all

theorem deleteSelected_db (userId : Id) (db : Db) :
    (deleteSelected userId db).2 = (transactional (deleteUser (some userId)) db).2 := by
  unfold deleteSelected
  split <;> simp_all

theorem handleDeleteUser_db (body : DeleteUserBody) (authentication : Option Authentication) (userId : Id) (db : Db) :
    (DeleteUserController.handleDeleteUser body authentication userId db).2 = db ∨
      (DeleteUserController.handleDeleteUser body authentication userId db).2 =
        (transactional (deleteUser (some userId)) db).2 := by
  rw [← deleteSelected_db]
  cases body with
  | first =>
    simp only [DeleteUserController.handleDeleteUser,handleDeleteUserFirst]
    split
    · exact .inl rfl
    · split_ifs
      · exact .inl rfl
      · exact .inr rfl
  | second =>
    simp only [DeleteUserController.handleDeleteUser,handleDeleteUserSecond]
    split
    · exact .inl rfl
    · split_ifs
      · exact .inl rfl
      · exact .inr rfl

theorem deleteBooks_db (bookIds : List (Option Id)) (db : Db) :
    (BookController.deleteBooks bookIds db).2 = (transactional (LendingServices.deleteBooks (some bookIds)) db).2 := by
  unfold BookController.deleteBooks
  split <;> simp_all

/-- The operations on accounts leave the books and the loans alone. -/
theorem account_frame (encoder : PasswordEncoder) (missing : OnMissing) (db : Db) (s : AccountStep) :
    account encoder missing db s = { db with users := (account encoder missing db s).users } := by
  cases s with
  | registerUser salt form =>
    rw [registerUser_db]
    cases stores encoder missing db (.registerUser salt form) <;> rfl
  | handleAddUser salt bindingErrors form =>
    rw [handleAddUser_db]
    cases stores encoder missing db (.handleAddUser salt bindingErrors form) <;> rfl
  | updateProfile authentication form =>
    rcases updateProfile_db authentication form db with same | ⟨_,_,_,_,_,_,_,_,_,_,_,_,changed⟩
    · rw [same]
    · rw [changed]
  | deleteUser id =>
    rcases deleteUser_db id db with same | ⟨k,_,erased⟩
    · rw [same]
    · rw [erased]

/-- The operation on the catalogue that a request asks for. -/
def saves (server : Server) : Action → Option CatalogueStep
  | .handleAddBook disk form image => some (.handleAddBook disk server.folder form image)
  | .handleExcelUpload file => some (.handleExcelUpload file)
  | _ => none

section
variable (config : Config)

/-- What a handler can write, and for whom: it saves books, changes an account, deletes
    the books that are named, or lends and takes back for the requester or, if that is an
    administrator, for others. -/
inductive Writes (authentication : Option Authentication) (server : Server) (action : Action) : Db → Prop
  | nothing : Writes authentication server action server.db
  | save {s : CatalogueStep} (asked : saves server action = some s) :
      Writes authentication server action (catalogue config.missing server.db s)
  | account (s : AccountStep) : Writes authentication server action (account config.encoder config.missing server.db s)
  | remove {bookIds : List (Option Id)} (asked : action = .deleteBooks bookIds) :
      Writes authentication server action (transactional (LendingServices.deleteBooks (some bookIds)) server.db).2
  | lend {k u : Id} {requester : User} (who : Requester server.db.users authentication k requester)
      (may : u = k ∨ requester.role = some .ADMIN) (clock : Nat → Int) (bookIds : Option (List (Option Id))) :
      Writes authentication server action (transactional (borrowBooksForUser clock bookIds (some u)) server.db).2
  | giveBack {k : Id} {requester : User} {role : Role} (who : Requester server.db.users authentication k requester)
      (isRole : requester.role = some role) (bookIds userIds : Option (List (Option Id))) :
      Writes authentication server action
        (transactional (LendingServices.returnBooks bookIds userIds (some k) (some role.name)) server.db).2

theorem perform_writes (request : WebRequest) (authentication : Option Authentication) (server : Server) :
    Writes config authentication server request.action (perform config request authentication server).server.db := by
  obtain ⟨action,cookies,authorization,session,env,permitted⟩ := request
  cases action with
  | handleRegistration salt form =>
    have written : Writes config authentication server (.handleRegistration salt form) _ := .account (.registerUser salt form)
    rw [← handleRegistration_db] at written
    exact written
  | handleAddUser salt bindingErrors form => exact .account (.handleAddUser salt bindingErrors form)
  | handleDeleteUser userId =>
    simp only [perform]
    rcases handleDeleteUser_db config.body authentication userId server.db with same | deleted
    · rw [same]
      exact .nothing
    · rw [deleted]
      exact .account (.deleteUser (some userId))
  | updateProfile form => exact .account (.updateProfile authentication form)
  | handleAddBook disk form image =>
    exact .save (s := .handleAddBook disk server.folder form image) rfl
  | handleExcelUpload file => exact .save (s := .handleExcelUpload file) rfl
  | deleteBooks bookIds =>
    simp only [perform,deleteBooks_db]
    exact .remove rfl
  | borrowBooks bookIds userId =>
    simp only [perform]
    rcases borrowBooks_outcomes env bookIds userId authentication session server.db with same | ⟨k,requester,u,who,may,lent⟩
    · rw [same]
      exact .nothing
    · rw [lent]
      exact .lend who may _ _
  | returnBooks bookIds pairs =>
    simp only [perform]
    rcases returnBooks_outcomes bookIds pairs authentication server.db with
      same | ⟨k,requester,role,ids,userIds,who,isRole,returned⟩
    · rw [same]
      exact .nothing
    · rw [returned]
      exact .giveBack who isRole _ _
  | _ => exact .nothing

theorem perform_saves (request : WebRequest) (authentication : Option Authentication) {server : Server} {s : CatalogueStep}
    (asked : saves server request.action = some s) :
    (perform config request authentication server).server.db = catalogue config.missing server.db s := by
  obtain ⟨action,cookies,authorization,session,env,permitted⟩ := request
  cases action <;> cases asked <;> rfl

theorem writes_reaches {authentication : Option Authentication} {server : Server} {action : Action} {db : Db}
    (writes : Writes config authentication server action db) (intact : Intact server.db) : Reaches server.db db := by
  cases writes with
  | nothing => exact .refl
  | save asked => exact catalogue_reaches config.missing server.db _
  | account s => exact account_reaches config.encoder config.missing server.db s
  | remove asked => exact transactional_reaches (deleteBooks_reaches _)
  | lend who may clock bookIds => exact transactional_reaches (borrowBooksForUser_reaches clock bookIds _)
  | giveBack who isRole bookIds userIds => exact transactional_reaches (returnBooks_reaches intact bookIds userIds _ _)

theorem serve_server (server : Server) (request : WebRequest) :
    (serve config server request).server =
      if handled config server request then (perform config request (authenticate config server request) server).server
      else server := by
  simp only [serve]
  split_ifs <;> rfl

/-- What a request writes. -/
theorem serve_writes (server : Server) (request : WebRequest) :
    Writes config (authenticate config server request) server request.action (serve config server request).server.db := by
  rw [serve_server]
  split_ifs
  · exact perform_writes config request _ server
  · exact .nothing

theorem step_reaches {server : Server} (intact : Intact server.db) (event : Event) :
    Reaches server.db (step config server event).db := by
  cases event with
  | tick millis => exact .refl
  | request request => exact writes_reaches config (serve_writes config server request) intact

theorem step_intact (server : Server) (event : Event) (intact : Intact server.db) : Intact (step config server event).db :=
  reaches_intact (step_reaches config intact event) intact

theorem run_reaches {server : Server} (intact : Intact server.db) (events : List Event) :
    Reaches server.db (events.foldl (step config) server).db := by
  induction events generalizing server with
  | nil => exact .refl
  | cons event rest ih => exact (step_reaches config intact event).trans (ih (step_intact config server event intact))

/-! ### Every state of the server -/

/-- Whatever is sent, in every state the loans refer to stored books and users, have a
    due date, and no book is with a user twice. -/
theorem loans_stay_intact {server : Server} (intact : Intact server.db) (events : List Event) :
    Always (step config) (fun server => Intact server.db) server events :=
  always_kept (step_intact config) intact events

end

def plainConfig : Config := ⟨markingEncoder,.refuse,plainJwt,60,.added,.first⟩

/-- A server on which there is an administrator and nothing else. -/
def rootServer : Server := ⟨⟨rootDb,[],0⟩,emptyFolder⟩

/-- A request without cookies. -/
def anonymously (action : Action) : Event := .request ⟨action,none,none,⟨none,none⟩,Confinement.sampleEnv,true⟩

/-- A book is added, the administrator signs in and borrows it. -/
def lendingDay : List Event :=
  [anonymously (.handleAddBook workingDisk (duneForm none 3) cover),.tick 5,
    anonymously (.login (some "root") (some "secret")),
    .request ⟨.borrowBooks (some [some 1]) (some 1),some [⟨"token",some (plainJwt.sign ⟨some "root",some "ADMIN",65⟩)⟩],
      none,⟨none,none⟩,Confinement.sampleEnv,true⟩]

example : (lendingDay.foldl (step plainConfig) rootServer).db.loansOf 1 = 1 := by decide +kernel

theorem loans_stay_intact_day : Always (step plainConfig) (fun server => Intact server.db) rootServer lendingDay :=
  loans_stay_intact plainConfig (intact_unlent rfl) lendingDay

section
variable (config : Config)

/-- Whatever is sent, no book ever shows more copies available than it has, and what is
    not available is lent. -/
theorem counters_stay_tallied {server : Server} (intact : Intact server.db) (tallied : Tallied server.db)
    (events : List Event) : Always (step config) (fun server => Tallied server.db) server events := by
  have both : Always (step config) (fun server => Intact server.db ∧ Tallied server.db) server events := by
    refine always_kept ?_ ⟨intact,tallied⟩ events
    rintro server event ⟨intact,tallied⟩
    have reaches := step_reaches config intact event
    exact ⟨reaches_intact reaches intact,reaches_tallied reaches tallied⟩
  exact always_imp (fun _ holds => holds.2) both

theorem counters_stay_tallied_day :
    Always (step plainConfig) (fun server => Tallied server.db) rootServer lendingDay :=
  counters_stay_tallied plainConfig (intact_unlent rfl) (fun _ _ absent => by cases absent) lendingDay

/-- Between any two moments of a run no key of a book, a user or a loan is used again,
    the loans that are still there are as they were, and the inventory is for the same
    books. -/
theorem later_states_succeed {server : Server} (intact : Intact server.db) (before between : List Event) :
    Succeeds (before.foldl (step config) server).db ((before ++ between).foldl (step config) server).db := by
  rw [List.foldl_append]
  have kept : Intact (before.foldl (step config) server).db :=
    run_kept (I := fun server : Server => Intact server.db) (step_intact config) intact before
  exact reaches_succeeds (run_reaches config kept between)

theorem later_states_succeed_day :
    Succeeds ((lendingDay.take 1).foldl (step plainConfig) rootServer).db
      ((lendingDay.take 1 ++ lendingDay.drop 1).foldl (step plainConfig) rootServer).db :=
  later_states_succeed plainConfig (intact_unlent rfl) _ _

/-! ### When the counters are right -/

/-- The books that a request gets to save have no negative number of copies and replace
    no book that is lent. -/
def SavesSoundly (server : Server) : Event → Prop
  | .tick _ => True
  | .request request =>
    handled config server request = true → ∀ s ∈ saves server request.action, SavesUnlent config.missing server.db s

/-- From a state in which the counters are right, a step leads to one exactly if it
    saves soundly. -/
theorem step_balanced_iff (server : Server) (event : Event) (intact : Intact server.db) (balanced : Balanced server.db) :
    Balanced (step config server event).db ↔ SavesSoundly config server event := by
  have conserved : Conserved server.db := ⟨intact.toRefers,intact.once,balanced⟩
  cases event with
  | tick millis => exact iff_of_true balanced trivial
  | request request =>
    cases asked : saves server request.action with
    | none =>
      refine iff_of_true ?_ (fun _ s isSome => by rw [asked] at isSome; cases isSome)
      have written := serve_writes config server request
      rw [step]
      generalize (serve config server request).server.db = after at written
      cases written with
      | nothing => exact balanced
      | save isAsked =>
        rw [asked] at isAsked
        cases isAsked
      | account s =>
        rw [account_frame]
        exact balanced
      | remove => exact (serve_conserved conserved (.deleteBooks _)).balanced
      | lend who may clock bookIds => exact (serve_conserved conserved (.borrowBooksForUser clock bookIds _)).balanced
      | giveBack who isRole bookIds userIds => exact (serve_conserved conserved (.returnBooks bookIds userIds _ _)).balanced
    | some s =>
      rw [step,serve_server,SavesSoundly,asked]
      split_ifs with isHandled
      · have unlent : Balanced (catalogue config.missing server.db s) ↔ SavesUnlent config.missing server.db s := by
          rw [catalogue_eq,SavesUnlent,everySaved_iff]
          exact putAll_balanced balanced (savable_saved config.missing server.db s)
        rw [perform_saves config request _ asked,unlent]
        simp [isHandled]
      · exact iff_of_true balanced (fun isHandled' => absurd isHandled' isHandled)

/-- The counters are right in every state of a run exactly if every request that gets to
    save books saves them soundly. -/
theorem counters_right_iff {server : Server} (intact : Intact server.db) (balanced : Balanced server.db) (events : List Event) :
    Always (step config) (fun server => Balanced server.db) server events ↔
      Throughout (step config) (SavesSoundly config) server events :=
  always_iff_under (J := fun server : Server => Intact server.db) (step_intact config) (step_balanced_iff config) intact
    balanced events

theorem counters_right_day : Always (step plainConfig) (fun server => Balanced server.db) rootServer lendingDay := by
  refine (counters_right_iff plainConfig (intact_unlent rfl) (fun _ _ absent => by cases absent) _).mpr
    ⟨fun _ s asked => ?_,trivial,fun _ s asked => ?_,fun _ s asked => ?_,trivial⟩
  · cases asked
    decide
  · cases asked
  · cases asked

end

end LibraryServer.Application
