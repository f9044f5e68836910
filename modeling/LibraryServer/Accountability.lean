import LibraryServer.Application

/-!
Who is behind what happens to the loans. A request changes them only with a token that
an earlier login has signed and that is still alive, and then those of its user, or
those of others if its user is an administrator. Requests without a live token leave
the loans as they are, delete no book, and are answered as if there were other loans or
none at all.
-/
namespace LibraryServer.Accountability
open LibraryServer.Java LibraryServer.Tables LibraryServer.Programs LibraryServer.Runs LibraryServer.Entities
open LibraryServer.Repositories LibraryServer.LendingServices LibraryServer.LendingInvariant LibraryServer.JwtFilter
open LibraryServer.Accounts LibraryServer.Authority LibraryServer.Catalogue LibraryServer.Controllers
open LibraryServer.Confinement LibraryServer.Changes LibraryServer.Application
set_option linter.unusedSimpArgs false

/-! ### Tokens and logins -/

section
variable (config : Config)

/-- The event is a login that is let through and answered with the token of the claims. -/
def Signs (server : Server) (event : Event) (claims : Claims) : Prop :=
  ∃ request username password, event = .request request ∧ request.action = .login username password ∧
    handled config server request = true ∧
    loginUser config.encoder server.now config.lifetime username password server.db.users = .ok claims ∧
    (Application.serve config server request).cookies = [tokenCookie (config.jwt.sign claims)]

/-- Only a login signs anything. -/
theorem perform_issued (request : WebRequest) (authentication : Option Authentication) (server : Server) :
    (perform config request authentication server).server.issued = server.issued ∨
      ∃ username password claims, request.action = .login username password ∧
        loginUser config.encoder server.now config.lifetime username password server.db.users = .ok claims ∧
        (perform config request authentication server).cookies = [tokenCookie (config.jwt.sign claims)] ∧
        (perform config request authentication server).server.issued = claims :: server.issued := by
  obtain ⟨action,cookies,authorization,session,env,permitted⟩ := request
  cases action with
  | login username password =>
    cases returned : loginUser config.encoder server.now config.lifetime username password server.db.users with
    | error e =>
      refine .inl ?_
      simp only [perform,AuthController.login,returned]
      rfl
    | ok claims =>
      refine .inr ⟨username,password,claims,rfl,returned,?_,?_⟩
      · simp only [perform,AuthController.login,returned]
      · simp only [perform,AuthController.login,returned]
        rfl
  | _ => exact .inl rfl

theorem step_issued {server : Server} {event : Event} {claims : Claims} (unsigned : claims ∉ server.issued)
    (signed : claims ∈ (step config server event).issued) : Signs config server event claims := by
  cases event with
  | tick millis => exact absurd signed unsigned
  | request request =>
    rw [step,serve_server] at signed
    split_ifs at signed with isHandled
    · rcases perform_issued config request (authenticate config server request) server with
        same | ⟨username,password,others,isLogin,returned,answered,more⟩
      · rw [same] at signed
        exact absurd signed unsigned
      · rw [more] at signed
        rcases List.mem_cons.mp signed with rfl | old
        · refine ⟨request,username,password,rfl,isLogin,isHandled,returned,?_⟩
          rw [Application.serve,if_pos isHandled]
          exact answered
        · exact absurd old unsigned
    · exact absurd signed unsigned

/-- Every token of a run that begins without tokens is from a login of the run. -/
theorem issued_signed {server : Server} (unsigned : server.issued = []) {events : List Event} {claims : Claims}
    (signed : claims ∈ (events.foldl (step config) server).issued) :
    ∃ before event after, events = before ++ event :: after ∧
      Signs config (before.foldl (step config) server) event claims := by
  rcases run_began (P := fun server : Server => claims ∈ server.issued) signed with old | ⟨before,event,after,split,absent,new⟩
  · have first := always_head old
    rw [unsigned] at first
    cases first
  · have now := always_head new
    exact ⟨before,event,after,split,step_issued config absent now⟩

/-- An authentication is what a live token says that the request brings. -/
theorem authenticate_some {server : Server} {request : WebRequest} {auth : Authentication}
    (installed : authenticate config server request = some auth) :
    ∃ claims ∈ server.issued, extractToken request.http = some (config.jwt.sign claims) ∧ server.now < claims.expiresAt ∧
      auth.name = some (claims.subject.getD "") := by
  unfold authenticate doFilter at installed
  split_ifs at installed
  simp only [doFilterInternal] at installed
  split at installed
  · cases installed
  · rename_i token isToken
    split at installed
    · cases installed
    · rename_i claims accepted
      cases installed
      obtain ⟨signed,live⟩ := decodeToken_some accepted
      have conditions := List.find?_some accepted
      simp only [Bool.and_eq_true,beq_iff_eq] at conditions
      exact ⟨claims,signed,by rw [isToken,conditions.1],live,rfl⟩

/-! ### Changes of the loans -/

theorem deleteBooks_loans (bookIds : Option (List (Option Id))) (db : Db) :
    (transactional (LendingServices.deleteBooks bookIds) db).2.borrowedBooks = db.borrowedBooks := by
  have kept : Keeps store (fun after => after.borrowedBooks = db.borrowedBooks) (LendingServices.deleteBooks bookIds) := by
    refine deleteBooks_keeps (fun bookId before same => ?_) bookIds
    rcases deleteBook_cases bookId before with unchanged | ⟨b,_,after⟩
    · rw [unchanged]
      exact same
    · rw [after]
      exact same
  exact transact_keeps kept _ db rfl

/-- What a request writes leaves the loans of all but one user alone, unless it is an
    administrator's. -/
theorem writes_confined {authentication : Option Authentication} {server : Server} {action : Action} {db : Db}
    (writes : Writes config authentication server action db) :
    db.borrowedBooks = server.db.borrowedBooks ∨
      ∃ k requester, Requester server.db.users authentication k requester ∧
        (OnlyLoansOf k server.db db ∨ requester.role = some .ADMIN) := by
  cases writes with
  | nothing => exact .inl rfl
  | save asked =>
    rw [catalogue_eq]
    exact .inl rfl
  | account s =>
    rw [account_frame]
    exact .inl rfl
  | remove asked => exact .inl (deleteBooks_loans _ _)
  | @lend k u requester who may clock bookIds =>
    refine .inr ⟨k,requester,who,?_⟩
    rcases may with rfl | admin
    · exact .inl (transact_keeps (borrowBooksForUser_confined clock bookIds u server.db) _ _ (onlyLoansOf_refl u server.db))
    · exact .inr admin
  | @giveBack k requester role who isRole bookIds userIds =>
    refine .inr ⟨k,requester,who,?_⟩
    cases role with
    | USER =>
      exact .inl (transact_keeps (returnBooks_confined bookIds userIds k server.db) _ _ (onlyLoansOf_refl k server.db))
    | ADMIN => exact .inr isRole

/-- Somebody answers for the event: it is a request that brings a live token, a login of
    the run before it has signed the token, and only the loans of the user of that name
    are concerned, unless that user is an administrator. -/
def AnsweredFor (server : Server) (before : List Event) (event : Event) : Prop :=
  ∃ request earlier login later claims k requester, event = .request request ∧ before = earlier ++ login :: later ∧
    Signs config (earlier.foldl (step config) server) login claims ∧
    extractToken request.http = some (config.jwt.sign claims) ∧
    (before.foldl (step config) server).now < claims.expiresAt ∧
    findByUsername (before.foldl (step config) server).db.users (some (claims.subject.getD "")) = .ok (some (k,requester)) ∧
    (requester.role = some .ADMIN ∨
      OnlyLoansOf k (before.foldl (step config) server).db ((before ++ [event]).foldl (step config) server).db)

/-- For every change of the loans, whoever sends what, somebody has signed in before. -/
theorem loan_changes_answered_for {server : Server} (unsigned : server.issued = []) (before : List Event) (event : Event)
    (changed : ((before ++ [event]).foldl (step config) server).db.borrowedBooks ≠
      (before.foldl (step config) server).db.borrowedBooks) : AnsweredFor config server before event := by
  unfold AnsweredFor
  rw [List.foldl_append,List.foldl_cons,List.foldl_nil] at changed ⊢
  cases event with
  | tick millis => exact absurd rfl changed
  | request request =>
    rcases writes_confined config (serve_writes config (before.foldl (step config) server) request) with
      same | ⟨k,requester,⟨name,isName,found⟩,confined⟩
    · exact absurd same changed
    · obtain ⟨auth,installed,own⟩ := Option.bind_eq_some_iff.mp isName
      obtain ⟨claims,signed,brings,live,isSubject⟩ := authenticate_some config installed
      obtain ⟨earlier,login,later,split,signs⟩ := issued_signed config unsigned signed
      have subject : claims.subject.getD "" = name := Option.some.inj (isSubject.symm.trans own)
      rw [← subject] at found
      exact ⟨request,earlier,login,later,claims,k,requester,rfl,split,signs,brings,live,found,confined.symm⟩

end

theorem loan_changes_answered_for_day : AnsweredFor plainConfig rootServer (lendingDay.take 3) (lendingDay.get ⟨3,by decide⟩) :=
  loan_changes_answered_for plainConfig rfl _ _ (by decide +kernel)

/-! ### Requests without a live token -/

section
variable (config : Config)

/-- The event is no request that is authenticated. -/
def Strange (server : Server) : Event → Prop
  | .tick _ => True
  | .request request => authenticate config server request = none

/-- The loans and the inventory are the same, and the stored books are still stored. -/
structure Untouched (before after : Db) : Prop where
  loans : after.borrowedBooks = before.borrowedBooks
  inventory : after.inventory = before.inventory
  books : ∀ b, (before.books.find b).isSome → (after.books.find b).isSome

theorem putAll_stored {rows : List (Id × Book)} {books : Table Book} (places : books.OpenAll rows) {b : Id}
    (stored : (books.find b).isSome) : ((books.putAll rows).find b).isSome := by
  induction rows generalizing books with
  | nil => exact stored
  | cons row rest ih =>
    refine ih places.2 ?_
    rw [Option.isSome_iff_exists] at stored ⊢
    exact put_stays places.1 row.2 stored

/-- The paths that are for users who are signed in. -/
def guardedPaths : List String :=
  ["/api/set_cookie","/profile","/update_profile","/upload_books_excel","/view_books","/delete_books","/borrow",
    "/return_books","/view_borrowed_books","/dashboard","/library"]

theorem guarded_refused (slash : LeadingSlash) : ∀ path ∈ guardedPaths, admits slash none path = false := by
  cases slash <;> decide +kernel

/-- A request without authentication is not handled on such a path. -/
theorem guarded_unhandled {server : Server} {request : WebRequest} (nobody : authenticate config server request = none)
    (guarded : request.action.path ∈ guardedPaths) : handled config server request = false := by
  rw [handled,nobody,guarded_refused config.slash _ guarded,Bool.false_and]

theorem strange_step {server : Server} {event : Event} (strange : Strange config server event) :
    Untouched server.db (step config server event).db := by
  cases event with
  | tick millis => exact ⟨rfl,rfl,fun _ stored => stored⟩
  | request request =>
    have nobody : authenticate config server request = none := strange
    have nobodys : ∀ {k requester}, ¬ Requester server.db.users none k requester := by
      rintro k requester ⟨name,isName,_⟩
      cases isName
    rw [step,serve_server]
    split_ifs with isHandled
    · have written := perform_writes config request (authenticate config server request) server
      rw [nobody] at written ⊢
      generalize (perform config request none server).server.db = after at written
      cases written with
      | nothing => exact ⟨rfl,rfl,fun _ stored => stored⟩
      | save asked =>
        rw [catalogue_eq]
        exact ⟨rfl,rfl,fun _ stored => putAll_stored (savable_saved _ _ _).places stored⟩
      | account s =>
        rw [account_frame]
        exact ⟨rfl,rfl,fun _ stored => stored⟩
      | remove asked =>
        have guarded : request.action.path ∈ guardedPaths := by
          rw [asked]
          exact (by decide : "/delete_books" ∈ guardedPaths)
        rw [guarded_unhandled config nobody guarded] at isHandled
        cases isHandled
      | lend who => exact absurd who nobodys
      | giveBack who => exact absurd who nobodys
    · exact ⟨rfl,rfl,fun _ stored => stored⟩

/-- Whatever is sent without a live token, the loans and the inventory stay as they are
    and no book is deleted. -/
theorem strangers_leave_loans {server : Server} {events : List Event}
    (strange : Throughout (step config) (Strange config) server events) :
    Untouched server.db (events.foldl (step config) server).db :=
  run_related (R := fun before after : Server => Untouched before.db after.db) (fun _ => ⟨rfl,rfl,fun _ stored => stored⟩)
    (fun _ _ _ first second =>
      ⟨second.loans.trans first.loans,second.inventory.trans first.inventory,
        fun b stored => second.books b (first.books b stored)⟩)
    (throughout_imp (fun _ _ => strange_step config) strange)

end

/-- A server with a book, of which a user has a copy. -/
def lendingServer : Server :=
  ⟨⟨{ sampleDb with inventory := Table.empty.insert ⟨some 1,.BORROWED⟩ },[],0⟩,emptyFolder⟩

/-- Strangers add a book, delete the user that they may and ask for the deletion of the
    other one. -/
theorem strangers_leave_loans_root :
    Untouched lendingServer.db
      ([anonymously (.handleAddBook workingDisk (duneForm none 3) cover),anonymously (.handleDeleteUser 2),.tick 5,
          anonymously (.handleDeleteUser 1)].foldl (step plainConfig) lendingServer).db :=
  strangers_leave_loans plainConfig ⟨rfl,rfl,trivial,rfl,trivial⟩

/-! ### What strangers learn -/

/-- The same server with other loans. -/
def withLoans (server : Server) (loans : Table BorrowedBook) : Server :=
  { server with db := { server.db with borrowedBooks := loans } }

section
variable (config : Config)

/-- What the clients are answered in a run. -/
def answers : Server → List Event → List (Reply × List SetCookie)
  | _, [] => []
  | server, .tick millis :: rest => answers (step config server (.tick millis)) rest
  | server, .request request :: rest =>
    ((serve config server request).reply,(serve config server request).cookies) ::
      answers (step config server (.request request)) rest

/-- The event asks for the deletion of a user, which fails while there are loans. -/
def DeletesUser : Event → Prop
  | .tick _ => False
  | .request request => ∃ userId, request.action = .handleDeleteUser userId

/-- Saving a user does not touch the loans. -/
theorem saveUser_withLoans (missing : OnMissing) (db : Db) (object : UserForm) (loans : Table BorrowedBook) :
    saveUser missing { db with borrowedBooks := loans } object =
      ((saveUser missing db object).1,{ (saveUser missing db object).2 with borrowedBooks := loans }) := by
  unfold saveUser
  cases save missing db.users object.id object.columns <;> rfl

theorem handleRegistration_withLoans (salt : Nat) (form : UserForm) (db : Db) (loans : Table BorrowedBook) :
    AuthController.handleRegistration config salt form { db with borrowedBooks := loans } =
      ((AuthController.handleRegistration config salt form db).1,
        { (AuthController.handleRegistration config salt form db).2 with borrowedBooks := loans }) := by
  simp only [AuthController.handleRegistration,registerUser]
  cases registration config.encoder salt db.users form with
  | error e => rfl
  | ok object =>
    simp only [saveUser_withLoans]
    rcases saveUser config.missing db object with ⟨_ | _,after⟩ <;> rfl

theorem handleAddUser_withLoans (salt : Nat) (bindingErrors : Bool) (form : UserForm) (db : Db) (loans : Table BorrowedBook) :
    handleAddUser config.encoder config.missing salt bindingErrors form { db with borrowedBooks := loans } =
      ((handleAddUser config.encoder config.missing salt bindingErrors form db).1,
        { (handleAddUser config.encoder config.missing salt bindingErrors form db).2 with borrowedBooks := loans }) := by
  simp only [handleAddUser]
  cases addition config.encoder salt bindingErrors form with
  | error page => rfl
  | ok object =>
    simp only [saveUser_withLoans]
    rcases saveUser config.missing db object with ⟨_ | _,after⟩ <;> rfl

theorem handleAddBook_withLoans (disk : Disk) (form : BookForm) (image : Upload) (folder : Folder) (db : Db)
    (loans : Table BorrowedBook) :
    handleAddBook config.missing disk form image folder { db with borrowedBooks := loans } =
      ((handleAddBook config.missing disk form image folder db).1,(handleAddBook config.missing disk form image folder db).2.1,
        { (handleAddBook config.missing disk form image folder db).2.2 with borrowedBooks := loans }) := by
  simp only [handleAddBook,addBook]
  split_ifs
  · rfl
  · rcases shelving disk folder (allAvailable form) (some image) with ⟨_ | book,after⟩
    · rfl
    · dsimp only
      cases save config.missing db.books book.id book.columns <;> rfl

theorem serve_withLoans (loans : Table BorrowedBook) {server : Server} {request : WebRequest}
    (nobody : authenticate config server request = none) (other : ¬ DeletesUser (.request request)) :
    serve config (withLoans server loans) request =
      { serve config server request with server := withLoans (serve config server request).server loans } := by
  have authentication : authenticate config (withLoans server loans) request = authenticate config server request := rfl
  have asWell : handled config (withLoans server loans) request = handled config server request := rfl
  cases isHandled : handled config server request with
  | true =>
    have alike : perform config request none (withLoans server loans) =
        { perform config request none server with
          server := withLoans (perform config request none server).server loans } := by
      obtain ⟨action,cookies,authorization,session,env,permitted⟩ := request
      have guarded : Action.path action ∉ guardedPaths := by
        intro guarded
        rw [guarded_unhandled config nobody guarded] at isHandled
        cases isHandled
      cases action with
      | home => rfl
      | logout => rfl
      | login username password => rfl
      | handleRegistration salt form => simp only [perform,withLoans,handleRegistration_withLoans]
      | handleAddUser salt bindingErrors form => simp only [perform,withLoans,handleAddUser_withLoans]
      | viewUsersRoster => rfl
      | showDeleteUserPage => rfl
      | handleDeleteUser userId => exact absurd ⟨userId,rfl⟩ other
      | handleAddBook disk form image => simp only [perform,withLoans,handleAddBook_withLoans]
      | bookMaster => rfl
      | verifyUserId userId => rfl
      | _ => simp [Action.path,guardedPaths] at guarded
    simp only [Application.serve,asWell,isHandled,if_true,authentication,nobody,alike]
  | false =>
    simp only [Application.serve,asWell,isHandled,Bool.false_eq_true,if_false,authentication,nobody]
    split_ifs <;> rfl

/-- Without a live token, and the deletion of users apart, the clients are answered the
    same whatever the loans are. -/
theorem strangers_learn_no_loans (loans : Table BorrowedBook) {server : Server} {events : List Event}
    (strange : Throughout (step config) (fun server event => Strange config server event ∧ ¬ DeletesUser event) server events) :
    answers config (withLoans server loans) events = answers config server events := by
  induction events generalizing server with
  | nil => rfl
  | cons event rest ih =>
    obtain ⟨⟨nobody,other⟩,later⟩ := strange
    cases event with
    | tick millis => exact ih later
    | request request =>
      have served := serve_withLoans config loans nobody other
      have next : step config (withLoans server loans) (.request request) =
          withLoans (step config server (.request request)) loans := by rw [step,served,step]
      rw [answers,answers,next,ih later,served]

end

/-- Whether or not the administrator has borrowed, strangers get the same list of users. -/
theorem strangers_learn_no_loans_root :
    answers plainConfig (withLoans rootServer (Table.empty.insert ⟨1,1,atStartOfDay 20000,some 1,none⟩))
        [anonymously .viewUsersRoster,anonymously .bookMaster] =
      answers plainConfig rootServer [anonymously .viewUsersRoster,anonymously .bookMaster] :=
  strangers_learn_no_loans plainConfig _
    ⟨⟨rfl,fun ⟨_,isDeletion⟩ => by cases isDeletion⟩,⟨rfl,fun ⟨_,isDeletion⟩ => by cases isDeletion⟩,trivial⟩

end LibraryServer.Accountability
