import LibraryServer.Accountability
import LibraryServer.LoanPages

/-!
Requests that are sent twice, by a second click or by a browser that repeats what it has
sent. The second one finds the books lent, the loans gone or the name taken, and leaves
the database as it is. Only the forms that add users and books do what they do as often
as they are sent.
-/
namespace LibraryServer.Resending
open LibraryServer.Java LibraryServer.Tables LibraryServer.Programs LibraryServer.Runs LibraryServer.Entities
open LibraryServer.Repositories LibraryServer.LendingServices LibraryServer.LendingInvariant LibraryServer.LendingRefinement
open LibraryServer.LendingOutcomes LibraryServer.JwtFilter LibraryServer.Accounts LibraryServer.Authority
open LibraryServer.Controllers LibraryServer.BorrowSessions LibraryServer.ReturnSets LibraryServer.PageForms
open LibraryServer.Changes LibraryServer.Application LibraryServer.Accountability
set_option linter.unusedSimpArgs false

/-! ### Borrowing -/

/-- What a user has got cannot be lent to the user again. -/
theorem lendable_once (clock : Nat → Int) {db : Db} {u : Id} {ids : List (Option Id)} (lendable : Lendable db u ids)
    (nonempty : ids ≠ []) : ¬ Lendable (lentOut clock u 0 ids db) u ids := by
  intro again
  obtain ⟨id,member⟩ := List.exists_mem_of_ne_nil ids nonempty
  obtain ⟨b,_,rfl,_,_,none_yet⟩ := again.each id member
  obtain ⟨added,rows,columns⟩ := lentOut_loans clock u 0 db (lendable_named lendable)
  have listed : (some b,u,some 1) ∈ loanColumns added := by
    rw [columns]
    exact List.mem_map.mpr ⟨_,member,rfl⟩
  obtain ⟨row,isAdded,isRow⟩ := List.mem_map.mp listed
  have out : 0 < (lentOut clock u 0 ids db).borrowedBooks.count (ofPair b u) := by
    refine count_pos.mpr ⟨row,by rw [rows]; exact List.mem_append_right _ isAdded,?_⟩
    simp only [Prod.mk.injEq,Option.some.injEq] at isRow
    exact ofPair_iff.mpr ⟨isRow.1,isRow.2.1⟩
  omega

theorem borrowFor_again (env later : Env) (bookIds : Option (List (Option Id))) (username : String) (k u : Id)
    (shownId shownLater : Option Id) {db : Db} (member : ∃ user, db.users.find u = some user) :
    (borrowFor later bookIds username k u shownLater (borrowFor env bookIds username k u shownId db).2).2 =
      (borrowFor env bookIds username k u shownId db).2 := by
  cases bookIds with
  | none => rfl
  | some ids =>
    rcases borrowFor_after env ids username k shownId member with ⟨lent,few,lendable⟩ | ⟨same,unable⟩
    · rw [lent]
      have stays : ∃ user, (lentOut env.clock u 0 ids db).users.find u = some user := member
      rcases borrowFor_after later ids username k shownLater stays with ⟨again,_,lendable'⟩ | ⟨same,_⟩
      · by_cases empty : ids = []
        · rw [again,empty,lentOut_nil]
        · exact absurd lendable' (lendable_once env.clock lendable empty)
      · exact same
    · rw [same]
      rcases borrowFor_after later ids username k shownLater member with ⟨_,able⟩ | ⟨same,_⟩
      · exact absurd able unable
      · exact same

/-- POST /borrow, sent again in the session as the first has left it. -/
theorem borrowBooks_again (env later : Env) (bookIds : Option (List (Option Id))) (userId : Option Id)
    (authentication : Option Authentication) (session : Session) (db : Db) :
    (BorrowedBooksController.borrowBooks later bookIds userId authentication
        (BorrowedBooksController.borrowBooks env bookIds userId authentication session db).2.1
        (BorrowedBooksController.borrowBooks env bookIds userId authentication session db).2.2).2.2 =
      (BorrowedBooksController.borrowBooks env bookIds userId authentication session db).2.2 := by
  cases isName : usernameOf authentication with
  | none => simp only [BorrowedBooksController.borrowBooks,isName]
  | some name =>
    cases isId : getUserIdByUsername db.users name with
    | error e => simp only [BorrowedBooksController.borrowBooks,isName,isId]
    | ok k =>
      obtain ⟨requester,found⟩ := getUserIdByUsername_found isId
      have member : ∃ user, db.users.find k = some user := ⟨requester,(findByUsername_some found).1⟩
      cases isAdmin : Controllers.isAdmin db.users name with
      | error e => simp only [BorrowedBooksController.borrowBooks,isName,isId,isAdmin]
      | ok admin =>
        cases admin with
        | false =>
          have again := borrowFor_again env later bookIds name k k none none member
          have users := borrowFor_users env bookIds name k k none db
          simp only [BorrowedBooksController.borrowBooks,isName,isId,isAdmin]
          generalize (borrowFor env bookIds name k k none db).2 = after at again users
          simp only [users,isId,isAdmin]
          exact again
        | true =>
          have kept : (if userId.isSome then { (if userId.isSome then { session with verifiedUserId := userId } else session) with
              verifiedUserId := userId } else (if userId.isSome then { session with verifiedUserId := userId } else session)) =
                if userId.isSome then { session with verifiedUserId := userId } else session := by
            split_ifs <;> rfl
          simp only [BorrowedBooksController.borrowBooks,isName,isId,isAdmin]
          generalize (if userId.isSome then { session with verifiedUserId := userId } else session) = sent at kept
          cases target : sent.verifiedUserId.filter (existsById db.users) with
          | none => simp only [isId,isAdmin,kept,target]
          | some u =>
            have stored := Option.isSome_iff_exists.mp (Option.filter_eq_some_iff.mp target).2
            have again := borrowFor_again env later bookIds name k u (some u) (some u) stored
            have users := borrowFor_users env bookIds name k u (some u) db
            simp only
            generalize (borrowFor env bookIds name k u (some u) db).2 = after at again users
            simp only [users,isId,isAdmin,kept,target]
            exact again

/-! ### Returning -/

/-- Loans that have come back are skipped. -/
theorem returns_again {db : Db} (intact : Intact db) (bookIds userIds : Option (List (Option Id))) (userId : Option Id)
    (role : Option String) :
    (transactional (LendingServices.returnBooks bookIds userIds userId role)
        (transactional (LendingServices.returnBooks bookIds userIds userId role) db).2).2 =
        (transactional (LendingServices.returnBooks bookIds userIds userId role) db).2 ∧
      (transactional (LendingServices.returnBooks bookIds userIds userId role) db).2.users = db.users := by
  cases request : returnRequest bookIds userIds userId role with
  | none =>
    obtain ⟨message,throws⟩ := returnBooks_refused request
    rw [throws]
    simp only [transactional_throw,and_self]
  | some targets =>
    have loop := returnBooks_loop request
    have refers := intact.toReferring
    have again := (returnedAlike_of_loops refers loop loop (fun _ => Iff.rfl)).again
    refine ⟨by rw [again],?_⟩
    rw [returnCall_run loop refers]
    refine run_kept (I := fun after : Db => after.users = db.users) ?_ rfl targets
    rintro after ⟨_ | b,_ | u⟩ same
    · exact same
    · exact same
    · exact same
    · rw [returned]
      split_ifs <;> exact same

/-- POST /return_books, sent again. -/
theorem returnBooks_again {db : Db} (intact : Intact db) (bookIds : Option (List (Option Id)))
    (bookIdsAndUserIds : Option (List String)) (authentication : Option Authentication) :
    (ReturnBooksController.returnBooks bookIds bookIdsAndUserIds authentication
        (ReturnBooksController.returnBooks bookIds bookIdsAndUserIds authentication db).2).2 =
      (ReturnBooksController.returnBooks bookIds bookIdsAndUserIds authentication db).2 := by
  rcases returnBooks_outcomes bookIds bookIdsAndUserIds authentication db with
    same | ⟨k,requester,role,_,_,⟨name,isName,found⟩,isRole,_⟩
  · rw [same,same]
  · obtain ⟨again,users⟩ := returns_again intact (some (returnLists (some role) bookIds bookIdsAndUserIds).1)
      (returnLists (some role) bookIds bookIdsAndUserIds).2.1 (some k) (some role.name)
    rw [returnBooks_found isName found isRole]
    rw [returnBooks_found isName (by rw [users]; exact found) isRole]
    exact again

/-! ### Deleting -/

/-- Books that are gone stay away. -/
theorem deleteBook_stays (b : Id) (bookId : Option Id) : Keeps store (fun db => db.books.find b = none) (deleteBook bookId) := by
  intro db gone
  rcases deleteBook_cases bookId db with same | ⟨c,_,after⟩
  · rw [same]
    exact gone
  · rw [after,find_erase]
    split_ifs
    · rfl
    · exact gone

/-- What the first id cannot do nothing does. -/
theorem deleteBooks_stuck {db : Db} {first : Option Id} {e : Exc} (stuck : (deleteBook first).run store db = (.error e,db))
    (rest : List (Option Id)) : (transactional (LendingServices.deleteBooks (some (first :: rest))) db).2 = db := by
  have run : (LendingServices.deleteBooks (some (first :: rest))).run store db = (.error e,db) := by
    rw [LendingServices.deleteBooks,Prog.forEach,run_bind,stuck]
  rw [transactional,Prog.transact,run]
  exact ite_self db

/-- A deletion changes nothing, or its first book is gone. -/
theorem deleteBooks_first (b : Id) (rest : List (Option Id)) (db : Db) :
    (transactional (LendingServices.deleteBooks (some (some b :: rest))) db).2 = db ∨
      (transactional (LendingServices.deleteBooks (some (some b :: rest))) db).2.books.find b = none := by
  cases found : db.books.find b with
  | none => exact .inl (deleteBooks_stuck (BookBatches.deleteBook_missing found) rest)
  | some book =>
    cases referenced : db.bookReferenced b with
    | true => exact .inl (deleteBooks_stuck (BookBatches.deleteBook_referenced found referenced) rest)
    | false =>
      have first := BookBatches.deleteBook_run referenced
      rw [found,Option.isSome_some,if_pos rfl] at first
      have gone : { db with books := db.books.erase b }.books.find b = none := by rw [find_erase,if_pos rfl]
      have stays := keeps_forEach rest (fun bookId _ => deleteBook_stays b bookId) { db with books := db.books.erase b } gone
      rw [transactional,Prog.transact,LendingServices.deleteBooks,Prog.forEach,run_bind,first]
      dsimp only
      split_ifs
      · exact .inr stays
      · exact .inl rfl

theorem deleteBooks_again (bookIds : Option (List (Option Id))) (db : Db) :
    (transactional (LendingServices.deleteBooks bookIds) (transactional (LendingServices.deleteBooks bookIds) db).2).2 =
      (transactional (LendingServices.deleteBooks bookIds) db).2 := by
  rcases bookIds with _ | _ | ⟨first,rest⟩
  · simp only [LendingServices.deleteBooks,transactional_throw]
  · rfl
  · cases first with
    | none =>
      have stuck : ∀ db, (deleteBook none).run store db = (.error (.illegalArgument "The given id must not be null"),db) :=
        fun db => by rw [deleteBook,run_findBookById_null]
      rw [deleteBooks_stuck (stuck db),deleteBooks_stuck (stuck db)]
    | some b =>
      rcases deleteBooks_first b rest db with same | gone
      · rw [same,same]
      · exact deleteBooks_stuck (BookBatches.deleteBook_missing gone) rest

theorem deleteUser_again (k : Id) (db : Db) :
    (transactional (deleteUser (some k)) (transactional (deleteUser (some k)) db).2).2 =
      (transactional (deleteUser (some k)) db).2 := by
  rw [deleteUser_transaction k db]
  cases stored : db.users.find k with
  | none => simp only [deleteUser_transaction,stored]
  | some user =>
    dsimp only
    split_ifs with referenced
    · simp only [deleteUser_transaction,stored,referenced,if_true]
    · have gone : (db.users.erase k).find k = none := by rw [find_erase,if_pos rfl]
      simp only [deleteUser_transaction,gone]

theorem handleDeleteUser_again (body : DeleteUserBody) (authentication : Option Authentication) (userId : Id) (db : Db) :
    (DeleteUserController.handleDeleteUser body authentication userId
        (DeleteUserController.handleDeleteUser body authentication userId db).2).2 =
      (DeleteUserController.handleDeleteUser body authentication userId db).2 := by
  rcases handleDeleteUser_db body authentication userId db with same | deleted
  · rw [same,same]
  · rw [deleted]
    rcases handleDeleteUser_db body authentication userId (transactional (deleteUser (some userId)) db).2 with same | again
    · exact same
    · rw [again,deleteUser_again]

/-! ### Accounts -/

section
variable {encoder : PasswordEncoder} {missing : OnMissing}

/-- Whether a password can be encoded is not for the salt to decide. -/
def Steady (encoder : PasswordEncoder) : Prop :=
  ∀ salt salt' raw, (encoder.encode salt raw).isOk = (encoder.encode salt' raw).isOk

theorem registration_redrawn (steady : Steady encoder) (salt salt' : Nat) (users : Table User) (form : UserForm) :
    (registration encoder salt' users form).toOption.map (fun object => object.id) =
      (registration encoder salt users form).toOption.map (fun object => object.id) := by
  have alike := steady salt salt' form.columns.password
  unfold registration
  split_ifs
  · rfl
  · rfl
  · cases validateUserFields form.columns with
    | error e => rfl
    | ok _ =>
      cases first : encoder.encode salt form.columns.password with
      | error e =>
        cases second : encoder.encode salt' form.columns.password with
        | error e' => rfl
        | ok password =>
          rw [first,second] at alike
          cases alike
      | ok password =>
        cases second : encoder.encode salt' form.columns.password with
        | error e' =>
          rw [first,second] at alike
          cases alike
        | ok password' => rfl

/-- The key of the row depends on the id of the form only. -/
theorem stores_key (db : Db) (step : AccountStep) :
    (stores encoder missing db step).map Prod.fst =
      ((submitted encoder db step).map (fun object => object.id)).bind (saveKey missing db.users) := by
  unfold stores
  cases submitted encoder db step with
  | none => rfl
  | some object =>
    simp only [Option.bind_some,Option.map_some]
    cases saveKey missing db.users object.id <;> rfl

/-- The name that has been registered is taken. -/
theorem registerUser_again (steady : Steady encoder) (salt salt' : Nat) (form : UserForm) (db : Db) :
    account encoder missing (account encoder missing db (.registerUser salt form)) (.registerUser salt' form) =
      account encoder missing db (.registerUser salt form) := by
  rw [registerUser_db salt form db]
  cases stored : stores encoder missing db (.registerUser salt form) with
  | none =>
    have key : (stores encoder missing db (.registerUser salt' form)).map Prod.fst = none := by
      rw [stores_key,submitted,registration_redrawn steady salt salt']
      have first := @stores_key encoder missing db (.registerUser salt form)
      rw [stored] at first
      exact first.symm
    rw [registerUser_db,Option.map_eq_none_iff.mp key]
  | some row =>
    obtain ⟨object,accepted,_,columns⟩ := stores_some stored
    have registered : registration encoder salt db.users form = .ok object := by
      simp only [submitted] at accepted
      cases made : registration encoder salt db.users form with
      | error e =>
        rw [made] at accepted
        cases accepted
      | ok other =>
        rw [made] at accepted
        cases accepted
        rfl
    obtain ⟨_,_,password,_,rfl⟩ := registration_ok registered
    have taken : existsByUsername (db.users.put row.1 row.2) form.columns.username = true := by
      refine existsByUsername_iff.mpr ⟨row,(mem_put (stores_open stored)).mpr (.inl rfl),?_⟩
      rw [columns]
    simp only [account,registerUser,registration,taken,if_true]

end

/-- A user who has been looked up by name is found again after a change. -/
theorem findByUsername_set {users : Table User} {name : Option String} {k : Id} {old new : User}
    (found : findByUsername users name = .ok (some (k,old))) (same : new.username = old.username) :
    findByUsername (users.set k new) name = .ok (some (k,new)) := by
  unfold findByUsername at found ⊢
  split at found
  · cases found
  · rename_i row selected
    cases found
    have stored := (select_head selected).1
    rw [select_set stored (by simp [named,same]),selected]
    simp
  · cases found

/-- A profile stays as it is, or gets the columns of the form. -/
theorem updateProfile_writes (authentication : Option Authentication) (form : ProfileForm) (db : Db) :
    (updateProfile authentication form db).2 = db ∨
      ∃ name k old fullName email mobileNumber countryCode sex,
        authentication.bind (fun auth => auth.name) = some name ∧
        findByUsername db.users (some name) = .ok (some (k,old)) ∧ filled form.fullName = some fullName ∧
        filled form.email = some email ∧ filled form.mobileNumber = some mobileNumber ∧
        filled form.countryCode = some countryCode ∧ form.sex.map (fun sex => sexOf (toUpperCase sex)) = some (some sex) ∧
        (updateProfile authentication form db).2 =
          { db with
            users := db.users.set k
              { old with
                fullName := some fullName, email := some email, sex := some sex, mobileNumber := some mobileNumber,
                countryCode := some countryCode } } := by
  unfold updateProfile
  split
  · exact .inl rfl
  · rename_i name isName
    split
    · exact .inl rfl
    · exact .inl rfl
    · rename_i k old found
      split
      · rename_i fullName email mobileNumber countryCode isFullName isEmail isMobileNumber isCountryCode
        split
        · exact .inl rfl
        · exact .inl rfl
        · rename_i sex isSex
          refine .inr ⟨name,k,old,fullName,email,mobileNumber,countryCode,sex,isName,found,isFullName,isEmail,isMobileNumber,
            isCountryCode,isSex,?_⟩
          simp only [updateUser,(findByUsername_some found).1]
      · exact .inl rfl

theorem updateProfile_again (authentication : Option Authentication) (form : ProfileForm) (db : Db) :
    (updateProfile authentication form (updateProfile authentication form db).2).2 =
      (updateProfile authentication form db).2 := by
  rcases updateProfile_writes authentication form db with
    same | ⟨name,k,old,fullName,email,mobileNumber,countryCode,sex,isName,found,isFullName,isEmail,isMobileNumber,isCountryCode,
      isSex,written⟩
  · rw [same,same]
  · rw [written]
    generalize isNew : { old with
      fullName := some fullName, email := some email, sex := some sex, mobileNumber := some mobileNumber,
      countryCode := some countryCode } = new
    have again : findByUsername (db.users.set k new) (some name) = .ok (some (k,new)) :=
      findByUsername_set found (by rw [← isNew])
    have stored := (findByUsername_some again).1
    simp only [updateProfile,isName,again,isFullName,isEmail,isMobileNumber,isCountryCode,isSex,updateUser,stored]
    rw [show { new with
      fullName := some fullName, email := some email, sex := some sex, mobileNumber := some mobileNumber,
      countryCode := some countryCode } = new by rw [← isNew],set_same stored]

/-! ### All requests -/

/-- The request adds no users and no books. -/
def Resendable : Action → Prop
  | .handleAddUser _ _ _ => False
  | .handleAddBook _ _ _ => False
  | .handleExcelUpload _ => False
  | _ => True

/-- The request with another salt drawn. -/
def redrawn (salt : Nat) : Action → Action
  | .handleRegistration _ form => .handleRegistration salt form
  | action => action

theorem redrawn_path (salt : Nat) (action : Action) : (redrawn salt action).path = action.path := by
  cases action <;> rfl

/-- The request as it is sent again: in the session that the first has left, with another
    salt and other readings of the clock. -/
def again (request : WebRequest) (first : Outcome) (salt : Nat) (env : Env) (permitted : Bool) : WebRequest :=
  { request with action := redrawn salt request.action, session := first.session, env := env, permitted := permitted }

section
variable (config : Config)

/-- A handler that is called again, at any time. -/
theorem perform_again (steady : Steady config.encoder) {request : WebRequest} (resendable : Resendable request.action)
    (authentication : Option Authentication) {server : Server} (intact : Intact server.db) (salt : Nat) (env : Env)
    (permitted : Bool) (now : Int) :
    (perform config (again request (perform config request authentication server) salt env permitted) authentication
        { (perform config request authentication server).server with now := now }).server.db =
      (perform config request authentication server).server.db := by
  obtain ⟨action,cookies,authorization,session,before,admitted⟩ := request
  cases action with
  | handleRegistration drawn form =>
    simp only [perform,again,redrawn,handleRegistration_db]
    exact registerUser_again steady drawn salt form server.db
  | handleAddUser => cases resendable
  | handleDeleteUser userId => exact handleDeleteUser_again config.body authentication userId server.db
  | updateProfile form => exact updateProfile_again authentication form server.db
  | handleAddBook => cases resendable
  | handleExcelUpload => cases resendable
  | deleteBooks bookIds =>
    simp only [perform,again,redrawn,deleteBooks_db]
    exact deleteBooks_again (some bookIds) server.db
  | borrowBooks bookIds userId => exact borrowBooks_again before env bookIds userId authentication session server.db
  | returnBooks bookIds bookIdsAndUserIds => exact returnBooks_again intact bookIds bookIdsAndUserIds authentication
  | _ => rfl

/-- A token is what it was, or it has expired. -/
theorem authenticate_later {server later : Server} (issued : later.issued = server.issued) (time : server.now ≤ later.now)
    {request resent : WebRequest} (same : resent.http = request.http) :
    authenticate config later resent = authenticate config server request ∨ authenticate config later resent = none := by
  simp only [authenticate,doFilter,same]
  split_ifs
  · exact .inl rfl
  · simp only [doFilterInternal]
    cases extractToken request.http with
    | none => exact .inl rfl
    | some token =>
      cases accepted : decodeToken config.jwt later.toSite token with
      | none => exact .inr (by simp only [accepted])
      | some claims =>
        obtain ⟨signed,live⟩ := decodeToken_some accepted
        have conditions := List.find?_some accepted
        simp only [Bool.and_eq_true,beq_iff_eq] at conditions
        have before : decodeToken config.jwt server.toSite token = some claims := by
          rw [← conditions.1]
          exact decodeToken_signed config.jwt (issued ▸ signed) (Int.lt_of_le_of_lt time live)
        exact .inl (by simp only [accepted,before])

end

/-- Apart from the login, a path is public or for users who are signed in. -/
theorem path_cases (action : Action) :
    (action.path ∈ publicPaths ∧ plain action.path = true) ∨ action.path ∈ guardedPaths ∨
      ∃ username password, action = .login username password := by
  cases action with
  | login username password => exact .inr (.inr ⟨username,password,rfl⟩)
  | _ =>
    simp only [Action.path]
    first
      | exact .inl (by decide)
      | exact .inr (.inl (by decide))

/-- The limit is not asked for other requests. -/
theorem path_unlimited {action : Action} (other : action ≠ .setCookie) : RateLimit.shouldRateLimit action.path = false := by
  cases action with
  | setCookie => exact absurd rfl other
  | _ =>
    simp only [Action.path]
    decide

section
variable (config : Config)

/-- A request whose token has expired is not handled, unless it is a login. -/
theorem expired_unhandled {server later : Server} {request resent : WebRequest} (path : resent.action.path = request.action.path)
    (other : ¬ ∃ username password, request.action = .login username password)
    (signed : authenticate config server request ≠ none) (expired : authenticate config later resent = none) :
    handled config later resent = false := by
  rcases path_cases request.action with ⟨listed,literal⟩ | guarded | isLogin
  · refine absurd ?_ signed
    simp only [authenticate,doFilter]
    rw [if_pos (shouldNotFilter_listed antMatcher listed literal)]
  · exact guarded_unhandled config expired (path ▸ guarded)
  · exact absurd isLogin other

/-- The login and the placeholder cookie write nothing. -/
theorem serve_reads {request : WebRequest}
    (reads : (∃ username password, request.action = .login username password) ∨ request.action = .setCookie) (server : Server) :
    (serve config server request).server.db = server.db := by
  obtain ⟨action,cookies,authorization,session,env,permitted⟩ := request
  rw [serve_server]
  rcases reads with ⟨username,password,isLogin⟩ | isCookie
  · cases isLogin
    split_ifs <;> rfl
  · cases isCookie
    split_ifs <;> rfl

theorem serve_now (server : Server) (request : WebRequest) : (serve config server request).server.now = server.now := by
  obtain ⟨action,cookies,authorization,session,env,permitted⟩ := request
  rw [serve_server]
  split_ifs
  · cases action <;> rfl
  · rfl

theorem serve_issued {request : WebRequest} (other : ¬ ∃ username password, request.action = .login username password)
    (server : Server) : (serve config server request).server.issued = server.issued := by
  rw [serve_server]
  split_ifs
  · rcases perform_issued config request (authenticate config server request) server with
      same | ⟨username,password,_,isLogin,_⟩
    · exact same
    · exact absurd ⟨username,password,isLogin⟩ other
  · rfl

/-- A request that is not limited is handled or not by who sends it. -/
theorem handled_alike {server later : Server} {request resent : WebRequest} (path : resent.action.path = request.action.path)
    (other : request.action ≠ .setCookie) (same : authenticate config later resent = authenticate config server request) :
    handled config later resent = handled config server request := by
  rw [handled,handled,path,same,path_unlimited other,Bool.not_false,Bool.or_true,Bool.or_true]

/-- However much later a request is sent again, if nothing else has happened it leaves the
    database as it is, unless it adds users or books. -/
theorem resent_requests_settle (steady : Steady config.encoder) {start : Server} (intact : Intact start.db)
    (events : List Event) {request : WebRequest} (resendable : Resendable request.action) (millis salt : Nat) (env : Env)
    (permitted : Bool) :
    (serve config
        (step config (serve config (events.foldl (step config) start) request).server (.tick millis))
        (again request (serve config (events.foldl (step config) start) request) salt env permitted)).server.db =
      (serve config (events.foldl (step config) start) request).server.db := by
  have kept : Intact (events.foldl (step config) start).db :=
    run_kept (I := fun server : Server => Intact server.db) (step_intact config) intact events
  generalize events.foldl (step config) start = server at kept
  have path : (again request (Application.serve config server request) salt env permitted).action.path = request.action.path :=
    redrawn_path salt request.action
  by_cases reads : (∃ username password, request.action = .login username password) ∨ request.action = .setCookie
  · have same : (again request (Application.serve config server request) salt env permitted).action = request.action := by
      rcases reads with ⟨_,_,isLogin⟩ | isCookie
      · simp only [again,isLogin,redrawn]
      · simp only [again,isCookie,redrawn]
    rw [serve_reads config (same.symm ▸ reads)]
    rfl
  obtain ⟨isLogin,isCookie⟩ := not_or.mp reads
  have later : server.now ≤ (step config (Application.serve config server request).server (.tick millis)).now := by
    have now := serve_now config server request
    rw [step]
    dsimp only
    omega
  by_cases same : authenticate config (step config (Application.serve config server request).server (.tick millis))
      (again request (Application.serve config server request) salt env permitted) = authenticate config server request
  · have alike := handled_alike config path isCookie same
    rw [serve_server,alike,same]
    cases isHandled : handled config server request with
    | false => rfl
    | true =>
      have first : Application.serve config server request =
          perform config request (authenticate config server request) server := by
        simp only [Application.serve,isHandled,if_true]
      rw [if_pos rfl,first]
      exact perform_again config steady resendable _ kept salt env permitted _
  · -- The first was signed in, or the second would be answered alike.
    have issued : (step config (Application.serve config server request).server (.tick millis)).issued = server.issued :=
      serve_issued config isLogin server
    have http : (again request (Application.serve config server request) salt env permitted).http = request.http := by
      rw [WebRequest.http,path]
      rfl
    have expired := (authenticate_later config issued later http).resolve_left same
    rw [serve_server,expired_unhandled config path isLogin (fun unsigned => same (expired.trans unsigned.symm)) expired]
    rfl

end

/-- The administrator of `lendingDay` borrows the book. -/
def rootBorrows : WebRequest :=
  ⟨.borrowBooks (some [some 1]) (some 1),some [⟨"token",some (plainJwt.sign ⟨some "root",some "ADMIN",65⟩)⟩],none,
    ⟨none,none⟩,Confinement.sampleEnv,true⟩

/-- What `rootBorrows` leaves, once the administrator has signed in. -/
def rootLent : Outcome := Application.serve plainConfig ((lendingDay.take 3).foldl (step plainConfig) rootServer) rootBorrows

theorem markingEncoder_steady : Steady markingEncoder := by
  rintro salt salt' (_ | raw) <;> rfl

theorem rootBorrows_resendable : Resendable rootBorrows.action := trivial

theorem resent_requests_settle_day :
    rootLent.server.db.loansOf 1 = 1 ∧
      (Application.serve plainConfig (step plainConfig rootLent.server (.tick 30))
          (again rootBorrows rootLent 2 Confinement.sampleEnv true)).server.db = rootLent.server.db :=
  ⟨by decide +kernel,
    resent_requests_settle plainConfig markingEncoder_steady (intact_unlent rfl) (lendingDay.take 3) rootBorrows_resendable
      30 2 Confinement.sampleEnv true⟩

end LibraryServer.Resending
