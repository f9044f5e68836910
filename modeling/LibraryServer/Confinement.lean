import LibraryServer.Controllers
import LibraryServer.LendingInvariant

/-!
What a user who is no administrator can write and read. Borrowing and returning
touch the loans of the requester only and do not depend on the parameters and the
session attributes that are meant for administrators; the pages show lists that
do not depend on the loans of others.
-/
namespace LibraryServer.Confinement
open LibraryServer.Java LibraryServer.Tables LibraryServer.Programs LibraryServer.Entities LibraryServer.Repositories
open LibraryServer.LendingServices LibraryServer.LendingInvariant LibraryServer.JwtFilter LibraryServer.Accounts
open LibraryServer.Fallible LibraryServer.BorrowedViews LibraryServer.Controllers
set_option linter.unusedSimpArgs false

/-! ### Writes -/

/-- The loans of everybody but one user are the same. -/
def OnlyLoansOf (u : Id) (before after : Db) : Prop :=
  ∀ row : Id × BorrowedBook, row.2.user ≠ u → (row ∈ after.borrowedBooks.rows ↔ row ∈ before.borrowedBooks.rows)

theorem onlyLoansOf_refl (u : Id) (db : Db) : OnlyLoansOf u db db := fun _ _ => Iff.rfl

theorem onlyLoansOf_insert {u : Id} {before db after : Db} (only : OnlyLoansOf u before db) {loan : BorrowedBook}
    (own : loan.user = u) (loans : after.borrowedBooks = db.borrowedBooks.insert loan) : OnlyLoansOf u before after := by
  intro row other
  rw [loans,mem_insert,← only row other]
  constructor
  · rintro (old | rfl)
    · exact old
    · exact absurd own other
  · exact .inl

theorem onlyLoansOf_erase {u : Id} {before db after : Db} (only : OnlyLoansOf u before db) {row : Id × BorrowedBook}
    (stored : row ∈ db.borrowedBooks.rows) (own : row.2.user = u) (loans : after.borrowedBooks = db.borrowedBooks.erase row.1) :
    OnlyLoansOf u before after := by
  intro other foreign
  rw [loans,mem_erase,← only other foreign]
  refine ⟨fun kept => kept.1,fun member => ⟨member,?_⟩⟩
  intro same
  rw [rows_key_inj member stored same] at foreign
  exact foreign own

/-- Borrowing for a user. -/
theorem borrowBooksForUser_confined (clock : Nat → Int) (bookIds : Option (List (Option Id))) (u : Id) (before : Db) :
    Keeps store (OnlyLoansOf u before) (borrowBooksForUser clock bookIds (some u)) := by
  refine borrowBooksForUser_keeps (fun v n bookId db borrower _ only => ?_) bookIds
  cases borrower
  rcases borrowBook_cases clock n db u bookId with ⟨e,_,run⟩ | ⟨b,book,_,_,_,_,run⟩
  · rw [run]
    exact only
  · rw [run]
    exact onlyLoansOf_insert only rfl rfl

/-- Returning for a user. -/
theorem returnBook_confined (bookId : Option Id) (u : Id) (before : Db) :
    Keeps store (OnlyLoansOf u before) (returnBook bookId (some u)) := by
  intro db only
  rcases returnBook_outcomes db bookId (some u) with
    ⟨run,_⟩ | ⟨k,loan,_,⟨rfl⟩,stored,⟨_,_,_,run⟩ | ⟨_,_,run⟩⟩
  · rw [run]
    exact only
  · rw [run]
    exact onlyLoansOf_erase only stored rfl rfl
  · rw [run]
    exact onlyLoansOf_erase only stored rfl rfl

theorem returnBooks_confined (bookIds userIds : Option (List (Option Id))) (u : Id) (before : Db) :
    Keeps store (OnlyLoansOf u before) (returnBooks bookIds userIds (some u) (some "USER")) := by
  refine returnBooks_keeps (fun bookId target own => ?_) bookIds userIds
  rw [own (by decide)]
  exact returnBook_confined bookId u before

/-- The requests that write loans. -/
inductive LendingPost where
  | borrow (bookIds : Option (List (Option Id))) (userId : Option Id) (session : Session)
  | giveBack (bookIds : Option (List (Option Id))) (bookIdsAndUserIds : Option (List String))

/-- The database after a request. -/
def LendingPost.after (env : Env) (auth : Authentication) (db : Db) : LendingPost → Db
  | .borrow bookIds userId session =>
    (BorrowedBooksController.borrowBooks env bookIds userId (some auth) session db).2.2
  | .giveBack bookIds bookIdsAndUserIds =>
    (ReturnBooksController.returnBooks bookIds bookIdsAndUserIds (some auth) db).2

/-- Two requests to the same handler with the same `bookIds`. -/
def SameBooks : LendingPost → LendingPost → Prop
  | .borrow bookIds _ _, .borrow bookIds' _ _ => bookIds' = bookIds
  | .giveBack bookIds _, .giveBack bookIds' _ => bookIds' = bookIds
  | _, _ => False

/-- What the lookups by the requester's name say: who it is, or nothing. -/
theorem requester_lookups {users : Table User} {k : Id} {requester : User} {name : String}
    (stored : users.find k = some requester) (own : requester.username = some name) (role : requester.role ≠ some .ADMIN) :
    (getUserIdByUsername users name = .ok k ∧ getUserRoleByUsername users name = .ok requester.role ∧
        Controllers.isAdmin users name = .ok false) ∨
      (getUserIdByUsername users name = .error .incorrectResultSize ∧
        getUserRoleByUsername users name = .error .incorrectResultSize ∧
        Controllers.isAdmin users name = .error .incorrectResultSize) := by
  have notAdmin : equalsIgnoreCase "ADMIN" (some (shown (requester.role.map Role.name))) = false := by
    cases isRole : requester.role with
    | none => decide
    | some r =>
      cases r with
      | USER => decide
      | ADMIN => exact absurd isRole role
  rcases findByUsername_stored stored with found | several
  · rw [own] at found
    simp [getUserIdByUsername,getUserRoleByUsername,Controllers.isAdmin,found,notAdmin]
  · rw [own] at several
    simp [getUserIdByUsername,getUserRoleByUsername,Controllers.isAdmin,several]

theorem borrowFor_db (env : Env) (bookIds : Option (List (Option Id))) (username : String) (k u : Id) (shownId : Option Id)
    (db : Db) :
    (borrowFor env bookIds username k u shownId db).2 = db ∨
      (borrowFor env bookIds username k u shownId db).2 =
        (transactional (borrowBooksForUser env.clock bookIds (some u)) db).2 := by
  unfold borrowFor
  split
  · exact .inl rfl
  · exact .inl rfl
  · split_ifs
    · exact .inl rfl
    · split
      · exact .inl rfl
      · exact .inl rfl
      · refine .inr ?_
        split
        · simp_all
        · split
          · simp_all
          · split_ifs <;> simp_all

/-- The service call that a non-administrator's return form leads to. -/
theorem giveBack_db {users : Table User} {name : String} {k : Id} {r : Option Role} (role : r ≠ some .ADMIN)
    (isId : getUserIdByUsername users name = .ok k) (isRole : getUserRoleByUsername users name = .ok r)
    (bookIds : Option (List (Option Id))) (bookIdsAndUserIds : Option (List String)) {auth : Authentication}
    (isName : auth.name = some name) {db : Db} (isUsers : db.users = users) :
    (ReturnBooksController.returnBooks bookIds bookIdsAndUserIds (some auth) db).2 =
      if r = none then db
      else (transactional (returnBooks (some (bookIds.getD [])) none (some k) (some "USER")) db).2 := by
  have lists : returnLists r bookIds bookIdsAndUserIds = (bookIds.getD [],none,none) := by simp [returnLists,role]
  subst isUsers
  simp only [ReturnBooksController.returnBooks,usernameOf,Option.bind_some,isName,isId,isRole,lists]
  cases r with
  | none => rfl
  | some r =>
    cases r with
    | ADMIN => exact absurd rfl role
    | USER =>
      simp only [roleName,Role.name,reduceCtorEq,if_false]
      split <;> simp_all

/-- Whoever is no administrator writes only own loans, and what is written does
    not depend on the parameters for administrators and the session. -/
theorem non_admin_writes_confined (env : Env) {db : Db} {k : Id} {requester : User}
    (stored : db.users.find k = some requester) (auth : Authentication) (own : requester.username = auth.name)
    (role : requester.role ≠ some .ADMIN) (post : LendingPost) :
    OnlyLoansOf k db (post.after env auth db) ∧
      ∀ other, SameBooks post other → other.after env auth db = post.after env auth db := by
  -- Every request to the same handler with the same books has the same effect.
  suffices effect : ∃ after, OnlyLoansOf k db after ∧ ∀ other, SameBooks post other → other.after env auth db = after by
    obtain ⟨after,only,same⟩ := effect
    have itself : post.after env auth db = after := same post (by cases post <;> rfl)
    rw [itself]
    exact ⟨only,same⟩
  have unchanged : (∀ other : LendingPost, other.after env auth db = db) →
      ∃ after, OnlyLoansOf k db after ∧ ∀ other, SameBooks post other → other.after env auth db = after :=
    fun nothing => ⟨db,onlyLoansOf_refl k db,fun other _ => nothing other⟩
  cases isName : auth.name with
  | none =>
    refine unchanged (fun other => ?_)
    cases other <;> simp [LendingPost.after,BorrowedBooksController.borrowBooks,ReturnBooksController.returnBooks,
      usernameOf,isName]
  | some name =>
    rw [isName] at own
    rcases requester_lookups stored own role with ⟨isId,isRole,notAdmin⟩ | ⟨noId,noRole,noAdmin⟩
    · cases post with
      | borrow bookIds userId session =>
        refine ⟨(borrowFor env bookIds name k k none db).2,?_,?_⟩
        · rcases borrowFor_db env bookIds name k k none db with same | lent
          · rw [same]
            exact onlyLoansOf_refl k db
          · rw [lent]
            exact transact_keeps (borrowBooksForUser_confined env.clock bookIds k db) _ db (onlyLoansOf_refl k db)
        · rintro (⟨_,userId',session'⟩ | _) same
          · cases same
            simp [LendingPost.after,BorrowedBooksController.borrowBooks,usernameOf,isName,isId,notAdmin]
          · cases same
      | giveBack bookIds bookIdsAndUserIds =>
        refine ⟨if requester.role = none then db
          else (transactional (returnBooks (some (bookIds.getD [])) none (some k) (some "USER")) db).2,?_,?_⟩
        · split_ifs
          · exact onlyLoansOf_refl k db
          · exact transact_keeps (returnBooks_confined _ _ k db) _ db (onlyLoansOf_refl k db)
        · rintro (_ | ⟨_,pairs'⟩) same
          · cases same
          · cases same
            exact giveBack_db role isId isRole bookIds pairs' isName rfl
    · refine unchanged (fun other => ?_)
      cases other <;> simp [LendingPost.after,BorrowedBooksController.borrowBooks,ReturnBooksController.returnBooks,
        usernameOf,isName,noId]

/-- What the handlers read at the second of two users' requests. -/
def sampleEnv : Env := ⟨fun _ => 20001,fun s => s,fun _ => false⟩

def annAuth : Authentication := ⟨some "ann",some "ann",["ROLE_USER"]⟩

/-- One more book, of which all copies are there. -/
def spareDb : Db :=
  { sampleDb with books := sampleDb.books.insert ⟨some "Emma",some "Jane Austen",true,none,none,2,2⟩ }

/-- A user asks to borrow it for the other user and gets it. -/
theorem non_admin_writes_confined_ann :
    (LendingPost.after sampleEnv annAuth spareDb (.borrow (some [some 2]) (some 2) ⟨some 2,some true⟩)).borrowedBooks.count
        (ofPair 2 1) = 1 ∧
      OnlyLoansOf 1 spareDb
        (LendingPost.after sampleEnv annAuth spareDb (.borrow (some [some 2]) (some 2) ⟨some 2,some true⟩)) ∧
      ∀ other, SameBooks (.borrow (some [some 2]) (some 2) ⟨some 2,some true⟩) other →
        other.after sampleEnv annAuth spareDb =
          LendingPost.after sampleEnv annAuth spareDb (.borrow (some [some 2]) (some 2) ⟨some 2,some true⟩) :=
  ⟨by decide +kernel,
    non_admin_writes_confined sampleEnv (show spareDb.users.find 1 = some _ from rfl) annAuth rfl (by decide) _⟩

/-! ### Reads -/

/-- Two databases that differ in the loans of others only, and in the inventory. -/
structure Twin (u : Id) (db₁ db₂ : Db) : Prop where
  users : db₁.users = db₂.users
  books : db₁.books = db₂.books
  loans : db₁.borrowedBooks.select (ofUser u) = db₂.borrowedBooks.select (ofUser u)

theorem findByUserId_ofUser (db : Db) (u : Id) : findByUserId db (some u) = db.borrowedBooks.select (ofUser u) := by
  have same : (fun loan : BorrowedBook => some loan.user == some u) = ofUser u := by
    funext loan
    simp [ofUser]
  rw [findByUserId,same]

theorem select_matching (t : Table BorrowedBook) (bookId : Option Id) (u : Id) :
    t.select (matching bookId (some u)) = (t.select (ofUser u)).filter (fun row => some row.2.book == bookId) := by
  simp only [Table.select,List.filter_filter]
  refine List.filter_congr (fun row _ => ?_)
  simp [matching,ofUser]

section
variable {u : Id} {db₁ db₂ : Db}

theorem twin_findByUserId (twin : Twin u db₁ db₂) : findByUserId db₁ (some u) = findByUserId db₂ (some u) := by
  rw [findByUserId_ofUser,findByUserId_ofUser,twin.loans]

theorem twin_getBook (twin : Twin u db₁ db₂) : getBook db₁ = getBook db₂ := by
  funext loan
  rw [getBook,getBook,twin.books]

theorem twin_getUser (twin : Twin u db₁ db₂) : getUser db₁ = getUser db₂ := by
  funext loan
  rw [getUser,getUser,twin.users]

theorem countUp_alike (u b : Id) (book : Book) : Alike store (Twin u) (countUp b book) := by
  unfold countUp
  split_ifs
  · refine alike_call (fun db₁ db₂ _ => rfl) ?_ (fun _ => alike_pure _ _)
    intro db₁ db₂ _ log twin reply
    cases reply
    exact ⟨twin.users,by simp only [replay_cons,replay_nil,store_apply,applyWrite,twin.books],twin.loans⟩
  · exact alike_pure _ _

/-- The inventory may differ, but is no part of what is compared. -/
theorem releaseInventory_alike (u : Id) (bookId : Option Id) : Alike store (Twin u) (releaseInventory bookId) := by
  intro db₁ db₂ twin
  rw [releaseInventory_run bookId db₁,releaseInventory_run bookId db₂]
  exact ⟨rfl,twin.users,twin.books,twin.loans⟩

/-- A round of `returnBooks` for the user goes the same way in both. -/
theorem returnBook_alike (bookId : Option Id) (u : Id) : Alike store (Twin u) (returnBook bookId (some u)) := by
  refine alike_call ?_ ?_ ?_
  · intro db₁ db₂ twin
    simp only [store_answer,answer,select_matching,twin.loans]
  · intro db₁ db₂ rows log twin reply
    cases reply
    exact twin
  · intro rows
    cases rows with
    | nil => exact alike_pure _ _
    | cons row rest =>
      refine alike_call ?_ ?_ ?_
      · intro db₁ db₂ twin
        rfl
      · intro db₁ db₂ _ log twin reply
        cases reply
        exact ⟨twin.users,twin.books,by simp only [replay_cons,replay_nil,store_apply,applyWrite,select_erase,twin.loans]⟩
      · intro _
        refine alike_call ?_ ?_ ?_
        · intro db₁ db₂ twin
          simp only [store_answer,answer,twin.books]
        · intro db₁ db₂ book log twin reply
          cases bookId with
          | none => cases reply
          | some b =>
            cases reply
            exact twin
        · intro found
          cases found with
          | none => exact alike_throw _ _
          | some book =>
            show Alike store (Twin u) (countUp book.1 book.2 >>= fun _ => releaseInventory bookId)
            exact alike_bind (countUp_alike u book.1 book.2) (fun _ => releaseInventory_alike u bookId)

theorem returnBooks_alike (bookIds userIds : Option (List (Option Id))) (u : Id) :
    Alike store (Twin u) (returnBooks bookIds userIds (some u) (some "USER")) := by
  have user : equalsIgnoreCase "admin" (some "USER") = false := by decide
  unfold returnBooks
  rw [user]
  split
  · exact alike_throw _ _
  · exact alike_throw _ _
  · simp only [Bool.false_and,Bool.false_eq_true,if_false,returnTargets]
    refine alike_forEach _ (fun pair listed => ?_)
    obtain ⟨bookId,_,rfl⟩ := List.mem_map.mp listed
    exact returnBook_alike bookId u

/-! The lists for the pages, in both databases. -/

theorem twin_getUserBorrowedBooks (twin : Twin u db₁ db₂) (clock : Nat → Int) :
    getUserBorrowedBooks clock db₁ (some u) = getUserBorrowedBooks clock db₂ (some u) := by
  simp only [getUserBorrowedBooks,twin_findByUserId twin,mapToDto,twin_getBook twin,twin_getUser twin]

theorem twin_prepareBorrowPage (twin : Twin u db₁ db₂) (env : Env) (username : String) (search message : Option String) :
    prepareBorrowPage env db₁ u username search message = prepareBorrowPage env db₂ u username search message := by
  simp only [prepareBorrowPage,twin_getUserBorrowedBooks twin,getBooks,twin.users,twin.books]

theorem twin_listReturns (twin : Twin u db₁ db₂) (error message : Option String) :
    listReturns db₁ (some u) (some .USER) error message = listReturns db₂ (some u) (some .USER) error message := by
  have user : equalsIgnoreCase "admin" (some Role.USER.name) = false := by decide
  simp only [listReturns,roleName,ok_bind,getBorrowedBooks,user,Bool.false_eq_true,if_false,twin_findByUserId twin,toReturnDto,
    twin_getBook twin,twin_getUser twin]

theorem twin_viewBorrowed (twin : Twin u db₁ db₂) :
    viewBorrowed db₁ (some u) "USER" = viewBorrowed db₂ (some u) "USER" := by
  have user : roleOf (toUpperCase "USER") = .ok .USER := by rfl
  simp only [viewBorrowed,user,reduceCtorEq,if_false,twin_findByUserId twin,toViewDto,twin_getBook twin,twin_getUser twin]

theorem twin_searchBorrowedBooks (twin : Twin u db₁ db₂) (lower : String → String) (query : String) :
    searchBorrowedBooks lower db₁ query (some u) "USER" = searchBorrowedBooks lower db₂ query (some u) "USER" := by
  have user : roleOf (toUpperCase "USER") = .ok .USER := by rfl
  have matching : matchesSearch lower db₁ query = matchesSearch lower db₂ query := by
    funext loan
    simp only [matchesSearch,twin_getBook twin]
  simp only [searchBorrowedBooks,user,ok_bind,reduceCtorEq,if_false,twin_findByUserId twin,matching,toViewDto,
    twin_getBook twin,twin_getUser twin]

theorem twin_dashboard (twin : Twin u db₁ db₂) (clock : Nat → Int) (user : User) :
    getDashboardDataForUser clock db₁ (u,user) = getDashboardDataForUser clock db₂ (u,user) := by
  simp only [getDashboardDataForUser,twin_findByUserId twin,dashboardDto,twin_getBook twin,twin.books]

theorem twin_library (twin : Twin u db₁ db₂) (clock : Nat → Int) :
    getBorrowedBooksByUserId clock db₁ (some u) = getBorrowedBooksByUserId clock db₂ (some u) := by
  simp only [getBorrowedBooksByUserId,twin_findByUserId twin,libraryDto,twin_getBook twin]

/-! The handlers, in both databases. -/

section
variable {requester : User} {auth : Authentication} {name : String} (twin : Twin u db₁ db₂)
  (stored : db₁.users.find u = some requester)
include twin stored

theorem twin_getDashboardView (own : requester.username = auth.name) (env : Env) :
    DashboardController.getDashboardView env (some auth) db₁ = DashboardController.getDashboardView env (some auth) db₂ := by
  rcases findByUsername_stored stored with found | several
  · rw [own] at found
    simp only [DashboardController.getDashboardView,← twin.users,found,twin_dashboard twin]
  · rw [own] at several
    simp only [DashboardController.getDashboardView,← twin.users,several]

theorem twin_getLibraryPage (own : requester.username = auth.name) (env : Env) :
    LibraryController.getLibraryPage env (some auth) db₁ = LibraryController.getLibraryPage env (some auth) db₂ := by
  cases isName : auth.name with
  | none => simp only [LibraryController.getLibraryPage,usernameOf,Option.bind_some,isName,twin.books]
  | some name =>
    rw [isName] at own
    rcases findByUsername_stored stored with found | several
    · rw [own] at found
      simp only [LibraryController.getLibraryPage,usernameOf,Option.bind_some,isName,← twin.users,← twin.books,found,
        twin_library twin]
    · rw [own] at several
      simp only [LibraryController.getLibraryPage,usernameOf,Option.bind_some,isName,← twin.users,several]

variable (own : requester.username = some name) (role : requester.role = some .USER) (isName : auth.name = some name)
include own role isName

theorem twin_showReturnPage (userIdInput : Option Id) :
    ReturnBooksController.showReturnPage (some auth) userIdInput db₁ =
      ReturnBooksController.showReturnPage (some auth) userIdInput db₂ := by
  have notAdmin : requester.role ≠ some .ADMIN := by simp [role]
  rcases requester_lookups stored own notAdmin with ⟨isId,isRole,_⟩ | ⟨noId,_,_⟩
  · simp only [ReturnBooksController.showReturnPage,usernameOf,Option.bind_some,isName,← twin.users,isId,isRole,role,ok_bind,
      Option.some.injEq,reduceCtorEq,if_false,twin_listReturns twin]
  · simp only [ReturnBooksController.showReturnPage,usernameOf,Option.bind_some,isName,← twin.users,noId,error_bind]

theorem twin_returnBooks (bookIds : Option (List (Option Id))) (bookIdsAndUserIds : Option (List String)) :
    (ReturnBooksController.returnBooks bookIds bookIdsAndUserIds (some auth) db₁).1 =
      (ReturnBooksController.returnBooks bookIds bookIdsAndUserIds (some auth) db₂).1 := by
  have notAdmin : requester.role ≠ some .ADMIN := by simp [role]
  rcases requester_lookups stored own notAdmin with ⟨isId,isRole,_⟩ | ⟨noId,_,_⟩
  · obtain ⟨same,after⟩ := transact_alike (returnBooks_alike (some (bookIds.getD [])) none u) Exc.isChecked twin
    have lists : returnLists requester.role bookIds bookIdsAndUserIds = (bookIds.getD [],none,none) := by
      simp [returnLists,notAdmin]
    simp only [ReturnBooksController.returnBooks,usernameOf,Option.bind_some,isName,← twin.users,isId,isRole,lists]
    simp only [role,roleName,Role.name,transactional]
    cases run₁ : (returnBooks (some (bookIds.getD [])) none (some u) (some "USER")).transact store Exc.isChecked db₁ with
    | mk outcome₁ after₁ =>
      cases run₂ : (returnBooks (some (bookIds.getD [])) none (some u) (some "USER")).transact store Exc.isChecked db₂ with
      | mk outcome₂ after₂ =>
        rw [run₁,run₂] at same after
        obtain rfl : outcome₁ = outcome₂ := same
        cases outcome₁ <;> exact twin_listReturns after _ _
  · simp only [ReturnBooksController.returnBooks,usernameOf,Option.bind_some,isName,← twin.users,noId]

theorem twin_viewBorrowedBooks (token : auth.authorities.head? = some "ROLE_USER") (env : Env) (searchQuery : Option String) :
    ViewBorrowedBooksController.viewBorrowedBooks env (some auth) searchQuery db₁ =
      ViewBorrowedBooksController.viewBorrowedBooks env (some auth) searchQuery db₂ := by
  have notAdmin : requester.role ≠ some .ADMIN := by simp [role]
  obtain ⟨rest,authorities⟩ : ∃ rest, auth.authorities = "ROLE_USER" :: rest := by
    cases listed : auth.authorities with
    | nil => simp [listed] at token
    | cons first rest =>
      rw [listed] at token
      cases token
      exact ⟨rest,rfl⟩
  have clean : String.ofList (withoutPrefix "ROLE_USER".toList) = "USER" := by decide
  rcases requester_lookups stored own notAdmin with ⟨isId,_,_⟩ | ⟨noId,_,_⟩
  · simp only [ViewBorrowedBooksController.viewBorrowedBooks,isName,← twin.users,isId,ok_bind,authorities,clean,
      twin_viewBorrowed twin,twin_searchBorrowedBooks twin]
  · simp only [ViewBorrowedBooksController.viewBorrowedBooks,isName,← twin.users,noId,error_bind]

theorem twin_getBorrowPage (env : Env) (search : Option String) (userId : Option Id)
    (selectedBookIds verify : Option String) (session : Session) :
    BorrowedBooksController.getBorrowPage env (some auth) search userId selectedBookIds verify session db₁ =
      BorrowedBooksController.getBorrowPage env (some auth) search userId selectedBookIds verify session db₂ := by
  have notAdmin : requester.role ≠ some .ADMIN := by simp [role]
  rcases requester_lookups stored own notAdmin with ⟨isId,_,isUser⟩ | ⟨noId,_,_⟩
  · simp only [BorrowedBooksController.getBorrowPage,usernameOf,Option.bind_some,isName,← twin.users,isId,isUser,
      twin_prepareBorrowPage twin]
  · simp only [BorrowedBooksController.getBorrowPage,usernameOf,Option.bind_some,isName,← twin.users,noId]

end

end

/-- Whoever is no administrator sees the same pages whatever the loans of others
    are, the lists of borrowed books on them included. -/
theorem non_admin_reads_confined {db₁ db₂ : Db} {k : Id} (twin : Twin k db₁ db₂) {requester : User}
    (stored : db₁.users.find k = some requester) (auth : Authentication) (own : requester.username = auth.name)
    (role : requester.role = some .USER) (token : auth.authorities.head? = some "ROLE_USER") (env : Env) :
    (∀ userIdInput, ReturnBooksController.showReturnPage (some auth) userIdInput db₁ =
        ReturnBooksController.showReturnPage (some auth) userIdInput db₂) ∧
      (∀ bookIds bookIdsAndUserIds, (ReturnBooksController.returnBooks bookIds bookIdsAndUserIds (some auth) db₁).1 =
        (ReturnBooksController.returnBooks bookIds bookIdsAndUserIds (some auth) db₂).1) ∧
      (∀ searchQuery, ViewBorrowedBooksController.viewBorrowedBooks env (some auth) searchQuery db₁ =
        ViewBorrowedBooksController.viewBorrowedBooks env (some auth) searchQuery db₂) ∧
      DashboardController.getDashboardView env (some auth) db₁ = DashboardController.getDashboardView env (some auth) db₂ ∧
      LibraryController.getLibraryPage env (some auth) db₁ = LibraryController.getLibraryPage env (some auth) db₂ ∧
      ∀ search userId selectedBookIds verify session,
        BorrowedBooksController.getBorrowPage env (some auth) search userId selectedBookIds verify session db₁ =
          BorrowedBooksController.getBorrowPage env (some auth) search userId selectedBookIds verify session db₂ := by
  have dashboard := twin_getDashboardView twin stored own env
  have library := twin_getLibraryPage twin stored own env
  cases isName : auth.name with
  | none =>
    refine ⟨?_,?_,?_,dashboard,library,?_⟩
    · intro userIdInput
      simp only [ReturnBooksController.showReturnPage,usernameOf,Option.bind_some,isName]
    · intro bookIds bookIdsAndUserIds
      simp only [ReturnBooksController.returnBooks,usernameOf,Option.bind_some,isName]
    · intro searchQuery
      simp only [ViewBorrowedBooksController.viewBorrowedBooks,isName]
    · intro search userId selectedBookIds verify session
      simp only [BorrowedBooksController.getBorrowPage,usernameOf,Option.bind_some,isName]
  | some name =>
    rw [isName] at own
    exact ⟨twin_showReturnPage twin stored own role isName,twin_returnBooks twin stored own role isName,
      twin_viewBorrowedBooks twin stored own role isName token env,dashboard,library,
      twin_getBorrowPage twin stored own role isName env⟩

/-- The sample with one more loan, of the other user. -/
def otherLoanDb : Db :=
  { sampleDb with borrowedBooks := sampleDb.borrowedBooks.insert ⟨1,2,atStartOfDay 20000,some 1,some (atStartOfDay 20014)⟩ }

theorem non_admin_reads_confined_ann :
    Twin 1 sampleDb otherLoanDb ∧
      ∀ searchQuery, ViewBorrowedBooksController.viewBorrowedBooks sampleEnv (some annAuth) searchQuery sampleDb =
        ViewBorrowedBooksController.viewBorrowedBooks sampleEnv (some annAuth) searchQuery otherLoanDb :=
  have twin : Twin 1 sampleDb otherLoanDb := ⟨rfl,rfl,by decide⟩
  ⟨twin,(non_admin_reads_confined twin (show sampleDb.users.find 1 = some _ from rfl) annAuth rfl rfl rfl sampleEnv).2.2.1⟩

end LibraryServer.Confinement
