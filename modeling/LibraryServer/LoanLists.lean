import LibraryServer.Controllers
import LibraryServer.LendingInvariant
import LibraryServer.Texts

/-!
The loans that a page lists. A user's search filters the loans of the user in the
service, an administrator's search filters all loans in the database, and both
agree unless a column that the service looks at is null. The return page chooses
the loans to list by the role alone, so what it lists for an administrator who
asks for one user is right only if nobody else has a loan.
-/
namespace LibraryServer.LoanLists
open LibraryServer.Java LibraryServer.Tables LibraryServer.Entities LibraryServer.Accounts LibraryServer.JwtFilter
open LibraryServer.Fallible LibraryServer.LendingInvariant LibraryServer.BorrowedViews LibraryServer.Controllers
set_option linter.unusedSimpArgs false

/-! ### Searching -/

/-- The entries of some loans. -/
def entries (db : Db) (loans : List Loan) : Except Exc (List ViewBorrowedBooksdto) :=
  loans.mapM (fun loan => toViewDto db loan.2)

/-- The book of a loan has a title or an author with the text in it. -/
def mentions (lower : String → String) (db : Db) (query : String) (loan : BorrowedBook) : Bool :=
  (db.books.find loan.book).any (fun book =>
    containingIgnoreCase lower book.title query || containingIgnoreCase lower book.author query)

theorem eraseDups_nodup {α : Type} [BEq α] [LawfulBEq α] {l : List α} (distinct : l.Nodup) : l.eraseDups = l := by
  induction l with
  | nil => rfl
  | cons a rest ih =>
    obtain ⟨new,distinct⟩ := List.nodup_cons.mp distinct
    have others : rest.filter (fun b => !b == a) = rest := by
      refine List.filter_eq_self.mpr (fun b member => ?_)
      have other : b ≠ a := fun same => new (same ▸ member)
      simpa using other
    rw [List.eraseDups_cons,others,ih distinct]

theorem entries_distinct (db : Db) {loans : List Loan} (sub : loans.Sublist db.borrowedBooks.rows) :
    loans.eraseDups.mapM (fun loan => toViewDto db loan.2) = entries db loans := by
  rw [eraseDups_nodup (sub.nodup (rows_nodup db.borrowedBooks)),entries]

theorem view_shown {db : Db} (refers : Refers db) {row : Loan} (out : row ∈ db.borrowedBooks.rows)
    (dated : row.2.dueDate ≠ none) : ∃ dto, toViewDto db row.2 = .ok dto := by
  obtain ⟨book,isBook⟩ := refers.bookStored row out
  obtain ⟨user,isUser⟩ := refers.userStored row out
  obtain ⟨date,isDate⟩ := Option.ne_none_iff_exists'.mp dated
  simp [toViewDto,getBook,getUser,getDueDate,isBook,isUser,isDate]

theorem search_admin (lower : String → String) (db : Db) (query : String) (userId : Option Id) :
    searchBorrowedBooks lower db query userId "ADMIN" = entries db (findByBookTitleOrAuthor lower db query) := by
  exact entries_distinct db List.filter_sublist

theorem search_user (lower : String → String) (db : Db) (query : String) (userId : Option Id) :
    searchBorrowedBooks lower db query userId "USER" =
      (findByUserId db userId).filterM (fun loan => matchesSearch lower db query loan.2) >>=
        fun loans => loans.eraseDups.mapM (fun loan => toViewDto db loan.2) := rfl

theorem view_user (db : Db) (userId : Option Id) : viewBorrowed db userId "USER" = entries db (findByUserId db userId) := by
  exact entries_distinct db List.filter_sublist

/-- Both searches return; the user's result is that of the administrator, and that
    of the list without a search, each restricted to the loans asked for. -/
def SearchesAgree (lower : String → String) (db : Db) (query : String) (u : Id) : Prop :=
  ∃ out found own,
    searchBorrowedBooks lower db query (some u) "USER" = .ok out ∧
    searchBorrowedBooks lower db query (some u) "ADMIN" = .ok found ∧ viewBorrowed db (some u) "USER" = .ok own ∧
    out = restricted (fun loan => ofUser u loan.2) (findByBookTitleOrAuthor lower db query) found ∧
    out = restricted (fun loan => mentions lower db query loan.2) (findByUserId db (some u)) own

/-- The search gets through: the book has a title and, unless the title matches, an author. -/
def Searchable (lower : String → String) (query : String) (book : Book) : Prop :=
  ∃ title, book.title = some title ∧ (contains (lower title) (lower query) = true ∨ book.author ≠ none)

/-- The filter of the service returns exactly on such books, and then agrees with the query. -/
theorem matchesSearch_run {lower : String → String} {db : Db} {query : String} {loan : BorrowedBook} {book : Book}
    (stored : db.books.find loan.book = some book) :
    (Searchable lower query book ∧ matchesSearch lower db query loan = .ok (mentions lower db query loan)) ∨
      (¬ Searchable lower query book ∧ matchesSearch lower db query loan = .error .nullPointer) := by
  rw [matchesSearch,getBook,mentions,stored]
  simp only [ok_bind,Option.any_some]
  cases isTitle : book.title with
  | none => exact .inr ⟨by simp [Searchable,isTitle],rfl⟩
  | some title =>
    by_cases inTitle : contains (lower title) (lower query) = true
    · exact .inl ⟨⟨title,isTitle,.inl inTitle⟩,by simp [containingIgnoreCase,inTitle]⟩
    · cases isAuthor : book.author with
      | none => exact .inr ⟨by simp [Searchable,isTitle,isAuthor,inTitle],by simp [inTitle]⟩
      | some author =>
        exact .inl ⟨⟨title,isTitle,.inr (by simp [isAuthor])⟩,by simp [containingIgnoreCase,inTitle]⟩

/-- The search gets through on every loan of the user. -/
def AllSearchable (lower : String → String) (db : Db) (query : String) (u : Id) : Prop :=
  ∀ row ∈ db.borrowedBooks.rows, row.2.user = u → ∀ book, db.books.find row.2.book = some book →
    Searchable lower query book

theorem mem_findByUserId {db : Db} {u : Id} {row : Loan} :
    row ∈ findByUserId db (some u) ↔ row ∈ db.borrowedBooks.rows ∧ row.2.user = u := by
  simp [findByUserId,mem_select]

theorem search_user_through {lower : String → String} {db : Db} (refers : Refers db) {query : String} {u : Id}
    (through : AllSearchable lower db query u) :
    searchBorrowedBooks lower db query (some u) "USER" =
      entries db ((findByUserId db (some u)).filter (fun loan => mentions lower db query loan.2)) := by
  have total : ∀ row ∈ findByUserId db (some u), matchesSearch lower db query row.2 = .ok (mentions lower db query row.2) := by
    intro row member
    obtain ⟨out,isOwn⟩ := mem_findByUserId.mp member
    obtain ⟨book,stored⟩ := refers.bookStored row out
    rcases matchesSearch_run stored with ⟨_,run⟩ | ⟨stuck,_⟩
    · exact run
    · exact absurd (through row out isOwn book stored) stuck
  rw [search_user,filterM_total total,ok_bind]
  exact entries_distinct db (List.filter_sublist.trans List.filter_sublist)

theorem search_user_returns {lower : String → String} {db : Db} {query : String} {u : Id} {out : List ViewBorrowedBooksdto}
    (run : searchBorrowedBooks lower db query (some u) "USER" = .ok out) : AllSearchable lower db query u := by
  intro row member isOwn book stored
  rw [search_user] at run
  obtain ⟨kept,filtered,_⟩ := bind_eq_ok.mp run
  obtain ⟨taken,returned⟩ := filterM_returns filtered row (mem_findByUserId.mpr ⟨member,isOwn⟩)
  rcases matchesSearch_run stored with ⟨through,_⟩ | ⟨_,thrown⟩
  · exact through
  · rw [thrown] at returned
    cases returned

/-- Filtering by the query and then by the user, or the other way round. -/
theorem found_own (lower : String → String) (db : Db) (query : String) (u : Id) :
    (findByBookTitleOrAuthor lower db query).filter (fun loan => ofUser u loan.2) =
      (findByUserId db (some u)).filter (fun loan => mentions lower db query loan.2) := by
  rw [findByBookTitleOrAuthor,Table.select,findByUserId,Table.select,List.filter_filter,List.filter_filter]
  exact List.filter_congr (fun row _ => by simp [ofUser,mentions,Bool.and_comm])

/-- The searches agree exactly if every loan of the user is of a book on which the
    search gets through. -/
theorem searches_agree_iff (lower : String → String) {db : Db} (refers : Refers db)
    (dated : ∀ row ∈ db.borrowedBooks.rows, row.2.dueDate ≠ none) (query : String) (u : Id) :
    SearchesAgree lower db query u ↔ AllSearchable lower db query u := by
  have shown : ∀ p : BorrowedBook → Bool, ∃ out, entries db (db.borrowedBooks.select p) = .ok out := by
    intro p
    refine mapM_returns.mpr (fun row member => ?_)
    have out := (mem_select.mp member).1
    exact view_shown refers out (dated row out)
  constructor
  · rintro ⟨_,_,_,run,_⟩
    exact search_user_returns run
  · intro through
    have run := search_user_through refers through
    obtain ⟨found,isFound⟩ : ∃ out, entries db (findByBookTitleOrAuthor lower db query) = .ok out := shown _
    obtain ⟨own,isOwn⟩ : ∃ out, entries db (findByUserId db (some u)) = .ok out := shown _
    have fromFound := mapM_filter (fun loan : Loan => ofUser u loan.2) isFound
    have fromOwn := mapM_filter (fun loan : Loan => mentions lower db query loan.2) isOwn
    rw [found_own] at fromFound
    exact ⟨_,found,own,run.trans fromOwn,(search_admin ..).trans isFound,(view_user ..).trans isOwn,
      Except.ok.inj (fromOwn.symm.trans fromFound),rfl⟩

theorem searches_agree_sample :
    Refers sampleDb ∧ (∀ row ∈ sampleDb.borrowedBooks.rows, row.2.dueDate ≠ none) ∧
      SearchesAgree Texts.lowered sampleDb "herbert" 1 := by
  have inv : Conserved sampleDb := by decide
  have dated : ∀ row ∈ sampleDb.borrowedBooks.rows, row.2.dueDate ≠ none := by decide
  refine ⟨inv.toRefers,dated,?_⟩
  refine (searches_agree_iff Texts.lowered inv.toRefers dated "herbert" 1).mpr ?_
  intro row member _ book stored
  cases List.mem_singleton.mp member
  cases stored
  exact ⟨"Dune",rfl,.inr (by simp)⟩

/-- The lent book has no author, as the form allows. -/
def anonymousDb : Db :=
  { sampleDb with books := Table.empty.insert ⟨some "Beowulf",none,true,some "default.jpg",none,1,2⟩ }

/-- The user's search for another book fails, where an administrator's finds nothing. -/
theorem search_stuck :
    Refers anonymousDb ∧ (∀ row ∈ anonymousDb.borrowedBooks.rows, row.2.dueDate ≠ none) ∧
      searchBorrowedBooks Texts.lowered anonymousDb "dune" (some 1) "ADMIN" = .ok [] ∧
      ¬ SearchesAgree Texts.lowered anonymousDb "dune" 1 := by
  have inv : Conserved anonymousDb := by decide
  have thrown : searchBorrowedBooks Texts.lowered anonymousDb "dune" (some 1) "USER" = .error .nullPointer := by decide
  refine ⟨inv.toRefers,by decide,by decide,?_⟩
  rintro ⟨out,_,_,run,_⟩
  cases thrown.symm.trans run

/-! ### The return page -/

/-- The loans that the page should list for a user of this id and role; there are
    none to list if the user that an administrator asks for does not exist. -/
def asked (db : Db) (k : Id) (role : Role) (userIdInput : Option Id) : Option (List Loan) :=
  match role, userIdInput with
  | .USER, _ => some (findByUserId db (some k))
  | .ADMIN, none => some (findAll db)
  | .ADMIN, some id => if existsById db.users id then some (findByUserId db (some id)) else none

/-- The page lists the loans asked for, or nothing and an error. -/
def ListsAsked (db : Db) (loans : Option (List Loan)) (outcome : Except Exc ReturnPage) : Prop :=
  match loans with
  | some loans => ∃ page dtos, outcome = .ok page ∧ page.borrowedBooks = some dtos ∧
      loans.mapM (fun loan => toReturnDto db loan.2) = .ok dtos
  | none => ∃ page error, outcome = .ok page ∧ page.borrowedBooks = some [] ∧ page.error = some error

/-- What makes the list right: what is listed has due dates, and an administrator
    who asks for a user gets all loans, so they have to be the user's. -/
def RightList (db : Db) (k : Id) (role : Role) (userIdInput : Option Id) : Prop :=
  match role, userIdInput with
  | .USER, _ => ∀ row ∈ db.borrowedBooks.rows, row.2.user = k → row.2.dueDate ≠ none
  | .ADMIN, none => ∀ row ∈ db.borrowedBooks.rows, row.2.dueDate ≠ none
  | .ADMIN, some id =>
    existsById db.users id = true → ∀ row ∈ db.borrowedBooks.rows, row.2.user = id ∧ row.2.dueDate ≠ none

theorem return_shown {db : Db} (refers : Refers db) {row : Loan} (out : row ∈ db.borrowedBooks.rows) :
    (∃ dto, toReturnDto db row.2 = .ok dto) ↔ row.2.dueDate ≠ none := by
  obtain ⟨book,isBook⟩ := refers.bookStored row out
  obtain ⟨user,isUser⟩ := refers.userStored row out
  cases isDate : row.2.dueDate <;> simp [toReturnDto,getBook,getUser,getDueDate,isBook,isUser,isDate]

theorem returns_shown {db : Db} (refers : Refers db) {loans : List Loan} (sub : loans ⊆ db.borrowedBooks.rows) :
    (∃ dtos, loans.mapM (fun loan => toReturnDto db loan.2) = .ok dtos) ↔ ∀ row ∈ loans, row.2.dueDate ≠ none := by
  rw [mapM_returns]
  exact forall₂_congr (fun row member => return_shown refers (sub member))

/-- The entries of all loans are those of one user exactly if all loans are the user's. -/
theorem all_of_user {db : Db} (refers : Refers db) (u : Id) :
    (∃ dtos, (findAll db).mapM (fun loan => toReturnDto db loan.2) = .ok dtos ∧
        (findByUserId db (some u)).mapM (fun loan => toReturnDto db loan.2) = .ok dtos) ↔
      ∀ row ∈ db.borrowedBooks.rows, row.2.user = u ∧ row.2.dueDate ≠ none := by
  constructor
  · rintro ⟨dtos,all,own⟩ row out
    have dated := (returns_shown refers (List.Subset.refl _)).mp ⟨dtos,all⟩
    have lengths := (mapM_ok.mp own).length_eq.trans (mapM_ok.mp all).length_eq.symm
    have whole : findByUserId db (some u) = findAll db := List.filter_sublist.eq_of_length lengths
    have isOwn : row ∈ findByUserId db (some u) := whole ▸ out
    exact ⟨(mem_findByUserId.mp isOwn).2,dated row out⟩
  · intro all
    obtain ⟨dtos,shown⟩ := (returns_shown refers (List.Subset.refl _)).mpr (fun row out => (all row out).2)
    have whole : findByUserId db (some u) = findAll db :=
      List.filter_eq_self.mpr (fun row out => by simp [(all row out).1])
    exact ⟨dtos,shown,whole ▸ shown⟩

theorem getBorrowedBooks_user (db : Db) (target : Option Id) :
    getBorrowedBooks db target Role.USER.name = (findByUserId db target).mapM (fun loan => toReturnDto db loan.2) := rfl

/-- The service lists all loans for an administrator, whoever is asked for. -/
theorem getBorrowedBooks_admin (db : Db) (target : Option Id) :
    getBorrowedBooks db target Role.ADMIN.name = (findAll db).mapM (fun loan => toReturnDto db loan.2) := rfl

theorem listReturns_lists {db : Db} {target : Option Id} {role : Role} {loans listed : List Loan}
    (isListed : getBorrowedBooks db target role.name = listed.mapM (fun loan => toReturnDto db loan.2)) :
    ListsAsked db (some loans) (listReturns db target (some role) none none) ↔
      ∃ dtos, listed.mapM (fun loan => toReturnDto db loan.2) = .ok dtos ∧
        loans.mapM (fun loan => toReturnDto db loan.2) = .ok dtos := by
  rw [listReturns,roleName,ok_bind,isListed]
  cases listed.mapM (fun loan => toReturnDto db loan.2) with
  | error e => simp [ListsAsked]
  | ok dtos => simp [ListsAsked]

/-- For a user whom the lookup by name finds, the page is right exactly if the list is. -/
theorem listed_iff {db : Db} (refers : Refers db) {auth : Authentication} {name : String} (own : auth.name = some name)
    {k : Id} {requester : User} (found : findByUsername db.users (some name) = .ok (some (k,requester))) {role : Role}
    (isRole : requester.role = some role) (userIdInput : Option Id) :
    ListsAsked db (asked db k role userIdInput) (ReturnBooksController.showReturnPage (some auth) userIdInput db) ↔
      RightList db k role userIdInput := by
  have isId : getUserIdByUsername db.users name = .ok k := by rw [getUserIdByUsername,found]
  have roleFound : getUserRoleByUsername db.users name = .ok (some role) := by
    rw [getUserRoleByUsername,found]
    exact congrArg Except.ok isRole
  rw [ReturnBooksController.showReturnPage,usernameOf,Option.bind_some,own]
  simp only [isId,roleFound,ok_bind]
  cases role with
  | USER =>
    have other : ¬ some Role.USER = some Role.ADMIN := by decide
    rw [if_neg other,asked,listReturns_lists (getBorrowedBooks_user db _)]
    simp only [and_self]
    have sub : findByUserId db (some k) ⊆ db.borrowedBooks.rows := List.filter_sublist.subset
    rw [returns_shown refers sub]
    simp [RightList,mem_findByUserId]
  | ADMIN =>
    rw [if_pos rfl]
    cases userIdInput with
    | none =>
      rw [asked,listReturns_lists (getBorrowedBooks_admin db none)]
      simp only [and_self]
      exact returns_shown refers (List.Subset.refl _)
    | some id =>
      rw [asked]
      by_cases known : existsById db.users id = true
      · simp only [known,if_true]
        rw [listReturns_lists (getBorrowedBooks_admin db (some id)),RightList,all_of_user refers]
        simp [known]
      · simp [known,ListsAsked,RightList]

/-- The return page lists the loans asked for exactly if nobody else has the name of
    the user and the list is right. -/
theorem return_page_iff {db : Db} (refers : Refers db) {auth : Authentication} {k : Id} {requester : User}
    (stored : db.users.find k = some requester) {name : String} (named : requester.username = some name)
    (own : auth.name = some name) {role : Role} (isRole : requester.role = some role) (userIdInput : Option Id) :
    ListsAsked db (asked db k role userIdInput) (ReturnBooksController.showReturnPage (some auth) userIdInput db) ↔
      (∀ row ∈ db.users.rows, row.2.username = some name → row.1 = k) ∧ RightList db k role userIdInput := by
  have alone := findByUsername_alone stored
  rw [named] at alone
  rcases findByUsername_stored stored with found | several
  · rw [named] at found
    rw [listed_iff refers own found isRole]
    exact ⟨fun right => ⟨alone.mp found,right⟩,And.right⟩
  · rw [named] at several
    have thrown : ReturnBooksController.showReturnPage (some auth) userIdInput db = .error .incorrectResultSize := by
      rw [ReturnBooksController.showReturnPage,usernameOf,Option.bind_some,own]
      simp only [getUserIdByUsername,several,error_bind]
    refine iff_of_false ?_ ?_
    · rw [thrown]
      cases asked db k role userIdInput <;> simp [ListsAsked]
    · rintro ⟨only,_⟩
      rw [alone.mpr only] at several
      cases several

def bobAuth : Authentication := ⟨some "bob",some "bob",["ROLE_ADMIN"]⟩

theorem return_page_sample :
    Refers sampleDb ∧
      ListsAsked sampleDb (asked sampleDb 2 .ADMIN (some 1))
        (ReturnBooksController.showReturnPage (some bobAuth) (some 1) sampleDb) := by
  have inv : Conserved sampleDb := by decide
  refine ⟨inv.toRefers,?_⟩
  have stored : sampleDb.users.find 2 =
      some ⟨some "Bob Ray",some "bob",some "hash",some "bob@x.org",some "2",some "+1",some .ADMIN,none⟩ := rfl
  refine (return_page_iff inv.toRefers stored rfl rfl rfl (some 1)).mpr ⟨by decide,?_⟩
  intro _ row member
  cases List.mem_singleton.mp member
  exact ⟨rfl,by simp⟩

/-- An administrator who asks for the own loans is shown those of another user. -/
theorem return_page_foreign :
    Refers sampleDb ∧ findByUserId sampleDb (some 2) = [] ∧
      ¬ ListsAsked sampleDb (asked sampleDb 2 .ADMIN (some 2))
        (ReturnBooksController.showReturnPage (some bobAuth) (some 2) sampleDb) := by
  have inv : Conserved sampleDb := by decide
  refine ⟨inv.toRefers,rfl,?_⟩
  rintro ⟨page,dtos,run,listed,shown⟩
  cases run
  cases shown
  cases listed

end LibraryServer.LoanLists
