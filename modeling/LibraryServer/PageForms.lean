import LibraryServer.BookBatches
import LibraryServer.LendingDesk

/-!
The forms of the book pages. The page that lists the books sends the ids of the checked
rows to be deleted, the borrow page sends those to be borrowed. The ids are printed by
the server and read by it again, each once, so that a form is about the books that are
checked. What is borrowed is what is checked, never more than the server allows; the
deletion of books from a page that is out of date may stop halfway, and nobody is told.
-/
namespace LibraryServer.PageForms
open LibraryServer.Java LibraryServer.Tables LibraryServer.Programs LibraryServer.Runs LibraryServer.Entities
open LibraryServer.Repositories LibraryServer.LendingServices LibraryServer.LendingInvariant LibraryServer.LendingOutcomes
open LibraryServer.JwtFilter LibraryServer.Accounts LibraryServer.BorrowedViews LibraryServer.Controllers
open LibraryServer.Catalogue LibraryServer.BookBatches LibraryServer.BorrowSelection LibraryServer.BorrowSessions
open LibraryServer.LendingDesk (LongReader checkedIds plainReader)
set_option linter.unusedSimpArgs false

/-! ### The list of books -/

/-- `BookService.searchBooks`. -/
def searchBooks (env : Env) (db : Db) (searchQuery : String) : List (Id × Book) :=
  let found := fun (row : Id × Book) =>
    containingIgnoreCase env.lower row.2.title searchQuery || containingIgnoreCase env.lower row.2.author searchQuery
  match parseLong (trim searchQuery) with
  | some id => db.books.rows.filter (fun row => found row || row.1 == id)
  | none => db.books.rows.filter found

structure ViewBooksPage where
  books : List (Id × Book)
  searchQuery : Option String
  isAdmin : Bool
  messages : List (String × String)

/-- GET /view_books; the images are changed on the page only. The messages of a
    redirection are replaced by an empty list. -/
def BookController.viewBooks (env : Env) (authentication : Option Authentication) (search : Option String) (db : Db) :
    ViewBooksPage :=
  let books :=
    match search with
    | none => db.books.rows
    | some query => if trim query = "" then db.books.rows else searchBooks env db query
  { books := books.map (fun row => (row.1,{ row.2 with image := some (shownImage env row.2.image) }))
    searchQuery := search
    isAdmin := authentication.any (fun auth => auth.authorities.any (fun authority => authority == "ROLE_ADMIN"))
    messages := [] }

/-- POST /delete_books. -/
def BookController.deleteBooks (bookIds : List (Option Id)) (db : Db) : MessagePage × Db :=
  match transactional (LendingServices.deleteBooks (some bookIds)) db with
  | (.error e,after) => (⟨"redirect:/view_books",[("error","Error deleting books: " ++ e.message)]⟩,after)
  | (.ok _,after) => (⟨"redirect:/view_books",[("success","Books deleted successfully!")]⟩,after)

theorem searchBooks_eq (env : Env) (db : Db) {query : String} (filled : trim query ≠ "") :
    searchBooks env db query = getBooks env db (some query) := by
  cases isId : parseLong (trim query) <;> simp [searchBooks,getBooks,filled,isId]

/-- The page lists the books that the borrow page lists for the same search. -/
theorem viewBooks_books (env : Env) (authentication : Option Authentication) (search : Option String) (db : Db) :
    (BookController.viewBooks env authentication search db).books =
      (getBooks env db search).map (fun row => (row.1,{ row.2 with image := some (shownImage env row.2.image) })) := by
  cases search with
  | none => rfl
  | some query =>
    rw [BookController.viewBooks]
    split_ifs with blank
    · rw [getBooks,if_pos blank]
    · rw [searchBooks_eq env db blank]

theorem getBooks_sub (env : Env) (db : Db) (search : Option String) : getBooks env db search ⊆ db.books.rows := by
  cases search with
  | none => exact List.Subset.refl _
  | some query =>
    rw [getBooks]
    split_ifs
    · exact List.Subset.refl _
    · split <;> exact List.filter_subset_self _

/-! ### Ids that are sent -/

/-- The ids that a page has printed are read back. -/
theorem read_printed (reader : LongReader) {ids : List Id} (longs : ∀ b ∈ ids, IsLong b) :
    (ids.map (fun b => toString b)).mapM reader.read = some (ids.map some) := by
  induction ids with
  | nil => rfl
  | cons b rest ih =>
    have others := ih (fun c member => longs c (List.mem_cons_of_mem _ member))
    rw [List.map_cons,List.mapM_cons,reader.printed b (longs b List.mem_cons_self),others]
    rfl

/-! ### Deleting the checked books -/

/-- The checked rows of the page, in its order. -/
def ViewBooksPage.checked (page : ViewBooksPage) (marks : Id → Bool) : List Id := (page.books.map Prod.fst).filter marks

/-- `deleteBooks` of the script: it sends nothing if no row is checked, or if the user does
    not confirm. -/
def ViewBooksPage.deleteBooks (page : ViewBooksPage) (marks : Id → Bool) (confirmed : Bool) : Option (List String) :=
  let selectedBookIds := (page.checked marks).map (fun b => toString b)
  if selectedBookIds = [] then none
  else if confirmed then some selectedBookIds
  else none

/-- The ids before the first that is not the id of a book. -/
def present (db : Db) (ids : List Id) : List Id := ids.takeWhile (fun b => (db.books.find b).isSome)

theorem present_unknown {db : Db} {b : Id} (unknown : db.books.find b = none) (rest : List Id) : present db (b :: rest) = [] := by
  simp [present,unknown]

theorem present_known {db : Db} {b : Id} {book : Book} (found : db.books.find b = some book) (rest : List Id) :
    present db (b :: rest) = b :: present db rest := by
  simp [present,found]

theorem present_erase {db : Db} {b : Id} {ids : List Id} (other : b ∉ ids) :
    present { db with books := db.books.erase b } ids = present db ids := by
  induction ids with
  | nil => rfl
  | cons c rest ih =>
    have different : c ≠ b := fun same => other (same ▸ List.mem_cons_self)
    have unmoved : (db.books.erase b).find c = db.books.find c := by rw [find_erase,if_neg different]
    have others := ih (fun member => other (List.mem_cons_of_mem _ member))
    simp only [present] at others
    simp only [present,List.takeWhile_cons,unmoved,others]

/-- The loop over different ids throws at the first book that is referred to, or deletes
    all books before the first id that is unknown. -/
theorem deleteEach_run {ids : List Id} (distinct : ids.Nodup) (db : Db) :
    (∃ b ∈ present db ids, db.bookReferenced b = true) ∧
        (∃ after, (Prog.forEach deleteBook (ids.map some)).run store db = (.error .dataIntegrityViolation,after)) ∨
      (∀ b ∈ present db ids, db.bookReferenced b = false) ∧
        ((∀ b ∈ ids, (db.books.find b).isSome = true) ∧ (Prog.forEach deleteBook (ids.map some)).run store db =
            (.ok (),{ db with books := db.books.eraseAll (present db ids) }) ∨
          (∃ b ∈ ids, db.books.find b = none) ∧ ∃ text, (Prog.forEach deleteBook (ids.map some)).run store db =
            (.error (.checkedException text),{ db with books := db.books.eraseAll (present db ids) })) := by
  induction ids generalizing db with
  | nil => exact .inr ⟨fun b member => (by cases member),.inl ⟨fun b member => (by cases member),rfl⟩⟩
  | cons b rest ih =>
    obtain ⟨other,later⟩ := List.nodup_cons.mp distinct
    rw [List.map_cons,Prog.forEach,run_bind]
    cases found : db.books.find b with
    | none =>
      rw [present_unknown found,deleteBook_missing found]
      exact .inr ⟨fun b member => (by cases member),.inr ⟨⟨b,List.mem_cons_self,found⟩,_,rfl⟩⟩
    | some book =>
      have stored : (db.books.find b).isSome = true := by rw [found]; rfl
      rw [present_known found]
      cases referenced : db.bookReferenced b with
      | true =>
        rw [deleteBook_referenced found referenced]
        exact .inl ⟨⟨b,List.mem_cons_self,referenced⟩,db,rfl⟩
      | false =>
        rw [deleteBook_run referenced,if_pos stored]
        have unmoved : ∀ c ∈ rest, ({ db with books := db.books.erase b } : Db).books.find c = db.books.find c := by
          intro c member
          have different : c ≠ b := fun same => other (same ▸ member)
          rw [find_erase,if_neg different]
        rcases ih later { db with books := db.books.erase b } with ⟨⟨c,member,isReferenced⟩,run⟩ | ⟨free,run⟩
        · rw [present_erase other] at member
          exact .inl ⟨⟨c,List.mem_cons_of_mem _ member,isReferenced⟩,run⟩
        · rw [present_erase other] at free run
          refine .inr ⟨?_,?_⟩
          · intro c member
            rcases List.mem_cons.mp member with rfl | member
            · exact referenced
            · exact free c member
          · rcases run with ⟨all,run⟩ | ⟨⟨c,member,unknown⟩,run⟩
            · refine .inl ⟨?_,run⟩
              intro c member
              rcases List.mem_cons.mp member with rfl | member
              · exact stored
              · rw [← unmoved c member]
                exact all c member
            · exact .inr ⟨⟨c,List.mem_cons_of_mem _ member,(unmoved c member).symm.trans unknown⟩,run⟩

/-- What becomes of the checked books. Those before the first that is gone are deleted,
    unless one of them is lent or in the inventory, and no other; success is reported
    exactly if all are, but the page that follows does not show what is reported. -/
structure DeletesChecked (db : Db) (checked : List Id) (page : MessagePage) (after : Db) : Prop where
  otherwise : after = { db with books := after.books }
  kept : (∃ b ∈ present db checked, db.bookReferenced b = true) → after.books = db.books
  deleted : (∀ b ∈ present db checked, db.bookReferenced b = false) →
    ∀ row, row ∈ after.books.rows ↔ row ∈ db.books.rows ∧ row.1 ∉ present db checked
  reported :
    page = ⟨"redirect:/view_books",[("success","Books deleted successfully!")]⟩ ∧
        (∀ b ∈ checked, (db.books.find b).isSome = true ∧ db.bookReferenced b = false) ∨
      (∃ text, page = ⟨"redirect:/view_books",[("error","Error deleting books: " ++ text)]⟩) ∧
        ∃ b ∈ checked, db.books.find b = none ∨ db.bookReferenced b = true
  silent : ∀ env authentication search, (BookController.viewBooks env authentication search after).messages = []

theorem deleteBooks_checked {checked : List Id} (distinct : checked.Nodup) (db : Db) :
    DeletesChecked db checked (BookController.deleteBooks (checked.map some) db).1
      (BookController.deleteBooks (checked.map some) db).2 := by
  rw [BookController.deleteBooks]
  rcases deleteEach_run distinct db with ⟨⟨b,member,referenced⟩,after,run⟩ | ⟨free,run⟩
  · have undone : transactional (LendingServices.deleteBooks (some (checked.map some))) db =
        (.error .dataIntegrityViolation,db) := transactional_thrown rfl run
    rw [undone]
    refine ⟨rfl,fun _ => rfl,fun free => ?_,.inr ⟨⟨_,rfl⟩,b,List.takeWhile_subset _ member,.inr referenced⟩,fun _ _ _ => rfl⟩
    rw [free b member] at referenced
    cases referenced
  · have lands : ∀ row : Id × Book, row ∈ (db.books.eraseAll (present db checked)).rows ↔
        row ∈ db.books.rows ∧ row.1 ∉ present db checked := by
      intro row
      simp [rows_eraseAll]
    have none_referenced : ¬ ∃ b ∈ present db checked, db.bookReferenced b = true := by
      rintro ⟨b,member,referenced⟩
      rw [free b member] at referenced
      cases referenced
    rcases run with ⟨all,run⟩ | ⟨⟨b,member,unknown⟩,text,run⟩
    · have done : transactional (LendingServices.deleteBooks (some (checked.map some))) db = _ := transactional_ok run
      have whole : present db checked = checked := List.takeWhile_eq_self_iff.mpr all
      rw [done]
      refine ⟨rfl,fun some_referenced => absurd some_referenced none_referenced,fun _ => lands,
        .inl ⟨rfl,fun b member => ⟨all b member,free b (whole.symm ▸ member)⟩⟩,fun _ _ _ => rfl⟩
    · have halfway : transactional (LendingServices.deleteBooks (some (checked.map some))) db =
          (.error (.checkedException text),{ db with books := db.books.eraseAll (present db checked) }) := by
        rw [transactional,Prog.transact,LendingServices.deleteBooks,run]
        rfl
      rw [halfway]
      exact ⟨rfl,fun some_referenced => absurd some_referenced none_referenced,fun _ => lands,
        .inr ⟨⟨_,rfl⟩,b,member,.inl unknown⟩,fun _ _ _ => rfl⟩

/-- The checked rows are stored books, each named once. -/
theorem checked_deletable (env : Env) (authentication : Option Authentication) (search : Option String) (db : Db)
    (marks : Id → Bool) :
    Deletable db.books ((BookController.viewBooks env authentication search db).checked marks) := by
  have listed : (BookController.viewBooks env authentication search db).books.map Prod.fst =
      (getBooks env db search).map Prod.fst := by
    rw [viewBooks_books,List.map_map]
    rfl
  rw [ViewBooksPage.checked,listed]
  refine ⟨(getBooks_nodup env db search).filter _,?_⟩
  intro b member
  obtain ⟨row,shown,rfl⟩ := List.mem_map.mp (List.mem_filter.mp member).1
  exact Option.isSome_iff_exists.mpr ⟨row.2,find_eq_some.mpr (getBooks_sub env db search shown)⟩

/-- What a page sends, however old it is, is read back as the books that are checked on
    it, and the deletion concerns no other book. -/
theorem checked_books_deleted (reader : LongReader) (env : Env) (authentication : Option Authentication)
    (search : Option String) {old : Db} (longs : ∀ row ∈ old.books.rows, IsLong row.1) (marks : Id → Bool) (confirmed : Bool)
    {values : List String}
    (sent : (BookController.viewBooks env authentication search old).deleteBooks marks confirmed = some values) (db : Db) :
    ∃ ids, values.mapM reader.read = some ids ∧
      DeletesChecked db ((BookController.viewBooks env authentication search old).checked marks)
        (BookController.deleteBooks ids db).1 (BookController.deleteBooks ids db).2 := by
  have deletable := checked_deletable env authentication search old marks
  rw [ViewBooksPage.deleteBooks] at sent
  generalize (BookController.viewBooks env authentication search old).checked marks = checked at deletable sent
  split_ifs at sent
  cases sent
  have stored : ∀ b ∈ checked, IsLong b := by
    intro b member
    obtain ⟨book,found⟩ := Option.isSome_iff_exists.mp (deletable.2 b member)
    exact longs (b,book) (find_eq_some.mp found)
  exact ⟨checked.map some,read_printed reader stored,deleteBooks_checked deletable.1 db⟩

/-- All of three books are checked, but the last one is gone since. -/
theorem checked_books_deleted_shelf :
    ∃ ids, ["1","2","3"].mapM plainReader.read = some ids ∧
      DeletesChecked { fullShelfDb with books := fullShelfDb.books.erase 3 }
        ((BookController.viewBooks Confinement.sampleEnv none none fullShelfDb).checked (fun _ => true))
        (BookController.deleteBooks ids { fullShelfDb with books := fullShelfDb.books.erase 3 }).1
        (BookController.deleteBooks ids { fullShelfDb with books := fullShelfDb.books.erase 3 }).2 := by
  refine checked_books_deleted plainReader Confinement.sampleEnv none none ?_ (fun _ => true) true (by decide) _
  have keys : ∀ row ∈ fullShelfDb.books.rows, row.1 ∈ [1,2,3] := by decide
  intro row member
  have few : ∀ b ∈ ([1,2,3] : List Id), IsLong b := by simp [IsLong]
  exact few row.1 (keys row member)

/-! ### Borrowing the checked books -/

/-- The books whose boxes are checked, in the order of the page. -/
def selected (page : BorrowSelection.Page) : List Id := page.checkedBoxes.map Checkbox.book

/-- The user can have the book: a copy is left, and the user does not have one. -/
def Obtainable (db : Db) (k b : Id) : Prop :=
  ∃ book, db.books.find b = some book ∧ 0 < book.availableCopies.toInt ∧ db.borrowedBooks.count (ofPair b k) = 0

theorem lendable_selected (db : Db) (k : Id) (page : BorrowSelection.Page) :
    Lendable db k ((selected page).map some) ↔ ∀ b, page.isChecked b = true → Obtainable db k b := by
  constructor
  · intro lendable b checked
    have member : b ∈ selected page := (mem_checkedBoxes page b).mpr checked
    obtain ⟨c,book,⟨rfl⟩,able⟩ := lendable.each (some b) (List.mem_map_of_mem member)
    exact ⟨book,able⟩
  · intro able
    have distinct : (selected page).Nodup := page.distinct.sublist (List.filter_sublist.map _)
    refine ⟨distinct.map (fun _ _ => Option.some.inj),?_⟩
    intro id member
    obtain ⟨b,isSelected,rfl⟩ := List.mem_map.mp member
    obtain ⟨book,rest⟩ := able b ((mem_checkedBoxes page b).mp isSelected)
    exact ⟨b,book,rfl,rest⟩

def limitMessage : String := "❌ You can only borrow up to 3 books at a time. Please select fewer books."

theorem prepareBorrowPage_message {env : Env} {db : Db} {userId : Id} {username : String} {query message : Option String}
    {page : BorrowPage} (prepared : prepareBorrowPage env db userId username query message = .ok page) :
    page.message = message := by
  rw [prepareBorrowPage] at prepared
  obtain ⟨borrowed,_,prepared⟩ := Fallible.bind_eq_ok.mp prepared
  obtain ⟨admin,_,prepared⟩ := Fallible.bind_eq_ok.mp prepared
  cases prepared
  rfl

/-- Only a request for more than three books is told that there is a limit. -/
theorem borrowFor_message (env : Env) {ids : List (Option Id)} (few : ids.length ≤ 3) (username : String) (k u : Id)
    (shownId : Option Id) (db : Db) {page : BorrowPage}
    (answered : (borrowFor env (some ids) username k u shownId db).1 = .ok (some page)) :
    page.message ≠ some limitMessage := by
  have said : ∀ {after : Db} {text : String},
      (prepareBorrowPage env after u username none (some text)).map (fun page => some { page with verifiedUserId := shownId }) =
        .ok (some page) → text ≠ limitMessage → page.message ≠ some limitMessage := by
    intro after text prepared other
    obtain ⟨plain,isPlain,isPage⟩ := Fallible.map_eq_ok.mp prepared
    cases isPage
    rw [prepareBorrowPage_message isPlain]
    simpa using other
  have unavailable : ∀ text : String, "❌ Book with ID " ++ text ++ " is not available for borrowing." ≠ limitMessage := by
    intro text same
    have characters := congrArg (fun s => s.toList[2]?) same
    simp [limitMessage,String.toList_append] at characters
  have forUser : ∀ text : String, "✅ Books borrowed successfully for User ID: " ++ text ++
      "! Check the user's borrowed books list." ≠ limitMessage := by
    intro text same
    have characters := congrArg (fun s => s.toList[0]?) same
    simp [limitMessage,String.toList_append] at characters
  unfold borrowFor at answered
  split at answered
  · exact said answered (by decide)
  · exact said answered (by decide)
  · rename_i ids isIds
    cases isIds
    rw [if_neg (Nat.not_lt.mpr few)] at answered
    split at answered
    · cases answered
    · exact said answered (unavailable _)
    · split at answered
      · cases answered
      · split at answered
        · cases answered
        · split_ifs at answered
          · exact said answered (forUser _)
          · exact said answered (by decide)

/-- The checked books are lent to the user, or one of them cannot be and nothing has
    changed, or another user has the same name and the request is refused; and the page
    does not say that they are too many. -/
def BorrowsChecked (db : Db) (k : Id) (name : String) (page : BorrowSelection.Page) :
    Except Exc (Option BorrowPage) × Session × Db → Prop
  | (answer,_,after) =>
    ((∀ b, page.isChecked b = true → Obtainable db k b) ∧ Lent db after k ((selected page).map some) ∨
        (∃ b, page.isChecked b = true ∧ ¬ Obtainable db k b) ∧ after = db ∨
        (∃ other ∈ db.users.rows, other.2.username = some name ∧ other.1 ≠ k) ∧ answer = .error .incorrectResultSize ∧
          after = db) ∧
      ∀ shown, answer = .ok (some shown) → shown.message ≠ some limitMessage

/-- The parameter `bookIds` for these books; without a book it is missing. -/
def parameter : List Id → Option (List (Option Id))
  | [] => none
  | ids => some (ids.map some)

/-- The form sends the checked books. -/
theorem checkedIds_selected (reader : LongReader) {page : BorrowSelection.Page} (longs : ∀ b ∈ selected page, IsLong b) :
    checkedIds reader page = some (parameter (selected page)) := by
  have values : page.checkedBoxes.map Checkbox.value = (selected page).map (fun b => toString b) := by
    rw [selected,List.map_map]
    rfl
  have sent : page.checkedBoxes.mapM (fun box => reader.read box.value) = some ((selected page).map some) := by
    rw [← read_printed reader longs,← values,List.mapM_map]
    rfl
  rw [checkedIds,sent,selected]
  cases page.checkedBoxes <;> rfl

/-- A form without books is answered as one with an empty list. -/
theorem borrowFor_parameter (env : Env) (ids : List Id) (name : String) (k u : Id) (shownId : Option Id) (db : Db) :
    borrowFor env (parameter ids) name k u shownId db = borrowFor env (some (ids.map some)) name k u shownId db := by
  cases ids <;> rfl

/-- Whatever a user who is no administrator has clicked and searched for, the form sends
    the checked books, and they are borrowed all or not at all. -/
theorem checked_books_lent (reader : LongReader) (env : Env) {auth : Authentication} {name : String}
    (own : auth.name = some name) {db : Db} {k : Id} {requester : User} (stored : db.users.find k = some requester)
    (isName : requester.username = some name) (role : requester.role ≠ some .ADMIN) (session : Session) (books : Shown)
    (actions : List Action) (longs : ∀ b, (actions.foldl browse (opened books)).page.isChecked b = true → IsLong b) :
    ∃ ids, checkedIds reader (actions.foldl browse (opened books)).page = some ids ∧
      BorrowsChecked db k name (actions.foldl browse (opened books)).page
        (BorrowedBooksController.borrowBooks env ids none (some auth) session db) := by
  have within : (actions.foldl browse (opened books)).page.WithinLimit :=
    run_kept (I := fun s : Browsing => s.page.WithinLimit) (fun _ action within => browse_withinLimit within action)
      (opened_withinLimit books) actions
  generalize (actions.foldl browse (opened books)).page = page at longs within
  have few : ((selected page).map some).length ≤ 3 := by
    rw [List.length_map,selected,List.length_map]
    exact within
  refine ⟨_,checkedIds_selected reader (fun b member => longs b ((mem_checkedBoxes page b).mp member)),?_⟩
  rcases Confinement.requester_lookups stored isName role with ⟨isId,_,isAdmin⟩ | ⟨several,_⟩
  · have handled : BorrowedBooksController.borrowBooks env (parameter (selected page)) none (some auth) session db =
        ((borrowFor env (some ((selected page).map some)) name k k none db).1,session,
          (borrowFor env (some ((selected page).map some)) name k k none db).2) := by
      rw [← borrowFor_parameter]
      simp only [BorrowedBooksController.borrowBooks,usernameOf,Option.bind_some,own,isId,isAdmin]
    rw [handled]
    refine ⟨?_,fun shown answered => borrowFor_message env few name k k none db answered⟩
    rcases borrowFor_after env ((selected page).map some) name k none ⟨requester,stored⟩ with
      ⟨after,_,lendable⟩ | ⟨same,unable⟩
    · rw [after]
      exact .inl ⟨(lendable_selected db k page).mp lendable,lentOut_lent env.clock lendable⟩
    · refine .inr (.inl ⟨?_,same⟩)
      by_contra all
      refine unable ⟨few,(lendable_selected db k page).mpr (fun b checked => ?_)⟩
      by_contra cannot
      exact all ⟨b,checked,cannot⟩
  · have handled : BorrowedBooksController.borrowBooks env (parameter (selected page)) none (some auth) session db =
        (.error .incorrectResultSize,session,db) := by
      simp only [BorrowedBooksController.borrowBooks,usernameOf,Option.bind_some,own,several]
    rw [handled]
    refine ⟨.inr (.inr ⟨?_,rfl,rfl⟩),fun shown answered => by cases answered⟩
    by_contra alone
    have found : findByUsername db.users requester.username = .ok (some (k,requester)) := by
      refine (findByUsername_alone stored).mpr (fun row member same => ?_)
      by_contra other
      exact alone ⟨row,member,same.trans isName,other⟩
    rw [isName] at found
    simp [getUserIdByUsername,found] at several

/-- Both books are checked and borrowed. -/
theorem checked_books_lent_ann :
    ∃ ids, checkedIds plainReader ([Action.toggle 1,.toggle 2].foldl browse (opened twoBooks)).page = some ids ∧
      BorrowsChecked BorrowSessions.shelfDb 1 "ann" ([Action.toggle 1,.toggle 2].foldl browse (opened twoBooks)).page
        (BorrowedBooksController.borrowBooks Confinement.sampleEnv ids none (some Confinement.annAuth) ⟨none,none⟩
          BorrowSessions.shelfDb) := by
  refine checked_books_lent plainReader Confinement.sampleEnv rfl (show BorrowSessions.shelfDb.users.find 1 = some _ from rfl)
    rfl (by decide) ⟨none,none⟩ twoBooks [.toggle 1,.toggle 2] (fun b checked => ?_)
  have shown : b ∈ [1,2] := checkedIn_shown checked
  rcases List.mem_pair.mp shown with rfl | rfl <;> exact ⟨by decide,by decide⟩

end LibraryServer.PageForms
