import LibraryServer.Accounts
import LibraryServer.Catalogue
import LibraryServer.LoanLists
import Mathlib.Logic.Relation

/-!
What can happen to the database. Whatever the handlers are sent, they change it in
six ways only (`Change`), each under a condition that the handler has checked. So
every property that the changes keep is one that all requests keep: loans refer to
stored books and users and have a due date (`Intact`), the counter of a book stays
within what its copies and its loans allow (`Tallied`), and keys are not used again
(`Succeeds`).
-/
namespace LibraryServer.Changes
open LibraryServer.Java LibraryServer.Tables LibraryServer.Programs LibraryServer.Entities LibraryServer.Repositories
open LibraryServer.LendingServices LibraryServer.LendingInvariant LibraryServer.Catalogue
open LibraryServer.LoanLists LibraryServer.Accounts Relation
set_option linter.unusedSimpArgs false

/-! ### Changes -/

/-- The database after a loan has come back: the counter stops at the number of
    copies. -/
def givenBack (db : Db) (k : Id) (loan : BorrowedBook) (book : Book) : Db :=
  { db with
    borrowedBooks := db.borrowedBooks.erase k
    books := countedUp db.books loan.book book
    inventory := released db.inventory (some loan.book) }

/-- One change of the database. -/
inductive Change : Db → Db → Prop
  | putUser {db : Db} {k : Id} (place : db.users.Open k) (user : User) :
      Change db { db with users := db.users.put k user }
  | eraseUser {db : Db} {k : Id} (unreferenced : db.userReferenced k = false) :
      Change db { db with users := db.users.erase k }
  | putBook {db : Db} {k : Id} {book : Book} (place : db.books.Open k) (available : AllAvailable book) :
      Change db { db with books := db.books.put k book }
  | eraseBook {db : Db} {b : Id} (unlent : db.loansOf b = 0) : Change db { db with books := db.books.erase b }
  | lend {db : Db} {b u : Id} {book : Book} (clock : Nat → Int) (n : Nat) (found : db.books.find b = some book)
      (left : 0 < book.availableCopies.toInt) (stored : ∃ user, db.users.find u = some user)
      (free : db.borrowedBooks.count (ofPair b u) = 0) : Change db (lend db b book (newLoan clock n b u))
  | giveBack {db : Db} {k : Id} {loan : BorrowedBook} {book : Book} (out : (k,loan) ∈ db.borrowedBooks.rows)
      (found : db.books.find loan.book = some book) : Change db (givenBack db k loan book)

/-- Any number of changes. -/
abbrev Reaches : Db → Db → Prop := ReflTransGen Change

/-! ### The loans and what they refer to -/

/-- What holds of the loans in every state. -/
structure Intact (db : Db) : Prop extends Refers db, Referring db where
  dated : ∀ row ∈ db.borrowedBooks.rows, row.2.dueDate ≠ none

theorem intact_unlent {db : Db} (unlent : db.borrowedBooks.rows = []) : Intact db := by
  refine ⟨⟨⟨?_⟩,?_⟩,?_,?_⟩
  · simp [unlent]
  · simp [unlent]
  · intro b u
    simp [Table.count,Table.select,unlent]
  · simp [unlent]

/-- Where the loans are the same, only the references can suffer. -/
theorem intact_loans {db after : Db} (intact : Intact db) (loans : after.borrowedBooks = db.borrowedBooks)
    (books : ∀ row ∈ db.borrowedBooks.rows, ∃ book, after.books.find row.2.book = some book)
    (users : ∀ row ∈ db.borrowedBooks.rows, ∃ user, after.users.find row.2.user = some user) : Intact after := by
  refine ⟨⟨⟨?_⟩,?_⟩,?_,?_⟩
  · rw [loans]
    exact books
  · rw [loans]
    exact users
  · rw [loans]
    exact intact.once
  · rw [loans]
    exact intact.dated

theorem put_stays {α : Type} {t : Table α} {k j : Id} (place : t.Open k) (a : α) (stored : ∃ old, t.find j = some old) :
    ∃ new, (t.put k a).find j = some new := by
  obtain ⟨old,found⟩ := stored
  rw [find_put place]
  split_ifs
  · exact ⟨a,rfl⟩
  · exact ⟨old,found⟩

theorem erase_stays {α : Type} {t : Table α} {k j : Id} (other : j ≠ k) (stored : ∃ old, t.find j = some old) :
    ∃ old, (t.erase k).find j = some old := by
  rw [find_erase,if_neg other]
  exact stored

theorem countedUp_stays {books : Table Book} (b : Id) (book : Book) {j : Id} (stored : ∃ old, books.find j = some old) :
    ∃ new, (countedUp books b book).find j = some new := by
  unfold countedUp
  split_ifs
  · exact find_set_stays _ _ stored
  · exact stored

theorem unreferenced_user {db : Db} {k : Id} (unreferenced : db.userReferenced k = false) :
    ∀ row ∈ db.borrowedBooks.rows, row.2.user ≠ k := by
  rintro row out rfl
  have referenced : 0 < db.borrowedBooks.count (ofUser row.2.user) := count_pos.mpr ⟨row,out,by simp [ofUser]⟩
  rw [Db.userReferenced,decide_eq_false_iff_not] at unreferenced
  exact unreferenced referenced

theorem unlent_book {db : Db} {b : Id} (unlent : db.loansOf b = 0) : ∀ row ∈ db.borrowedBooks.rows, row.2.book ≠ b := by
  rintro row out rfl
  have lent : 0 < db.loansOf row.2.book := count_pos.mpr ⟨row,out,by simp [ofBook]⟩
  omega

theorem change_intact {db after : Db} (change : Change db after) (intact : Intact db) : Intact after := by
  obtain ⟨⟨⟨bookStored⟩,userStored⟩,once,dated⟩ := id intact
  cases change with
  | putUser place user =>
    exact intact_loans intact rfl bookStored (fun row out => put_stays place user (userStored row out))
  | eraseUser unreferenced =>
    refine intact_loans intact rfl bookStored (fun row out => ?_)
    exact erase_stays (unreferenced_user unreferenced row out) (userStored row out)
  | putBook place available =>
    exact intact_loans intact rfl (fun row out => put_stays place _ (bookStored row out)) userStored
  | eraseBook unlent =>
    refine intact_loans intact rfl (fun row out => ?_) userStored
    exact erase_stays (unlent_book unlent row out) (bookStored row out)
  | @lend b u book clock n found left stored free =>
    refine ⟨⟨⟨?_⟩,?_⟩,?_,?_⟩
    · intro row out
      rcases mem_insert.mp out with old | rfl
      · exact find_set_stays _ _ (bookStored row old)
      · exact find_set_stays _ _ ⟨book,found⟩
    · intro row out
      rcases mem_insert.mp out with old | rfl
      · exact userStored row old
      · exact stored
    · intro j v
      simp only [lend,count_insert]
      split_ifs with same
      · obtain ⟨rfl,rfl⟩ := ofPair_iff.mp same
        rw [show db.borrowedBooks.count (ofPair (newLoan clock n b u).book (newLoan clock n b u).user) = 0 from free]
      · exact once j v
    · intro row out
      rcases mem_insert.mp out with old | rfl
      · exact dated row old
      · simp [newLoan]
  | giveBack out found =>
    refine ⟨⟨⟨?_⟩,?_⟩,?_,?_⟩
    · intro row left
      exact countedUp_stays _ _ (bookStored row (mem_erase.mp left).1)
    · intro row left
      exact userStored row (mem_erase.mp left).1
    · intro b u
      exact Nat.le_trans (count_erase_le _ _ _) (once b u)
    · intro row left
      exact dated row (mem_erase.mp left).1

theorem reaches_intact {db after : Db} (reaches : Reaches db after) (intact : Intact db) : Intact after := by
  induction reaches with
  | refl => exact intact
  | tail _ change ih => exact change_intact change ih

/-! ### The counters -/

/-- No book has more copies available than it has, and those that are not available
    are lent. -/
def Tallied (db : Db) : Prop :=
  ∀ b book, db.books.find b = some book →
    book.availableCopies.toInt ≤ book.totalCopies.toInt ∧
      book.totalCopies.toInt ≤ book.availableCopies.toInt + db.loansOf b

theorem loansOf_lend (db : Db) (b : Id) (book : Book) (loan : BorrowedBook) (j : Id) :
    (lend db b book loan).loansOf j = db.loansOf j + if loan.book = j then 1 else 0 := by
  simp only [Db.loansOf,lend,count_insert,ofBook,beq_iff_eq]

theorem loansOf_givenBack {db : Db} {k : Id} {loan : BorrowedBook} (out : (k,loan) ∈ db.borrowedBooks.rows) (book : Book)
    (j : Id) : (givenBack db k loan book).loansOf j + (if loan.book = j then 1 else 0) = db.loansOf j := by
  have erased := count_erase out (ofBook j)
  simpa only [Db.loansOf,givenBack,ofBook,beq_iff_eq] using erased

theorem lend_tallied {db : Db} (tallied : Tallied db) {b : Id} {book : Book} {loan : BorrowedBook}
    (found : db.books.find b = some book) (left : 0 < book.availableCopies.toInt) (isBook : loan.book = b) :
    Tallied (lend db b book loan) := by
  intro j other present
  have loans := loansOf_lend db b book loan j
  rw [lend,find_set] at present
  split_ifs at present with same
  · subst same
    rw [found,Option.map_some] at present
    cases present
    have before := tallied j book found
    have less := toInt_pred left
    rw [if_pos isBook] at loans
    dsimp only
    omega
  · have before := tallied j other present
    rw [isBook,if_neg (Ne.symm same)] at loans
    omega

/-- A counter at its maximum stays there, and then the loan was one too many. -/
theorem givenBack_tallied {db : Db} (tallied : Tallied db) {k : Id} {loan : BorrowedBook} {book : Book}
    (out : (k,loan) ∈ db.borrowedBooks.rows) (found : db.books.find loan.book = some book) :
    Tallied (givenBack db k loan book) := by
  intro j other present
  have loans := loansOf_givenBack out book j
  have bounds := tallied loan.book book found
  have before : ∀ row, db.books.find j = some row → row.availableCopies.toInt ≤ row.totalCopies.toInt ∧
      row.totalCopies.toInt ≤ row.availableCopies.toInt + db.loansOf j := tallied j
  rw [givenBack,countedUp] at present
  by_cases same : j = loan.book
  · subst same
    rw [if_pos rfl] at loans
    by_cases room : book.availableCopies < book.totalCopies
    · simp only [if_pos room,find_set,if_true,found,Option.map_some] at present
      cases present
      have more := toInt_succ (Int32.lt_iff_toInt_lt.mp room)
      have less := Int32.lt_iff_toInt_lt.mp room
      dsimp only
      omega
    · simp only [if_neg room,found] at present
      cases present
      have full := (not_congr Int32.lt_iff_toInt_lt).mp room
      omega
  · rw [if_neg (Ne.symm same)] at loans
    have kept : db.books.find j = some other := by
      split_ifs at present
      · rw [find_set,if_neg same] at present
        exact present
      · exact present
    have bound := before other kept
    omega

theorem change_tallied {db after : Db} (change : Change db after) (tallied : Tallied db) : Tallied after := by
  cases change with
  | putUser place user => exact tallied
  | eraseUser unreferenced => exact tallied
  | @putBook k book place available =>
    intro b row present
    rw [find_put place] at present
    split_ifs at present with same
    · cases present
      rw [available]
      omega
    · exact tallied b row present
  | eraseBook unlent =>
    intro b row present
    rw [find_erase] at present
    split_ifs at present
    exact tallied b row present
  | lend clock n found left stored free => exact lend_tallied tallied found left rfl
  | giveBack out found => exact givenBack_tallied tallied out found

theorem reaches_tallied {db after : Db} (reaches : Reaches db after) (tallied : Tallied db) : Tallied after := by
  induction reaches with
  | refl => exact tallied
  | tail _ change ih => exact change_tallied change ih

/-! ### What becomes of a row -/

/-- The keys of the inventory and the books they are for. -/
def stock (inventory : Table Inventory) : List (Id × Option Id) := inventory.rows.map (fun row => (row.1,row.2.book))

/-- From one moment to a later one: keys are not used again, a loan that is still there
    is as it was, and the inventory is for the same books. -/
structure Succeeds (before after : Db) : Prop where
  books : before.books.Becomes (fun _ _ => True) after.books
  users : before.users.Becomes (fun _ _ => True) after.users
  loans : before.borrowedBooks.Becomes Eq after.borrowedBooks
  inventory : stock after.inventory = stock before.inventory

theorem succeeds_refl (db : Db) : Succeeds db db :=
  ⟨becomes_refl (fun _ => trivial) _,becomes_refl (fun _ => trivial) _,becomes_refl (fun _ => rfl) _,rfl⟩

theorem succeeds_trans (a b c : Db) (first : Succeeds a b) (second : Succeeds b c) : Succeeds a c where
  books := becomes_trans (fun _ _ _ _ _ => trivial) first.books second.books
  users := becomes_trans (fun _ _ _ _ _ => trivial) first.users second.users
  loans := becomes_trans (fun _ _ _ earlier later => earlier.trans later) first.loans second.loans
  inventory := second.inventory.trans first.inventory

theorem stock_released (inventory : Table Inventory) (bookId : Option Id) :
    stock (released inventory bookId) = stock inventory := by
  unfold released
  split
  · rfl
  · rename_i k row rest selected
    obtain ⟨stored,_⟩ := select_head selected
    simp only [stock,Table.set,List.map_map]
    refine List.map_congr_left (fun other member => ?_)
    by_cases same : other.1 = k
    · have isRow : other = (k,row) := rows_key_inj member stored same
      simp [isRow]
    · simp [same]

theorem countedUp_becomes (books : Table Book) (b : Id) (book : Book) :
    books.Becomes (fun _ _ => True) (countedUp books b book) := by
  unfold countedUp
  split_ifs
  · exact becomes_set (fun _ => trivial) (fun _ _ => trivial)
  · exact becomes_refl (fun _ => trivial) _

theorem change_succeeds {db after : Db} (change : Change db after) : Succeeds db after := by
  cases change with
  | putUser place user =>
    exact { succeeds_refl db with users := becomes_put (fun _ => trivial) (fun _ _ => trivial) }
  | eraseUser unreferenced => exact { succeeds_refl db with users := becomes_erase (fun _ => trivial) _ _ }
  | putBook place available =>
    exact { succeeds_refl db with books := becomes_put (fun _ => trivial) (fun _ _ => trivial) }
  | eraseBook unlent => exact { succeeds_refl db with books := becomes_erase (fun _ => trivial) _ _ }
  | lend clock n found left stored free =>
    exact
      { succeeds_refl db with
        books := becomes_set (fun _ => trivial) (fun _ _ => trivial)
        loans := becomes_insert (fun _ => rfl) _ _ }
  | giveBack out found =>
    exact
      { succeeds_refl db with
        books := countedUp_becomes _ _ _
        loans := becomes_erase (fun _ => rfl) _ _
        inventory := stock_released _ _ }

theorem reaches_succeeds {db after : Db} (reaches : Reaches db after) : Succeeds db after := by
  induction reaches with
  | refl => exact succeeds_refl db
  | tail _ change ih => exact succeeds_trans _ _ _ ih (change_succeeds change)

/-! ### What the operations do -/

section
variable {start : Db}

theorem borrowBooksForUser_reaches (clock : Nat → Int) (bookIds : Option (List (Option Id))) (userId : Option Id) :
    Keeps store (Reaches start) (borrowBooksForUser clock bookIds userId) := by
  refine borrowBooksForUser_keeps (fun u n bookId db _ stored reached => ?_) bookIds
  rcases borrowBook_cases clock n db u bookId with ⟨e,_,run⟩ | ⟨b,book,_,found,left,free,run⟩
  · rw [run]
    exact reached
  · rw [run]
    exact reached.tail (.lend clock n found left stored free)

/-- The book of a loan is stored, so no round stops after it has deleted the loan. -/
theorem returnBooks_reaches (intact : Intact start) (bookIds userIds : Option (List (Option Id))) (userId : Option Id)
    (role : Option String) : Keeps store (Reaches start) (returnBooks bookIds userIds userId role) := by
  refine returnBooks_keeps (fun bookId target _ db reached => ?_) bookIds userIds
  rcases returnBook_outcomes db bookId target with ⟨run,_⟩ | ⟨k,loan,rfl,_,out,⟨lost,_⟩ | ⟨book,found,run⟩⟩
  · rw [run]
    exact reached
  · obtain ⟨book,found⟩ := (reaches_intact reached intact).bookStored (k,loan) out
    rw [lost] at found
    cases found
  · rw [run]
    exact reached.tail (.giveBack out found)

theorem deleteBooks_reaches (bookIds : Option (List (Option Id))) : Keeps store (Reaches start) (deleteBooks bookIds) := by
  refine deleteBooks_keeps (fun bookId db reached => ?_) bookIds
  rcases deleteBook_cases bookId db with same | ⟨b,unlent,after⟩
  · rw [same]
    exact reached
  · rw [after]
    exact reached.tail (.eraseBook unlent)

theorem deleteUser_reaches (k : Id) (db : Db) : Reaches db (transactional (deleteUser (some k)) db).2 := by
  rw [deleteUser_transaction]
  cases db.users.find k with
  | none => exact .refl
  | some user =>
    cases unreferenced : db.userReferenced k with
    | true => exact .refl
    | false => exact .single (.eraseUser unreferenced)

/-- A service in its transaction. -/
theorem transactional_reaches {α : Type} {p : Service α} {db : Db} (kept : Keeps store (Reaches db) p) :
    Reaches db (transactional p db).2 :=
  transact_keeps kept Exc.isChecked db .refl

end

theorem set_reaches {db : Db} {k : Id} {old : User} (stored : db.users.find k = some old) (user : User) :
    Reaches db { db with users := db.users.set k user } := by
  rw [← put_stored stored]
  exact .single (.putUser (.inr ⟨old,stored⟩) user)

/-- The operations on accounts put one row or remove one. -/
theorem account_reaches (encoder : PasswordEncoder) (missing : OnMissing) (db : Db) (step : AccountStep) :
    Reaches db (account encoder missing db step) := by
  cases step with
  | registerUser salt form =>
    rw [registerUser_db]
    cases stored : stores encoder missing db (.registerUser salt form) with
    | none => exact .refl
    | some row => exact .single (.putUser (stores_open stored) row.2)
  | handleAddUser salt bindingErrors form =>
    rw [handleAddUser_db]
    cases stored : stores encoder missing db (.handleAddUser salt bindingErrors form) with
    | none => exact .refl
    | some row => exact .single (.putUser (stores_open stored) row.2)
  | updateProfile authentication form =>
    rcases updateProfile_db authentication form db with same | ⟨_,k,old,_,_,_,_,_,_,_,_,stored,changed⟩
    · rw [same]
    · rw [changed]
      exact set_reaches stored _
  | deleteUser id =>
    cases id with
    | none =>
      rcases deleteUser_db none db with same | ⟨k,isId,_⟩
      · rw [same]
      · cases isId
    | some k => exact deleteUser_reaches k db

theorem putAll_reaches {rows : List (Id × Book)} (available : ∀ row ∈ rows, AllAvailable row.2) :
    ∀ {db : Db}, db.books.OpenAll rows → Reaches db { db with books := db.books.putAll rows } := by
  induction rows with
  | nil => exact fun _ => .refl
  | cons row rest ih =>
    intro db places
    have first : Change db { db with books := db.books.put row.1 row.2 } :=
      .putBook places.1 (available row List.mem_cons_self)
    exact .head first (ih (fun other member => available other (List.mem_cons_of_mem _ member)) places.2)

theorem catalogue_reaches (missing : OnMissing) (db : Db) (step : CatalogueStep) :
    Reaches db (catalogue missing db step) := by
  have savable := savable_saved missing db step
  rw [catalogue_eq]
  exact putAll_reaches savable.available savable.places

end LibraryServer.Changes
