import LibraryServer.LendingServices

/-!
Copies are conserved. In a conserved database every loan refers to a stored book
and a stored user, a user has a book at most once, and the counter of every book
and its loans add up to its copies. One round of each service either throws and
leaves the database alone, or makes a change that keeps this (`lend`,
`takeBack`); so does a whole service call, and so does every sequence of them.
-/
namespace LibraryServer.LendingInvariant
open LibraryServer.Java LibraryServer.Tables LibraryServer.Programs LibraryServer.Entities LibraryServer.Repositories
open LibraryServer.LendingServices
set_option linter.unusedSimpArgs false

/-- The counter of every book and its loans add up to its copies. -/
def Balanced (db : Db) : Prop :=
  ∀ b book, db.books.find b = some book →
    0 ≤ book.availableCopies.toInt ∧ book.availableCopies.toInt + db.loansOf b = book.totalCopies.toInt

/-- Loans are loans of stored books. -/
structure Stocked (db : Db) : Prop where
  bookStored : ∀ row ∈ db.borrowedBooks.rows, ∃ book, db.books.find row.2.book = some book

/-- Loans refer to stored books and users. -/
structure Refers (db : Db) : Prop extends Stocked db where
  userStored : ∀ row ∈ db.borrowedBooks.rows, ∃ user, db.users.find row.2.user = some user

/-- Loans refer to stored books, and a user has a book at most once. -/
structure Referring (db : Db) : Prop extends Stocked db where
  once : ∀ b u, db.borrowedBooks.count (ofPair b u) ≤ 1

/-- The lending invariant. -/
structure Conserved (db : Db) : Prop extends Refers db, Referring db where
  balanced : Balanced db

/-- The part of the invariant that counts loans, without the references. -/
structure Counted (db : Db) : Prop where
  once : ∀ b u, db.borrowedBooks.count (ofPair b u) ≤ 1
  balanced : Balanced db

theorem Conserved.counted {db : Db} (inv : Conserved db) : Counted db := ⟨inv.once,inv.balanced⟩

theorem balanced_iff (db : Db) :
    Balanced db ↔ ∀ row ∈ db.books.rows, 0 ≤ row.2.availableCopies.toInt ∧
      row.2.availableCopies.toInt + db.loansOf row.1 = row.2.totalCopies.toInt := by
  constructor
  · intro balanced row member
    exact balanced row.1 row.2 (find_eq_some.mpr member)
  · intro books b book found
    exact books (b,book) (find_eq_some.mp found)

theorem conserved_iff (db : Db) :
    Conserved db ↔
      (∀ row ∈ db.borrowedBooks.rows, (db.books.find row.2.book).isSome ∧ (db.users.find row.2.user).isSome ∧
        db.borrowedBooks.count (ofPair row.2.book row.2.user) ≤ 1) ∧
      Balanced db := by
  constructor
  · intro inv
    refine ⟨fun row member => ⟨?_,?_,inv.once _ _⟩,inv.balanced⟩
    · exact Option.isSome_iff_exists.mpr (inv.bookStored row member)
    · exact Option.isSome_iff_exists.mpr (inv.userStored row member)
  · rintro ⟨loans,balanced⟩
    refine ⟨⟨⟨?_⟩,?_⟩,?_,balanced⟩
    · intro row member
      exact Option.isSome_iff_exists.mp (loans row member).1
    · intro row member
      exact Option.isSome_iff_exists.mp (loans row member).2.1
    · intro b u
      by_contra many
      -- A pair that is lent twice is lent at all, so one of its rows was checked.
      obtain ⟨row,member,rfl,rfl⟩ := lent_iff.mp (show 0 < db.borrowedBooks.count (ofPair b u) by omega)
      exact many (loans row member).2.2

instance (db : Db) : Decidable (Balanced db) := decidable_of_iff _ (balanced_iff db).symm
instance (db : Db) : Decidable (Conserved db) := decidable_of_iff _ (conserved_iff db).symm

/-! ### Lending one copy -/

/-- A copy of a book goes out with a new loan row. -/
def lend (db : Db) (b : Id) (book : Book) (loan : BorrowedBook) : Db :=
  { db with
    borrowedBooks := db.borrowedBooks.insert loan
    books := db.books.set b { book with availableCopies := book.availableCopies - 1 } }

/-- The loan row that the `n`-th round writes. -/
def newLoan (clock : Nat → Int) (n : Nat) (b u : Id) : BorrowedBook where
  book := b
  user := u
  borrowedDate := atStartOfDay (clock (2 * n))
  borrowCount := some 1
  dueDate := some (atStartOfDay (clock (2 * n + 1) + 14))

theorem borrowBook_ok (clock : Nat → Int) (n : Nat) {db : Db} {b u : Id} {book : Book} (found : db.books.find b = some book)
    (left : 0 < book.availableCopies.toInt) (free : db.borrowedBooks.count (ofPair b u) = 0) :
    (borrowBook clock u n (some b)).run store db = (.ok (),lend db b book (newLoan clock n b u)) := by
  have some_left : ¬ book.availableCopies ≤ 0 := not_le_zero.mpr left
  have no_loan : db.borrowedBooks.select (matching (some b) (some u)) = [] := by
    rw [matching_some]
    exact List.length_eq_zero_iff.mp free
  rw [borrowBook,run_findBookById,found]
  simp only [Option.map_some,some_left,if_false]
  rw [run_findByBookIdAndUserId,no_loan]
  simp only [ne_eq,not_true_eq_false,if_false]
  rw [run_saveLoan db free,run_saveBook_last]
  rfl

/-- A round of `borrowBooksForUser` throws and changes nothing, or lends. -/
theorem borrowBook_cases (clock : Nat → Int) (n : Nat) (db : Db) (u : Id) (bookId : Option Id) :
    (∃ e, e.isChecked = false ∧ (borrowBook clock u n bookId).run store db = (.error e,db)) ∨
      ∃ b book, bookId = some b ∧ db.books.find b = some book ∧ 0 < book.availableCopies.toInt ∧
        db.borrowedBooks.count (ofPair b u) = 0 ∧
        (borrowBook clock u n bookId).run store db = (.ok (),lend db b book (newLoan clock n b u)) := by
  cases bookId with
  | none => exact .inl ⟨_,rfl,by rw [borrowBook,run_findBookById_null]⟩
  | some b =>
    cases found : db.books.find b with
    | none => exact .inl ⟨.runtimeException "Book not found",rfl,by rw [borrowBook,run_findBookById,found]; rfl⟩
    | some book =>
      by_cases left : 0 < book.availableCopies.toInt
      · by_cases free : db.borrowedBooks.count (ofPair b u) = 0
        · exact .inr ⟨b,book,rfl,found,left,free,borrowBook_ok clock n found left free⟩
        · refine .inl ⟨.runtimeException ("User already borrowed the book '" ++ shown book.title ++ "'"),rfl,?_⟩
          have some_left : ¬ book.availableCopies ≤ 0 := not_le_zero.mpr left
          have has_loan : db.borrowedBooks.select (matching (some b) (some u)) ≠ [] := by
            rw [matching_some]
            exact fun empty => free (List.length_eq_zero_iff.mpr empty)
          rw [borrowBook,run_findBookById,found]
          simp only [Option.map_some,some_left,if_false]
          rw [run_findByBookIdAndUserId]
          simp only [has_loan,ne_eq,not_false_eq_true,if_true,run_throw]
      · refine .inl ⟨.runtimeException ("Book '" ++ shown book.title ++ "' is not available."),rfl,?_⟩
        have none_left : book.availableCopies ≤ 0 := by
          by_contra more
          exact left (not_le_zero.mp more)
        rw [borrowBook,run_findBookById,found]
        simp only [Option.map_some,none_left,if_true,run_throw]

theorem lend_counted {db : Db} (inv : Counted db) {b : Id} {book : Book} {loan : BorrowedBook}
    (found : db.books.find b = some book) (left : 0 < book.availableCopies.toInt) (isBook : loan.book = b)
    (free : db.borrowedBooks.count (ofPair b loan.user) = 0) : Counted (lend db b book loan) := by
  refine ⟨?_,?_⟩
  · intro b' u'
    have before := inv.once b' u'
    rw [show (lend db b book loan).borrowedBooks = db.borrowedBooks.insert loan from rfl,count_insert]
    by_cases same : ofPair b' u' loan = true
    · obtain ⟨rfl,rfl⟩ := ofPair_iff.mp same
      rw [← isBook] at free
      simp [free,same]
    · simp [same,before]
  · intro j other present
    have loans : (lend db b book loan).loansOf j = db.loansOf j + if b = j then 1 else 0 := by
      simp only [Db.loansOf,lend,count_insert,ofBook,isBook,beq_iff_eq]
    simp only [lend,find_set] at present
    rw [loans]
    split_ifs at present with same
    · rw [found,Option.map_some] at present
      cases present
      have total := inv.balanced b book found
      have := toInt_pred left
      subst same
      simp only [if_true]
      push_cast
      omega
    · simpa [Ne.symm same] using inv.balanced j other present

theorem lend_conserved {db : Db} (inv : Conserved db) {b : Id} {book : Book} {loan : BorrowedBook} {user : User}
    (found : db.books.find b = some book) (left : 0 < book.availableCopies.toInt) (isBook : loan.book = b)
    (stored : db.users.find loan.user = some user) (free : db.borrowedBooks.count (ofPair b loan.user) = 0) :
    Conserved (lend db b book loan) := by
  obtain ⟨once,balanced⟩ := lend_counted inv.counted found left isBook free
  refine ⟨⟨⟨?_⟩,?_⟩,once,balanced⟩
  · intro row member
    rcases mem_insert.mp member with old | rfl
    · exact find_set_stays _ _ (inv.bookStored row old)
    · exact find_set_stays _ _ ⟨book,by rw [isBook]; exact found⟩
  · intro row member
    rcases mem_insert.mp member with old | rfl
    · exact inv.userStored row old
    · exact ⟨user,stored⟩

/-- The loop of `borrowBooksForUser` keeps what every round for the stored user keeps. -/
theorem borrowBooksForUser_keeps {I : Db → Prop} {clock : Nat → Int} {userId : Option Id}
    (rounds : ∀ u n bookId db, userId = some u → (∃ user, db.users.find u = some user) → I db →
      I ((borrowBook clock u n bookId).run store db).2) (bookIds : Option (List (Option Id))) :
    Keeps store I (borrowBooksForUser clock bookIds userId) := by
  intro db inv
  cases userId with
  | none =>
    rw [borrowBooksForUser,run_findUserById_null]
    exact inv
  | some u =>
    rw [borrowBooksForUser,run_findUserById]
    cases stored : db.users.find u with
    | none => exact inv
    | some user =>
      cases bookIds with
      | none => exact inv
      | some ids =>
        -- No round touches the users, so the borrower stays stored.
        have round : ∀ item : Option Id × Nat,
            Keeps store (fun db => I db ∧ ∃ user, db.users.find u = some user) (borrowBook clock u item.2 item.1) := by
          rintro item db ⟨inv,present⟩
          refine ⟨rounds u item.2 item.1 db rfl present inv,?_⟩
          rcases borrowBook_cases clock item.2 db u item.1 with ⟨e,_,run⟩ | ⟨b,book,_,_,_,_,run⟩ <;> rw [run] <;> exact present
        exact (keeps_forEach ids.zipIdx (fun item _ => round item) db ⟨inv,user,stored⟩).1

theorem borrowBook_conserved {clock : Nat → Int} {n : Nat} {db : Db} {u : Id} {bookId : Option Id}
    (present : ∃ user, db.users.find u = some user) (inv : Conserved db) :
    Conserved ((borrowBook clock u n bookId).run store db).2 := by
  obtain ⟨user,stored⟩ := present
  rcases borrowBook_cases clock n db u bookId with ⟨e,_,run⟩ | ⟨b,book,_,found,left,free,run⟩
  · rw [run]
    exact inv
  · rw [run]
    exact lend_conserved inv found left rfl stored free

/-! ### Taking one copy back -/

/-- The loan row goes and a copy of its book is available again. -/
def takeBack (db : Db) (b : Id) (book : Book) (k : Id) : Db :=
  { db with
    borrowedBooks := db.borrowedBooks.erase k
    books := db.books.set b { book with availableCopies := book.availableCopies + 1 } }

/-- A loan is out, so the counter is below the number of copies. -/
theorem available_lt_total {db : Db} (balanced : Balanced db) {k : Id} {loan : BorrowedBook} {book : Book}
    (out : (k,loan) ∈ db.borrowedBooks.rows) (found : db.books.find loan.book = some book) :
    book.availableCopies.toInt < book.totalCopies.toInt := by
  have total := (balanced loan.book book found).2
  have positive : 0 < db.loansOf loan.book := count_pos.mpr ⟨_,out,by simp [ofBook]⟩
  omega

theorem takeBack_counted {db : Db} (inv : Counted db) {k : Id} {loan : BorrowedBook} {book : Book}
    (out : (k,loan) ∈ db.borrowedBooks.rows) (found : db.books.find loan.book = some book) :
    Counted (takeBack db loan.book book k) := by
  have room := available_lt_total inv.balanced out found
  refine ⟨?_,?_⟩
  · intro b u
    exact Nat.le_trans (count_erase_le _ _ _) (inv.once b u)
  · intro j other present
    have loans : (takeBack db loan.book book k).loansOf j + (if loan.book = j then 1 else 0) = db.loansOf j := by
      have erased := count_erase out (ofBook j)
      simpa only [Db.loansOf,takeBack,ofBook,beq_iff_eq] using erased
    simp only [takeBack,find_set] at present
    split_ifs at present with same
    · rw [found,Option.map_some] at present
      cases present
      subst same
      have total := inv.balanced _ book found
      have := toInt_succ room
      simp only [if_true] at loans
      simp only
      omega
    · have total := inv.balanced j other present
      simp only [Ne.symm same,if_false] at loans
      omega

theorem takeBack_conserved {db : Db} (inv : Conserved db) {k : Id} {loan : BorrowedBook} {book : Book}
    (out : (k,loan) ∈ db.borrowedBooks.rows) (found : db.books.find loan.book = some book) :
    Conserved (takeBack db loan.book book k) := by
  obtain ⟨once,balanced⟩ := takeBack_counted inv.counted out found
  refine ⟨⟨⟨?_⟩,?_⟩,once,balanced⟩
  · intro row member
    obtain ⟨old,_⟩ := mem_erase.mp member
    exact find_set_stays _ _ (inv.bookStored row old)
  · intro row member
    exact inv.userStored row (mem_erase.mp member).1

/-- The loans of a book to a user: none, or one row. -/
theorem select_pair {db : Db} (once : ∀ b u, db.borrowedBooks.count (ofPair b u) ≤ 1) (b u : Id) :
    db.borrowedBooks.select (ofPair b u) = [] ∨
      ∃ k loan, db.borrowedBooks.select (ofPair b u) = [(k,loan)] ∧ (k,loan) ∈ db.borrowedBooks.rows ∧
        loan.book = b ∧ loan.user = u := by
  have few := once b u
  rw [Table.count] at few
  cases selected : db.borrowedBooks.select (ofPair b u) with
  | nil => exact .inl rfl
  | cons row rest =>
    rw [selected,List.length_cons] at few
    have none_left : rest = [] := List.length_eq_zero_iff.mp (by omega)
    obtain ⟨stored,pair⟩ := select_head selected
    exact .inr ⟨row.1,row.2,by rw [none_left],stored,ofPair_iff.mp pair⟩

/-- A book is with a user at most once, so the two determine the row. -/
theorem row_unique {db : Db} (once : ∀ b u, db.borrowedBooks.count (ofPair b u) ≤ 1) {x y : Id × BorrowedBook}
    (hx : x ∈ db.borrowedBooks.rows) (hy : y ∈ db.borrowedBooks.rows) (book : x.2.book = y.2.book)
    (user : x.2.user = y.2.user) : x = y := by
  have first : x ∈ db.borrowedBooks.select (ofPair y.2.book y.2.user) := mem_select.mpr ⟨hx,ofPair_iff.mpr ⟨book,user⟩⟩
  have second : y ∈ db.borrowedBooks.select (ofPair y.2.book y.2.user) := mem_select.mpr ⟨hy,ofPair_iff.mpr ⟨rfl,rfl⟩⟩
  rcases select_pair once y.2.book y.2.user with none_out | ⟨k,loan,one,_⟩
  · rw [none_out] at first
    cases first
  · rw [one,List.mem_singleton] at first second
    rw [first,second]

theorem pair_key {db : Db} (once : ∀ b u, db.borrowedBooks.count (ofPair b u) ≤ 1) {k : Id} {loan : BorrowedBook}
    (out : (k,loan) ∈ db.borrowedBooks.rows) :
    ∀ row ∈ db.borrowedBooks.rows, ofPair loan.book loan.user row.2 = true ↔ row.1 = k := by
  intro row member
  constructor
  · intro pair
    obtain ⟨book,user⟩ := ofPair_iff.mp pair
    rw [row_unique once member out book user]
  · intro same
    rw [rows_key_inj member out same]
    exact ofPair_iff.mpr ⟨rfl,rfl⟩

/-- A round of `returnBooksForUser` throws and changes nothing, or takes the
    one loan back. -/
theorem returnBookForUser_cases {db : Db} (inv : Counted db) (u : Id) (userId bookId : Option Id) :
    (∃ e, e.isChecked = false ∧ (returnBookForUser u userId bookId).run store db = (.error e,db) ∧
        ∀ b book, bookId = some b → db.books.find b = some book → db.borrowedBooks.count (ofPair b u) = 0) ∨
      ∃ k loan book, bookId = some loan.book ∧ loan.user = u ∧ (k,loan) ∈ db.borrowedBooks.rows ∧
        db.books.find loan.book = some book ∧
        (returnBookForUser u userId bookId).run store db = (.ok (),takeBack db loan.book book k) := by
  cases bookId with
  | none => exact .inl ⟨_,rfl,by rw [returnBookForUser,run_findBookById_null],by simp⟩
  | some b =>
    cases found : db.books.find b with
    | none =>
      refine .inl ⟨.runtimeException "Book not found",rfl,?_,?_⟩
      · rw [returnBookForUser,run_findBookById,found]
        rfl
      · rintro c book ⟨rfl⟩ stored
        rw [found] at stored
        cases stored
    | some book =>
      rcases select_pair inv.once b u with none_out | ⟨k,loan,one,out,rfl,rfl⟩
      · refine .inl ⟨.runtimeException ("No borrowed record found for book ID " ++ shown (some b) ++ " and user " ++
          shown userId),rfl,?_,?_⟩
        · rw [returnBookForUser,run_findBookById,found]
          simp only [Option.map_some]
          rw [run_findByBookIdAndUserId,matching_some,none_out]
          simp only [if_true,run_throw]
        · rintro c _ ⟨rfl⟩ _
          rw [Table.count,none_out]
          rfl
      · refine .inr ⟨k,loan,book,rfl,rfl,out,found,?_⟩
        rw [returnBookForUser,run_findBookById,found]
        simp only [Option.map_some]
        rw [run_findByBookIdAndUserId,matching_some,one]
        simp only [reduceCtorEq,if_false,giveBackAll]
        rw [run_saveBook,run_deleteLoanRow]
        rfl

theorem returnBooksForUser_keeps {I : Db → Prop} {userId : Option Id}
    (rounds : ∀ u bookId, userId = some u → Keeps store I (returnBookForUser u userId bookId))
    (bookIds : Option (List (Option Id))) : Keeps store I (returnBooksForUser bookIds userId) := by
  intro db inv
  cases userId with
  | none =>
    rw [returnBooksForUser,run_findUserById_null]
    exact inv
  | some u =>
    rw [returnBooksForUser,run_findUserById]
    cases stored : db.users.find u with
    | none => exact inv
    | some user =>
      cases bookIds with
      | none => exact inv
      | some ids => exact keeps_forEach ids (fun bookId _ => rounds u bookId rfl) db inv

theorem returnBookForUser_conserved (u : Id) (userId bookId : Option Id) :
    Keeps store Conserved (returnBookForUser u userId bookId) := by
  intro db inv
  rcases returnBookForUser_cases inv.counted u userId bookId with ⟨e,_,run,_⟩ | ⟨k,loan,book,_,_,out,found,run⟩
  · rw [run]
    exact inv
  · rw [run]
    exact takeBack_conserved inv out found

/-- The invariant says nothing about the inventory. -/
theorem inventory_conserved {db : Db} (inv : Conserved db) (inventory : Table Inventory) :
    Conserved { db with inventory := inventory } :=
  ⟨⟨⟨inv.bookStored⟩,inv.userStored⟩,inv.once,inv.balanced⟩

/-- The inventory once the first row of a book is available. -/
def released (inventory : Table Inventory) (bookId : Option Id) : Table Inventory :=
  match inventory.select (fun row => row.book == bookId) with
  | [] => inventory
  | (k,row) :: _ => inventory.set k { row with status := .AVAILABLE }

/-- Releasing the inventory of a book changes the inventory only. -/
theorem releaseInventory_run (bookId : Option Id) (db : Db) :
    (releaseInventory bookId).run store db = (.ok (),{ db with inventory := released db.inventory bookId }) := by
  rw [releaseInventory,run_findByBookId,released]
  cases db.inventory.select (fun row => row.book == bookId) with
  | nil => rfl
  | cons row rest => exact run_saveInventory_last db row.1 _

/-- The books once a copy has come back, with a counter at the maximum left
    where it is. -/
def countedUp (books : Table Book) (b : Id) (book : Book) : Table Book :=
  if book.availableCopies < book.totalCopies then
    books.set b { book with availableCopies := book.availableCopies + 1 }
  else books

theorem countUp_run (b : Id) (book : Book) (db : Db) (next : Unit → Service Unit) :
    (countUp b book >>= next).run store db = (next ()).run store { db with books := countedUp db.books b book } := by
  unfold countUp countedUp
  split_ifs
  · rw [run_saveBook]
  · rw [bind_pure]

/-- In any database, a round of `returnBooks` skips a pair without a loan. Of any
    other pair it deletes a row; then it throws if the book is not stored. -/
theorem returnBook_outcomes (db : Db) (bookId targetUserId : Option Id) :
    ((returnBook bookId targetUserId).run store db = (.ok (),db) ∧
        ∀ b u, bookId = some b → targetUserId = some u → db.borrowedBooks.count (ofPair b u) = 0) ∨
      ∃ k loan, bookId = some loan.book ∧ targetUserId = some loan.user ∧ (k,loan) ∈ db.borrowedBooks.rows ∧
        (db.books.find loan.book = none ∧
            (∃ e, e.isChecked = false ∧ (returnBook bookId targetUserId).run store db =
              (.error e,{ db with borrowedBooks := db.borrowedBooks.erase k })) ∨
          ∃ book, db.books.find loan.book = some book ∧
            (returnBook bookId targetUserId).run store db =
              (.ok (),
                { db with
                  borrowedBooks := db.borrowedBooks.erase k
                  books := countedUp db.books loan.book book
                  inventory := released db.inventory bookId })) := by
  rw [returnBook,run_findByBookIdAndUserId]
  cases selected : db.borrowedBooks.select (matching bookId targetUserId) with
  | nil =>
    refine .inl ⟨rfl,?_⟩
    rintro b u rfl rfl
    rw [Table.count,← matching_some,selected]
    rfl
  | cons row rest =>
    obtain ⟨out,pair⟩ := select_head selected
    obtain ⟨rfl,rfl⟩ := matching_pair pair
    refine .inr ⟨row.1,row.2,rfl,rfl,out,?_⟩
    rw [run_deleteLoanRow,run_findBookById]
    cases found : db.books.find row.2.book with
    | none => exact .inl ⟨rfl,.bookNotFound ("❌ Book not found: ID=" ++ shown (some row.2.book)),rfl,rfl⟩
    | some book =>
      refine .inr ⟨book,rfl,?_⟩
      simp only [Option.map_some]
      rw [countUp_run]
      exact releaseInventory_run _ _

theorem countedUp_room {db : Db} (balanced : Balanced db) {k : Id} {loan : BorrowedBook} {book : Book}
    (out : (k,loan) ∈ db.borrowedBooks.rows) (found : db.books.find loan.book = some book) :
    countedUp db.books loan.book book =
      db.books.set loan.book { book with availableCopies := book.availableCopies + 1 } :=
  if_pos (Int32.lt_iff_toInt_lt.mpr (available_lt_total balanced out found))

/-- A round of `returnBooks` skips a pair without a loan and takes back the loan
    of any other: the book is stored and its counter is below the maximum. -/
theorem returnBook_cases {db : Db} (inv : Conserved db) (bookId targetUserId : Option Id) :
    ((returnBook bookId targetUserId).run store db = (.ok (),db) ∧
        ∀ b u, bookId = some b → targetUserId = some u → db.borrowedBooks.count (ofPair b u) = 0) ∨
      ∃ k loan book inventory, bookId = some loan.book ∧ targetUserId = some loan.user ∧
        (k,loan) ∈ db.borrowedBooks.rows ∧ db.books.find loan.book = some book ∧
        (returnBook bookId targetUserId).run store db =
          (.ok (),{ takeBack db loan.book book k with inventory := inventory }) := by
  rcases returnBook_outcomes db bookId targetUserId with skipped | ⟨k,loan,isBook,isUser,out,⟨absent,_⟩ | returned⟩
  · exact .inl skipped
  · obtain ⟨book,found⟩ := inv.bookStored _ out
    rw [absent] at found
    cases found
  · obtain ⟨book,found,run⟩ := returned
    rw [countedUp_room inv.balanced out found] at run
    exact .inr ⟨k,loan,book,_,isBook,isUser,out,found,run⟩

/-- The loop of `returnBooks` keeps what every round keeps; unless an
    administrator returns, the rounds are for the caller. -/
theorem returnBooks_keeps {I : Db → Prop} {userId : Option Id} {role : Option String}
    (rounds : ∀ bookId target, (equalsIgnoreCase "admin" role = false → target = userId) →
      Keeps store I (returnBook bookId target)) (bookIds userIds : Option (List (Option Id))) :
    Keeps store I (returnBooks bookIds userIds userId role) := by
  unfold returnBooks
  split
  · exact keeps_throw _ _
  · exact keeps_throw _ _
  · dsimp only
    split_ifs
    · exact keeps_throw _ _
    · refine keeps_forEach _ (fun pair listed => rounds pair.1 pair.2 (fun notAdmin => ?_))
      simp only [returnTargets,notAdmin,Bool.false_eq_true,if_false,List.mem_map] at listed
      obtain ⟨bookId,_,rfl⟩ := listed
      rfl

theorem returnBook_conserved (bookId targetUserId : Option Id) : Keeps store Conserved (returnBook bookId targetUserId) := by
  intro db inv
  rcases returnBook_cases inv bookId targetUserId with ⟨run,_⟩ | ⟨k,loan,book,inventory,_,_,out,found,run⟩
  · rw [run]
    exact inv
  · rw [run]
    exact inventory_conserved (takeBack_conserved inv out found) inventory

/-! ### Deleting books and users -/

/-- A round of `deleteBooks` changes nothing, or removes a book that is not lent. -/
theorem deleteBook_cases (bookId : Option Id) (db : Db) :
    ((deleteBook bookId).run store db).2 = db ∨
      ∃ b, db.loansOf b = 0 ∧ ((deleteBook bookId).run store db).2 = { db with books := db.books.erase b } := by
  cases bookId with
  | none => exact .inl (by rw [deleteBook,run_findBookById_null])
  | some b =>
    rw [deleteBook,run_findBookById]
    cases found : db.books.find b with
    | none => exact .inl rfl
    | some book =>
      simp only [Option.map_some]
      rw [run_deleteBookRow_last]
      split_ifs with referenced
      · exact .inl rfl
      · refine .inr ⟨b,?_,rfl⟩
        by_contra lent
        exact referenced (by simp [Db.bookReferenced,Nat.pos_of_ne_zero lent])

/-- A book that no loan refers to can go. -/
theorem deleteBook_conserved (bookId : Option Id) : Keeps store Conserved (deleteBook bookId) := by
  intro db inv
  rcases deleteBook_cases bookId db with same | ⟨b,none_out,after⟩
  · rw [same]
    exact inv
  · rw [after]
    refine ⟨⟨⟨?_⟩,inv.userStored⟩,inv.once,?_⟩
    · intro row member
      have other : row.2.book ≠ b := by
        rintro rfl
        have positive : 0 < db.loansOf row.2.book := count_pos.mpr ⟨row,member,by simp [ofBook]⟩
        omega
      obtain ⟨book,stored⟩ := inv.bookStored row member
      exact ⟨book,by simp [find_erase,other,stored]⟩
    · intro j book present
      simp only [find_erase] at present
      split_ifs at present
      exact inv.balanced j book present

theorem deleteBooks_keeps {I : Db → Prop} (rounds : ∀ bookId, Keeps store I (deleteBook bookId)) :
    ∀ bookIds, Keeps store I (deleteBooks bookIds)
  | none => keeps_throw _ _
  | some ids => keeps_forEach ids (fun bookId _ => rounds bookId)

/-- `deleteUser` changes nothing, or removes a user without loans. -/
theorem deleteUser_cases (userId : Option Id) (db : Db) :
    ((deleteUser userId).run store db).2 = db ∨
      ∃ u, db.borrowedBooks.count (ofUser u) = 0 ∧
        ((deleteUser userId).run store db).2 = { db with users := db.users.erase u } := by
  cases userId with
  | none => exact .inl (by rw [deleteUser,run_findUserById_null])
  | some u =>
    rw [deleteUser,run_findUserById]
    cases found : db.users.find u with
    | none => exact .inl rfl
    | some user =>
      simp only [Option.map_some]
      rw [run_deleteUserRow]
      split_ifs with referenced
      · exact .inl rfl
      · refine .inr ⟨u,?_,rfl⟩
        by_contra lent
        exact referenced (by simp [Db.userReferenced,Nat.pos_of_ne_zero lent])

theorem deleteUser_conserved (userId : Option Id) : Keeps store Conserved (deleteUser userId) := by
  intro db inv
  rcases deleteUser_cases userId db with same | ⟨u,none_out,after⟩
  · rw [same]
    exact inv
  · rw [after]
    refine ⟨⟨⟨inv.bookStored⟩,?_⟩,inv.once,inv.balanced⟩
    intro row member
    have other : row.2.user ≠ u := by
      rintro rfl
      have positive : 0 < db.borrowedBooks.count (ofUser row.2.user) := count_pos.mpr ⟨row,member,by simp [ofUser]⟩
      omega
    obtain ⟨user,stored⟩ := inv.userStored row member
    exact ⟨user,by simp [find_erase,other,stored]⟩

/-! ### Whole runs -/

/-- The calls that lend, take back or delete. -/
inductive Request where
  | borrowBooksForUser (clock : Nat → Int) (bookIds : Option (List (Option Id))) (userId : Option Id)
  | returnBooksForUser (bookIds : Option (List (Option Id))) (userId : Option Id)
  | returnBooks (bookIds userIds : Option (List (Option Id))) (userId : Option Id) (role : Option String)
  | deleteBooks (bookIds : Option (List (Option Id)))
  | deleteUser (userId : Option Id)

/-- The database after a call in a transaction of its own. -/
def serve (db : Db) : Request → Db
  | .borrowBooksForUser clock bookIds userId => (transactional (borrowBooksForUser clock bookIds userId) db).2
  | .returnBooksForUser bookIds userId => (transactional (returnBooksForUser bookIds userId) db).2
  | .returnBooks bookIds userIds userId role => (transactional (returnBooks bookIds userIds userId role) db).2
  | .deleteBooks bookIds => (transactional (deleteBooks bookIds) db).2
  | .deleteUser userId => (transactional (deleteUser userId) db).2

theorem serve_conserved {db : Db} (inv : Conserved db) (request : Request) : Conserved (serve db request) := by
  cases request with
  | borrowBooksForUser clock bookIds userId =>
    exact transact_keeps (borrowBooksForUser_keeps (fun _ _ _ _ _ => borrowBook_conserved) bookIds) _ db inv
  | returnBooksForUser bookIds userId =>
    have rounds : ∀ u bookId, userId = some u → Keeps store Conserved (returnBookForUser u userId bookId) :=
      fun u bookId _ => returnBookForUser_conserved u userId bookId
    exact transact_keeps (returnBooksForUser_keeps rounds bookIds) _ db inv
  | returnBooks bookIds userIds userId role =>
    exact transact_keeps (returnBooks_keeps (fun b u _ => returnBook_conserved b u) bookIds userIds) _ db inv
  | deleteBooks bookIds => exact transact_keeps (deleteBooks_keeps deleteBook_conserved bookIds) _ db inv
  | deleteUser userId => exact transact_keeps (deleteUser_conserved userId) _ db inv

/-- Copies are conserved by every sequence of calls, also by those that throw. -/
theorem copies_conserved {db : Db} (inv : Conserved db) (requests : List Request) :
    Conserved (requests.foldl serve db) := by
  induction requests generalizing db with
  | nil => exact inv
  | cons request rest ih => exact ih (serve_conserved inv request)

/-- Two copies of a book, one of them with the first of two users. -/
def sampleDb : Db where
  books := Table.empty.insert ⟨some "Dune",some "Frank Herbert",true,some "default.jpg",none,1,2⟩
  users :=
    (Table.empty.insert ⟨some "Ann Lee",some "ann",some "hash",some "ann@x.org",some "1",some "+1",some .USER,none⟩).insert
      ⟨some "Bob Ray",some "bob",some "hash",some "bob@x.org",some "2",some "+1",some .ADMIN,none⟩
  borrowedBooks := Table.empty.insert ⟨1,1,atStartOfDay 20000,some 1,some (atStartOfDay 20014)⟩
  inventory := .empty

theorem copies_conserved_sample :
    Conserved ([Request.borrowBooksForUser (fun _ => 20001) (some [some 1]) (some 2),
      .returnBooks (some [some 1,some 1]) (some [some 1,some 1]) (some 2) (some "ADMIN"),
      .deleteBooks (some [some 1,some 9])].foldl serve sampleDb) :=
  copies_conserved (by decide) _

end LibraryServer.LendingInvariant
