import LibraryServer.Serializability
import LibraryServer.LendingConcurrency

/-!
Borrow and return transactions on different books. Lost updates need two transactions
on one book: a transaction reads and writes only the rows of the books that it names,
apart from the users, which none of them writes. So transactions that name no common
book are serializable under every schedule, up to the keys that their new loans draw
(`separate_serialized`), and copies are conserved whatever their interleaving is
(`separate_conserved`).
-/
namespace LibraryServer.LendingSeparation
open LibraryServer.Java LibraryServer.Tables LibraryServer.Programs LibraryServer.Entities LibraryServer.Repositories
open LibraryServer.LendingServices LibraryServer.LendingInvariant LibraryServer.Interleaving LibraryServer.LendingConcurrency
open LibraryServer.Serializability
set_option linter.unusedSimpArgs false

/-- The ids that a transaction names; null names no book. -/
def bookIds : LendingTxn → List (Option Id)
  | .borrowBooksForUser _ bookIds _ => bookIds.getD []
  | .returnBooksForUser bookIds _ => bookIds.getD []
  | .returnBooks bookIds _ _ _ => bookIds.getD []

def books (txn : LendingTxn) : List Id := (bookIds txn).filterMap id

/-- No two transactions name the same book. -/
def Separate (txns : List LendingTxn) : Prop := txns.Pairwise (fun x y => ∀ b ∈ books x, b ∉ books y)

instance (txns : List LendingTxn) : Decidable (Separate txns) := inferInstanceAs (Decidable (List.Pairwise _ _))

theorem mem_books {txn : LendingTxn} {b : Id} : b ∈ books txn ↔ some b ∈ bookIds txn := by
  simp [books]

theorem separate_at {txns : List LendingTxn} (separate : Separate txns) {i j : Nat} (other : i ≠ j) {x y : LendingTxn}
    (first : txns[i]? = some x) (second : txns[j]? = some y) : ∀ b ∈ books x, b ∉ books y :=
  pairwise_at (fun _ _ apart b named also => apart b also named) separate other first second

/-! ### What a transaction sees -/

def inventoryOf (b : Id) (row : Inventory) : Bool := row.book == some b

/-- Two databases with the same users and the same rows for some books. -/
structure SameFor (ids : List Id) (s t : Db) : Prop where
  users : t.users = s.users
  stored : ∀ b ∈ ids, t.books.find b = s.books.find b
  loans : ∀ b ∈ ids, t.borrowedBooks.select (ofBook b) = s.borrowedBooks.select (ofBook b)
  inventory : ∀ b ∈ ids, t.inventory.select (inventoryOf b) = s.inventory.select (inventoryOf b)

/-- What matters to a borrower. A loan that the transaction itself has inserted need not
    have the same key in both. -/
structure SameFree (ids : List Id) (s t : Db) : Prop where
  stored : ∀ b ∈ ids, t.books.find b = s.books.find b
  free : ∀ b ∈ ids, ∀ u, t.borrowedBooks.count (ofPair b u) = s.borrowedBooks.count (ofPair b u)

theorem sameFor_refl (ids : List Id) (s : Db) : SameFor ids s s :=
  ⟨rfl,fun _ _ => rfl,fun _ _ => rfl,fun _ _ => rfl⟩

theorem sameFor_symm {ids : List Id} {s t : Db} (same : SameFor ids s t) : SameFor ids t s :=
  ⟨same.users.symm,fun b named => (same.stored b named).symm,fun b named => (same.loans b named).symm,
    fun b named => (same.inventory b named).symm⟩

theorem sameFor_trans {ids : List Id} {r s t : Db} (first : SameFor ids r s) (second : SameFor ids s t) : SameFor ids r t :=
  ⟨second.users.trans first.users,fun b named => (second.stored b named).trans (first.stored b named),
    fun b named => (second.loans b named).trans (first.loans b named),
    fun b named => (second.inventory b named).trans (first.inventory b named)⟩

theorem select_ofPair (loans : Table BorrowedBook) (b u : Id) :
    loans.select (ofPair b u) = (loans.select (ofBook b)).filter (fun row => ofUser u row.2) := by
  simp only [Table.select,List.filter_filter]
  exact List.filter_congr (fun row _ => by simp [ofPair,ofBook,ofUser,Bool.and_comm])

variable {ids : List Id} {s t : Db}

theorem sameFor_pair (same : SameFor ids s t) {b : Id} (named : b ∈ ids) (u : Id) :
    t.borrowedBooks.select (ofPair b u) = s.borrowedBooks.select (ofPair b u) := by
  rw [select_ofPair,select_ofPair,same.loans b named]

theorem SameFor.toSameFree (same : SameFor ids s t) : SameFree ids s t :=
  ⟨same.stored,fun _ named u => congrArg List.length (sameFor_pair same named u)⟩

theorem find_set_same {t u : Table Book} {j : Id} (same : u.find j = t.find j) (b : Id) (book : Book) :
    (u.set b book).find j = (t.set b book).find j := by
  rw [find_set,find_set]
  by_cases isBook : j = b
  · subst isBook
    rw [same]
  · rw [if_neg isBook,if_neg isBook,same]

/-! ### The same writes in both -/

theorem sameFree_insertLoan (same : SameFree ids s t) (loan : BorrowedBook) :
    SameFree ids (applyWrite s (.insertLoan loan)) (applyWrite t (.insertLoan loan)) := by
  refine ⟨same.stored,fun b named u => ?_⟩
  simp only [applyWrite,count_insert,same.free b named u]

theorem sameFree_setBook (same : SameFree ids s t) (b : Id) (book : Book) :
    SameFree ids (applyWrite s (.setBook b book)) (applyWrite t (.setBook b book)) :=
  ⟨fun j named => find_set_same (same.stored j named) b book,same.free⟩

theorem sameFor_setBook (same : SameFor ids s t) (b : Id) (book : Book) :
    SameFor ids (applyWrite s (.setBook b book)) (applyWrite t (.setBook b book)) :=
  ⟨same.users,fun j named => find_set_same (same.stored j named) b book,same.loans,same.inventory⟩

theorem sameFor_deleteLoan (same : SameFor ids s t) (k : Id) :
    SameFor ids (applyWrite s (.deleteLoan k)) (applyWrite t (.deleteLoan k)) := by
  refine ⟨same.users,same.stored,fun b named => ?_,same.inventory⟩
  simp only [applyWrite,select_erase,same.loans b named]

theorem sameFor_setInventory (same : SameFor ids s t) {b : Id} (named : b ∈ ids) {k : Id} {row new : Inventory}
    (found : (k,row) ∈ s.inventory.select (inventoryOf b)) (isBook : new.book = row.book) :
    SameFor ids (applyWrite s (.setInventory k new)) (applyWrite t (.setInventory k new)) := by
  refine ⟨same.users,same.stored,same.loans,fun j listed => ?_⟩
  have alike : inventoryOf j new = inventoryOf j row := by rw [inventoryOf,inventoryOf,isBook]
  have storedS := (mem_select.mp found).1
  rw [← same.inventory b named] at found
  have storedT := (mem_select.mp found).1
  simp only [applyWrite,select_set storedS alike,select_set storedT alike,same.inventory j listed]

/-- What a borrower's writes have to keep to stay in step. -/
structure Borrowing (ids : List Id) (V : Db → Db → Prop) : Prop where
  same : ∀ s t, V s t → SameFree ids s t
  insertLoan : ∀ s t loan, V s t → V (applyWrite s (.insertLoan loan)) (applyWrite t (.insertLoan loan))
  setBook : ∀ s t b book, V s t → V (applyWrite s (.setBook b book)) (applyWrite t (.setBook b book))

/-- What the writes of a return have to keep; it deletes loans that it has found. -/
structure Returning (ids : List Id) (Key : Id → Prop) (W : Db → Db → Prop) : Prop where
  same : ∀ s t, W s t → SameFor ids s t
  found : ∀ s t, W s t → ∀ b ∈ ids, ∀ row ∈ s.borrowedBooks.select (ofBook b), Key row.1
  setBook : ∀ s t b book, W s t → W (applyWrite s (.setBook b book)) (applyWrite t (.setBook b book))
  deleteLoan : ∀ s t k, Key k → W s t → W (applyWrite s (.deleteLoan k)) (applyWrite t (.deleteLoan k))
  setInventory : ∀ s t b k row new, b ∈ ids → (k,row) ∈ s.inventory.select (inventoryOf b) → new.book = row.book →
    W s t → W (applyWrite s (.setInventory k new)) (applyWrite t (.setInventory k new))

theorem borrowing_sameFree (ids : List Id) : Borrowing ids (SameFree ids) :=
  ⟨fun _ _ same => same,fun _ _ loan same => sameFree_insertLoan same loan,fun _ _ b book same => sameFree_setBook same b book⟩

theorem returning_sameFor (ids : List Id) : Returning ids (fun _ => True) (SameFor ids) where
  same := fun _ _ same => same
  found := fun _ _ _ _ _ _ _ => trivial
  setBook := fun _ _ b book same => sameFor_setBook same b book
  deleteLoan := fun _ _ k _ same => sameFor_deleteLoan same k
  setInventory := fun _ _ _ _ _ _ named found isBook same => sameFor_setInventory same named found isBook

/-! ### Calls in step -/

section
variable {α : Type} {Q : α → Db → Db → Prop}

theorem inStep_findUserById (same : t.users = s.users) {id : Option Id} {next : Option (Id × User) → Service α}
    (later : ∀ user, InStep store Q (next user) s t) : InStep store Q (findUserById id >>= next) s t := by
  refine inStep_call (by simp only [store_answer,answer,same]) ?_
  intro reply answered
  cases id with
  | none => cases answered
  | some u =>
    cases answered
    exact later _

theorem inStep_findBookById {id : Option Id} (same : ∀ b, id = some b → t.books.find b = s.books.find b)
    {next : Option (Id × Book) → Service α}
    (later : ∀ b, id = some b → InStep store Q (next ((s.books.find b).map (fun book => (b,book)))) s t) :
    InStep store Q (findBookById id >>= next) s t := by
  cases id with
  | none =>
    intro reply answered
    cases answered
  | some b =>
    refine inStep_call (by simp only [store_answer,answer,findById,same b rfl]) ?_
    intro reply answered
    cases answered
    exact later b rfl

/-- The loans found may differ in what the program does not look at. -/
theorem inStep_findByBookIdAndUserId {book user : Option Id} {next : List (Id × BorrowedBook) → Service α}
    (goes : next (t.borrowedBooks.select (matching book user)) = next (s.borrowedBooks.select (matching book user)))
    (later : InStep store Q (next (s.borrowedBooks.select (matching book user))) s t) :
    InStep store Q (findByBookIdAndUserId book user >>= next) s t := by
  rw [bind_invoke]
  intro reply answered
  cases answered
  exact ⟨_,rfl,rfl,goes,later⟩

theorem inStep_findByBookId {book : Option Id}
    (same : t.inventory.select (fun row => row.book == book) = s.inventory.select (fun row => row.book == book))
    {next : List (Id × Inventory) → Service α}
    (later : InStep store Q (next (s.inventory.select (fun row => row.book == book))) s t) :
    InStep store Q (findByBookId book >>= next) s t := by
  refine inStep_call (by simp only [store_answer,answer,same]) ?_
  intro reply answered
  cases answered
  exact later

theorem inStep_saveLoan {loan : BorrowedBook}
    (same : t.borrowedBooks.count (ofPair loan.book loan.user) = s.borrowedBooks.count (ofPair loan.book loan.user))
    {next : Unit → Service α}
    (later : InStep store Q (next ()) (applyWrite s (.insertLoan loan)) (applyWrite t (.insertLoan loan))) :
    InStep store Q (saveLoan loan >>= next) s t := by
  refine inStep_call (by simp only [store_answer,answer,same]) ?_
  intro reply answered
  simp only [store_answer,answer] at answered
  split_ifs at answered
  cases answered
  exact later

theorem inStep_deleteLoanRow {k : Id} {next : Unit → Service α}
    (later : InStep store Q (next ()) (applyWrite s (.deleteLoan k)) (applyWrite t (.deleteLoan k))) :
    InStep store Q (deleteLoanRow k >>= next) s t := by
  refine inStep_call rfl ?_
  intro reply answered
  cases answered
  exact later

end

section
variable {Q : Unit → Db → Db → Prop}

theorem inStep_saveBook {b : Id} {book : Book}
    (after : Q () (applyWrite s (.setBook b book)) (applyWrite t (.setBook b book))) :
    InStep store Q (saveBook b book) s t := by
  refine inStep_call rfl ?_
  intro reply answered
  cases answered
  exact after

theorem inStep_saveInventory {k : Id} {row : Inventory}
    (after : Q () (applyWrite s (.setInventory k row)) (applyWrite t (.setInventory k row))) :
    InStep store Q (saveInventory k row) s t := by
  refine inStep_call rfl ?_
  intro reply answered
  cases answered
  exact after

end

/-! ### Rounds in step -/

theorem borrowBook_inStep {V : Db → Db → Prop} (borrowing : Borrowing ids V) (clock : Nat → Int) (u : Id) (n : Nat)
    {bookId : Option Id} (named : ∀ b, bookId = some b → b ∈ ids) (related : V s t) :
    InStep store (fun _ => V) (borrowBook clock u n bookId) s t := by
  have same := borrowing.same s t related
  refine inStep_findBookById (fun b isBook => same.stored b (named b isBook)) (fun b isBook => ?_)
  have counts := same.free b (named b isBook) u
  cases s.books.find b with
  | none => trivial
  | some book =>
    simp only [Option.map_some]
    split_ifs
    · trivial
    · refine inStep_findByBookIdAndUserId ?_ ?_
      · have agree : t.borrowedBooks.select (matching (some b) (some u)) ≠ [] ↔
            s.borrowedBooks.select (matching (some b) (some u)) ≠ [] := by
          rw [matching_some,← List.length_pos_iff,← List.length_pos_iff]
          exact iff_of_eq (congrArg (0 < ·) counts)
        simp only [agree]
      · split_ifs
        · trivial
        · exact inStep_saveLoan counts (inStep_saveBook (borrowing.setBook _ _ _ _ (borrowing.insertLoan _ _ _ related)))

theorem countUp_inStep {Q : Unit → Db → Db → Prop} {b : Id} {book : Book}
    (unchanged : Q () s t)
    (counted : ∀ new, Q () (applyWrite s (.setBook b new)) (applyWrite t (.setBook b new))) :
    InStep store Q (countUp b book) s t := by
  unfold countUp
  split_ifs
  · exact inStep_saveBook (counted _)
  · exact unchanged

section
variable {Key : Id → Prop} {W : Db → Db → Prop} (returning : Returning ids Key W)
include returning

theorem releaseInventory_inStep {b : Id} (named : b ∈ ids) (related : W s t) :
    InStep store (fun _ => W) (releaseInventory (some b)) s t := by
  refine inStep_findByBookId ((returning.same s t related).inventory b named) ?_
  cases selected : s.inventory.select (fun row => row.book == some b) with
  | nil => exact related
  | cons row rest =>
    have found : (row.1,row.2) ∈ s.inventory.select (inventoryOf b) := by
      rw [show s.inventory.select (inventoryOf b) = row :: rest from selected]
      exact List.mem_cons_self
    exact inStep_saveInventory (returning.setInventory _ _ b _ _ _ named found rfl related)

/-- The loans that a return finds may be deleted. -/
theorem returning_pair {b : Id} (named : b ∈ ids) (u : Id) (related : W s t) :
    ∀ row ∈ s.borrowedBooks.select (ofPair b u), Key row.1 := by
  intro row selected
  rw [select_ofPair] at selected
  exact returning.found s t related b named row (List.mem_filter.mp selected).1

theorem returnBook_inStep {bookId : Option Id} (named : ∀ b, bookId = some b → b ∈ ids) (target : Option Id)
    (related : W s t) : InStep store (fun _ => W) (returnBook bookId target) s t := by
  obtain ⟨rows,keys⟩ : t.borrowedBooks.select (matching bookId target) = s.borrowedBooks.select (matching bookId target) ∧
      ∀ row ∈ s.borrowedBooks.select (matching bookId target), Key row.1 := by
    cases bookId with
    | none => simp [Table.select,matching]
    | some b =>
      cases target with
      | none => simp [Table.select,matching]
      | some u =>
        rw [matching_some]
        exact ⟨sameFor_pair (returning.same s t related) (named b rfl) u,returning_pair returning (named b rfl) u related⟩
  refine inStep_findByBookIdAndUserId (by rw [rows]) ?_
  cases found : s.borrowedBooks.select (matching bookId target) with
  | nil => exact related
  | cons row rest =>
    have isKey := keys row (found ▸ List.mem_cons_self)
    have deleted := returning.deleteLoan s t row.1 isKey related
    have same := returning.same _ _ deleted
    refine inStep_deleteLoanRow (inStep_findBookById (fun b isBook => same.stored b (named b isBook)) (fun b isBook => ?_))
    subst isBook
    cases (applyWrite s (.deleteLoan row.1)).books.find b with
    | none => trivial
    | some book =>
      refine inStep_bind (countUp_inStep ?_ (fun new => ?_))
      · exact releaseInventory_inStep returning (named b rfl) deleted
      · exact releaseInventory_inStep returning (named b rfl) (returning.setBook _ _ b new deleted)

theorem giveBackAll_inStep (b : Id) (book : Book) {rows : List (Id × BorrowedBook)} (keys : ∀ row ∈ rows, Key row.1)
    (related : W s t) : InStep store (fun _ => W) (giveBackAll b book rows) s t := by
  induction rows generalizing book s t with
  | nil => exact related
  | cons row rest ih =>
    refine inStep_bind (inStep_saveBook (inStep_deleteLoanRow ?_))
    refine ih _ (fun other member => keys other (List.mem_cons_of_mem _ member)) ?_
    exact returning.deleteLoan _ _ _ (keys row List.mem_cons_self) (returning.setBook _ _ b _ related)

theorem returnBookForUser_inStep (u : Id) (userId : Option Id) {bookId : Option Id} (named : ∀ b, bookId = some b → b ∈ ids)
    (related : W s t) : InStep store (fun _ => W) (returnBookForUser u userId bookId) s t := by
  have same := returning.same s t related
  refine inStep_findBookById (fun b isBook => same.stored b (named b isBook)) (fun b isBook => ?_)
  cases s.books.find b with
  | none => trivial
  | some book =>
    simp only [Option.map_some]
    refine inStep_findByBookIdAndUserId ?_ ?_
    · rw [matching_some,sameFor_pair same (named b isBook) u]
    · split_ifs
      · trivial
      · rw [matching_some]
        exact giveBackAll_inStep returning b book (returning_pair returning (named b isBook) u related) related

end

/-! ### Whole transactions in step -/

theorem returnTargets_named {admin : Bool} {ids userIds : List (Option Id)} {userId : Option Id}
    {pair : Option Id × Option Id} (target : pair ∈ returnTargets admin ids userIds userId) : pair.1 ∈ ids := by
  unfold returnTargets at target
  split_ifs at target
  · exact (List.of_mem_zip target).1
  · obtain ⟨bookId,member,rfl⟩ := List.mem_map.mp target
    exact member

/-- A transaction goes on alike wherever its books have the same rows, and keeps what
    its writes keep. -/
theorem program_inStep (txn : LendingTxn) {Key : Id → Prop} {V W Q : Db → Db → Prop}
    (borrowing : Borrowing (books txn) V) (returning : Returning (books txn) Key W)
    (borrowed : ∀ s t, V s t → Q s t) (returned : ∀ s t, W s t → Q s t) (free : V s t) (same : W s t) :
    InStep store (fun _ => Q) txn.program s t := by
  have users := (returning.same s t same).users
  cases txn with
  | borrowBooksForUser clock ids userId =>
    refine inStep_findUserById users (fun user => ?_)
    cases user with
    | none => trivial
    | some user =>
      cases ids with
      | none => trivial
      | some ids =>
        refine inStep_mono (fun _ => borrowed) (inStep_forEach _ ?_ s t free)
        intro item member s t related
        refine borrowBook_inStep borrowing clock user.1 item.2 (fun b isBook => ?_) related
        have listed := List.fst_mem_of_mem_zipIdx member
        rw [isBook] at listed
        exact mem_books.mpr listed
  | returnBooksForUser ids userId =>
    refine inStep_findUserById users (fun user => ?_)
    cases user with
    | none => trivial
    | some user =>
      cases ids with
      | none => trivial
      | some ids =>
        refine inStep_mono (fun _ => returned) (inStep_forEach _ ?_ s t same)
        intro bookId member s t related
        refine returnBookForUser_inStep returning user.1 userId (fun b isBook => ?_) related
        rw [isBook] at member
        exact mem_books.mpr member
  | returnBooks ids userIds userId role =>
    rw [LendingTxn.program]
    unfold returnBooks
    split
    · trivial
    · trivial
    · rename_i first rest
      dsimp only
      split_ifs
      · trivial
      · refine inStep_mono (fun _ => returned) (inStep_forEach _ ?_ s t same)
        intro pair member s t related
        refine returnBook_inStep returning (fun b isBook => ?_) pair.2 related
        have listed := returnTargets_named member
        rw [isBook] at listed
        exact mem_books.mpr listed

/-! ### What a transaction leaves alone -/

/-- A transaction keeps what the rounds for the ids that it names keep. -/
theorem program_keeps {I : Db → Prop} (txn : LendingTxn)
    (borrows : ∀ clock u n, ∀ bookId ∈ bookIds txn, Keeps store I (borrowBook clock u n bookId))
    (givesBack : ∀ u userId, ∀ bookId ∈ bookIds txn, Keeps store I (returnBookForUser u userId bookId))
    (returns : ∀ bookId ∈ bookIds txn, ∀ target, Keeps store I (returnBook bookId target)) :
    Keeps store I txn.program := by
  cases txn with
  | borrowBooksForUser clock ids userId =>
    intro db holds
    cases userId with
    | none =>
      rw [LendingTxn.program,borrowBooksForUser,run_findUserById_null]
      exact holds
    | some u =>
      rw [LendingTxn.program,borrowBooksForUser,run_findUserById]
      cases db.users.find u with
      | none => exact holds
      | some user =>
        cases ids with
        | none => exact holds
        | some ids =>
          exact keeps_forEach ids.zipIdx
            (fun item member => borrows clock u item.2 item.1 (List.fst_mem_of_mem_zipIdx member)) db holds
  | returnBooksForUser ids userId =>
    intro db holds
    cases userId with
    | none =>
      rw [LendingTxn.program,returnBooksForUser,run_findUserById_null]
      exact holds
    | some u =>
      rw [LendingTxn.program,returnBooksForUser,run_findUserById]
      cases db.users.find u with
      | none => exact holds
      | some user =>
        cases ids with
        | none => exact holds
        | some ids => exact keeps_forEach ids (fun bookId member => givesBack u (some u) bookId member) db holds
  | returnBooks ids userIds userId role =>
    rw [LendingTxn.program]
    unfold returnBooks
    split
    · exact keeps_throw _ _
    · exact keeps_throw _ _
    · dsimp only
      split_ifs
      · exact keeps_throw _ _
      · exact keeps_forEach _ (fun pair member => returns pair.1 (returnTargets_named member) pair.2)

/-- The inner loop removes its loans and writes one book. -/
theorem giveBackAll_run (b : Id) (book : Book) (rows : List (Id × BorrowedBook)) (db : Db) :
    ∃ books, (giveBackAll b book rows).run store db =
        (.ok (),{ db with books := books, borrowedBooks := db.borrowedBooks.eraseAll (rows.map Prod.fst) }) ∧
      ∀ j, j ≠ b → books.find j = db.books.find j := by
  induction rows generalizing book db with
  | nil => exact ⟨db.books,rfl,fun _ _ => rfl⟩
  | cons row rest ih =>
    obtain ⟨books,run,others⟩ := ih { book with availableCopies := book.availableCopies + 1 }
      { db with
        books := db.books.set b { book with availableCopies := book.availableCopies + 1 }
        borrowedBooks := db.borrowedBooks.erase row.1 }
    refine ⟨books,?_,fun j other => ?_⟩
    · rw [giveBackAll,run_saveBook,run_deleteLoanRow,run]
      rfl
    · rw [others j other,find_set,if_neg other]

/-- A round of `returnBooksForUser` throws and changes nothing, or removes the loans of
    the pair and writes the book. -/
theorem returnBookForUser_outcomes (u : Id) (userId bookId : Option Id) (db : Db) :
    (∃ e, (returnBookForUser u userId bookId).run store db = (.error e,db)) ∨
      ∃ b books, bookId = some b ∧ (∀ j, j ≠ b → books.find j = db.books.find j) ∧
        (returnBookForUser u userId bookId).run store db =
          (.ok (),{ db with books := books, borrowedBooks := db.borrowedBooks.discard (ofPair b u) }) := by
  cases bookId with
  | none => exact .inl ⟨_,by rw [returnBookForUser,run_findBookById_null]⟩
  | some b =>
    rw [returnBookForUser,run_findBookById]
    cases db.books.find b with
    | none => exact .inl ⟨_,rfl⟩
    | some book =>
      simp only [Option.map_some]
      rw [run_findByBookIdAndUserId,matching_some]
      split_ifs
      · exact .inl ⟨_,rfl⟩
      · obtain ⟨books,run,others⟩ := giveBackAll_run b book (db.borrowedBooks.select (ofPair b u)) db
        rw [eraseAll_select] at run
        exact .inr ⟨b,books,rfl,others,run⟩

theorem find_countedUp_other (books : Table Book) {b j : Id} (book : Book) (other : j ≠ b) :
    (countedUp books b book).find j = books.find j := by
  unfold countedUp
  split_ifs
  · rw [find_set,if_neg other]
  · rfl

theorem select_released_other (inventory : Table Inventory) {b j : Id} (other : j ≠ b) :
    (released inventory (some b)).select (inventoryOf j) = inventory.select (inventoryOf j) := by
  unfold released
  cases selected : inventory.select (fun row => row.book == some b) with
  | nil => rfl
  | cons row rest =>
    obtain ⟨stored,isBook⟩ := select_head selected
    have outside : inventoryOf j row.2 = false := by
      simp only [beq_iff_eq] at isBook
      simpa [inventoryOf,isBook] using Ne.symm other
    exact select_set_other stored outside outside

theorem sameFor_lend {db : Db} (same : SameFor ids s db) {b : Id} (outside : b ∉ ids) (book : Book) {loan : BorrowedBook}
    (isBook : loan.book = b) : SameFor ids s (lend db b book loan) := by
  refine ⟨same.users,fun j named => ?_,fun j named => ?_,same.inventory⟩
  · have other : j ≠ b := fun isB => outside (isB ▸ named)
    rw [← same.stored j named,lend,find_set,if_neg other]
  · have other : ofBook j loan = false := by
      simpa [ofBook,isBook] using fun isB : b = j => outside (isB ▸ named)
    rw [← same.loans j named]
    exact (select_insert _ _ _).trans (by rw [other,if_neg Bool.false_ne_true,List.append_nil])

theorem sameFor_erase {db : Db} (same : SameFor ids s db) {k : Id} {loan : BorrowedBook}
    (out : (k,loan) ∈ db.borrowedBooks.rows) (outside : loan.book ∉ ids) :
    SameFor ids s { db with borrowedBooks := db.borrowedBooks.erase k } := by
  refine ⟨same.users,same.stored,fun j named => ?_,same.inventory⟩
  have other : ofBook j loan = false := by
    simpa [ofBook] using fun isB : loan.book = j => outside (isB ▸ named)
  rw [← same.loans j named]
  exact select_erase_other out other

/-- A transaction leaves the rows of the books that it does not name. -/
theorem program_sameFor (txn : LendingTxn) (outside : ∀ b ∈ ids, b ∉ books txn) (db : Db) :
    SameFor ids db (txn.program.run store db).2 := by
  have unnamed : ∀ b, some b ∈ bookIds txn → b ∉ ids := fun b named member => outside b member (mem_books.mpr named)
  refine program_keeps (I := SameFor ids db) txn ?_ ?_ ?_ db (sameFor_refl ids db)
  · intro clock u n bookId named state same
    rcases borrowBook_cases clock n state u bookId with ⟨e,_,run⟩ | ⟨b,book,rfl,_,_,_,run⟩
    · rw [run]
      exact same
    · rw [run]
      exact sameFor_lend same (unnamed b named) book rfl
  · intro u userId bookId named state same
    rcases returnBookForUser_outcomes u userId bookId state with ⟨e,run⟩ | ⟨b,books,rfl,others,run⟩
    · rw [run]
      exact same
    · rw [run]
      refine ⟨same.users,fun j member => ?_,fun j member => ?_,same.inventory⟩
      · rw [← same.stored j member]
        exact others j (fun isBook => unnamed b named (isBook ▸ member))
      · rw [← same.loans j member,select_discard]
        refine List.filter_eq_self.mpr (fun row selected => ?_)
        have isBook : row.2.book = j := by simpa [ofBook] using (mem_select.mp selected).2
        have other : row.2.book ≠ b := fun isB => unnamed b named (isB ▸ isBook ▸ member)
        simp [ofPair,other]
  · intro bookId named target state same
    rcases returnBook_outcomes state bookId target with ⟨run,_⟩ | ⟨k,loan,rfl,_,out,⟨_,e,_,run⟩ | ⟨book,_,run⟩⟩
    · rw [run]
      exact same
    · rw [run]
      exact sameFor_erase same out (unnamed _ named)
    · rw [run]
      have erased := sameFor_erase same out (unnamed _ named)
      refine ⟨erased.users,fun j member => ?_,erased.loans,fun j member => ?_⟩
      · have other : j ≠ loan.book := fun isBook => unnamed _ named (isBook ▸ member)
        rw [← same.stored j member]
        exact find_countedUp_other _ book other
      · have other : j ≠ loan.book := fun isBook => unnamed _ named (isBook ▸ member)
        rw [← same.inventory j member]
        exact select_released_other _ other

/-! ### The unique constraint -/

theorem uniqueLoans_iff {db : Db} : uniqueLoans db = true ↔ ∀ b u, db.borrowedBooks.count (ofPair b u) ≤ 1 := by
  simp only [uniqueLoans,List.all_eq_true,decide_eq_true_eq]
  constructor
  · intro rows b u
    by_contra more
    obtain ⟨row,stored,pair⟩ := count_pos.mp (show 0 < db.borrowedBooks.count (ofPair b u) by omega)
    obtain ⟨rfl,rfl⟩ := ofPair_iff.mp pair
    exact more (rows row stored)
  · intro once row _
    exact once row.2.book row.2.user

/-- A borrower checks that the pair is free, so the constraint never stops a
    transaction that runs alone. -/
theorem program_once (txn : LendingTxn) :
    Keeps store (fun db => ∀ b u, db.borrowedBooks.count (ofPair b u) ≤ 1) txn.program := by
  refine program_keeps txn ?_ ?_ ?_
  · intro clock u n bookId _ db once
    rcases borrowBook_cases clock n db u bookId with ⟨e,_,run⟩ | ⟨b,book,_,_,_,free,run⟩
    · rw [run]
      exact once
    · rw [run]
      intro j v
      have before := once j v
      show (db.borrowedBooks.insert (newLoan clock n b u)).count (ofPair j v) ≤ 1
      rw [count_insert]
      by_cases same : ofPair j v (newLoan clock n b u) = true
      · obtain ⟨rfl,rfl⟩ := ofPair_iff.mp same
        rw [if_pos same]
        have none_yet : db.borrowedBooks.count (ofPair b u) = 0 := free
        simp [newLoan,none_yet]
      · rw [if_neg same]
        exact before
  · intro u userId bookId _ db once
    rcases returnBookForUser_outcomes u userId bookId db with ⟨e,run⟩ | ⟨b,books,_,_,run⟩
    · rw [run]
      exact once
    · rw [run]
      exact fun j v => Nat.le_trans (count_discard_le _ _ _) (once j v)
  · intro bookId _ target db once
    rcases returnBook_outcomes db bookId target with ⟨run,_⟩ | ⟨k,loan,_,_,_,⟨_,e,_,run⟩ | ⟨book,_,run⟩⟩
    · rw [run]
      exact once
    · rw [run]
      exact fun b u => Nat.le_trans (count_erase_le _ k _) (once b u)
    · rw [run]
      exact fun b u => Nat.le_trans (count_erase_le _ k _) (once b u)

/-! ### Keys -/

/-- The loans whose keys had been handed out at the beginning. -/
def oldLoans (begin_ db : Db) : List (Id × BorrowedBook) :=
  db.borrowedBooks.rows.filter (fun row => decide (row.1 < begin_.borrowedBooks.next))

/-- The loans made since then, without their keys. -/
def newLoans (begin_ db : Db) : List BorrowedBook :=
  (db.borrowedBooks.rows.filter (fun row => decide (begin_.borrowedBooks.next ≤ row.1))).map Prod.snd

/-- The same rows, but for the keys of the loans made since the beginning: an identity
    column hands out a key at the INSERT and not at the commit, and a transaction that
    rolls back leaves a gap. -/
structure SameButKeys (begin_ s t : Db) : Prop where
  users : t.users = s.users
  books : t.books = s.books
  inventory : t.inventory = s.inventory
  drawn : begin_.borrowedBooks.next ≤ s.borrowedBooks.next ∧ begin_.borrowedBooks.next ≤ t.borrowedBooks.next
  old : oldLoans begin_ t = oldLoans begin_ s
  new : (newLoans begin_ t).Perm (newLoans begin_ s)

theorem sameButKeys_iff (begin_ s t : Db) :
    SameButKeys begin_ s t ↔ t.users = s.users ∧ t.books = s.books ∧ t.inventory = s.inventory ∧
      (begin_.borrowedBooks.next ≤ s.borrowedBooks.next ∧ begin_.borrowedBooks.next ≤ t.borrowedBooks.next) ∧
      oldLoans begin_ t = oldLoans begin_ s ∧ (newLoans begin_ t).Perm (newLoans begin_ s) :=
  ⟨fun ⟨users,books,inventory,drawn,old,new⟩ => ⟨users,books,inventory,drawn,old,new⟩,
    fun ⟨users,books,inventory,drawn,old,new⟩ => ⟨users,books,inventory,drawn,old,new⟩⟩

instance (begin_ s t : Db) : Decidable (SameButKeys begin_ s t) := decidable_of_iff _ (sameButKeys_iff begin_ s t).symm

section
variable {begin_ : Db}

theorem sameButKeys_symm (same : SameButKeys begin_ s t) : SameButKeys begin_ t s :=
  ⟨same.users.symm,same.books.symm,same.inventory.symm,same.drawn.symm,same.old.symm,same.new.symm⟩

theorem sameButKeys_trans {r : Db} (first : SameButKeys begin_ r s) (second : SameButKeys begin_ s t) :
    SameButKeys begin_ r t :=
  ⟨second.users.trans first.users,second.books.trans first.books,second.inventory.trans first.inventory,
    ⟨first.drawn.1,second.drawn.2⟩,second.old.trans first.old,second.new.trans first.new⟩

theorem sameButKeys_setBook (same : SameButKeys begin_ s t) (b : Id) (book : Book) :
    SameButKeys begin_ (applyWrite s (.setBook b book)) (applyWrite t (.setBook b book)) :=
  ⟨same.users,congrArg (Table.set · b book) same.books,same.inventory,same.drawn,same.old,same.new⟩

theorem sameButKeys_setInventory (same : SameButKeys begin_ s t) (k : Id) (row : Inventory) :
    SameButKeys begin_ (applyWrite s (.setInventory k row)) (applyWrite t (.setInventory k row)) :=
  ⟨same.users,same.books,congrArg (Table.set · k row) same.inventory,same.drawn,same.old,same.new⟩

theorem oldLoans_insert {db : Db} (drawn : begin_.borrowedBooks.next ≤ db.borrowedBooks.next) (loan : BorrowedBook) :
    oldLoans begin_ (applyWrite db (.insertLoan loan)) = oldLoans begin_ db := by
  simp [oldLoans,applyWrite,Table.insert,List.filter_append,drawn]

theorem newLoans_insert {db : Db} (drawn : begin_.borrowedBooks.next ≤ db.borrowedBooks.next) (loan : BorrowedBook) :
    newLoans begin_ (applyWrite db (.insertLoan loan)) = newLoans begin_ db ++ [loan] := by
  simp [newLoans,applyWrite,Table.insert,List.filter_append,drawn]

theorem sameButKeys_insertLoan (same : SameButKeys begin_ s t) (loan : BorrowedBook) :
    SameButKeys begin_ (applyWrite s (.insertLoan loan)) (applyWrite t (.insertLoan loan)) := by
  refine ⟨same.users,same.books,same.inventory,?_,?_,?_⟩
  · have drawn := same.drawn
    simp only [applyWrite,next_insert]
    omega
  · rw [oldLoans_insert same.drawn.1,oldLoans_insert same.drawn.2,same.old]
  · rw [newLoans_insert same.drawn.1,newLoans_insert same.drawn.2]
    exact same.new.append_right [loan]

theorem oldLoans_delete (db : Db) (k : Id) :
    oldLoans begin_ (applyWrite db (.deleteLoan k)) = (oldLoans begin_ db).filter (fun row => row.1 ≠ k) := by
  simp only [oldLoans,applyWrite,Table.erase,List.filter_filter]
  exact List.filter_congr (fun row _ => Bool.and_comm _ _)

theorem newLoans_delete (db : Db) {k : Id} (old : k < begin_.borrowedBooks.next) :
    newLoans begin_ (applyWrite db (.deleteLoan k)) = newLoans begin_ db := by
  simp only [newLoans,applyWrite,Table.erase,List.filter_filter]
  congr 1
  refine List.filter_congr (fun row _ => ?_)
  by_cases new : begin_.borrowedBooks.next ≤ row.1
  · have other : row.1 ≠ k := Ne.symm (Int.ne_of_lt (Int.lt_of_lt_of_le old new))
    simp [new,other]
  · simp [new]

/-- The deletion of a loan that has its key from before. -/
theorem sameButKeys_deleteLoan (same : SameButKeys begin_ s t) {k : Id} (old : k < begin_.borrowedBooks.next) :
    SameButKeys begin_ (applyWrite s (.deleteLoan k)) (applyWrite t (.deleteLoan k)) := by
  refine ⟨same.users,same.books,same.inventory,same.drawn,?_,?_⟩
  · rw [oldLoans_delete,oldLoans_delete,same.old]
  · rw [newLoans_delete s old,newLoans_delete t old]
    exact same.new

theorem count_loans (begin_ db : Db) (p : BorrowedBook → Bool) :
    db.borrowedBooks.count p =
      (oldLoans begin_ db).countP (fun row => p row.2) + (newLoans begin_ db).countP p := by
  have since : newLoans begin_ db =
      (db.borrowedBooks.rows.filter (fun row => !decide (row.1 < begin_.borrowedBooks.next))).map Prod.snd := by
    refine congrArg (List.map Prod.snd) (List.filter_congr (fun row _ => ?_))
    simp only [← decide_not,Int.not_lt]
  rw [since,List.countP_map,Table.count,Table.select,← List.countP_eq_length_filter]
  exact List.countP_eq_countP_filter_add _ _ _

/-- Loans are counted without their keys. -/
theorem sameButKeys_count (same : SameButKeys begin_ s t) (p : BorrowedBook → Bool) :
    t.borrowedBooks.count p = s.borrowedBooks.count p := by
  rw [count_loans begin_ s,count_loans begin_ t,same.old,same.new.countP_eq]

/-- Where no loan is new, the loans are found among the old ones. -/
theorem select_old {db : Db} {p : BorrowedBook → Bool} (none_new : ∀ loan ∈ newLoans begin_ db, p loan = false) :
    db.borrowedBooks.select p = (oldLoans begin_ db).filter (fun row => p row.2) := by
  rw [Table.select,oldLoans,List.filter_filter]
  refine List.filter_congr (fun row stored => ?_)
  by_cases old : row.1 < begin_.borrowedBooks.next
  · simp [old]
  · have listed : row.2 ∈ newLoans begin_ db :=
      List.mem_map_of_mem (List.mem_filter.mpr ⟨stored,decide_eq_true (by omega)⟩)
    simp [none_new row.2 listed]

theorem sameFor_old (same : SameFor ids begin_ s) {b : Id} (named : b ∈ ids) :
    ∀ row ∈ s.borrowedBooks.select (ofBook b), row.1 < begin_.borrowedBooks.next := by
  intro row selected
  rw [same.loans b named] at selected
  exact begin_.borrowedBooks.below row (mem_select.mp selected).1

/-- What a transaction sees of its books does not depend on the keys of new loans, as
    long as they are loans of other books. -/
theorem sameFor_drawn (same : SameFor ids begin_ s) (keys : SameButKeys begin_ s t) : SameFor ids begin_ t := by
  refine ⟨keys.users.trans same.users,fun b named => ?_,fun b named => ?_,fun b named => ?_⟩
  · rw [keys.books]
    exact same.stored b named
  · have noneS : ∀ loan ∈ newLoans begin_ s, ofBook b loan = false := by
      intro loan listed
      obtain ⟨row,isNew,rfl⟩ := List.mem_map.mp listed
      obtain ⟨stored,later⟩ := List.mem_filter.mp isNew
      by_contra isBook
      have earlier := sameFor_old same named row (mem_select.mpr ⟨stored,by simpa using isBook⟩)
      have := of_decide_eq_true later
      omega
    have noneT : ∀ loan ∈ newLoans begin_ t, ofBook b loan = false :=
      fun loan listed => noneS loan (keys.new.mem_iff.mp listed)
    rw [← same.loans b named,select_old noneS,select_old noneT,keys.old]
  · rw [keys.inventory]
    exact same.inventory b named

theorem borrowing_drawn (ids : List Id) (begin_ : Db) :
    Borrowing ids (fun s t => SameFree ids s t ∧ SameButKeys begin_ s t) where
  same := fun _ _ related => related.1
  insertLoan := fun _ _ loan related => ⟨sameFree_insertLoan related.1 loan,sameButKeys_insertLoan related.2 loan⟩
  setBook := fun _ _ b book related => ⟨sameFree_setBook related.1 b book,sameButKeys_setBook related.2 b book⟩

theorem returning_drawn (ids : List Id) (begin_ : Db) :
    Returning ids (fun k => k < begin_.borrowedBooks.next) (fun s t => (SameFor ids s t ∧ SameButKeys begin_ s t) ∧
      ∀ b ∈ ids, ∀ row ∈ s.borrowedBooks.select (ofBook b), row.1 < begin_.borrowedBooks.next) where
  same := fun _ _ related => related.1.1
  found := fun _ _ related => related.2
  setBook := fun _ _ b book related =>
    ⟨⟨sameFor_setBook related.1.1 b book,sameButKeys_setBook related.1.2 b book⟩,related.2⟩
  deleteLoan := by
    intro s t k old related
    refine ⟨⟨sameFor_deleteLoan related.1.1 k,sameButKeys_deleteLoan related.1.2 old⟩,fun b named row selected => ?_⟩
    rw [applyWrite,select_erase] at selected
    exact related.2 b named row (List.mem_filter.mp selected).1
  setInventory := fun _ _ _ k _ new named found isBook related =>
    ⟨⟨sameFor_setInventory related.1.1 named found isBook,sameButKeys_setInventory related.1.2 k new⟩,related.2⟩

end

/-! ### Every schedule -/

/-- Two databases in which a transaction sees the same. -/
def Alike (txns : List LendingTxn) (i : Nat) (s t : Db) : Prop := ∀ txn, txns[i]? = some txn → SameFor (books txn) s t

theorem separate_apart {txns : List LendingTxn} (separate : Separate txns) :
    Apart store (txns.map LendingTxn.program) uniqueLoans (Alike txns) := by
  refine ⟨fun i => ⟨?_,?_,?_⟩,?_,?_,?_⟩
  · exact fun s _ _ => sameFor_refl _ s
  · exact fun alike txn listed => sameFor_symm (alike txn listed)
  · exact fun first second txn listed => sameFor_trans (first txn listed) (second txn listed)
  · intro i p s t isProgram alike
    rw [List.getElem?_map,Option.map_eq_some_iff] at isProgram
    obtain ⟨txn,listed,rfl⟩ := isProgram
    have same := alike txn listed
    exact program_inStep txn (borrowing_sameFree _) (returning_sameFor _) (fun _ _ _ => trivial) (fun _ _ _ => trivial)
      same.toSameFree same
  · intro i j p s other isProgram txn listed
    rw [List.getElem?_map,Option.map_eq_some_iff] at isProgram
    obtain ⟨second,listed',rfl⟩ := isProgram
    exact program_sameFor second (separate_at separate other listed listed') s
  · intro p member s after admitted run
    obtain ⟨txn,_,rfl⟩ := List.mem_map.mp member
    have once := program_once txn s (uniqueLoans_iff.mp admitted)
    rw [run] at once
    exact uniqueLoans_iff.mpr once

/-- No transaction looks at the keys of the loans of other books. -/
theorem keys_tolerant (db : Db) (txns : List LendingTxn) :
    Tolerant store (txns.map LendingTxn.program) db uniqueLoans (Alike txns) (SameButKeys db) := by
  refine ⟨?_,fun _ _ => sameButKeys_symm,fun _ _ _ => sameButKeys_trans,?_,?_,?_⟩
  · exact ⟨rfl,rfl,rfl,⟨Int.le_refl _,Int.le_refl _⟩,rfl,List.Perm.refl _⟩
  · intro i p s t isProgram first second keys
    rw [List.getElem?_map,Option.map_eq_some_iff] at isProgram
    obtain ⟨txn,listed,rfl⟩ := isProgram
    have same := sameFor_trans (sameFor_symm (first txn listed)) (second txn listed)
    exact program_inStep txn (borrowing_drawn _ db) (returning_drawn _ db) (fun _ _ related => related.2)
      (fun _ _ related => related.1.2) ⟨same.toSameFree,keys⟩
      ⟨⟨same,keys⟩,fun b named => sameFor_old (first txn listed) named⟩
  · exact fun i s t alike keys txn listed => sameFor_drawn (alike txn listed) keys
  · intro s t keys admitted
    rw [uniqueLoans_iff] at admitted ⊢
    intro b u
    rw [sameButKeys_count keys]
    exact admitted b u

/-- Each step of the run leaves what the step of its transaction leaves, but the keys of
    the new loans are any that have not been handed out before. -/
def KeysDrawn (db : Db) (txns : List LendingTxn) (moves : List (Nat × Db)) : Prop :=
  MovesUpTo store uniqueLoans (SameButKeys db) (begun db txns) moves

instance (db : Db) (txns : List LendingTxn) (moves : List (Nat × Db)) : Decidable (KeysDrawn db txns moves) :=
  inferInstanceAs (Decidable (MovesUpTo _ _ _ _ _))

/-- The system after such a run. -/
def drawn (db : Db) (txns : List LendingTxn) (moves : List (Nat × Db)) : System Call Reply Exc Db Write :=
  moves.foldl (moved store uniqueLoans) (begun db txns)

/-- Transactions that name no common book end, under every schedule and whichever keys
    the new loans get, as they do one after another, and leave what these leave but for
    those keys. -/
theorem separate_serialized {db : Db} (once : uniqueLoans db = true) {txns : List LendingTxn} (separate : Separate txns)
    {moves : List (Nat × Db)} (keys : KeysDrawn db txns moves) :
    ∃ order, SerializedUpTo store (txns.map LendingTxn.program) db (SameButKeys db) (drawn db txns moves) order :=
  serializable_upTo (separate_apart separate) (keys_tolerant db txns) once keys

/-- A fourth book, with a copy to lend. -/
def fourShelves : Db :=
  { threeShelves with books := threeShelves.books.insert ⟨some "Candide",some "Voltaire",true,none,none,1,1⟩ }

/-- The first user borrows it meanwhile. -/
def crossing : List LendingTxn := comingAndGoing ++ [.borrowBooksForUser (fun _ => 20001) (some [some 4]) (some 1)]

/-- After the return of the third book. -/
def handedIn : Db :=
  { fourShelves with
    books := fourShelves.books.set 3 ⟨some "Utopia",some "Thomas More",true,none,none,1,1⟩
    borrowedBooks := fourShelves.borrowedBooks.erase 2 }

/-- The first loan to be inserted has the first key, but the second one is there before
    it. -/
def secondLent : Db :=
  { handedIn with
    books := handedIn.books.set 4 ⟨some "Candide",some "Voltaire",true,none,none,0,1⟩
    borrowedBooks := ((handedIn.borrowedBooks.insert (newLoan (fun _ => 20001) 0 1 2)).insert
      (newLoan (fun _ => 20001) 0 4 1)).erase 3 }

def bothLent : Db :=
  { secondLent with
    books := secondLent.books.set 1 ⟨some "Dune",some "Frank Herbert",true,none,none,0,1⟩
    borrowedBooks := (handedIn.borrowedBooks.insert (newLoan (fun _ => 20001) 0 1 2)).insert
      (newLoan (fun _ => 20001) 0 4 1) }

/-- Both borrowers insert their loans before one of them commits. -/
def crossed : List (Nat × Db) :=
  [0,3,2,1,0,3,2,1,0,3,2,1,0,3,2,1,0,3,2].map (fun i => (i,fourShelves)) ++
    [(2,handedIn),(3,secondLent),(1,secondLent),(0,bothLent)]

theorem separate_serialized_crossed :
    (drawn fourShelves crossing crossed).txns.map Txn.isCommitted = [true,false,true,true] ∧
      ∃ order, SerializedUpTo store (crossing.map LendingTxn.program) fourShelves (SameButKeys fourShelves)
        (drawn fourShelves crossing crossed) order :=
  ⟨by decide +kernel,separate_serialized (by decide) (by decide) (by decide +kernel)⟩

theorem program_conserved (txn : LendingTxn) {db after : Db} (inv : Conserved db)
    (run : txn.program.run store db = (.ok (),after)) : Conserved after := by
  cases txn with
  | borrowBooksForUser clock ids userId =>
    rw [LendingTxn.program] at run
    have kept := serve_conserved inv (.borrowBooksForUser clock ids userId)
    rw [serve,transactional_ok run] at kept
    exact kept
  | returnBooksForUser ids userId =>
    rw [LendingTxn.program] at run
    have kept := serve_conserved inv (.returnBooksForUser ids userId)
    rw [serve,transactional_ok run] at kept
    exact kept
  | returnBooks ids userIds userId role =>
    rw [LendingTxn.program] at run
    have kept := serve_conserved inv (.returnBooks ids userIds userId role)
    rw [serve,transactional_ok run] at kept
    exact kept

theorem serial_conserved {txns : List LendingTxn} {db after : Db} {order : List (Nat × Except Exc Unit)} (inv : Conserved db)
    (serial : Serial store (txns.map LendingTxn.program) db order after) : Conserved after := by
  induction serial with
  | nothing => exact inv
  | commit before isProgram run ih =>
    rw [List.getElem?_map,Option.map_eq_some_iff] at isProgram
    obtain ⟨txn,_,rfl⟩ := isProgram
    exact program_conserved txn ih run
  | rollBack before isProgram run ih => exact ih

/-- Copies are conserved by every interleaving of transactions that name no common
    book. -/
theorem separate_conserved {db : Db} (inv : Conserved db) {txns : List LendingTxn} (separate : Separate txns)
    (schedule : List Nat) : Conserved (interleaved db txns schedule).shared := by
  obtain ⟨order,serialized⟩ := serializable (separate_apart separate) (uniqueLoans_iff.mpr inv.once) schedule
  exact serial_conserved inv serialized.serial

theorem separate_conserved_shelves : Conserved (interleaved threeShelves comingAndGoing inTurn).shared :=
  separate_conserved (by decide) (by decide) _

end LibraryServer.LendingSeparation
