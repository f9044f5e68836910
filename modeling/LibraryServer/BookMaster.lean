import LibraryServer.Catalogue
import LibraryServer.Queries
import Mathlib.Algebra.BigOperators.Group.List.Basic
import Mathlib.Algebra.Ring.Int.Defs

/-!
The book master view counts copies by the rows of the inventory, the catalogue
and the loans by counters on the books. Nothing ever adds a row to the inventory,
so in every run that starts without one the view shows no copies at all, and
agrees with the catalogue only where the counters add up to nothing.
-/
namespace LibraryServer.BookMaster
open LibraryServer.Java LibraryServer.Tables LibraryServer.Programs LibraryServer.Runs LibraryServer.Queries
open LibraryServer.Entities LibraryServer.Repositories LibraryServer.LendingServices LibraryServer.LendingInvariant
open LibraryServer.Catalogue
set_option linter.unusedSimpArgs false

/-! ### The view -/

/-- The columns by which the query groups. -/
abbrev Pair := Option String × Option String

def pairOf (book : Book) : Pair := (book.title,book.author)

/-- `Books b LEFT JOIN Inventory i ON b.id = i.book_id`. -/
def joined (db : Db) : List ((Id × Book) × Option (Id × Inventory)) :=
  leftJoin (fun book item => item.2.book == some book.1) db.books.rows db.inventory.rows

def isAvailable (item : Id × Inventory) : Bool := item.2.status == .AVAILABLE

/-- The object made of a result row; `intValue` keeps the low bits of the numbers. -/
def masterEntry (pair : Pair) (totalCopies availableCopies : Nat) : Book where
  title := pair.1
  author := pair.2
  available := false
  image := none
  imageUrl := none
  availableCopies := Int32.ofNat availableCopies
  totalCopies := Int32.ofNat totalCopies

/-- `COUNT(i.id)` leaves out the null partners, and so does the sum over the
    available ones. -/
def getBooksMaster (db : Db) : List Book :=
  (groupBy (fun row => pairOf row.1.2) (joined db)).map (fun group =>
    masterEntry group.1 (group.2.countP (fun row => row.2.any (fun _ => true)))
      (group.2.countP (fun row => row.2.any isAvailable)))

/-- The inventory rows of the books with a title and an author that satisfy a
    condition. -/
def itemsOf (db : Db) (pair : Pair) (p : Id × Inventory → Bool) : Nat :=
  ((db.books.rows.filter (fun row => pairOf row.2 = pair)).map (fun row =>
    db.inventory.rows.countP (fun item => item.2.book == some row.1 && p item))).sum

/-- The view has one entry for every pair that is stored, with the numbers of
    inventory rows. -/
theorem getBooksMaster_entry {db : Db} {row : Id × Book} (stored : row ∈ db.books.rows) :
    (getBooksMaster db).filter (fun entry => pairOf entry = pairOf row.2) =
      [masterEntry (pairOf row.2) (itemsOf db (pairOf row.2) (fun _ => true)) (itemsOf db (pairOf row.2) isAvailable)] := by
  obtain ⟨item,member⟩ := leftJoin_keeps (fun book item => item.2.book == some book.1) db.inventory.rows stored
  have group := groupBy_single (fun row : (Id × Book) × Option (Id × Inventory) => pairOf row.1.2) member
  have counted : ∀ p : Id × Inventory → Bool,
      ((joined db).filter (fun other => pairOf other.1.2 = pairOf row.2)).countP (fun row => row.2.any p) =
        itemsOf db (pairOf row.2) p := by
    intro p
    rw [joined,filter_leftJoin _ _ _ (fun book : Id × Book => decide (pairOf book.2 = pairOf row.2)),countP_leftJoin]
    rfl
  rw [getBooksMaster,List.filter_map]
  refine (congrArg (List.map _) group).trans ?_
  rw [List.map_singleton,← counted,← counted]
  rfl

/-- The sum of a counter over the stored books with a title and an author. -/
def sumOf (count : Book → Int32) (db : Db) (pair : Pair) : Int :=
  ((db.books.rows.filter (fun row => pairOf row.2 = pair)).map (fun row => (count row.2).toInt)).sum

/-- The view has exactly one entry for every pair that is stored, with the sums
    of the counters. -/
def Agrees (db : Db) : Prop :=
  ∀ row ∈ db.books.rows,
    ((getBooksMaster db).filter (fun entry => pairOf entry = pairOf row.2)).map
        (fun entry => (entry.totalCopies.toInt,entry.availableCopies.toInt)) =
      [(sumOf Book.totalCopies db (pairOf row.2),sumOf Book.availableCopies db (pairOf row.2))]

instance (db : Db) : Decidable (Agrees db) := inferInstanceAs (Decidable (∀ row ∈ db.books.rows, _))

/-- The counters of every pair that is stored add up to nothing. -/
def NoCopies (db : Db) : Prop :=
  ∀ row ∈ db.books.rows, sumOf Book.totalCopies db (pairOf row.2) = 0 ∧ sumOf Book.availableCopies db (pairOf row.2) = 0

theorem agrees_without_inventory {db : Db} (unstocked : db.inventory.rows = []) : Agrees db ↔ NoCopies db := by
  have none_counted : ∀ pair p, itemsOf db pair p = 0 := by
    intro pair p
    rw [itemsOf,unstocked]
    exact List.sum_eq_zero (fun n member => by
      obtain ⟨row,_,rfl⟩ := List.mem_map.mp member
      rfl)
  refine forall₂_congr (fun row stored => ?_)
  rw [getBooksMaster_entry stored,none_counted,none_counted]
  have zero : (Int32.ofNat 0).toInt = 0 := by decide
  simp only [List.map_singleton,masterEntry,zero,List.cons.injEq,Prod.mk.injEq,and_true]
  exact and_congr eq_comm eq_comm

/-! ### The inventory stays as it is -/

/-- No call of a service adds a row to the inventory. -/
theorem serve_unstocked {db : Db} (unstocked : db.inventory.rows = []) (request : Request) :
    (serve db request).inventory.rows = [] := by
  have kept : ∀ {α : Type} (p : Service α), Keeps store (fun db => db.inventory.rows = []) p := by
    intro α p
    refine keeps_of_writes (fun db w unstocked => ?_) p
    cases w <;> simp [applyWrite,Table.set,unstocked]
  cases request <;> exact transact_keeps (kept _) _ db unstocked

theorem act_unstocked (missing : OnMissing) {db : Db} (unstocked : db.inventory.rows = []) (step : Step) :
    (act missing db step).inventory.rows = [] := by
  cases step with
  | catalogue step =>
    rw [act,catalogue_eq]
    exact unstocked
  | serve request => exact serve_unstocked unstocked request

theorem run_unstocked (missing : OnMissing) {db : Db} (unstocked : db.inventory.rows = []) (steps : List Step) :
    (steps.foldl (act missing) db).inventory.rows = [] := by
  induction steps generalizing db with
  | nil => exact unstocked
  | cons step rest ih => exact ih (act_unstocked missing unstocked step)

/-! ### A catalogue without copies -/

/-- Nothing is lent and no book has a copy. -/
structure Dormant (db : Db) : Prop where
  unlent : db.borrowedBooks.rows = []
  bare : ∀ row ∈ db.books.rows, row.2.totalCopies = 0 ∧ row.2.availableCopies = 0

theorem loansOf_unlent {db : Db} (unlent : db.borrowedBooks.rows = []) (b : Id) : db.loansOf b = 0 := by
  rw [Db.loansOf,Table.count,Table.select,unlent]
  rfl

theorem dormant_conserved {db : Db} (dormant : Dormant db) : Conserved db := by
  have no_loan : ∀ row, row ∉ db.borrowedBooks.rows := by
    intro row
    rw [dormant.unlent]
    exact List.not_mem_nil
  refine ⟨⟨⟨fun row member => absurd member (no_loan row)⟩,fun row member => absurd member (no_loan row)⟩,?_,?_⟩
  · intro b u
    rw [Table.count,Table.select,dormant.unlent]
    exact Nat.zero_le 1
  · rw [balanced_iff]
    intro row member
    obtain ⟨total,available⟩ := dormant.bare row member
    rw [loansOf_unlent dormant.unlent,total,available]
    decide

theorem dormant_noCopies {db : Db} (dormant : Dormant db) : NoCopies db := by
  have zero : ∀ count : Book → Int32, (∀ row ∈ db.books.rows, count row.2 = 0) → ∀ pair, sumOf count db pair = 0 := by
    intro count bare pair
    refine List.sum_eq_zero (fun n member => ?_)
    obtain ⟨row,listed,rfl⟩ := List.mem_map.mp member
    rw [bare row (List.mem_filter.mp listed).1]
    rfl
  intro row _
  exact ⟨zero _ (fun row member => (dormant.bare row member).1) _,zero _ (fun row member => (dormant.bare row member).2) _⟩

/-- Nothing can be borrowed, nothing can be returned. -/
theorem serve_dormant {db : Db} (dormant : Dormant db) (request : Request) : Dormant (serve db request) := by
  have no_loan : ∀ {db : Db} {k : Id} {loan : BorrowedBook}, Dormant db → (k,loan) ∉ db.borrowedBooks.rows := by
    intro db k loan dormant
    rw [dormant.unlent]
    exact List.not_mem_nil
  cases request with
  | borrowBooksForUser clock bookIds userId =>
    refine transact_keeps (borrowBooksForUser_keeps (fun u n bookId db _ _ dormant => ?_) bookIds) _ db dormant
    rcases borrowBook_cases clock n db u bookId with ⟨e,_,run⟩ | ⟨b,book,_,found,left,_,_⟩
    · rw [run]
      exact dormant
    · rw [(dormant.bare (b,book) (find_eq_some.mp found)).2] at left
      exact absurd left (by decide)
  | returnBooksForUser bookIds userId =>
    refine transact_keeps (returnBooksForUser_keeps (fun u bookId _ db dormant => ?_) bookIds) _ db dormant
    rcases returnBookForUser_cases (dormant_conserved dormant).counted u userId bookId with ⟨e,_,run,_⟩ | ⟨k,loan,_,_,_,out,_⟩
    · rw [run]
      exact dormant
    · exact absurd out (no_loan dormant)
  | returnBooks bookIds userIds userId role =>
    refine transact_keeps (returnBooks_keeps (fun bookId target _ db dormant => ?_) bookIds userIds) _ db dormant
    rcases returnBook_cases (dormant_conserved dormant) bookId target with ⟨run,_⟩ | ⟨k,loan,_,_,_,_,out,_⟩
    · rw [run]
      exact dormant
    · exact absurd out (no_loan dormant)
  | deleteBooks bookIds =>
    refine transact_keeps (deleteBooks_keeps (fun bookId db dormant => ?_) bookIds) _ db dormant
    rcases deleteBook_cases bookId db with same | ⟨b,_,after⟩
    · rw [same]
      exact dormant
    · rw [after]
      exact ⟨dormant.unlent,fun row member => dormant.bare row (mem_erase.mp member).1⟩
  | deleteUser userId =>
    refine transact_keeps (fun db dormant => ?_) _ db dormant
    rcases deleteUser_cases userId db with same | ⟨u,_,after⟩
    · rw [same]
      exact dormant
    · rw [after]
      exact ⟨dormant.unlent,dormant.bare⟩

/-- The step saves no book with copies. -/
def SavesNoCopies (missing : OnMissing) (db : Db) : Step → Prop
  | .catalogue step => EverySaved missing db (fun _ totalCopies => totalCopies = 0) step
  | .serve _ => True

instance (missing : OnMissing) (db : Db) : (step : Step) → Decidable (SavesNoCopies missing db step)
  | .catalogue step => inferInstanceAs (Decidable (EverySaved missing db (fun _ totalCopies => totalCopies = 0) step))
  | .serve _ => .isTrue trivial

theorem act_dormant (missing : OnMissing) {db : Db} (dormant : Dormant db) {step : Step}
    (bare : SavesNoCopies missing db step) : Dormant (act missing db step) := by
  cases step with
  | serve request => exact serve_dormant dormant request
  | catalogue step =>
    have savable := savable_saved missing db step
    have none_saved : ∀ row ∈ saved missing db step, row.2.totalCopies = 0 :=
      (everySaved_iff missing db (fun _ totalCopies => totalCopies = 0) step).mp bare
    rw [act,catalogue_eq]
    refine ⟨dormant.unlent,fun row member => ?_⟩
    rcases (mem_putAll savable.places savable.distinct).mp member with new | ⟨old,_⟩
    · exact ⟨none_saved row new,(savable.available row new).trans (none_saved row new)⟩
    · exact dormant.bare row old

/-- In every state of every run from empty tables, the view agrees with the
    catalogue exactly if the counters of every pair add up to nothing; if no step
    saves a book with copies, they do in every state of the run. -/
theorem book_master_agrees_iff (missing : OnMissing) {db : Db} (books : db.books.rows = [])
    (loans : db.borrowedBooks.rows = []) (inventory : db.inventory.rows = []) (steps : List Step) :
    (Agrees (steps.foldl (act missing) db) ↔ NoCopies (steps.foldl (act missing) db)) ∧
      (Throughout (act missing) (SavesNoCopies missing) db steps → Always (act missing) Agrees db steps) := by
  refine ⟨agrees_without_inventory (run_unstocked missing inventory steps),fun bare => ?_⟩
  have start : Dormant db ∧ db.inventory.rows = [] := by
    refine ⟨⟨loans,?_⟩,inventory⟩
    rw [books]
    exact fun row member => absurd member List.not_mem_nil
  refine always_invariant (I := fun db => Dormant db ∧ db.inventory.rows = []) (fun db step inv bare => ?_)
    (fun db inv => ?_) start bare
  · exact ⟨act_dormant missing inv.1 bare,act_unstocked missing inv.2 step⟩
  · exact (agrees_without_inventory inv.2).mpr (dormant_noCopies inv.1)

/-- Books are announced before their copies arrive, one of them twice, and a user asks
    for the first. -/
def announced : List Step :=
  [.catalogue (.addBook workingDisk emptyFolder (duneForm none 0) (some cover)),
    .catalogue (.importFromExcel (.ok (duneSheet 0 ++
      [⟨2,some (.string "Emma"),some (.string "Jane Austen"),some (.numeric (.finite 0))⟩]))),
    .serve (.borrowBooksForUser (fun _ => 20001) (some [some 1]) (some 1))]

/-- The view agrees at every moment. -/
theorem book_master_agrees_announced :
    Always (act .refuse) Agrees { Db.empty with users := sampleDb.users } announced :=
  (book_master_agrees_iff .refuse rfl rfl rfl announced).2 (by decide +kernel)

/-- One book with one copy: the view shows none. -/
theorem book_master_misses_copies :
    ¬ Agrees ([Step.catalogue (.addBook workingDisk emptyFolder (duneForm none 1) none)].foldl (act .refuse) Db.empty) := by
  decide

end LibraryServer.BookMaster
