import LibraryServer.Catalogue
import Mathlib.Data.List.Forall2
import Mathlib.Data.List.TakeWhile

/-!
Batches on the catalogue: deleting a list of books, and importing the rows of a
sheet. Both go through their items one by one and stop at the first that fails.
What the items before it have done stays: the deletion throws a checked exception,
which commits, and the import runs in no transaction. A batch is done whole or not
at all exactly if nothing was done before the item that fails.
-/
namespace LibraryServer.BookBatches
open LibraryServer.Fallible LibraryServer.Java LibraryServer.Tables LibraryServer.Programs LibraryServer.Entities
open LibraryServer.Repositories LibraryServer.LendingServices LibraryServer.LendingInvariant LibraryServer.Catalogue
set_option linter.unusedSimpArgs false

/-! ### Deleting books -/

/-- Ids that can be deleted one after another: they name books and none comes twice. -/
def Deletable (books : Table Book) (ids : List Id) : Prop := ids.Nodup ∧ ∀ b ∈ ids, (books.find b).isSome = true

theorem deletable_nil (books : Table Book) : Deletable books [] := ⟨List.nodup_nil,by simp⟩

theorem deletable_cons {books : Table Book} {b : Id} {ids : List Id} :
    Deletable books (b :: ids) ↔ (books.find b).isSome = true ∧ Deletable (books.erase b) ids := by
  have stored : ∀ c, ((books.erase b).find c).isSome = true ↔ c ≠ b ∧ (books.find c).isSome = true := by
    intro c
    rw [find_erase]
    split_ifs with same <;> simp [same]
  simp only [Deletable,List.nodup_cons,List.forall_mem_cons,stored]
  constructor
  · rintro ⟨⟨new,distinct⟩,first,rest⟩
    exact ⟨first,distinct,fun c member => ⟨fun same => new (same ▸ member),rest c member⟩⟩
  · rintro ⟨first,distinct,rest⟩
    exact ⟨⟨fun member => (rest b member).1 rfl,distinct⟩,first,fun c member => (rest c member).2⟩

theorem deletable_start {books : Table Book} {ids more : List Id} (all : Deletable books more) (start : ids <+: more) :
    Deletable books ids :=
  ⟨start.sublist.nodup all.1,fun b member => all.2 b (start.subset member)⟩

/-- Deleting anything changes the table. -/
theorem eraseAll_changes {books : Table Book} {ids : List Id} (deletable : Deletable books ids) (some_id : ids ≠ []) :
    books.eraseAll ids ≠ books := by
  intro same
  obtain ⟨b,member⟩ := List.exists_mem_of_ne_nil ids some_id
  obtain ⟨book,stored⟩ := Option.isSome_iff_exists.mp (deletable.2 b member)
  have still := find_eq_some.mp stored
  rw [← same,rows_eraseAll,List.mem_filter] at still
  simp [member] at still

theorem deleteBook_missing {db : Db} {b : Id} (gone : db.books.find b = none) :
    (deleteBook (some b)).run store db =
      (.error (.checkedException ("Book with ID " ++ shown (some b) ++ " not found")),db) := by
  rw [deleteBook,run_findBookById,gone]
  rfl

theorem deleteBook_referenced {db : Db} {b : Id} {book : Book} (found : db.books.find b = some book)
    (referenced : db.bookReferenced b = true) :
    (deleteBook (some b)).run store db = (.error .dataIntegrityViolation,db) := by
  rw [deleteBook,run_findBookById,found,Option.map_some]
  simp only [run_deleteBookRow_last,referenced,if_true]

/-- A round deletes the book, or throws the checked exception if there is none. -/
theorem deleteBook_run {db : Db} {b : Id} (free : db.bookReferenced b = false) :
    (deleteBook (some b)).run store db =
      if (db.books.find b).isSome then (.ok (),{ db with books := db.books.erase b })
      else (.error (.checkedException ("Book with ID " ++ shown (some b) ++ " not found")),db) := by
  cases found : db.books.find b with
  | none => exact deleteBook_missing found
  | some book =>
    rw [deleteBook,run_findBookById,found,Option.map_some]
    simp only [run_deleteBookRow_last,free]
    rfl

/-- The loop deletes everything, or what comes before the first id that is null,
    unknown or named before; only a null is an unchecked failure. -/
theorem deleteLoop_run {db : Db} {ids : List (Option Id)} (free : ∀ b, some b ∈ ids → db.bookReferenced b = false) :
    (∃ all, ids = all.map some ∧ Deletable db.books all ∧
        (Prog.forEach deleteBook ids).run store db = (.ok (),{ db with books := db.books.eraseAll all })) ∨
      ∃ before id rest e, ids = before.map some ++ id :: rest ∧ Deletable db.books before ∧
        (∀ b, id = some b → ¬ Deletable db.books (before ++ [b])) ∧ e.isChecked = id.isSome ∧
        (Prog.forEach deleteBook ids).run store db = (.error e,{ db with books := db.books.eraseAll before }) := by
  induction ids generalizing db with
  | nil => exact .inl ⟨[],rfl,deletable_nil _,rfl⟩
  | cons first rest ih =>
    rw [Prog.forEach,run_bind]
    cases first with
    | none =>
      rw [deleteBook,run_findBookById_null]
      exact .inr ⟨[],none,rest,_,rfl,deletable_nil _,by simp,rfl,rfl⟩
    | some b =>
      rw [deleteBook_run (free b List.mem_cons_self)]
      by_cases stored : (db.books.find b).isSome = true
      · rw [if_pos stored]
        have later : ∀ c, some c ∈ rest → ({ db with books := db.books.erase b } : Db).bookReferenced c = false :=
          fun c member => free c (List.mem_cons_of_mem _ member)
        rcases ih later with
          ⟨all,rfl,deletable,run⟩ | ⟨before,id,more,e,rfl,deletable,stops,checked,run⟩
        · exact .inl ⟨b :: all,rfl,deletable_cons.mpr ⟨stored,deletable⟩,run⟩
        · refine .inr ⟨b :: before,id,more,e,rfl,deletable_cons.mpr ⟨stored,deletable⟩,?_,checked,run⟩
          intro c isNext whole
          exact stops c isNext (deletable_cons.mp whole).2
      · rw [if_neg stored]
        refine .inr ⟨[],some b,rest,_,rfl,deletable_nil _,?_,rfl,rfl⟩
        rintro c isNext whole
        cases isNext
        exact stored (deletable_cons.mp whole).1

/-- Two ways to cut a list at an item: at one place, or one cut is within the
    non-null start of the other. -/
theorem cuts_compare {before start : List Id} {b : Id} {id : Option Id} {rest more : List (Option Id)}
    (same : before.map some ++ some b :: rest = start.map some ++ id :: more) :
    before ++ [b] <+: start ∨ (before = start ∧ id = some b) ∨ ∃ c, id = some c ∧ start ++ [c] <+: before := by
  induction before generalizing start with
  | nil =>
    cases start with
    | nil =>
      simp only [List.map_nil,List.nil_append,List.cons.injEq] at same
      exact .inr (.inl ⟨rfl,same.1.symm⟩)
    | cons s start =>
      simp only [List.map_nil,List.nil_append,List.map_cons,List.cons_append,List.cons.injEq,Option.some.injEq] at same
      obtain ⟨rfl,_⟩ := same
      exact .inl (List.prefix_append [b] start)
  | cons a before ih =>
    cases start with
    | nil =>
      simp only [List.map_nil,List.nil_append,List.map_cons,List.cons_append,List.cons.injEq] at same
      exact .inr (.inr ⟨a,same.1.symm,List.prefix_append [a] before⟩)
    | cons s start =>
      simp only [List.map_cons,List.cons_append,List.cons.injEq,Option.some.injEq] at same
      obtain ⟨rfl,tails⟩ := same
      rcases ih tails with within | ⟨rfl,here⟩ | ⟨c,isNext,within⟩
      · exact .inl (by simpa using within)
      · exact .inr (.inl ⟨rfl,here⟩)
      · exact .inr (.inr ⟨c,isNext,by simpa using within⟩)

/-- Either all ids named books, which are gone, or the books are as before. -/
def DeletedWhole (db : Db) (bookIds : Option (List (Option Id))) : Except Exc Unit × Db → Prop
  | (.ok _,after) =>
    ∃ ids, bookIds = some ids ∧ (∀ id ∈ ids, ∃ b book, id = some b ∧ db.books.find b = some book) ∧
      ∀ row, row ∈ after.books.rows ↔ row ∈ db.books.rows ∧ some row.1 ∉ ids
  | (.error _,after) => after.books = db.books

/-- No id that is unknown or named before comes after ids that can be deleted. -/
def NoLateFailure (books : Table Book) (bookIds : Option (List (Option Id))) : Prop :=
  ∀ before b rest, bookIds = some (before.map some ++ some b :: rest) → before ≠ [] → Deletable books before →
    Deletable books (before ++ [b])

/-- A list of books is deleted whole or not at all exactly if no unknown or
    repeated id comes after books that are deleted already. -/
theorem deleteBooks_whole_iff (db : Db) (bookIds : Option (List (Option Id)))
    (free : ∀ ids, bookIds = some ids → ∀ b, some b ∈ ids → db.bookReferenced b = false) :
    DeletedWhole db bookIds (transactional (deleteBooks bookIds) db) ↔ NoLateFailure db.books bookIds := by
  cases bookIds with
  | none =>
    rw [deleteBooks,transactional_throw]
    exact iff_of_true rfl (fun before b rest impossible => (by cases impossible))
  | some ids =>
    rw [deleteBooks,transactional,Prog.transact]
    rcases deleteLoop_run (free ids rfl) with
      ⟨all,rfl,deletable,run⟩ | ⟨start,id,more,e,rfl,deletable,stops,checked,run⟩
    · rw [run]
      refine iff_of_true ⟨all.map some,rfl,?_,?_⟩ ?_
      · intro id member
        obtain ⟨b,named,rfl⟩ := List.mem_map.mp member
        obtain ⟨book,stored⟩ := Option.isSome_iff_exists.mp (deletable.2 b named)
        exact ⟨b,book,rfl,stored⟩
      · intro row
        simp [lands,rows_eraseAll]
      · intro before b rest cut _ _
        have whole : (before ++ [b]).map some <+: all.map some := ⟨rest,by simpa using (Option.some.inj cut).symm⟩
        exact deletable_start deletable ((List.prefix_map_iff_of_injective (fun _ _ => Option.some.inj)).mp whole)
    · rw [run]
      simp only [DeletedWhole,lands,checked]
      constructor
      · intro unchanged before b rest cut some_before beforeDeletable
        rcases cuts_compare (Option.some.inj cut).symm with within | ⟨rfl,rfl⟩ | ⟨c,rfl,within⟩
        · exact deletable_start deletable within
        · exact absurd unchanged (eraseAll_changes deletable some_before)
        · exact absurd (deletable_start beforeDeletable within) (stops c rfl)
      · intro inTime
        cases id with
        | none => rfl
        | some b =>
          by_cases first : start = []
          · subst first
            rfl
          · exact absurd (inTime start b more rfl first deletable) (stops b rfl)

/-- A single book, which nobody has. -/
def shelfDb : Db := { Db.empty with books := Table.empty.insert ⟨some "Dune",some "Frank Herbert",true,none,none,2,2⟩ }

/-- Two more books. -/
def fullShelfDb : Db :=
  { shelfDb with
    books := (shelfDb.books.insert ⟨some "Emma",some "Jane Austen",true,none,none,1,1⟩).insert
      ⟨some "Utopia",some "Thomas More",true,none,none,1,1⟩ }

theorem deleteBooks_whole_sample :
    (∀ b ∈ [3,1], fullShelfDb.bookReferenced b = false) ∧
      DeletedWhole fullShelfDb (some [some 3,some 1]) (transactional (deleteBooks (some [some 3,some 1])) fullShelfDb) := by
  have free : ∀ b ∈ [3,1], fullShelfDb.bookReferenced b = false := by decide
  refine ⟨free,(deleteBooks_whole_iff fullShelfDb (some [some 3,some 1]) ?_).mpr ?_⟩
  · rintro ids ⟨⟩ b member
    exact free b (by simpa using member)
  · intro before b rest cut _ _
    have deletable : Deletable fullShelfDb.books [3,1] := ⟨by decide,by decide⟩
    have whole : (before ++ [b]).map some <+: [3,1].map some := ⟨rest,by simpa using (Option.some.inj cut).symm⟩
    exact deletable_start deletable ((List.prefix_map_iff_of_injective (fun _ _ => Option.some.inj)).mp whole)

/-- The book is gone although the call throws, for an unknown id and for a
    repeated one. -/
theorem deleteBooks_half_done :
    shelfDb.bookReferenced 1 = false ∧ shelfDb.bookReferenced 99 = false ∧
      ∀ second ∈ [99,1], ¬ DeletedWhole shelfDb (some [some 1,some second])
        (transactional (deleteBooks (some [some 1,some second])) shelfDb) := by
  refine ⟨by decide,by decide,?_⟩
  have changed : (shelfDb.books.erase 1) ≠ shelfDb.books := by decide
  simp only [List.forall_mem_cons]
  exact ⟨changed,changed,by simp⟩

/-! ### Importing a sheet -/

/-- The cells of title, author and copies, in a row below the header that has all three. -/
def cells (row : SheetRow) : Option (Cell × Cell × Cell) :=
  if row.rowNum = 0 then none
  else
    match row.titleCell, row.authorCell, row.totalCopiesCell with
    | some titleCell, some authorCell, some totalCopiesCell => some (titleCell,authorCell,totalCopiesCell)
    | _, _, _ => none

/-- One of the cells does not hold what is read from it. -/
def faulty (row : SheetRow) : Bool :=
  match cells row with
  | none => false
  | some (titleCell,authorCell,totalCopiesCell) =>
    !(titleCell.getStringCellValue.isOk && authorCell.getStringCellValue.isOk && totalCopiesCell.getNumericCellValue.isOk)

/-- All cells are there and the trimmed title is not a number. -/
def wanted (row : SheetRow) : Bool :=
  match cells row with
  | none => false
  | some (titleCell,_,_) =>
    match titleCell.getStringCellValue with
    | .ok title => !isNumberText (trim title)
    | .error _ => true

/-- The book has the trimmed title and author of the row, and all of its copies available. -/
def IsBookOf (row : SheetRow) (book : Book) : Prop :=
  ∃ titleCell authorCell totalCopiesCell title author number,
    cells row = some (titleCell,authorCell,totalCopiesCell) ∧ titleCell.getStringCellValue = .ok title ∧
    authorCell.getStringCellValue = .ok author ∧ totalCopiesCell.getNumericCellValue = .ok (.finite number) ∧
    book.title = some (trim title) ∧ book.author = some (trim author) ∧ book.totalCopies.toInt = truncated number ∧
    AllAvailable book

/-- The copies cell, if it is numeric, holds an `int`. -/
def IntCopies (row : SheetRow) : Prop :=
  ∀ number, row.totalCopiesCell = some (.numeric number) →
    ∃ n : Int, number = .finite n ∧ -2147483648 ≤ n ∧ n ≤ 2147483647

theorem toInt32_int {n : Int} (low : -2147483648 ≤ n) (high : n ≤ 2147483647) :
    (Double.finite n).toInt32.toInt = truncated n := by
  have whole : truncated n = n := by simp [truncated]
  have inside : max (-2147483648) (min 2147483647 n) = n := by omega
  rw [Double.toInt32,whole,inside]
  exact Int32.toInt_ofInt_of_le low (by omega)

/-- Only a number or an empty cell is read as a number. -/
theorem copies_read {cell : Cell} {number : Double} (read : cell.getNumericCellValue = .ok number)
    (ints : ∀ number, cell = .numeric number → ∃ n : Int, number = .finite n ∧ -2147483648 ≤ n ∧ n ≤ 2147483647) :
    ∃ n : Rat, number = .finite n ∧ number.toInt32.toInt = truncated n := by
  cases cell with
  | numeric stored =>
    cases read
    obtain ⟨n,rfl,low,high⟩ := ints _ rfl
    exact ⟨n,rfl,toInt32_int low high⟩
  | blank =>
    cases read
    exact ⟨0,rfl,toInt32_int (n := 0) (by omega) (by omega)⟩
  | string text => cases read
  | boolean => cases read
  | error => cases read

theorem readRow_cells (row : SheetRow) :
    readRow row =
      match cells row with
      | none => .ok none
      | some (titleCell,authorCell,totalCopiesCell) => readCells titleCell authorCell totalCopiesCell := by
  rw [readRow,cells]
  split_ifs with header
  · rfl
  · cases row.titleCell <;> cases row.authorCell <;> cases row.totalCopiesCell <;> rfl

theorem cells_copies {row : SheetRow} {titleCell authorCell totalCopiesCell : Cell}
    (present : cells row = some (titleCell,authorCell,totalCopiesCell)) : row.totalCopiesCell = some totalCopiesCell := by
  rw [cells] at present
  split_ifs at present
  split at present
  · cases present
    assumption
  · cases present

/-- A row throws if it is faulty, and otherwise gives its book if it is wanted. -/
theorem readRow_outcome {row : SheetRow} (ints : IntCopies row) :
    (faulty row = true ∧ ∃ e, readRow row = .error e) ∨
      (faulty row = false ∧ wanted row = false ∧ readRow row = .ok none) ∨
      (faulty row = false ∧ wanted row = true ∧ ∃ book, readRow row = .ok (some book) ∧ IsBookOf row book) := by
  rw [faulty,wanted,readRow_cells]
  cases present : cells row with
  | none => exact .inr (.inl ⟨rfl,rfl,rfl⟩)
  | some found =>
    obtain ⟨titleCell,authorCell,totalCopiesCell⟩ := found
    dsimp only
    rw [readCells]
    cases title : titleCell.getStringCellValue with
    | error e => exact .inl ⟨rfl,e,rfl⟩
    | ok titleText =>
      cases author : authorCell.getStringCellValue with
      | error e => exact .inl ⟨rfl,e,rfl⟩
      | ok authorText =>
        cases copies : totalCopiesCell.getNumericCellValue with
        | error e => exact .inl ⟨rfl,e,rfl⟩
        | ok number =>
          simp only [ok_bind]
          by_cases junk : isNumberText (trim titleText) = true
          · rw [if_pos junk]
            exact .inr (.inl ⟨rfl,by simp [junk],rfl⟩)
          · have isInt := fun number isNumber => ints number ((cells_copies present).trans (congrArg some isNumber))
            obtain ⟨n,rfl,whole⟩ := copies_read copies isInt
            rw [if_neg junk]
            refine .inr (.inr ⟨rfl,by simp [junk],_,rfl,?_⟩)
            exact ⟨_,_,_,_,_,n,present,title,author,copies,rfl,rfl,whole,rfl⟩

/-- The loop saves the books of the wanted rows before the first faulty one, and
    throws if there is a faulty one. -/
theorem importRows_outcome {rows : List SheetRow} (ints : ∀ row ∈ rows, IntCopies row) (db : Db) :
    ∃ books, List.Forall₂ IsBookOf ((rows.takeWhile (fun row => !faulty row)).filter wanted) books ∧
      (importRows db rows = (.ok (),{ db with books := books.foldl Table.insert db.books }) ∧
          (∀ row ∈ rows, faulty row = false) ∨
        (∃ e, importRows db rows = (.error e,{ db with books := books.foldl Table.insert db.books })) ∧
          ∃ row ∈ rows, faulty row = true) := by
  induction rows generalizing db with
  | nil => exact ⟨[],.nil,.inl ⟨rfl,by simp⟩⟩
  | cons row rest ih =>
    have laterInts := fun r member => ints r (List.mem_cons_of_mem _ member)
    rw [importRows,List.takeWhile_cons]
    simp only [List.forall_mem_cons,List.exists_mem_cons_iff]
    rcases readRow_outcome (ints row List.mem_cons_self) with
      ⟨fault,e,read⟩ | ⟨sound,skipped,read⟩ | ⟨sound,taken,book,read,isBook⟩
    · rw [read,fault]
      exact ⟨[],.nil,.inr ⟨⟨e,rfl⟩,.inl rfl⟩⟩
    · obtain ⟨books,made,outcome⟩ := ih laterInts db
      rw [read,sound]
      refine ⟨books,?_,by simpa using outcome⟩
      simpa [skipped] using made
    · obtain ⟨books,made,outcome⟩ := ih laterInts { db with books := db.books.insert book }
      rw [read,sound]
      refine ⟨book :: books,?_,by simpa using outcome⟩
      simpa [taken] using ⟨isBook,made⟩

/-- Either the books of all wanted rows have been added in their order, or the books
    are as before. -/
def ImportedWhole (db : Db) (sheet : Except Exc (List SheetRow)) : Except Exc Unit × Db → Prop
  | (.ok _,after) =>
    ∃ rows books, sheet = .ok rows ∧ List.Forall₂ IsBookOf (rows.filter wanted) books ∧
      after.books = books.foldl Table.insert db.books
  | (.error _,after) => after.books = db.books

/-- If a row is faulty, no wanted row comes before the first such row. -/
def NoLateFault (sheet : Except Exc (List SheetRow)) : Prop :=
  ∀ rows, sheet = .ok rows → (∃ row ∈ rows, faulty row = true) →
    ∀ row ∈ rows.takeWhile (fun row => !faulty row), wanted row = false

theorem insertAll_same {books : Table Book} {added : List Book} : added.foldl Table.insert books = books ↔ added = [] := by
  constructor
  · intro same
    have lengths := congrArg (fun t : Table Book => t.rows.length) same
    have counted := congrArg List.length (numbered_values books.next added)
    simp only [rows_insertAll,List.length_append,List.length_map] at lengths counted
    exact List.length_eq_zero_iff.mp (by omega)
  · rintro rfl
    rfl

/-- A sheet is imported whole or not at all exactly if no faulty row comes after
    a row whose book is saved already. -/
theorem importFromExcel_whole_iff (db : Db) (sheet : Except Exc (List SheetRow))
    (ints : ∀ rows, sheet = .ok rows → ∀ row ∈ rows, IntCopies row) :
    ImportedWhole db sheet (importFromExcel sheet db) ↔ NoLateFault sheet := by
  cases sheet with
  | error e => exact iff_of_true rfl (fun rows impossible => by cases impossible)
  | ok rows =>
    rw [importFromExcel]
    obtain ⟨books,made,⟨run,sound⟩ | ⟨⟨e,run⟩,fault⟩⟩ := importRows_outcome (ints rows rfl) db
    · rw [run]
      refine iff_of_true ⟨rows,books,rfl,?_,rfl⟩ ?_
      · rwa [List.takeWhile_eq_self_iff.mpr (fun row member => by rw [sound row member]; rfl)] at made
      · rintro _ ⟨⟩ ⟨row,member,fault⟩
        rw [sound row member] at fault
        cases fault
    · rw [run]
      -- The books are as before if none was saved, so if no row before the fault was wanted.
      calc ImportedWhole db (.ok rows) (importError e,{ db with books := books.foldl Table.insert db.books })
        _ ↔ books = [] := insertAll_same
        _ ↔ (rows.takeWhile (fun row => !faulty row)).filter wanted = [] := by
          rw [← List.length_eq_zero_iff,← made.length_eq,List.length_eq_zero_iff]
        _ ↔ ∀ row ∈ rows.takeWhile (fun row => !faulty row), wanted row = false := by
          simp only [List.filter_eq_nil_iff,Bool.not_eq_true]
        _ ↔ NoLateFault (.ok rows) := by
          constructor
          · rintro unwanted _ ⟨⟩ _
            exact unwanted
          · intro inTime
            exact inTime rows rfl fault

/-- Two books, a row with a number for a title and one without an author. -/
def longSheet : List SheetRow :=
  duneSheet 3 ++
    [⟨2,some (.string "1984"),some (.string "George Orwell"),some (.numeric (.finite 1))⟩,
      ⟨3,some (.string "Emma"),some (.string " Jane Austen"),some (.numeric (.finite 2))⟩,
      ⟨4,some (.string "Beowulf"),none,some (.numeric (.finite 1))⟩]

theorem importFromExcel_whole_sample :
    (∀ row ∈ longSheet, IntCopies row) ∧
      ImportedWhole sampleDb (.ok longSheet) (importFromExcel (.ok longSheet) sampleDb) := by
  have ints : ∀ row ∈ longSheet, IntCopies row := by
    simp only [longSheet,duneSheet,List.cons_append,List.nil_append,List.forall_mem_cons]
    refine ⟨fun number isNumber => by simp at isNumber,fun number isNumber => ?_,fun number isNumber => ?_,
      fun number isNumber => ?_,fun number isNumber => ?_,by simp⟩
    · cases isNumber
      exact ⟨3,rfl,by decide,by decide⟩
    · cases isNumber
      exact ⟨1,rfl,by decide,by decide⟩
    · cases isNumber
      exact ⟨2,rfl,by decide,by decide⟩
    · cases isNumber
      exact ⟨1,rfl,by decide,by decide⟩
  refine ⟨ints,(importFromExcel_whole_iff sampleDb (.ok longSheet) ?_).mpr ?_⟩
  · rintro _ ⟨⟩
    exact ints
  · rintro _ ⟨⟩ fault
    exact absurd fault (by decide)

/-- A good row and a row whose title is a number and not a text. -/
def halfSheet : List SheetRow :=
  [⟨1,some (.string "Emma"),some (.string "Jane Austen"),some (.numeric (.finite 2))⟩,
    ⟨2,some (.numeric (.finite 1984)),some (.string "George Orwell"),some (.numeric (.finite 1))⟩]

/-- The call throws at the second row, but the first book stays. -/
theorem import_half_done :
    (∀ row ∈ halfSheet, IntCopies row) ∧
      ¬ ImportedWhole sampleDb (.ok halfSheet) (importFromExcel (.ok halfSheet) sampleDb) := by
  constructor
  · simp only [halfSheet,List.forall_mem_cons]
    refine ⟨fun number isNumber => ?_,fun number isNumber => ?_,by simp⟩
    · cases isNumber
      exact ⟨2,rfl,by decide,by decide⟩
    · cases isNumber
      exact ⟨1,rfl,by decide,by decide⟩
  · exact (by decide : (importFromExcel (.ok halfSheet) sampleDb).2.books ≠ sampleDb.books)

end LibraryServer.BookBatches
