import LibraryServer.BatchReturns
import LibraryServer.LendingOutcomes
import LibraryServer.Runs

/-!
Returning as a set of pairs. In a database with referential integrity a round of
`returnBooks` is a function of the database (`returned`). Such rounds commute, also
where they raise the same counter up to its maximum, and a pair that has been
returned is skipped from then on. So a call depends only on which pairs it names.
-/
namespace LibraryServer.ReturnSets
open LibraryServer.Java LibraryServer.Tables LibraryServer.Programs LibraryServer.Runs LibraryServer.Entities
open LibraryServer.Repositories LibraryServer.LendingServices LibraryServer.LendingInvariant LibraryServer.LendingRefinement
open LibraryServer.LendingOutcomes LibraryServer.BatchReturns
set_option linter.unusedSimpArgs false

/-! ### One round -/

/-- A copy more, unless all are there. -/
def topUp (book : Book) : Book := if book.availableCopies < book.totalCopies then raised book else book

def available (row : Inventory) : Inventory := { row with status := .AVAILABLE }

/-- The key of the first inventory row of a book. -/
def isFirst (inventory : Table Inventory) (bookId : Option Id) (k : Int) : Bool :=
  ((inventory.select (fun row => row.book == bookId)).map Prod.fst).head? == some k

/-- A loan taken back, with what goes with it. -/
def takenBack (b u : Id) (db : Db) : Db :=
  { db with
    borrowedBooks := db.borrowedBooks.discard (ofPair b u)
    books := db.books.adjust (fun k => k == b) topUp
    inventory := db.inventory.adjust (isFirst db.inventory (some b)) available }

def lent (db : Db) (b u : Id) : Bool := 0 < db.borrowedBooks.count (ofPair b u)

/-- A round of `returnBooks`; null names nothing. -/
def returned (db : Db) : Option Id × Option Id → Db
  | (some b,some u) => if lent db b u then takenBack b u db else db
  | _ => db

theorem countedUp_eq {books : Table Book} {b : Id} {book : Book} (found : books.find b = some book) :
    countedUp books b book = books.adjust (fun k => k == b) topUp := by
  rw [← set_eq_adjust found topUp,countedUp,topUp]
  split_ifs
  · rfl
  · exact (set_same found).symm

theorem released_eq (inventory : Table Inventory) (bookId : Option Id) :
    released inventory bookId = inventory.adjust (isFirst inventory bookId) available := by
  unfold released isFirst
  cases selected : inventory.select (fun row => row.book == bookId) with
  | nil =>
    have nothing : (fun k : Int => (List.map Prod.fst ([] : List (Int × Inventory))).head? == some k) = fun _ => false := by
      funext k
      rfl
    rw [nothing,adjust_none]
  | cons row rest =>
    have stored : inventory.find row.1 = some row.2 := find_eq_some.mpr (select_head selected).1
    have key : (fun k : Int => (List.map Prod.fst (row :: rest)).head? == some k) = fun k => k == row.1 := by
      funext k
      simp [eq_comm]
    rw [key]
    exact set_eq_adjust stored available

/-- With referential integrity a round returns normally. -/
theorem returnBook_run {db : Db} (refers : Referring db) (pair : Option Id × Option Id) :
    (returnBook pair.1 pair.2).run store db = (.ok (),returned db pair) := by
  obtain ⟨bookId,userId⟩ := pair
  rcases returnBook_outcomes db bookId userId with ⟨run,free⟩ | ⟨k,loan,rfl,rfl,out,⟨absent,_⟩ | ⟨book,found,run⟩⟩
  · rw [run]
    cases bookId with
    | none => rfl
    | some b =>
      cases userId with
      | none => rfl
      | some u => simp [returned,lent,free b u rfl rfl]
  · obtain ⟨book,found⟩ := refers.bookStored _ out
    rw [absent] at found
    cases found
  · have isLent : lent db loan.book loan.user = true := by
      simpa [lent] using lent_iff.mpr ⟨_,out,rfl,rfl⟩
    rw [run,returned,if_pos isLent,takenBack,countedUp_eq found,released_eq,erase_eq_discard (pair_key refers.once out)]

theorem returned_referring {db : Db} (refers : Referring db) (pair : Option Id × Option Id) : Referring (returned db pair) := by
  unfold returned
  split
  · split_ifs
    · refine ⟨⟨fun row member => ?_⟩,fun b u => ?_⟩
      · obtain ⟨book,found⟩ := refers.bookStored row (mem_discard.mp member).1
        simp [takenBack,find_adjust,found]
      · exact Nat.le_trans (count_discard_le _ _ _) (refers.once b u)
    · exact refers
  · exact refers

/-! ### Rounds commute -/

/-- Releasing does not change which row is the first of a book. -/
theorem isFirst_adjust (inventory : Table Inventory) (p : Int → Bool) (bookId : Option Id) :
    isFirst (inventory.adjust p available) bookId = isFirst inventory bookId := by
  funext k
  rw [isFirst,keys_select_adjust inventory p (f := available) (fun _ => rfl)]
  rfl

theorem takenBack_comm (db : Db) (b u c v : Id) : takenBack c v (takenBack b u db) = takenBack b u (takenBack c v db) := by
  simp only [takenBack,isFirst_adjust]
  rw [discard_comm,adjust_comm,adjust_comm db.inventory]

theorem lent_takenBack {db : Db} {b u c v : Id} (other : ¬ (c = b ∧ v = u)) : lent (takenBack b u db) c v = lent db c v := by
  have same : (db.borrowedBooks.discard (ofPair b u)).count (ofPair c v) = db.borrowedBooks.count (ofPair c v) := by
    refine count_discard_other (fun loan pair => ?_)
    obtain ⟨rfl,rfl⟩ := ofPair_iff.mp pair
    simpa [ofPair] using other
  rw [lent,lent,takenBack,same]

theorem lent_takenBack_self (db : Db) (b u : Id) : lent (takenBack b u db) b u = false := by
  have none_left : (db.borrowedBooks.discard (ofPair b u)).select (ofPair b u) = [] := by
    rw [select_discard,List.filter_eq_nil_iff]
    intro row selected
    simp [(mem_select.mp selected).2]
  simp [lent,takenBack,Table.count,none_left]

theorem returned_comm (db : Db) (p q : Option Id × Option Id) : returned (returned db p) q = returned (returned db q) p := by
  match p, q with
  | (some b,some u), (some c,some v) =>
    by_cases same : c = b ∧ v = u
    · obtain ⟨rfl,rfl⟩ := same
      rfl
    · have other : ¬ (b = c ∧ u = v) := fun equal => same ⟨equal.1.symm,equal.2.symm⟩
      by_cases first : lent db b u = true <;> by_cases second : lent db c v = true <;>
        simp [returned,first,second,lent_takenBack same,lent_takenBack other,takenBack_comm]
  | (none,_), _ => rfl
  | (some _,none), _ => rfl
  | (some _,some _), (none,_) => rfl
  | (some _,some _), (some _,none) => rfl

theorem returned_again (db : Db) (pair : Option Id × Option Id) : returned (returned db pair) pair = returned db pair := by
  match pair with
  | (some b,some u) => by_cases first : lent db b u = true <;> simp [returned,first,lent_takenBack_self]
  | (none,_) => rfl
  | (some _,none) => rfl

theorem returned_settling : Settling returned Referring where
  keeps _ pair refers := returned_referring refers pair
  commutes db p q _ := returned_comm db p q
  again db pair _ := returned_again db pair

/-! ### Whole calls -/

theorem returnLoop_run (targets : List (Option Id × Option Id)) {db : Db} (refers : Referring db) :
    (Prog.forEach (fun pair => returnBook pair.1 pair.2) targets).run store db = (.ok (),targets.foldl returned db) := by
  induction targets generalizing db with
  | nil => rfl
  | cons pair rest ih =>
    rw [Prog.forEach,run_bind,returnBook_run refers]
    exact ih (returned_referring refers pair)

/-- What a call leaves behind that goes through some pairs. -/
theorem returnCall_run {service : Service Unit} {targets : List (Option Id × Option Id)}
    (loop : service = Prog.forEach (fun pair => returnBook pair.1 pair.2) targets) {db : Db} (refers : Referring db) :
    transactional service db = (.ok (),targets.foldl returned db) := by
  rw [loop]
  exact transactional_ok (returnLoop_run targets refers)

/-- The loans that are named are gone. -/
theorem returned_loans (targets : List (Option Id × Option Id)) (db : Db) :
    (targets.foldl returned db).borrowedBooks =
      db.borrowedBooks.discard (fun loan => decide ((some loan.book,some loan.user) ∈ targets)) := by
  have one : ∀ (db : Db) (pair : Option Id × Option Id), (returned db pair).borrowedBooks =
      db.borrowedBooks.discard (fun loan => decide ((some loan.book,some loan.user) = pair)) := by
    intro db pair
    match pair with
    | (some b,some u) =>
      have same : (fun loan : BorrowedBook => decide ((some loan.book,some loan.user) = (some b,some u))) = ofPair b u := by
        funext loan
        rw [Bool.eq_iff_iff,ofPair_iff]
        simp
      rw [same,returned]
      split_ifs with isLent
      · rfl
      · refine (discard_unmatched (fun row member => ?_)).symm
        rw [Bool.eq_false_iff]
        intro pair
        obtain ⟨book,user⟩ := ofPair_iff.mp pair
        exact isLent (by simpa [lent] using lent_iff.mpr ⟨row,member,book,user⟩)
    | (none,_) => exact (discard_unmatched (by simp)).symm
    | (some _,none) => exact (discard_unmatched (by simp)).symm
  induction targets generalizing db with
  | nil => simp [discard_none]
  | cons pair rest ih =>
    rw [List.foldl_cons,ih,one,discard_discard]
    congr 1
    funext loan
    simp [Bool.decide_or]

/-- Of the books nothing changes but the counters. -/
theorem returned_books (targets : List (Option Id × Option Id)) (db : Db) (b : Id) :
    ∃ copies : Book → Int32, (targets.foldl returned db).books.find b =
      (db.books.find b).map (fun book => { book with availableCopies := copies book }) := by
  have one : ∀ (db : Db) (pair : Option Id × Option Id), ∃ copies : Book → Int32, (returned db pair).books.find b =
      (db.books.find b).map (fun book => { book with availableCopies := copies book }) := by
    intro db pair
    have unchanged : ∃ copies : Book → Int32, db.books.find b =
        (db.books.find b).map (fun book => { book with availableCopies := copies book }) :=
      ⟨fun book => book.availableCopies,by simp⟩
    unfold returned
    split
    · rename_i c u
      split_ifs
      · refine ⟨fun book => (if (b == c) = true then topUp book else book).availableCopies,?_⟩
        simp only [takenBack,find_adjust]
        congr 1
        funext book
        unfold topUp
        split_ifs <;> rfl
      · exact unchanged
    · exact unchanged
  induction targets generalizing db with
  | nil => exact ⟨fun book => book.availableCopies,by simp⟩
  | cons pair rest ih =>
    obtain ⟨first,isFirst⟩ := one db pair
    obtain ⟨later,isLater⟩ := ih (returned db pair)
    refine ⟨fun book => later { book with availableCopies := first book },?_⟩
    rw [List.foldl_cons,isLater,isFirst,Option.map_map]
    rfl

/-- Pairs of a book and a user, as an administrator names them. -/
def returnsOf (pairs : List (Option Id × Option Id)) (requester : Option Id) : Service Unit :=
  returnBooks (some (pairs.map Prod.fst)) (some (pairs.map Prod.snd)) requester (some "ADMIN")

/-- Books that a user returns. -/
def ownReturns (bookIds : List (Option Id)) (userId : Option Id) : Service Unit :=
  returnBooks (some bookIds) none userId (some "USER")

theorem returnsOf_loop {pairs : List (Option Id × Option Id)} (nonempty : pairs ≠ []) (requester : Option Id) :
    returnsOf pairs requester = Prog.forEach (fun pair => returnBook pair.1 pair.2) pairs := by
  refine returnBooks_loop ?_
  rw [returnRequest_zip (by simpa using nonempty),if_pos (by simp)]
  exact congrArg some (List.zip_of_prod rfl rfl).symm

theorem ownReturns_loop {bookIds : List (Option Id)} (nonempty : bookIds ≠ []) (userId : Option Id) :
    ownReturns bookIds userId =
      Prog.forEach (fun pair => returnBook pair.1 pair.2) (bookIds.map (fun bookId => (bookId,userId))) := by
  refine returnBooks_loop ?_
  cases bookIds with
  | nil => exact absurd rfl nonempty
  | cons first rest => rfl

/-- Two calls that name the same pairs do the same: they remove exactly the loans
    that are named, and a repetition finds nothing left to do. -/
structure ReturnedAlike (db : Db) (first second : Service Unit) (named : Id → Id → Prop) : Prop where
  normal : (transactional first db).1 = .ok ()
  same : transactional second db = transactional first db
  loans : ∀ row : Id × BorrowedBook, row ∈ (transactional first db).2.borrowedBooks.rows ↔
    row ∈ db.borrowedBooks.rows ∧ ¬ named row.2.book row.2.user
  again : transactional first (transactional first db).2 = (.ok (),(transactional first db).2)

theorem returnedAlike_of_loops {db : Db} (refers : Referring db) {first second : Service Unit}
    {targets more : List (Option Id × Option Id)}
    (one : first = Prog.forEach (fun pair => returnBook pair.1 pair.2) targets)
    (other : second = Prog.forEach (fun pair => returnBook pair.1 pair.2) more)
    (members : ∀ pair, pair ∈ targets ↔ pair ∈ more) :
    ReturnedAlike db first second (fun b u => (some b,some u) ∈ targets) := by
  have kept : Referring (targets.foldl returned db) := returned_settling.run_keeps refers targets
  have run := returnCall_run one refers
  refine ⟨by rw [run],?_,?_,?_⟩
  · rw [run,returnCall_run other refers,returned_settling.run_members refers members]
  · obtain ⟨after,loop,rows⟩ := returnLoop_loans targets refers
    rw [returnLoop_run targets refers] at loop
    cases loop
    rw [run]
    exact rows
  · rw [run,returnCall_run one kept,returned_settling.run_absorbs_all refers (fun _ member => member)]

/-- What a return does depends on the pairs that it names, not on their order or
    their repetitions, for an administrator as for a user. -/
theorem returns_depend_on_pairs {db : Db} (refers : Referring db) :
    (∀ (pairs more : List (Option Id × Option Id)) (requester other : Option Id), pairs ≠ [] →
        (∀ pair, pair ∈ pairs ↔ pair ∈ more) →
        ReturnedAlike db (returnsOf pairs requester) (returnsOf more other) (fun b u => (some b,some u) ∈ pairs)) ∧
      ∀ (bookIds more : List (Option Id)) (userId : Option Id), bookIds ≠ [] → (∀ id, id ∈ bookIds ↔ id ∈ more) →
        ReturnedAlike db (ownReturns bookIds userId) (ownReturns more userId)
          (fun b u => some b ∈ bookIds ∧ some u = userId) := by
  have filled : ∀ {α : Type} {l more : List α}, l ≠ [] → (∀ a, a ∈ l ↔ a ∈ more) → more ≠ [] := by
    rintro α l more nonempty same rfl
    obtain ⟨a,member⟩ := List.exists_mem_of_ne_nil l nonempty
    exact absurd ((same a).mp member) List.not_mem_nil
  constructor
  · intro pairs more requester other nonempty same
    exact returnedAlike_of_loops refers (returnsOf_loop nonempty requester) (returnsOf_loop (filled nonempty same) other) same
  · intro bookIds more userId nonempty same
    have targets := returnedAlike_of_loops refers (ownReturns_loop nonempty userId)
      (ownReturns_loop (filled nonempty same) userId) (by simp [same])
    have named : (fun b u : Id => (some b,some u) ∈ bookIds.map (fun bookId => (bookId,userId))) =
        fun b u => some b ∈ bookIds ∧ some u = userId := by
      funext b u
      simp [eq_comm]
    rw [named] at targets
    exact targets

theorem returns_depend_on_pairs_sample :
    ReturnedAlike sampleDb (returnsOf [(some 1,some 1),(some 7,some 1)] (some 2))
      (returnsOf [(some 7,some 1),(some 1,some 1),(some 7,some 1)] none)
      (fun b u => (some b,some u) ∈ [(some 1,some 1),(some 7,some 1)]) := by
  have inv : Conserved sampleDb := by decide
  refine (returns_depend_on_pairs inv.toReferring).1 _ _ (some 2) none (List.cons_ne_nil _ _) (fun pair => ?_)
  simp only [List.mem_cons,List.not_mem_nil,or_false]
  tauto

end LibraryServer.ReturnSets
