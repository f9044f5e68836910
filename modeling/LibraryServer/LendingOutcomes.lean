import LibraryServer.LendingRefinement

/-!
What whole calls leave behind. The loops of the lending services change one book
and one loan at a time and check each id in the state that the earlier ids have
left. Over a list of distinct books that can be lent, or that are with the user,
they amount to one change of the tables that does not depend on the order of the
list (`lentOut`, `givenBack`); the two ways of returning then agree.
-/
namespace LibraryServer.LendingOutcomes
open LibraryServer.Java LibraryServer.Tables LibraryServer.Programs LibraryServer.Entities LibraryServer.Repositories
open LibraryServer.LendingServices LibraryServer.LendingInvariant LibraryServer.LendingRefinement
set_option linter.unusedSimpArgs false

def lowered (book : Book) : Book := { book with availableCopies := book.availableCopies - 1 }
def raised (book : Book) : Book := { book with availableCopies := book.availableCopies + 1 }

/-- Whether a list of ids names a book. -/
def listed (ids : List (Option Id)) (b : Id) : Bool := some b ∈ ids

theorem listed_nil : listed [] = fun _ => false := rfl

theorem listed_cons (b : Id) (rest : List (Option Id)) : listed (some b :: rest) = fun j => j == b || listed rest j := by
  funext j
  by_cases same : j = b <;> simp [listed,same]

/-! ### Borrowing -/

/-- Every id is listed once and names a stored book that has a copy left and is
    not with the user. -/
structure Lendable (db : Db) (u : Id) (ids : List (Option Id)) : Prop where
  distinct : ids.Nodup
  each : ∀ id ∈ ids, ∃ b book, id = some b ∧ db.books.find b = some book ∧ 0 < book.availableCopies.toInt ∧
    db.borrowedBooks.count (ofPair b u) = 0

theorem lendable_nil (db : Db) (u : Id) : Lendable db u [] := ⟨List.nodup_nil,by simp⟩

/-- Once the first book is lent, what is asked of the others is that they can be
    lent in the database as it was, and that the first is not among them. -/
theorem lendable_cons {db : Db} {b u : Id} {book : Book} {loan : BorrowedBook} {rest : List (Option Id)}
    (found : db.books.find b = some book) (left : 0 < book.availableCopies.toInt)
    (free : db.borrowedBooks.count (ofPair b u) = 0) (isBook : loan.book = b) (isUser : loan.user = u) :
    Lendable (lend db b book loan) u rest ↔ Lendable db u (some b :: rest) := by
  have loans : ∀ j, (lend db b book loan).borrowedBooks.count (ofPair j u) =
      db.borrowedBooks.count (ofPair j u) + if b = j then 1 else 0 := by
    intro j
    simp [lend,count_insert,ofPair,isBook,isUser]
  have others : ∀ j, j ≠ b → (lend db b book loan).books.find j = db.books.find j := by
    intro j other
    simp [lend,find_set,other]
  constructor
  · rintro ⟨distinct,each⟩
    have absent : some b ∉ rest := by
      intro again
      obtain ⟨c,_,same,_,_,none_out⟩ := each _ again
      cases same
      rw [loans b,if_pos rfl] at none_out
      omega
    refine ⟨List.nodup_cons.mpr ⟨absent,distinct⟩,?_⟩
    intro id member
    rcases List.mem_cons.mp member with rfl | later
    · exact ⟨b,book,rfl,found,left,free⟩
    · obtain ⟨c,other,rfl,stored,some_left,none_out⟩ := each id later
      have unlike : c ≠ b := by
        rintro rfl
        exact absent later
      rw [others c unlike] at stored
      rw [loans c,if_neg unlike.symm] at none_out
      exact ⟨c,other,rfl,stored,some_left,none_out⟩
  · rintro ⟨distinct,each⟩
    obtain ⟨absent,distinct⟩ := List.nodup_cons.mp distinct
    refine ⟨distinct,?_⟩
    intro id member
    obtain ⟨c,other,rfl,stored,some_left,none_out⟩ := each id (List.mem_cons_of_mem _ member)
    have unlike : c ≠ b := by
      rintro rfl
      exact absent member
    exact ⟨c,other,rfl,by rw [others c unlike,stored],some_left,by rw [loans c,if_neg unlike.symm,none_out]⟩

/-- The loan rows that the rounds from the `n`-th on write. -/
def newLoans (clock : Nat → Int) (u : Id) : Nat → List (Option Id) → List BorrowedBook
  | _, [] => []
  | n, none :: rest => newLoans clock u (n + 1) rest
  | n, some b :: rest => newLoan clock n b u :: newLoans clock u (n + 1) rest

/-- The listed books lent to a user. -/
def lentOut (clock : Nat → Int) (u : Id) (n : Nat) (ids : List (Option Id)) (db : Db) : Db :=
  { db with
    books := db.books.adjust (listed ids) lowered
    borrowedBooks := (newLoans clock u n ids).foldl Table.insert db.borrowedBooks }

theorem lentOut_nil (clock : Nat → Int) (u : Id) (n : Nat) (db : Db) : lentOut clock u n [] db = db := by
  rw [lentOut,listed_nil,adjust_none]
  rfl

theorem lentOut_cons (clock : Nat → Int) {u : Id} (n : Nat) {db : Db} {b : Id} {book : Book} {rest : List (Option Id)}
    (found : db.books.find b = some book) (absent : some b ∉ rest) :
    lentOut clock u (n + 1) rest (lend db b book (newLoan clock n b u)) = lentOut clock u n (some b :: rest) db := by
  have books : (db.books.set b (lowered book)).adjust (listed rest) lowered =
      db.books.adjust (listed (some b :: rest)) lowered := by
    rw [listed_cons]
    exact adjust_set found (by simp [listed,absent]) lowered
  unfold lentOut
  rw [← books]
  rfl

/-- The loop lends all the books, or throws if they cannot all be lent. -/
theorem borrowLoop_run (clock : Nat → Int) (u : Id) (ids : List (Option Id)) (n : Nat) (db : Db) :
    Lendable db u ids ∧
        (Prog.forEach (fun item => borrowBook clock u item.2 item.1) (ids.zipIdx n)).run store db =
          (.ok (),lentOut clock u n ids db) ∨
      ¬ Lendable db u ids ∧
        ∃ e after, e.isChecked = false ∧
          (Prog.forEach (fun item => borrowBook clock u item.2 item.1) (ids.zipIdx n)).run store db = (.error e,after) := by
  -- On the list, for any database: each round leaves another one to the rounds after it.
  induction ids generalizing n db with
  | nil => exact .inl ⟨lendable_nil db u,by rw [lentOut_nil]; rfl⟩
  | cons id rest ih =>
    rw [List.zipIdx_cons,Prog.forEach,run_bind]
    rcases borrowBook_cases clock n db u id with ⟨e,unchecked,run⟩ | ⟨b,book,rfl,found,left,free,run⟩
    · refine .inr ⟨?_,e,db,unchecked,by rw [run]⟩
      rintro ⟨_,each⟩
      obtain ⟨b,book,rfl,found,left,free⟩ := each id List.mem_cons_self
      rw [borrowBook_ok clock n found left free] at run
      cases run
    · rw [run]
      have step : Lendable (lend db b book (newLoan clock n b u)) u rest ↔ Lendable db u (some b :: rest) :=
        lendable_cons found left free rfl rfl
      rcases ih (n + 1) (lend db b book (newLoan clock n b u)) with ⟨lendable,later⟩ | ⟨refused,e,after,unchecked,later⟩
      · have whole := step.mp lendable
        refine .inl ⟨whole,?_⟩
        rw [← lentOut_cons clock n found (List.nodup_cons.mp whole.distinct).1]
        exact later
      · exact .inr ⟨fun whole => refused (step.mpr whole),e,after,unchecked,later⟩

/-- The user is stored, and the books can be lent to the user. -/
def Borrowable (db : Db) (bookIds : Option (List (Option Id))) (userId : Option Id) : Prop :=
  ∃ u user ids, userId = some u ∧ db.users.find u = some user ∧ bookIds = some ids ∧ Lendable db u ids

/-- A call lends all the books, or throws and leaves the database alone. -/
theorem borrowBooksForUser_outcomes (clock : Nat → Int) (bookIds : Option (List (Option Id))) (userId : Option Id) (db : Db) :
    (∃ u ids, userId = some u ∧ bookIds = some ids ∧ Borrowable db bookIds userId ∧
        transactional (borrowBooksForUser clock bookIds userId) db = (.ok (),lentOut clock u 0 ids db)) ∨
      ¬ Borrowable db bookIds userId ∧
        ∃ e, transactional (borrowBooksForUser clock bookIds userId) db = (.error e,db) := by
  cases userId with
  | none =>
    refine .inr ⟨?_,_,transactional_thrown rfl (run_findUserById_null db _)⟩
    rintro ⟨u,_,_,impossible,_⟩
    cases impossible
  | some u =>
    cases stored : db.users.find u with
    | none =>
      have run : (borrowBooksForUser clock bookIds (some u)).run store db = (.error (.runtimeException "User not found"),db) := by
        rw [borrowBooksForUser,run_findUserById,stored]
        rfl
      refine .inr ⟨?_,_,transactional_thrown rfl run⟩
      rintro ⟨v,user,_,same,found,_⟩
      cases same
      rw [stored] at found
      cases found
    | some user =>
      cases bookIds with
      | none =>
        have run : (borrowBooksForUser clock none (some u)).run store db = (.error .nullPointer,db) := by
          rw [borrowBooksForUser,run_findUserById,stored]
          rfl
        refine .inr ⟨?_,_,transactional_thrown rfl run⟩
        rintro ⟨_,_,ids,_,_,impossible,_⟩
        cases impossible
      | some ids =>
        have loop : (borrowBooksForUser clock (some ids) (some u)).run store db =
            (Prog.forEach (fun item => borrowBook clock u item.2 item.1) ids.zipIdx).run store db := by
          rw [borrowBooksForUser,run_findUserById,stored]
          rfl
        rcases borrowLoop_run clock u ids 0 db with ⟨lendable,run⟩ | ⟨refused,e,after,unchecked,run⟩
        · exact .inl ⟨u,ids,rfl,rfl,⟨u,user,ids,rfl,stored,rfl,lendable⟩,transactional_ok (loop.trans run)⟩
        · refine .inr ⟨?_,e,transactional_thrown unchecked (loop.trans run)⟩
          rintro ⟨v,_,_,sameUser,_,sameIds,lendable⟩
          cases sameUser
          cases sameIds
          exact refused lendable

/-- The columns of the loans, without their keys and dates. -/
def loanColumns (rows : List (Id × BorrowedBook)) : List (Option Id × Id × Option Int32) :=
  rows.map (fun row => (some row.2.book,row.2.user,row.2.borrowCount))

/-- The difference that borrowing makes: a new loan for every id, and one copy less
    of exactly the listed books. -/
structure Lent (before after : Db) (u : Id) (ids : List (Option Id)) : Prop where
  users : after.users = before.users
  inventory : after.inventory = before.inventory
  books : ∀ b, after.books.find b =
    (before.books.find b).map (fun book =>
      if some b ∈ ids then { book with availableCopies := book.availableCopies - 1 } else book)
  loans : ∃ added, after.borrowedBooks.rows = before.borrowedBooks.rows ++ added ∧
    (loanColumns added).Perm (ids.map (fun id => (id,u,some 1)))

/-- The new rows are numbered on, and there is one for every id. -/
theorem lentOut_loans (clock : Nat → Int) (u : Id) (n : Nat) (db : Db) {ids : List (Option Id)} (named : none ∉ ids) :
    ∃ added, (lentOut clock u n ids db).borrowedBooks.rows = db.borrowedBooks.rows ++ added ∧
      loanColumns added = ids.map (fun id => (id,u,some 1)) := by
  refine ⟨numbered db.borrowedBooks.next (newLoans clock u n ids),rows_insertAll _ _,?_⟩
  have columns : loanColumns (numbered db.borrowedBooks.next (newLoans clock u n ids)) =
      (newLoans clock u n ids).map (fun loan => (some loan.book,loan.user,loan.borrowCount)) := by
    conv_rhs => rw [← numbered_values db.borrowedBooks.next (newLoans clock u n ids),List.map_map]
    rfl
  rw [columns]
  clear columns
  induction ids generalizing n with
  | nil => rfl
  | cons id rest ih =>
    cases id with
    | none => exact absurd List.mem_cons_self named
    | some b =>
      rw [newLoans,List.map_cons,List.map_cons,ih (n + 1) (fun later => named (List.mem_cons_of_mem _ later))]
      rfl

theorem lendable_named {db : Db} {u : Id} {ids : List (Option Id)} (lendable : Lendable db u ids) : none ∉ ids := by
  intro member
  obtain ⟨b,_,impossible,_⟩ := lendable.each _ member
  cases impossible

theorem lendable_perm {db : Db} {u : Id} {ids more : List (Option Id)} (perm : more.Perm ids) :
    Lendable db u more ↔ Lendable db u ids := by
  constructor
  · rintro ⟨distinct,each⟩
    exact ⟨perm.nodup_iff.mp distinct,fun id member => each id (perm.mem_iff.mpr member)⟩
  · rintro ⟨distinct,each⟩
    exact ⟨perm.nodup_iff.mpr distinct,fun id member => each id (perm.mem_iff.mp member)⟩

theorem listed_perm {ids more : List (Option Id)} (perm : more.Perm ids) : listed more = listed ids := by
  funext b
  simp [listed,perm.mem_iff]

theorem lentOut_lent (clock : Nat → Int) {db : Db} {u : Id} {ids : List (Option Id)} (lendable : Lendable db u ids) :
    Lent db (lentOut clock u 0 ids db) u ids := by
  obtain ⟨added,rows,columns⟩ := lentOut_loans clock u 0 db (lendable_named lendable)
  refine ⟨rfl,rfl,?_,added,rows,by rw [columns]⟩
  intro b
  show (db.books.adjust (listed ids) lowered).find b = _
  rw [find_adjust]
  simp only [listed,decide_eq_true_eq]
  rfl

theorem borrowable_perm {db : Db} {userId : Option Id} {ids more : List (Option Id)} (perm : more.Perm ids) :
    Borrowable db (some more) userId ↔ Borrowable db (some ids) userId := by
  constructor
  · rintro ⟨u,user,_,isUser,stored,⟨rfl⟩,lendable⟩
    exact ⟨u,user,ids,isUser,stored,rfl,(lendable_perm perm).mp lendable⟩
  · rintro ⟨u,user,_,isUser,stored,⟨rfl⟩,lendable⟩
    exact ⟨u,user,more,isUser,stored,rfl,(lendable_perm perm).mpr lendable⟩

/-- Two databases that differ at most in the keys and dates of their loans. -/
structure SameUpToKeys (db other : Db) : Prop where
  users : db.users = other.users
  books : db.books = other.books
  inventory : db.inventory = other.inventory
  loans : (loanColumns db.borrowedBooks.rows).Perm (loanColumns other.borrowedBooks.rows)

theorem lentOut_perm (clock : Nat → Int) {db : Db} {u : Id} {ids more : List (Option Id)} (perm : more.Perm ids)
    (lendable : Lendable db u ids) : SameUpToKeys (lentOut clock u 0 more db) (lentOut clock u 0 ids db) := by
  refine ⟨rfl,?_,rfl,?_⟩
  · show db.books.adjust (listed more) lowered = db.books.adjust (listed ids) lowered
    rw [listed_perm perm]
  · obtain ⟨added,rows,columns⟩ := lentOut_loans clock u 0 db (lendable_named lendable)
    obtain ⟨added',rows',columns'⟩ := lentOut_loans clock u 0 db (lendable_named ((lendable_perm perm).mpr lendable))
    have whole : ∀ old new, loanColumns (old ++ new) = loanColumns old ++ loanColumns new := fun _ _ => List.map_append
    rw [rows,rows',whole,whole,columns,columns']
    exact (perm.map _).append_left _

theorem borrow_order (clock : Nat → Int) (db : Db) (userId : Option Id) {ids more : List (Option Id)} (perm : more.Perm ids) :
    let outcome := transactional (borrowBooksForUser clock (some ids) userId) db
    let other := transactional (borrowBooksForUser clock (some more) userId) db
    (other.1 = .ok () ↔ outcome.1 = .ok ()) ∧ SameUpToKeys other.2 outcome.2 := by
  intro outcome other
  rcases borrowBooksForUser_outcomes clock (some ids) userId db with ⟨u,_,rfl,⟨rfl⟩,able,run⟩ | ⟨unable,e,run⟩
  · rcases borrowBooksForUser_outcomes clock (some more) (some u) db with ⟨_,_,⟨rfl⟩,⟨rfl⟩,_,run'⟩ | ⟨unable,_⟩
    · obtain ⟨_,_,_,⟨rfl⟩,_,⟨rfl⟩,lendable⟩ := able
      simp only [outcome,other,run,run',true_and]
      exact lentOut_perm clock perm lendable
    · exact absurd ((borrowable_perm perm).mpr able) unable
  · rcases borrowBooksForUser_outcomes clock (some more) userId db with ⟨_,_,_,_,able,_⟩ | ⟨_,e',run'⟩
    · exact absurd ((borrowable_perm perm).mp able) unable
    · simp only [outcome,other,run,run',reduceCtorEq,true_and]
      exact ⟨rfl,rfl,rfl,List.Perm.refl _⟩

/-- Borrowing succeeds exactly if the user is stored and the books can be lent to
    the user. Then it makes exactly the difference of lending them, otherwise none.
    The order of the ids matters only for the keys of the new loans. -/
theorem borrow_exact (clock : Nat → Int) (db : Db) (bookIds : Option (List (Option Id))) (userId : Option Id) :
    let outcome := transactional (borrowBooksForUser clock bookIds userId) db
    (outcome.1 = .ok () ↔ Borrowable db bookIds userId) ∧
      (∀ u ids, userId = some u → bookIds = some ids → outcome.1 = .ok () → Lent db outcome.2 u ids) ∧
      (outcome.1 ≠ .ok () → outcome.2 = db) ∧
      ∀ ids more, bookIds = some ids → more.Perm ids →
        let other := transactional (borrowBooksForUser clock (some more) userId) db
        (other.1 = .ok () ↔ outcome.1 = .ok ()) ∧ SameUpToKeys other.2 outcome.2 := by
  intro outcome
  have order : ∀ ids more, bookIds = some ids → more.Perm ids →
      let other := transactional (borrowBooksForUser clock (some more) userId) db
      (other.1 = .ok () ↔ outcome.1 = .ok ()) ∧ SameUpToKeys other.2 outcome.2 := by
    rintro ids more rfl perm
    exact borrow_order clock db userId perm
  rcases borrowBooksForUser_outcomes clock bookIds userId db with ⟨u,ids,rfl,rfl,able,run⟩ | ⟨unable,e,run⟩
  · have returned : outcome = (.ok (),lentOut clock u 0 ids db) := run
    refine ⟨by simp [returned,able],?_,fun failed => absurd (by rw [returned]) failed,order⟩
    rintro _ _ ⟨rfl⟩ ⟨rfl⟩ _
    obtain ⟨_,_,_,⟨rfl⟩,_,⟨rfl⟩,lendable⟩ := able
    rw [returned]
    exact lentOut_lent clock lendable
  · have thrown : outcome = (.error e,db) := run
    refine ⟨by simp [thrown,unable],?_,fun _ => by rw [thrown],order⟩
    intro _ _ _ _ ok
    rw [thrown] at ok
    cases ok

/-! ### The term of a loan -/

/-- The loans that are in the second database and not in the first. -/
def created (before after : Db) : List BorrowedBook :=
  (after.borrowedBooks.rows.filter (fun row => row ∉ before.borrowedBooks.rows)).map Prod.snd

/-- Every loan is for fourteen days, and all have the same dates. -/
def FourteenDays (loans : List BorrowedBook) : Prop :=
  ∀ loan ∈ loans, loan.dueDate = some (loan.borrowedDate.plusDays 14) ∧
    ∀ other ∈ loans, other.borrowedDate = loan.borrowedDate ∧ other.dueDate = loan.dueDate

theorem lentOut_created (clock : Nat → Int) (u : Id) (n : Nat) (ids : List (Option Id)) (db : Db) :
    created db (lentOut clock u n ids db) = newLoans clock u n ids := by
  have rows : (lentOut clock u n ids db).borrowedBooks.rows =
      db.borrowedBooks.rows ++ numbered db.borrowedBooks.next (newLoans clock u n ids) := rows_insertAll _ _
  have old : db.borrowedBooks.rows.filter (fun row => row ∉ db.borrowedBooks.rows) = [] :=
    List.filter_eq_nil_iff.mpr (fun row member => by simp [member])
  have new : (numbered db.borrowedBooks.next (newLoans clock u n ids)).filter (fun row => row ∉ db.borrowedBooks.rows) =
      numbered db.borrowedBooks.next (newLoans clock u n ids) := by
    refine List.filter_eq_self.mpr (fun row member => ?_)
    have above := (numbered_ge member).1
    have notOld : row ∉ db.borrowedBooks.rows := fun stored => by
      have below := db.borrowedBooks.below row stored
      omega
    simpa using notOld
  rw [created,rows,List.filter_append,old,new,List.nil_append,numbered_values]

/-- The round of each id reads the clock twice. -/
theorem newLoans_dates (clock : Nat → Int) (u : Id) (n : Nat) {ids : List (Option Id)} (named : none ∉ ids) :
    (newLoans clock u n ids).map (fun loan => (loan.borrowedDate,loan.dueDate)) =
      (List.range' n ids.length).map (fun i =>
        (atStartOfDay (clock (2 * i)),some (atStartOfDay (clock (2 * i + 1) + 14)))) := by
  induction ids generalizing n with
  | nil => rfl
  | cons id rest ih =>
    cases id with
    | none => exact absurd List.mem_cons_self named
    | some b =>
      rw [newLoans,List.map_cons,ih (n + 1) (fun later => named (List.mem_cons_of_mem _ later)),List.length_cons,List.range'_succ]
      rfl

theorem mem_newLoans_dates (clock : Nat → Int) (u : Id) {ids : List (Option Id)} (named : none ∉ ids)
    (dates : LocalDateTime × Option LocalDateTime) :
    (∃ loan ∈ newLoans clock u 0 ids, (loan.borrowedDate,loan.dueDate) = dates) ↔
      ∃ j < ids.length, (atStartOfDay (clock (2 * j)),some (atStartOfDay (clock (2 * j + 1) + 14))) = dates := by
  have same := newLoans_dates clock u 0 named
  rw [← List.mem_map,same,List.mem_map]
  simp [List.mem_range'_1]

theorem newLoans_term (clock : Nat → Int) (u : Id) {ids : List (Option Id)} (named : none ∉ ids) :
    FourteenDays (newLoans clock u 0 ids) ↔ ∀ i < 2 * ids.length, clock i = clock 0 := by
  have dates := mem_newLoans_dates clock u named
  constructor
  · intro term i small
    have same : ∀ j < ids.length, clock (2 * j) = clock 0 ∧ clock (2 * j + 1) = clock 0 := by
      intro j inList
      obtain ⟨loan,member,isLoan⟩ := (dates _).mpr ⟨j,inList,rfl⟩
      obtain ⟨first,isFirst,atFirst⟩ := (dates _).mpr ⟨0,by omega,rfl⟩
      obtain ⟨fourteen,others⟩ := term loan member
      have start := (others first isFirst).1
      simp only [Prod.mk.injEq,Nat.mul_zero] at isLoan atFirst
      rw [isLoan.1,atFirst.1] at start
      rw [isLoan.1,isLoan.2] at fourteen
      simp only [atStartOfDay,LocalDateTime.plusDays,Option.some.injEq,LocalDateTime.mk.injEq,and_true] at start fourteen
      omega
    obtain ⟨j,rfl | rfl⟩ : ∃ j, i = 2 * j ∨ i = 2 * j + 1 := ⟨i / 2,by omega⟩
    · exact (same j (by omega)).1
    · exact (same j (by omega)).2
  · intro constant
    have all : ∀ loan ∈ newLoans clock u 0 ids,
        loan.borrowedDate = atStartOfDay (clock 0) ∧ loan.dueDate = some (atStartOfDay (clock 0 + 14)) := by
      intro loan member
      obtain ⟨j,small,same⟩ := (dates _).mp ⟨loan,member,rfl⟩
      rw [constant (2 * j) (by omega),constant (2 * j + 1) (by omega)] at same
      exact ⟨(Prod.mk.inj same).1.symm,(Prod.mk.inj same).2.symm⟩
    intro loan member
    obtain ⟨borrowed,due⟩ := all loan member
    refine ⟨by rw [borrowed,due]; rfl,fun other listed => ?_⟩
    obtain ⟨otherBorrowed,otherDue⟩ := all other listed
    exact ⟨by rw [borrowed,otherBorrowed],by rw [due,otherDue]⟩

/-- The loans of a successful call are for fourteen days from one date exactly if
    the date does not change between any two of its readings. -/
theorem loan_term_iff {clock : Nat → Int} {db after : Db} {ids : List (Option Id)} {userId : Option Id}
    (lent : transactional (borrowBooksForUser clock (some ids) userId) db = (.ok (),after)) :
    FourteenDays (created db after) ↔ ∀ i < 2 * ids.length, clock i = clock 0 := by
  rcases borrowBooksForUser_outcomes clock (some ids) userId db with ⟨u,_,rfl,⟨rfl⟩,able,run⟩ | ⟨_,e,run⟩
  · obtain ⟨_,_,_,⟨rfl⟩,_,⟨rfl⟩,lendable⟩ := able
    rw [run] at lent
    cases lent
    rw [lentOut_created]
    exact newLoans_term clock u (lendable_named lendable)
  · rw [run] at lent
    cases lent

theorem loan_term_sample :
    let call := transactional (borrowBooksForUser (fun _ => 20000) (some [some 1]) (some 2)) sampleDb
    call.1 = .ok () ∧ FourteenDays (created sampleDb call.2) := by
  intro call
  have lent : transactional (borrowBooksForUser (fun _ => 20000) (some [some 1]) (some 2)) sampleDb = (.ok (),call.2) := rfl
  exact ⟨rfl,(loan_term_iff lent).mpr (fun _ _ => rfl)⟩

/-- Midnight passes after the first reading. -/
theorem loan_term_midnight :
    let clock := fun i => if i = 0 then 20000 else 20001
    let call := transactional (borrowBooksForUser clock (some [some 1]) (some 2)) sampleDb
    (∀ i j, i ≤ j → clock i ≤ clock j) ∧ call.1 = .ok () ∧ ¬ FourteenDays (created sampleDb call.2) := by
  intro clock call
  refine ⟨fun i j later => ?_,by decide,fun term => ?_⟩
  · simp only [clock]
    split_ifs <;> omega
  · have wrong := (term _ List.mem_cons_self).1
    exact absurd wrong (by decide)

/-! ### Returning -/

/-- Every id is listed once and names a stored book that is with the user. -/
structure Returnable (db : Db) (u : Id) (ids : List (Option Id)) : Prop where
  distinct : ids.Nodup
  each : ∀ id ∈ ids, ∃ k loan book, id = some loan.book ∧ loan.user = u ∧ (k,loan) ∈ db.borrowedBooks.rows ∧
    db.books.find loan.book = some book

/-- The loans of the listed books to a user. -/
def lentTo (u : Id) (ids : List (Option Id)) (loan : BorrowedBook) : Bool := loan.user == u && listed ids loan.book

/-- The listed books taken back from a user. -/
def givenBack (u : Id) (ids : List (Option Id)) (db : Db) : Db :=
  { db with
    books := db.books.adjust (listed ids) raised
    borrowedBooks := db.borrowedBooks.discard (lentTo u ids) }

theorem givenBack_nil (u : Id) (db : Db) : givenBack u [] db = db := by
  have nothing : lentTo u [] = fun _ => false := by
    funext loan
    simp [lentTo,listed_nil]
  rw [givenBack,nothing,listed_nil,adjust_none,discard_none]

theorem givenBack_cons {db : Db} (inv : Counted db) {u : Id} {k : Id} {loan : BorrowedBook} {book : Book}
    {rest : List (Option Id)} (isUser : loan.user = u) (out : (k,loan) ∈ db.borrowedBooks.rows)
    (found : db.books.find loan.book = some book) (absent : some loan.book ∉ rest) :
    givenBack u rest (takeBack db loan.book book k) = givenBack u (some loan.book :: rest) db := by
  have books : (db.books.set loan.book (raised book)).adjust (listed rest) raised =
      db.books.adjust (listed (some loan.book :: rest)) raised := by
    rw [listed_cons]
    exact adjust_set found (by simp [listed,absent]) raised
  have loans : (db.borrowedBooks.erase k).discard (lentTo u rest) =
      db.borrowedBooks.discard (lentTo u (some loan.book :: rest)) := by
    rw [discard_erase (pair_key inv.once out),isUser]
    congr 1
    funext other
    simp only [ofPair,lentTo,listed_cons]
    cases other.user == u <;> simp
  unfold givenBack
  rw [← books,← loans]
  rfl

theorem returnable_cons {db : Db} {u : Id} {k : Id} {loan : BorrowedBook} (book : Book) {rest : List (Option Id)}
    (out : (k,loan) ∈ db.borrowedBooks.rows) (inventory : Table Inventory)
    (returnable : Returnable db u (some loan.book :: rest)) :
    Returnable { takeBack db loan.book book k with inventory := inventory } u rest := by
  obtain ⟨distinct,each⟩ := returnable
  obtain ⟨absent,distinct⟩ := List.nodup_cons.mp distinct
  refine ⟨distinct,?_⟩
  intro id member
  obtain ⟨j,other,kept,rfl,isUser,lent,stored⟩ := each id (List.mem_cons_of_mem _ member)
  have unlike : other.book ≠ loan.book := fun same => absent (same ▸ member)
  refine ⟨j,other,kept,rfl,isUser,mem_erase.mpr ⟨lent,?_⟩,?_⟩
  · intro same
    have rows : (j,other) = (k,loan) := rows_key_inj lent out same
    cases rows
    exact unlike rfl
  · simp [takeBack,find_set,unlike,stored]

/-- A loop whose rounds each take a loan back takes back all that are listed,
    whatever the rounds do to the inventory. -/
theorem takeBackLoop_run {u : Id} (round : Option Id → Service Unit)
    (rounds : ∀ db k loan book, Counted db → loan.user = u → (k,loan) ∈ db.borrowedBooks.rows →
      db.books.find loan.book = some book →
      ∃ inventory, (round (some loan.book)).run store db = (.ok (),{ takeBack db loan.book book k with inventory := inventory }))
    (ids : List (Option Id)) {db : Db} (inv : Counted db) (returnable : Returnable db u ids) :
    ∃ inventory, (Prog.forEach round ids).run store db = (.ok (),{ givenBack u ids db with inventory := inventory }) := by
  induction ids generalizing db with
  | nil =>
    rw [givenBack_nil]
    exact ⟨db.inventory,rfl⟩
  | cons id rest ih =>
    obtain ⟨k,loan,book,rfl,isUser,out,found⟩ := returnable.each id List.mem_cons_self
    obtain ⟨inventory,run⟩ := rounds db k loan book inv isUser out found
    have after : Counted { takeBack db loan.book book k with inventory := inventory } := by
      obtain ⟨once,balanced⟩ := takeBack_counted inv out found
      exact ⟨once,balanced⟩
    obtain ⟨last,later⟩ := ih after (returnable_cons book out inventory returnable)
    refine ⟨last,?_⟩
    rw [Prog.forEach,run_bind,run,← givenBack_cons inv isUser out found (List.nodup_cons.mp returnable.distinct).1]
    exact later

theorem returnBookForUser_round {u : Id} (userId : Option Id) (db : Db) (k : Id) (loan : BorrowedBook) (book : Book)
    (inv : Counted db) (isUser : loan.user = u) (out : (k,loan) ∈ db.borrowedBooks.rows)
    (found : db.books.find loan.book = some book) :
    ∃ inventory, (returnBookForUser u userId (some loan.book)).run store db =
      (.ok (),{ takeBack db loan.book book k with inventory := inventory }) := by
  rcases returnBookForUser_cases inv u userId (some loan.book) with ⟨e,_,_,free⟩ | ⟨j,other,kept,same,user,lent,stored,run⟩
  · have none_out := free loan.book book rfl found
    have one : 0 < db.borrowedBooks.count (ofPair loan.book u) := lent_iff.mpr ⟨_,out,rfl,isUser⟩
    omega
  · have row : (j,other) = (k,loan) :=
      row_unique inv.once lent out (Option.some.inj same).symm (user.trans isUser.symm)
    cases row
    rw [found] at stored
    cases stored
    exact ⟨db.inventory,run⟩

theorem returnBook_round {u : Id} (db : Db) (k : Id) (loan : BorrowedBook) (book : Book) (inv : Counted db)
    (isUser : loan.user = u) (out : (k,loan) ∈ db.borrowedBooks.rows) (found : db.books.find loan.book = some book) :
    ∃ inventory, (returnBook (some loan.book) (some u)).run store db =
      (.ok (),{ takeBack db loan.book book k with inventory := inventory }) := by
  rcases returnBook_outcomes db (some loan.book) (some u) with ⟨_,free⟩ | ⟨j,other,same,user,lent,outcome⟩
  · have none_out := free loan.book u rfl rfl
    have one : 0 < db.borrowedBooks.count (ofPair loan.book u) := lent_iff.mpr ⟨_,out,rfl,isUser⟩
    omega
  · have row : (j,other) = (k,loan) :=
      row_unique inv.once lent out (Option.some.inj same).symm ((Option.some.inj user).symm.trans isUser.symm)
    cases row
    rcases outcome with ⟨absent,_⟩ | ⟨kept,stored,run⟩
    · rw [found] at absent
      cases absent
    · rw [found] at stored
      cases stored
      rw [countedUp_room inv.balanced out found] at run
      exact ⟨_,run⟩

/-- The ways to return books for a user. -/
inductive ReturnPath where
  | returnBooksForUser
  | asUser
  | asAdmin (requester : Option Id)

/-- An administrator names the user beside every book. -/
def ReturnPath.service (u : Id) (ids : List (Option Id)) : ReturnPath → Service Unit
  | .returnBooksForUser => LendingServices.returnBooksForUser (some ids) (some u)
  | .asUser => returnBooks (some ids) none (some u) (some "USER")
  | .asAdmin requester => returnBooks (some ids) (some (List.replicate ids.length (some u))) requester (some "ADMIN")

/-- Both roles give `returnBooks` the same rounds. -/
theorem returnBooks_rounds {u : Id} {ids : List (Option Id)} (nonempty : ids ≠ []) (requester : Option Id) :
    returnBooks (some ids) none (some u) (some "USER") = Prog.forEach (fun id => returnBook id (some u)) ids ∧
      returnBooks (some ids) (some (List.replicate ids.length (some u))) requester (some "ADMIN") =
        Prog.forEach (fun id => returnBook id (some u)) ids := by
  have asUser : returnRequest (some ids) none (some u) (some "USER") = some (ids.map (fun id => (id,some u))) := by
    cases ids with
    | nil => exact absurd rfl nonempty
    | cons first rest => rfl
  have paired : ∀ l : List (Option Id), l.zip (List.replicate l.length (some u)) = l.map (fun id => (id,some u)) := by
    intro l
    induction l with
    | nil => rfl
    | cons first rest ih => rw [List.length_cons,List.replicate_succ,List.zip_cons_cons,ih,List.map_cons]
  have asAdmin : returnRequest (some ids) (some (List.replicate ids.length (some u))) requester (some "ADMIN") =
      some (ids.map (fun id => (id,some u))) := by
    rw [returnRequest_zip nonempty,if_pos (List.length_replicate).symm,paired]
  rw [returnBooks_loop asUser,returnBooks_loop asAdmin,forEach_map]
  exact ⟨rfl,rfl⟩

/-- Each way returns normally and takes back the listed books. -/
theorem returnPath_run (path : ReturnPath) {db : Db} (inv : Counted db) {u : Id} (member : ∃ user, db.users.find u = some user)
    {ids : List (Option Id)} (nonempty : ids ≠ []) (returnable : Returnable db u ids) :
    ∃ inventory, transactional (path.service u ids) db = (.ok (),{ givenBack u ids db with inventory := inventory }) := by
  cases path with
  | returnBooksForUser =>
    obtain ⟨user,stored⟩ := member
    obtain ⟨inventory,run⟩ := takeBackLoop_run (returnBookForUser u (some u)) (returnBookForUser_round (some u)) ids inv
      returnable
    refine ⟨inventory,transactional_ok ?_⟩
    rw [ReturnPath.service,returnBooksForUser,run_findUserById,stored]
    exact run
  | asUser =>
    obtain ⟨inventory,run⟩ := takeBackLoop_run (fun id => returnBook id (some u)) returnBook_round ids inv returnable
    refine ⟨inventory,transactional_ok ?_⟩
    rw [ReturnPath.service,(returnBooks_rounds nonempty none).1]
    exact run
  | asAdmin requester =>
    obtain ⟨inventory,run⟩ := takeBackLoop_run (fun id => returnBook id (some u)) returnBook_round ids inv returnable
    refine ⟨inventory,transactional_ok ?_⟩
    rw [ReturnPath.service,(returnBooks_rounds nonempty requester).2]
    exact run

/-- Books that are listed once and lent to a user can be returned. -/
theorem returnable_lent {db : Db} (inv : Conserved db) {u : Id} {ids : List Id} (distinct : ids.Nodup)
    (lent : ∀ b ∈ ids, 0 < db.borrowedBooks.count (ofPair b u)) : Returnable db u (ids.map some) := by
  refine ⟨distinct.map (Option.some_injective _),?_⟩
  intro id member
  obtain ⟨b,listed,rfl⟩ := List.mem_map.mp member
  obtain ⟨row,out,rfl,rfl⟩ := lent_iff.mp (lent b listed)
  obtain ⟨book,found⟩ := inv.bookStored row out
  exact ⟨row.1,row.2,book,rfl,rfl,out,found⟩

/-- A book further down the list is still with the user once those before it have
    been returned, so its counter is below the maximum. -/
theorem returnLoop_room {db : Db} (inv : Conserved db) {u : Id} {before rest : List Id} {b : Id}
    (distinct : (before ++ b :: rest).Nodup)
    (lent : ∀ c ∈ before ++ b :: rest, 0 < db.borrowedBooks.count (ofPair c u)) :
    ∃ book, ((Prog.forEach (fun c => returnBook (some c) (some u)) before).run store db).2.books.find b = some book ∧
      book.availableCopies < book.totalCopies := by
  obtain ⟨distinctBefore,_,apart⟩ := List.nodup_append.mp distinct
  have returnable : Returnable db u (before.map some) :=
    returnable_lent inv distinctBefore (fun c member => lent c (List.mem_append_left _ member))
  obtain ⟨inventory,run⟩ := takeBackLoop_run (fun id => returnBook id (some u)) returnBook_round (before.map some)
    inv.counted returnable
  rw [forEach_map] at run
  have kept := keeps_forEach before (fun c _ => returnBook_conserved (some c) (some u)) db inv
  obtain ⟨row,out,rfl,rfl⟩ := lent_iff.mp (lent b (by simp))
  have unlisted : row.2.book ∉ before := fun member => apart _ member _ List.mem_cons_self rfl
  have still : row ∈ (db.borrowedBooks.discard (lentTo row.2.user (before.map some))).rows :=
    List.mem_filter.mpr ⟨out,by simp [lentTo,listed,unlisted]⟩
  rw [run] at kept ⊢
  obtain ⟨book,found⟩ := kept.bookStored row still
  exact ⟨book,found,Int32.lt_iff_toInt_lt.mpr (available_lt_total kept.balanced still found)⟩

/-- The two services that take books back agree, for a user and for an
    administrator who names the user: they return normally and leave the same
    books and loans. In no round is the book missing or its counter at the maximum. -/
theorem returns_agree {db : Db} (inv : Conserved db) {u : Id} {ids : List Id} (nonempty : ids ≠ []) (distinct : ids.Nodup)
    (lent : ∀ b ∈ ids, 0 < db.borrowedBooks.count (ofPair b u)) (requester : Option Id) :
    let forUser := transactional (returnBooksForUser (some (ids.map some)) (some u)) db
    let asUser := transactional (returnBooks (some (ids.map some)) none (some u) (some "USER")) db
    let asAdmin := transactional
      (returnBooks (some (ids.map some)) (some (List.replicate ids.length (some u))) requester (some "ADMIN")) db
    (forUser.1 = .ok () ∧ asUser.1 = .ok () ∧ asAdmin.1 = .ok ()) ∧
      (asUser.2.books = forUser.2.books ∧ asUser.2.borrowedBooks = forUser.2.borrowedBooks) ∧
      (asAdmin.2.books = forUser.2.books ∧ asAdmin.2.borrowedBooks = forUser.2.borrowedBooks) ∧
      ∀ before b rest, ids = before ++ b :: rest → ∃ book,
        ((Prog.forEach (fun c => returnBook (some c) (some u)) before).run store db).2.books.find b = some book ∧
          book.availableCopies < book.totalCopies := by
  intro forUser asUser asAdmin
  have member : ∃ user, db.users.find u = some user := by
    obtain ⟨b,listed⟩ := List.exists_mem_of_ne_nil ids nonempty
    obtain ⟨row,out,_,rfl⟩ := lent_iff.mp (lent b listed)
    exact inv.userStored row out
  have some_ids : ids.map some ≠ [] := by simpa using nonempty
  have run := fun path => returnPath_run path inv.counted member some_ids (returnable_lent inv distinct lent)
  obtain ⟨_,first⟩ := run .returnBooksForUser
  obtain ⟨_,second⟩ := run .asUser
  obtain ⟨_,third⟩ := run (.asAdmin requester)
  rw [ReturnPath.service,List.length_map] at third
  have forUser_eq : forUser = _ := first
  have asUser_eq : asUser = _ := second
  have asAdmin_eq : asAdmin = _ := third
  rw [forUser_eq,asUser_eq,asAdmin_eq]
  refine ⟨⟨rfl,rfl,rfl⟩,⟨rfl,rfl⟩,⟨rfl,rfl⟩,?_⟩
  rintro before b rest rfl
  exact returnLoop_room inv distinct lent

/-- Two books of two copies each, one of which is lent. -/
def twoTitles : Db where
  books := (Table.empty.insert ⟨some "Dune",some "Frank Herbert",true,none,none,1,2⟩).insert
    ⟨some "Emma",some "Jane Austen",true,none,none,1,2⟩
  users := sampleDb.users
  borrowedBooks := (Table.empty.insert ⟨1,1,atStartOfDay 20000,some 1,some (atStartOfDay 20014)⟩).insert
    ⟨2,1,atStartOfDay 20001,some 1,some (atStartOfDay 20015)⟩
  inventory := Table.empty.insert ⟨some 2,.BORROWED⟩

theorem returns_agree_sample :
    (transactional (returnBooksForUser (some [some 2,some 1]) (some 1)) twoTitles).2.borrowedBooks =
      (transactional (returnBooks (some [some 2,some 1]) (some [some 1,some 1]) (some 2) (some "ADMIN"))
        twoTitles).2.borrowedBooks := by
  have inv : Conserved twoTitles := by decide
  have lent : ∀ b ∈ [2,1], 0 < twoTitles.borrowedBooks.count (ofPair b 1) := by decide
  exact (returns_agree inv (List.cons_ne_nil _ _) (by decide : ([2,1] : List Id).Nodup) lent (some 2)).2.2.1.2.symm

end LibraryServer.LendingOutcomes
