import LibraryServer.Interleaving
import LibraryServer.LendingInvariant

/-!
Borrow and return transactions whose calls interleave. The counter of a book is
written back as an absolute value computed from an earlier read, and nothing but
the unique constraint on loans guards the commit, so two borrowers can take the
last copy (`last_copy_lent_twice`). The counters stay right as long as no transaction
commits after another one has changed a book that it read, or has removed a loan
that it returns (`interleaved_balanced`). A new loan gets its key at the commit here;
which key it is matters only where two runs are compared.
-/
namespace LibraryServer.LendingConcurrency
open LibraryServer.Java LibraryServer.Tables LibraryServer.Programs LibraryServer.Entities LibraryServer.Repositories
open LibraryServer.LendingServices LibraryServer.LendingInvariant LibraryServer.Interleaving
set_option linter.unusedSimpArgs false

/-- The unique constraint on (book_id, user_id), which is all that is declared. -/
def uniqueLoans (db : Db) : Bool :=
  db.borrowedBooks.rows.all (fun row => db.borrowedBooks.count (ofPair row.2.book row.2.user) ≤ 1)

inductive LendingTxn where
  | borrowBooksForUser (clock : Nat → Int) (bookIds : Option (List (Option Id))) (userId : Option Id)
  | returnBooksForUser (bookIds : Option (List (Option Id))) (userId : Option Id)
  | returnBooks (bookIds userIds : Option (List (Option Id))) (userId : Option Id) (role : Option String)

def LendingTxn.program : LendingTxn → Service Unit
  | .borrowBooksForUser clock bookIds userId => LendingServices.borrowBooksForUser clock bookIds userId
  | .returnBooksForUser bookIds userId => LendingServices.returnBooksForUser bookIds userId
  | .returnBooks bookIds userIds userId role => LendingServices.returnBooks bookIds userIds userId role

/-- The system in which the transactions are about to begin. -/
def begun (db : Db) (txns : List LendingTxn) : System Call Reply Exc Db Write :=
  start db (txns.map LendingTxn.program)

/-- The system after a schedule of their steps. -/
def interleaved (db : Db) (txns : List LendingTxn) (schedule : List Nat) : System Call Reply Exc Db Write :=
  runSchedule store uniqueLoans (begun db txns) schedule

/-! ### What a transaction read and wrote -/

/-- The book that a call found. -/
def bookFound : Event Call Reply → Option Id
  | ⟨.findBookById (some b),some _⟩ => some b
  | _ => none

/-- The row of a book that a call returned. -/
def bookRead (b : Id) : Event Call Reply → Option Book
  | ⟨.findBookById (some j),some (_,book)⟩ => if j = b then some book else none
  | _ => none

/-- The row of a book as the transaction first read it. -/
def firstRead (b : Id) (trace : List (Event Call Reply)) : Option Book := trace.findSome? (bookRead b)

def bookWrite (b : Id) : Write → Option Book
  | .setBook j book => if j = b then some book else none
  | _ => none

/-- The row of a book as the writes leave it. -/
def written (b : Id) (log : List Write) : Option Book := (log.filterMap (bookWrite b)).getLast?

def lends (b : Id) : Write → Bool
  | .insertLoan loan => loan.book == b
  | _ => false

def lentCount (b : Id) (log : List Write) : Nat := log.countP (lends b)

def deletedLoan : Write → Option Id
  | .deleteLoan k => some k
  | _ => none

def deletedIds (log : List Write) : List Id := log.filterMap deletedLoan

/-- The loans that a call returned. -/
def loansRead : Event Call Reply → List (Id × BorrowedBook)
  | ⟨.findByBookIdAndUserId _ _,rows⟩ => rows
  | _ => []

/-- At its commit, every book that the transaction read is stored as it first
    read it, and the loans that it deletes are stored as it found them. -/
def Undisturbed (log : List Write) (trace : List (Event Call Reply)) (db : Db) : Prop :=
  (∀ b ∈ trace.filterMap bookFound, db.books.find b = firstRead b trace) ∧
    ∀ event ∈ trace, ∀ row ∈ loansRead event, .deleteLoan row.1 ∈ log → row ∈ db.borrowedBooks.rows

instance (log : List Write) (trace : List (Event Call Reply)) (db : Db) : Decidable (Undisturbed log trace db) :=
  inferInstanceAs (Decidable (_ ∧ _))

/-- How many of the loans were loans of a book. -/
def returnedCount (b : Id) (returned : List (Id × BorrowedBook)) : Nat :=
  returned.countP (fun row => ofBook b row.2)

section
variable (b : Id)

@[simp] theorem firstRead_nil : firstRead b [] = none := rfl
@[simp] theorem firstRead_cons (event : Event Call Reply) (trace : List (Event Call Reply)) :
    firstRead b (event :: trace) = (bookRead b event).or (firstRead b trace) := by
  cases one : bookRead b event <;> simp [firstRead,one]
theorem firstRead_append (trace more : List (Event Call Reply)) :
    firstRead b (trace ++ more) = (firstRead b trace).or (firstRead b more) := by
  simp [firstRead,List.findSome?_append]

theorem mem_bookFound {trace : List (Event Call Reply)} {b : Id} {book : Book} (first : firstRead b trace = some book) :
    b ∈ trace.filterMap bookFound := by
  obtain ⟨event,happened,read⟩ := List.exists_of_findSome?_eq_some first
  refine List.mem_filterMap.mpr ⟨event,happened,?_⟩
  unfold bookRead at read
  split at read
  · split_ifs at read with same
    rw [bookFound,same]
  · cases read

@[simp] theorem written_nil : written b [] = none := rfl
theorem written_append (log more : List Write) : written b (log ++ more) = (written b more).or (written b log) := by
  simp [written,List.getLast?_append]
@[simp] theorem written_cons (w : Write) (log : List Write) :
    written b (w :: log) = (written b log).or (bookWrite b w) := by
  rw [show w :: log = [w] ++ log from rfl,written_append]
  cases one : bookWrite b w <;> simp [written,one]

@[simp] theorem lentCount_nil : lentCount b [] = 0 := rfl
@[simp] theorem lentCount_cons (w : Write) (log : List Write) :
    lentCount b (w :: log) = lentCount b log + if lends b w then 1 else 0 := List.countP_cons
theorem lentCount_append (log more : List Write) : lentCount b (log ++ more) = lentCount b log + lentCount b more :=
  List.countP_append

@[simp] theorem deletedIds_nil : deletedIds [] = [] := rfl
@[simp] theorem deletedIds_cons (w : Write) (log : List Write) :
    deletedIds (w :: log) = (deletedLoan w).toList ++ deletedIds log := by
  cases one : deletedLoan w <;> simp [deletedIds,one]
theorem deletedIds_append (log more : List Write) : deletedIds (log ++ more) = deletedIds log ++ deletedIds more :=
  List.filterMap_append

@[simp] theorem returnedCount_nil : returnedCount b [] = 0 := rfl
@[simp] theorem returnedCount_cons (row : Id × BorrowedBook) (returned : List (Id × BorrowedBook)) :
    returnedCount b (row :: returned) = returnedCount b returned + if ofBook b row.2 then 1 else 0 := List.countP_cons
theorem returnedCount_append (returned more : List (Id × BorrowedBook)) :
    returnedCount b (returned ++ more) = returnedCount b returned + returnedCount b more :=
  List.countP_append

end

/-! ### The effect of a log -/

/-- The writes of borrow and return transactions. -/
def Lending : Write → Prop
  | .deleteBook _ => False
  | .deleteUser _ => False
  | _ => True

/-- A transaction that has inserted no loan. -/
def Returning (log : List Write) : Prop := ∀ w ∈ log, ∀ loan, w ≠ .insertLoan loan

/-- A log overwrites the books it names and leaves the others. -/
theorem replay_book (b : Id) (log : List Write) (lending : ∀ w ∈ log, Lending w) (db : Db) :
    (store.replay log db).books.find b = (db.books.find b).map (fun book => (written b log).getD book) := by
  induction log generalizing db with
  | nil => simp [written]
  | cons w rest ih =>
    rw [replay_cons,ih (fun w member => lending w (List.mem_cons_of_mem _ member)),written_cons]
    have first := lending w List.mem_cons_self
    cases w with
    | setBook j book =>
      simp only [store_apply,applyWrite,find_set,bookWrite]
      by_cases same : b = j
      · subst same
        cases db.books.find b <;> cases written b rest <;> simp
      · simp [same,Ne.symm same]
    | insertLoan loan => simp [applyWrite,bookWrite]
    | setInventory j row => simp [applyWrite,bookWrite]
    | deleteLoan k => simp [applyWrite,bookWrite]
    | deleteBook k => exact first.elim
    | deleteUser k => exact first.elim

/-- The loans after a log of returns are those it does not delete. -/
theorem replay_returns {log : List Write} (returning : Returning log) {db : Db}
    {row : Id × BorrowedBook} (stored : row ∈ (store.replay log db).borrowedBooks.rows) :
    row ∈ db.borrowedBooks.rows ∧ row.1 ∉ deletedIds log := by
  induction log generalizing db with
  | nil => exact ⟨stored,by simp [deletedIds]⟩
  | cons w rest ih =>
    rw [replay_cons] at stored
    obtain ⟨earlier,kept⟩ := ih (fun w member => returning w (List.mem_cons_of_mem _ member)) stored
    have first := returning w List.mem_cons_self
    cases w with
    | insertLoan loan => exact absurd rfl (first loan)
    | deleteLoan k =>
      obtain ⟨before,other⟩ := mem_erase.mp earlier
      exact ⟨before,by simpa [deletedIds_cons,deletedLoan] using ⟨other,kept⟩⟩
    | setBook j book => exact ⟨earlier,kept⟩
    | setInventory j row => exact ⟨earlier,kept⟩
    | deleteBook j => exact ⟨earlier,kept⟩
    | deleteUser j => exact ⟨earlier,kept⟩

/-- The loans of a book after a log whose deletions hit stored rows. -/
theorem replay_loansOf (b : Id) (log : List Write) (returned : List (Id × BorrowedBook)) (db : Db)
    (ids : returned.map Prod.fst = deletedIds log) (distinct : (deletedIds log).Nodup)
    (stored : ∀ row ∈ returned, row ∈ db.borrowedBooks.rows) :
    (store.replay log db).loansOf b + returnedCount b returned = db.loansOf b + lentCount b log := by
  induction log generalizing db returned with
  | nil =>
    obtain rfl : returned = [] := List.map_eq_nil_iff.mp ids
    simp [returnedCount,lentCount]
  | cons w rest ih =>
    rw [replay_cons]
    cases w with
    | insertLoan loan =>
      have later := ih returned (applyWrite db (.insertLoan loan)) ids distinct
        (fun row member => mem_insert.mpr (.inl (stored row member)))
      have inserted := count_insert db.borrowedBooks loan (ofBook b)
      simp only [Db.loansOf,applyWrite,ofBook,beq_iff_eq] at later inserted
      simp only [Db.loansOf,store_apply,applyWrite,lentCount,List.countP_cons,lends,beq_iff_eq,ofBook] at later ⊢
      omega
    | deleteLoan k =>
      cases returned with
      | nil => simp [deletedIds_cons,deletedLoan] at ids
      | cons row others =>
        simp only [deletedIds_cons,deletedLoan,Option.toList_some,List.singleton_append,List.map_cons,
          List.cons.injEq,List.nodup_cons] at ids distinct
        obtain ⟨rfl,ids⟩ := ids
        have out := stored row List.mem_cons_self
        have later := ih others (applyWrite db (.deleteLoan row.1)) ids distinct.2 (by
          intro other member
          refine mem_erase.mpr ⟨stored other (List.mem_cons_of_mem _ member),?_⟩
          intro same
          exact distinct.1 (by rw [← same,← ids]; exact List.mem_map_of_mem member))
        have erased := count_erase out (ofBook b)
        simp only [Db.loansOf,store_apply,applyWrite,lentCount,List.countP_cons,lends,returnedCount] at later erased ⊢
        simp only [Bool.false_eq_true,if_false]
        omega
    | setBook j book => exact ih returned (applyWrite db (.setBook j book)) ids distinct stored
    | setInventory j row => exact ih returned (applyWrite db (.setInventory j row)) ids distinct stored
    | deleteBook j => exact ih returned (applyWrite db (.deleteBook j)) ids distinct stored
    | deleteUser j => exact ih returned (applyWrite db (.deleteUser j)) ids distinct stored

/-- Distinct stored loans of a book are at most its loans. -/
theorem returnedCount_le (b : Id) {returned : List (Id × BorrowedBook)} {db : Db}
    (distinct : (returned.map Prod.fst).Nodup) (stored : ∀ row ∈ returned, row ∈ db.borrowedBooks.rows) :
    returnedCount b returned ≤ db.loansOf b := by
  -- Deleting all of them and nothing else is a log of its own.
  let log := returned.map (fun row => Write.deleteLoan row.1)
  have ids : returned.map Prod.fst = deletedIds log := by
    simp [log,deletedIds,List.filterMap_map,Function.comp_def,deletedLoan]
  have lent : lentCount b log = 0 := by
    simp [log,lentCount,List.countP_map,Function.comp_def,lends]
  have loans := replay_loansOf b log returned db ids (ids ▸ distinct) stored
  omega

/-! ### The account of a transaction -/

/-- A book of which the transaction returned more than its first read allows;
    the cap may have kept the counter down, but such a read is out of date. -/
def Capped (base : Book) (b : Id) (returned : List (Id × BorrowedBook)) : Prop :=
  base.totalCopies.toInt < base.availableCopies.toInt + returnedCount b returned

/-- A row of a book that differs from the first read by the loans made and returned. -/
def Counts (row base : Book) (b : Id) (log : List Write) (returned : List (Id × BorrowedBook)) : Prop :=
  row.totalCopies = base.totalCopies ∧ 0 ≤ row.availableCopies.toInt ∧
    row.availableCopies.toInt + lentCount b log = base.availableCopies.toInt + returnedCount b returned

/-- What holds between the rounds of a transaction that returned these loans. -/
structure Accounted (log : List Write) (trace : List (Event Call Reply)) (returned : List (Id × BorrowedBook)) :
    Prop where
  lending : ∀ w ∈ log, Lending w
  ids : returned.map Prod.fst = deletedIds log
  distinct : (deletedIds log).Nodup
  seen : ∀ row ∈ returned, ∃ event ∈ trace, row ∈ loansRead event
  unread : ∀ b, firstRead b trace = none → written b log = none ∧ lentCount b log = 0 ∧ returnedCount b returned = 0
  read : ∀ b base, firstRead b trace = some base →
    Capped base b returned ∨ ∃ row, written b log = some row ∧ Counts row base b log returned

theorem accounted_nil : Accounted [] [] [] := by
  refine ⟨by simp,rfl,by simp [deletedIds],by simp,?_,?_⟩
  · intro b _
    exact ⟨rfl,rfl,rfl⟩
  · intro b base impossible
    simp [firstRead] at impossible

/-- The row of a book that a call finds agrees with the account. -/
theorem accounted_view {log : List Write} {trace : List (Event Call Reply)} {returned : List (Id × BorrowedBook)}
    (account : Accounted log trace returned) {db : Db} (balanced : Balanced db) {b : Id} {book : Book}
    (found : (store.replay log db).books.find b = some book) :
    Capped ((firstRead b trace).getD book) b returned ∨
      Counts book ((firstRead b trace).getD book) b log returned := by
  rw [replay_book b log account.lending] at found
  obtain ⟨stored,present,view⟩ := Option.map_eq_some_iff.mp found
  cases first : firstRead b trace with
  | none =>
    obtain ⟨untouched,lent,back⟩ := account.unread b first
    rw [untouched] at view
    obtain rfl : stored = book := view
    exact .inr ⟨rfl,(balanced b stored present).1,by simp [lent,back]⟩
  | some base =>
    rcases account.read b base first with capped | ⟨row,last,counts⟩
    · exact .inl capped
    · rw [last] at view
      obtain rfl : row = book := view
      exact .inr counts

/-- A round that touches one book, which it reads, and accounts for it. -/
theorem accounted_round {log more : List Write} {trace events : List (Event Call Reply)}
    {returned back : List (Id × BorrowedBook)} (account : Accounted log trace returned) (b : Id) (book : Book)
    (lending : ∀ w ∈ more, Lending w) (ids : back.map Prod.fst = deletedIds more)
    (distinct : (deletedIds (log ++ more)).Nodup)
    (seen : ∀ row ∈ back, ∃ event ∈ events, row ∈ loansRead event)
    (others : ∀ j, j ≠ b → firstRead j events = none ∧ written j more = none ∧ lentCount j more = 0 ∧
      returnedCount j back = 0)
    (reads : firstRead b events = some book)
    (counted : Capped ((firstRead b trace).getD book) b (returned ++ back) ∨
      ∃ row, written b (log ++ more) = some row ∧
        Counts row ((firstRead b trace).getD book) b (log ++ more) (returned ++ back)) :
    Accounted (log ++ more) (trace ++ events) (returned ++ back) := by
  refine ⟨?_,?_,distinct,?_,?_,?_⟩
  · intro w member
    rcases List.mem_append.mp member with old | new
    · exact account.lending w old
    · exact lending w new
  · rw [List.map_append,deletedIds_append,account.ids,ids]
  · intro row member
    rcases List.mem_append.mp member with old | new
    · obtain ⟨event,happened,listed⟩ := account.seen row old
      exact ⟨event,List.mem_append_left _ happened,listed⟩
    · obtain ⟨event,happened,listed⟩ := seen row new
      exact ⟨event,List.mem_append_right _ happened,listed⟩
  · intro j none_read
    rw [firstRead_append,Option.or_eq_none_iff] at none_read
    have different : j ≠ b := by
      rintro rfl
      exact Option.some_ne_none book (reads.symm.trans none_read.2)
    obtain ⟨before,lent,given⟩ := account.unread j none_read.1
    obtain ⟨_,after,lent',given'⟩ := others j different
    simp [written_append,lentCount_append,returnedCount_append,before,lent,given,after,lent',given']
  · intro j base first
    rw [firstRead_append] at first
    by_cases same : j = b
    · subst same
      have isBase : (firstRead j trace).getD book = base := by
        rw [reads] at first
        cases earlier : firstRead j trace <;> simp_all
      rwa [isBase] at counted
    · obtain ⟨silent,after,lent',given'⟩ := others j same
      rw [silent,Option.or_none] at first
      have kept := account.read j base first
      simpa [Capped,Counts,written_append,lentCount_append,returnedCount_append,after,lent',given'] using kept

/-- Calls and writes that concern no book and no loan. -/
theorem accounted_quiet {log more : List Write} {trace events : List (Event Call Reply)}
    {returned : List (Id × BorrowedBook)} (account : Accounted log trace returned)
    (inventory : ∀ w ∈ more, ∃ k row, w = .setInventory k row) (none_read : ∀ b, firstRead b events = none) :
    Accounted (log ++ more) (trace ++ events) returned := by
  have none_deleted : deletedIds more = [] := by
    refine List.filterMap_eq_nil_iff.mpr (fun w member => ?_)
    obtain ⟨k,row,rfl⟩ := inventory w member
    rfl
  have none_lent : ∀ b, lentCount b more = 0 := by
    refine fun b => List.countP_eq_zero.mpr (fun w member => ?_)
    obtain ⟨k,row,rfl⟩ := inventory w member
    simp [lends]
  have none_written : ∀ b, written b more = none := by
    refine fun b => List.getLast?_eq_none_iff.mpr (List.filterMap_eq_nil_iff.mpr (fun w member => ?_))
    obtain ⟨k,row,rfl⟩ := inventory w member
    rfl
  refine ⟨?_,?_,?_,?_,?_,?_⟩
  · intro w member
    rcases List.mem_append.mp member with old | new
    · exact account.lending w old
    · obtain ⟨k,row,rfl⟩ := inventory w new
      trivial
  · rw [deletedIds_append,none_deleted,List.append_nil,account.ids]
  · rw [deletedIds_append,none_deleted,List.append_nil]
    exact account.distinct
  · intro row member
    obtain ⟨event,happened,listed⟩ := account.seen row member
    exact ⟨event,List.mem_append_left _ happened,listed⟩
  · intro b first
    rw [firstRead_append,none_read,Option.or_none] at first
    have untouched := account.unread b first
    simpa [written_append,lentCount_append,none_written,none_lent] using untouched
  · intro b base first
    rw [firstRead_append,none_read,Option.or_none] at first
    have kept := account.read b base first
    simpa [Counts,written_append,lentCount_append,none_written,none_lent] using kept

/-- A commit in a state that still has what was read keeps the counters right. -/
theorem accounted_commit {log : List Write} {trace : List (Event Call Reply)} {returned : List (Id × BorrowedBook)}
    (account : Accounted log trace returned) {db : Db} (balanced : Balanced db)
    (undisturbed : Undisturbed log trace db) : Balanced (store.replay log db) := by
  have stored : ∀ row ∈ returned, row ∈ db.borrowedBooks.rows := by
    intro row member
    obtain ⟨event,happened,listed⟩ := account.seen row member
    have deleted : row.1 ∈ deletedIds log := account.ids ▸ List.mem_map_of_mem member
    obtain ⟨w,logged,isId⟩ := List.mem_filterMap.mp deleted
    cases w with
    | deleteLoan k =>
      obtain rfl : k = row.1 := Option.some.inj isId
      exact undisturbed.2 event happened row listed logged
    | _ => simp [deletedLoan] at isId
  intro b book found
  have loans := replay_loansOf b log returned db account.ids account.distinct stored
  rw [replay_book b log account.lending] at found
  obtain ⟨old,present,view⟩ := Option.map_eq_some_iff.mp found
  obtain ⟨nonneg,total⟩ := balanced b old present
  cases first : firstRead b trace with
  | none =>
    obtain ⟨untouched,lent,given⟩ := account.unread b first
    rw [untouched] at view
    obtain rfl : old = book := view
    omega
  | some base =>
    have same := undisturbed.1 b (mem_bookFound first)
    rw [present,first] at same
    cases same
    rcases account.read b old first with capped | ⟨row,last,copies,left,count⟩
    · -- No more loans can be returned than are stored.
      have few := returnedCount_le b (account.ids ▸ account.distinct) stored
      rw [Capped] at capped
      omega
    · rw [last] at view
      obtain rfl : row = book := view
      rw [copies]
      omega

/-! ### Calls among others -/

section
variable {α : Type} {J : Db → Prop} {log log' : List Write} {trace trace' : List (Event Call Reply)} {a : α}

theorem among_findUserById {id : Option Id} {next : Option (Id × User) → Service α}
    (run : Among store J (findUserById id >>= next) log trace (.ok a) log' trace') :
    ∃ user, Among store J (next user) log (trace ++ [⟨.findUserById id,user⟩]) (.ok a) log' trace' := by
  obtain ⟨db,user,writes,_,reply,rest⟩ := among_invoke_ok run
  cases id with
  | none => cases reply
  | some u =>
    cases reply
    rw [List.append_nil] at rest
    exact ⟨_,rest⟩

theorem among_findBookById {id : Option Id} {next : Option (Id × Book) → Service α}
    (run : Among store J (findBookById id >>= next) log trace (.ok a) log' trace') :
    ∃ b db, id = some b ∧ J db ∧
      Among store J (next (((store.replay log db).books.find b).map (fun book => (b,book)))) log
        (trace ++ [⟨.findBookById (some b),((store.replay log db).books.find b).map (fun book => (b,book))⟩]) (.ok a)
        log' trace' := by
  obtain ⟨db,book,writes,holds,reply,rest⟩ := among_invoke_ok run
  cases id with
  | none => cases reply
  | some b =>
    cases reply
    rw [List.append_nil] at rest
    exact ⟨b,db,rfl,holds,rest⟩

theorem among_findByBookIdAndUserId {book user : Option Id} {next : List (Id × BorrowedBook) → Service α}
    (run : Among store J (findByBookIdAndUserId book user >>= next) log trace (.ok a) log' trace') :
    ∃ db, J db ∧
      Among store J (next ((store.replay log db).borrowedBooks.select (matching book user))) log
        (trace ++ [⟨.findByBookIdAndUserId book user,(store.replay log db).borrowedBooks.select (matching book user)⟩])
        (.ok a) log' trace' := by
  obtain ⟨db,rows,writes,holds,reply,rest⟩ := among_invoke_ok run
  cases reply
  rw [List.append_nil] at rest
  exact ⟨db,holds,rest⟩

theorem among_findByBookId {book : Option Id} {next : List (Id × Inventory) → Service α}
    (run : Among store J (findByBookId book >>= next) log trace (.ok a) log' trace') :
    ∃ rows, Among store J (next rows) log (trace ++ [⟨.findByBookId book,rows⟩]) (.ok a) log' trace' := by
  obtain ⟨db,rows,writes,_,reply,rest⟩ := among_invoke_ok run
  cases reply
  rw [List.append_nil] at rest
  exact ⟨_,rest⟩

theorem among_saveLoan {loan : BorrowedBook} {next : Unit → Service α}
    (run : Among store J (saveLoan loan >>= next) log trace (.ok a) log' trace') :
    Among store J (next ()) (log ++ [.insertLoan loan]) (trace ++ [⟨.saveLoan loan,()⟩]) (.ok a) log' trace' := by
  obtain ⟨db,_,writes,_,reply,rest⟩ := among_invoke_ok run
  simp only [store_answer,answer] at reply
  split_ifs at reply
  cases reply
  exact rest

theorem among_deleteLoanRow {k : Id} {next : Unit → Service α}
    (run : Among store J (deleteLoanRow k >>= next) log trace (.ok a) log' trace') :
    Among store J (next ()) (log ++ [.deleteLoan k]) (trace ++ [⟨.deleteLoan k,()⟩]) (.ok a) log' trace' := by
  obtain ⟨db,_,writes,_,reply,rest⟩ := among_invoke_ok run
  cases reply
  exact rest

end

section
variable {J : Db → Prop} {log log' : List Write} {trace trace' : List (Event Call Reply)}

theorem among_saveBook {b : Id} {book : Book} (run : Among store J (saveBook b book) log trace (.ok ()) log' trace') :
    log' = log ++ [.setBook b book] ∧ trace' = trace ++ [⟨.saveBook b book,()⟩] := by
  obtain ⟨db,_,writes,_,reply,rest⟩ := among_call_ok run
  cases reply
  exact (among_pure_ok rest).2

theorem among_saveInventory {k : Id} {row : Inventory}
    (run : Among store J (saveInventory k row) log trace (.ok ()) log' trace') :
    log' = log ++ [.setInventory k row] ∧ trace' = trace ++ [⟨.saveInventory k row,()⟩] := by
  obtain ⟨db,_,writes,_,reply,rest⟩ := among_call_ok run
  cases reply
  exact (among_pure_ok rest).2

end

/-! ### Rounds among others -/

/-- A round of `borrowBooksForUser` that returns accounts for the book it lends. -/
theorem borrowBook_accounted {clock : Nat → Int} {u : Id} {n : Nat} {bookId : Option Id} {log log' : List Write}
    {trace trace' : List (Event Call Reply)} (account : Accounted log trace [])
    (run : Among store Balanced (borrowBook clock u n bookId) log trace (.ok ()) log' trace') :
    Accounted log' trace' [] := by
  obtain ⟨b,db,rfl,balanced,run⟩ := among_findBookById run
  cases found : (store.replay log db).books.find b with
  | none =>
    rw [found] at run
    exact absurd run among_throw_ok
  | some book =>
    simp only [found,Option.map_some] at run
    split_ifs at run with none_left
    · exact absurd run among_throw_ok
    · obtain ⟨db',_,run⟩ := among_findByBookIdAndUserId run
      split_ifs at run with has_loan
      · exact absurd run among_throw_ok
      · obtain ⟨rfl,rfl⟩ := among_saveBook (among_saveLoan run)
        have left := not_le_zero.mp none_left
        have fewer := toInt_pred left
        have view := accounted_view account balanced found
        simp only [List.append_assoc]
        show Accounted _ _ ([] ++ [])
        refine accounted_round account b book ?_ ?_ ?_ ?_ ?_ ?_ ?_
        · simp [Lending]
        · simp [deletedLoan]
        · simpa [deletedIds_append,deletedLoan] using account.distinct
        · simp
        · intro j other
          simp [bookRead,bookWrite,lends,Ne.symm other]
        · simp [bookRead]
        · rcases view with capped | ⟨copies,_,count⟩
          · exact .inl capped
          · refine .inr ⟨{ book with availableCopies := book.availableCopies - 1 },?_,copies,?_,?_⟩
            · simp [written_append,bookWrite]
            · simp only
              omega
            · simp only [lentCount_append,lentCount_cons,lentCount_nil,lends,beq_self_eq_true,List.append_nil,if_true,
                Bool.false_eq_true,if_false]
              omega

/-- The counter is written, unless it is at its maximum. -/
theorem countUp_among {J : Db → Prop} {b : Id} {book : Book} {log log' : List Write} {trace trace' : List (Event Call Reply)}
    (run : Among store J (countUp b book) log trace (.ok ()) log' trace') :
    (book.availableCopies.toInt < book.totalCopies.toInt ∧
      log' = log ++ [.setBook b { book with availableCopies := book.availableCopies + 1 }] ∧
      trace' = trace ++ [⟨.saveBook b { book with availableCopies := book.availableCopies + 1 },()⟩]) ∨
    (book.totalCopies.toInt ≤ book.availableCopies.toInt ∧ log' = log ∧ trace' = trace) := by
  unfold countUp at run
  split_ifs at run with room
  · exact .inl ⟨Int32.lt_iff_toInt_lt.mp room,among_saveBook run⟩
  · rw [Int32.lt_iff_toInt_lt] at room
    exact .inr ⟨by omega,(among_pure_ok run).2⟩

theorem releaseInventory_among {J : Db → Prop} {bookId : Option Id} {log log' : List Write}
    {trace trace' : List (Event Call Reply)}
    (run : Among store J (releaseInventory bookId) log trace (.ok ()) log' trace') :
    ∃ more events, log' = log ++ more ∧ trace' = trace ++ events ∧ (∀ w ∈ more, ∃ k row, w = .setInventory k row) ∧
      ∀ b, firstRead b events = none := by
  obtain ⟨rows,run⟩ := among_findByBookId run
  cases rows with
  | nil =>
    obtain ⟨_,rfl,rfl⟩ := among_pure_ok run
    exact ⟨[],_,(List.append_nil log').symm,rfl,by simp,by simp [bookRead]⟩
  | cons row rest =>
    obtain ⟨rfl,rfl⟩ := among_saveInventory run
    exact ⟨_,_,rfl,List.append_assoc _ _ _,by simp,by simp [bookRead]⟩

/-- Taking back a loan that was not deleted before, whatever is then done about
    the counter of its book. -/
theorem accounted_return {log after : List Write} {trace tail : List (Event Call Reply)}
    {returned rows : List (Id × BorrowedBook)} (account : Accounted log trace returned) {row : Id × BorrowedBook}
    (fresh : row.1 ∉ deletedIds log) (listed : row ∈ rows) (book : Book) (user : Option Id)
    (counter : ∀ w ∈ after, ∃ new, w = .setBook row.2.book new) (silent : ∀ b, firstRead b tail = none)
    (counted : Capped ((firstRead row.2.book trace).getD book) row.2.book (returned ++ [row]) ∨
      ∃ new, written row.2.book (log ++ .deleteLoan row.1 :: after) = some new ∧
        Counts new ((firstRead row.2.book trace).getD book) row.2.book (log ++ .deleteLoan row.1 :: after)
          (returned ++ [row])) :
    Accounted (log ++ .deleteLoan row.1 :: after)
      (trace ++ ⟨.findByBookIdAndUserId (some row.2.book) user,rows⟩ :: ⟨.deleteLoan row.1,()⟩ ::
        ⟨.findBookById (some row.2.book),some (row.2.book,book)⟩ :: tail) (returned ++ [row]) := by
  have none_deleted : deletedIds after = [] := by
    refine List.filterMap_eq_nil_iff.mpr (fun w member => ?_)
    obtain ⟨new,rfl⟩ := counter w member
    rfl
  refine accounted_round account row.2.book book ?_ ?_ ?_ ?_ ?_ ?_ counted
  · intro w member
    rcases List.mem_cons.mp member with rfl | later
    · trivial
    · obtain ⟨new,rfl⟩ := counter w later
      trivial
  · simp [deletedLoan,none_deleted]
  · simp only [deletedIds_append,deletedIds_cons,none_deleted,deletedLoan,Option.toList_some,List.append_nil]
    refine List.nodup_append.mpr ⟨account.distinct,List.nodup_singleton _,?_⟩
    rintro k member _ new rfl
    exact fresh (List.mem_singleton.mp new ▸ member)
  · intro other member
    obtain rfl := List.mem_singleton.mp member
    exact ⟨_,List.mem_cons_self,listed⟩
  · intro j other
    have none_lent : lentCount j after = 0 := by
      refine List.countP_eq_zero.mpr (fun w member => ?_)
      obtain ⟨new,rfl⟩ := counter w member
      simp [lends]
    have none_written : written j after = none := by
      refine List.getLast?_eq_none_iff.mpr (List.filterMap_eq_nil_iff.mpr (fun w member => ?_))
      obtain ⟨new,rfl⟩ := counter w member
      simp [bookWrite,Ne.symm other]
    simp [bookRead,bookWrite,lends,ofBook,silent,none_lent,none_written,Ne.symm other]
  · simp [bookRead]

theorem returning_append {log more : List Write} (returning : Returning log) (again : Returning more) :
    Returning (log ++ more) := by
  intro w member
  exact (List.mem_append.mp member).elim (returning w) (again w)

/-- Counting up accounts for the loan that was deleted just before: the counter
    is written, or the book has more copies out than it has. -/
theorem countUp_accounted {log log' : List Write} {trace trace' : List (Event Call Reply)}
    {returned rows : List (Id × BorrowedBook)} (returning : Returning log) (account : Accounted log trace returned)
    {row : Id × BorrowedBook} (fresh : row.1 ∉ deletedIds log) (listed : row ∈ rows) {book : Book} {user : Option Id}
    (view : Capped ((firstRead row.2.book trace).getD book) row.2.book returned ∨
      Counts book ((firstRead row.2.book trace).getD book) row.2.book log returned)
    (run : Among store Balanced (countUp row.2.book book) (log ++ [.deleteLoan row.1])
      (trace ++ [⟨.findByBookIdAndUserId (some row.2.book) user,rows⟩] ++ [⟨.deleteLoan row.1,()⟩] ++
        [⟨.findBookById (some row.2.book),some (row.2.book,book)⟩]) (.ok ()) log' trace') :
    Returning log' ∧ Accounted log' trace' (returned ++ [row]) := by
  have one : returnedCount row.2.book [row] = 1 := by simp [ofBook]
  rcases countUp_among run with ⟨room,rfl,rfl⟩ | ⟨full,rfl,rfl⟩
  · have more := toInt_succ room
    simp only [List.append_assoc,List.cons_append,List.nil_append]
    refine ⟨returning_append returning (by simp [Returning]),
      accounted_return account fresh listed book _ (by simp) (by simp [bookRead]) ?_⟩
    rcases view with capped | ⟨copies,left,count⟩
    · refine .inl ?_
      simp only [Capped,returnedCount_append] at capped ⊢
      omega
    · refine .inr ⟨{ book with availableCopies := book.availableCopies + 1 },?_,copies,?_,?_⟩
      · simp [written_append,bookWrite]
      · simp only
        omega
      · simp only [lentCount_append,lentCount_cons,lentCount_nil,lends,returnedCount_append,one,Bool.false_eq_true,
          if_false]
        omega
  · simp only [List.append_assoc]
    refine ⟨returning_append returning (by simp [Returning]),
      accounted_return account fresh listed book _ (by simp) (by simp) (.inl ?_)⟩
    rcases view with capped | ⟨copies,left,count⟩
    · simp only [Capped,returnedCount_append] at capped ⊢
      omega
    · -- The counter was at its maximum, so this return exceeds the first read.
      simp only [Capped,returnedCount_append,one]
      rw [copies] at full
      omega

/-- A round of `returnBooks` that returns accounts for the loan that it takes back. -/
theorem returnBook_accounted {bookId targetUserId : Option Id} {log log' : List Write}
    {trace trace' : List (Event Call Reply)} {returned : List (Id × BorrowedBook)} (returning : Returning log)
    (account : Accounted log trace returned)
    (run : Among store Balanced (returnBook bookId targetUserId) log trace (.ok ()) log' trace') :
    Returning log' ∧ ∃ returned', Accounted log' trace' returned' := by
  obtain ⟨db,_,run⟩ := among_findByBookIdAndUserId run
  cases selected : (store.replay log db).borrowedBooks.select (matching bookId targetUserId) with
  | nil =>
    rw [selected] at run
    obtain ⟨_,rfl,rfl⟩ := among_pure_ok run
    refine ⟨returning,returned,?_⟩
    rw [← List.append_nil log']
    exact accounted_quiet account (by simp) (by simp [bookRead])
  | cons row rest =>
    obtain ⟨out,pair⟩ := select_head selected
    obtain ⟨rfl,rfl⟩ := matching_pair pair
    obtain ⟨_,fresh⟩ := replay_returns returning out
    rw [selected] at run
    obtain ⟨b,db',same,balanced,run⟩ := among_findBookById (among_deleteLoanRow run)
    cases same
    cases found : (store.replay (log ++ [.deleteLoan row.1]) db').books.find row.2.book with
    | none =>
      rw [found] at run
      exact absurd run among_throw_ok
    | some book =>
      rw [found] at run
      obtain ⟨_,log₁,trace₁,counting,releasing⟩ := among_bind_ok run
      obtain ⟨more,events,rfl,rfl,inventory,none_read⟩ := releaseInventory_among releasing
      rw [replay_append] at found
      have view := accounted_view account balanced (show (store.replay log db').books.find _ = some book from found)
      obtain ⟨returning₁,account₁⟩ := countUp_accounted returning account fresh List.mem_cons_self view counting
      refine ⟨returning_append returning₁ ?_,_,accounted_quiet account₁ inventory none_read⟩
      intro w new
      obtain ⟨k,item,rfl⟩ := inventory w new
      simp

/-! ### Loans that are given back together -/

/-- The writes of the inner loop of `returnBooksForUser`. -/
def giveBackWrites (b : Id) : Book → List (Id × BorrowedBook) → List Write
  | _, [] => []
  | book, loan :: rest =>
    .setBook b { book with availableCopies := book.availableCopies + 1 } :: .deleteLoan loan.1 ::
      giveBackWrites b { book with availableCopies := book.availableCopies + 1 } rest

theorem giveBackAll_among {J : Db → Prop} {b : Id} {book : Book} {rows : List (Id × BorrowedBook)} {log log' : List Write}
    {trace trace' : List (Event Call Reply)}
    (run : Among store J (giveBackAll b book rows) log trace (.ok ()) log' trace') :
    ∃ events, log' = log ++ giveBackWrites b book rows ∧ trace' = trace ++ events ∧ ∀ j, firstRead j events = none := by
  induction rows generalizing book log trace with
  | nil =>
    obtain ⟨_,rfl,rfl⟩ := among_pure_ok run
    exact ⟨[],(List.append_nil _).symm,(List.append_nil _).symm,fun _ => rfl⟩
  | cons row rest ih =>
    rw [giveBackAll] at run
    obtain ⟨_,log₁,trace₁,saving,run⟩ := among_bind_ok run
    obtain ⟨rfl,rfl⟩ := among_saveBook saving
    obtain ⟨events,rfl,rfl,silent⟩ := ih (among_deleteLoanRow run)
    refine ⟨[_] ++ ([_] ++ events),by simp [giveBackWrites],by rw [List.append_assoc,List.append_assoc],fun j => ?_⟩
    simp [bookRead,silent]

section
variable (b : Id)

theorem giveBackWrites_deleted (book : Book) (rows : List (Id × BorrowedBook)) :
    deletedIds (giveBackWrites b book rows) = rows.map Prod.fst := by
  induction rows generalizing book with
  | nil => rfl
  | cons row rest ih => simp [giveBackWrites,deletedLoan,ih]

/-- The loop writes the book and deletes loans, and nothing else. -/
theorem mem_giveBackWrites {book : Book} {rows : List (Id × BorrowedBook)} {w : Write}
    (member : w ∈ giveBackWrites b book rows) : (∃ new, w = .setBook b new) ∨ ∃ k, w = .deleteLoan k := by
  induction rows generalizing book with
  | nil => cases member
  | cons row rest ih =>
    rcases List.mem_cons.mp member with rfl | member
    · exact .inl ⟨_,rfl⟩
    · rcases List.mem_cons.mp member with rfl | later
      · exact .inr ⟨_,rfl⟩
      · exact ih later

theorem giveBackWrites_lent (j : Id) (book : Book) (rows : List (Id × BorrowedBook)) :
    lentCount j (giveBackWrites b book rows) = 0 := by
  refine List.countP_eq_zero.mpr (fun w member => ?_)
  rcases mem_giveBackWrites b member with ⟨new,rfl⟩ | ⟨k,rfl⟩ <;> simp [lends]

theorem giveBackWrites_other {j : Id} (other : j ≠ b) (book : Book) (rows : List (Id × BorrowedBook)) :
    written j (giveBackWrites b book rows) = none := by
  refine List.getLast?_eq_none_iff.mpr (List.filterMap_eq_nil_iff.mpr (fun w member => ?_))
  rcases mem_giveBackWrites b member with ⟨new,rfl⟩ | ⟨k,rfl⟩
  · simp [bookWrite,Ne.symm other]
  · rfl

/-- The last write counts all the loans, unless the counter overflows. -/
theorem giveBackWrites_written (book : Book) {rows : List (Id × BorrowedBook)} (nonempty : rows ≠ []) :
    ∃ new, written b (giveBackWrites b book rows) = some new ∧ new.totalCopies = book.totalCopies ∧
      (book.availableCopies.toInt + rows.length ≤ 2147483647 →
        new.availableCopies.toInt = book.availableCopies.toInt + rows.length) := by
  induction rows generalizing book with
  | nil => exact absurd rfl nonempty
  | cons row rest ih =>
    have next : book.availableCopies.toInt < 2147483647 →
        (book.availableCopies + 1).toInt = book.availableCopies.toInt + 1 :=
      fun room => toInt_succ (b := Int32.maxValue) room
    cases rest with
    | nil =>
      refine ⟨{ book with availableCopies := book.availableCopies + 1 },by simp [giveBackWrites,bookWrite],rfl,fun room => ?_⟩
      rw [List.length_singleton] at room ⊢
      exact next (by omega)
    | cons other more =>
      obtain ⟨new,last,copies,counted⟩ :=
        ih { book with availableCopies := book.availableCopies + 1 } (List.cons_ne_nil other more)
      refine ⟨new,?_,copies,fun room => ?_⟩
      · rw [giveBackWrites,written_cons,written_cons,last]
        rfl
      · rw [List.length_cons] at room ⊢
        have first := next (by omega)
        have later := counted (by dsimp only; omega)
        dsimp only at later
        omega

end

/-- The counter is written for all the loans at once, or it overflows, and then the first
    read was out of date. -/
theorem giveBackWrites_counted {log : List Write} {base book : Book} {b : Id} {returned rows : List (Id × BorrowedBook)}
    (nonempty : rows ≠ []) (all : returnedCount b rows = rows.length)
    (view : Capped base b returned ∨ Counts book base b log returned) :
    Capped base b (returned ++ rows) ∨
      ∃ row, written b (log ++ giveBackWrites b book rows) = some row ∧
        Counts row base b (log ++ giveBackWrites b book rows) (returned ++ rows) := by
  obtain ⟨new,last,copies,counted⟩ := giveBackWrites_written b book nonempty
  have high := Int32.toInt_le book.totalCopies
  have max : Int32.maxValue.toInt = 2147483647 := by decide
  rcases view with capped | ⟨total,left,count⟩
  · refine .inl ?_
    simp only [Capped,returnedCount_append] at capped ⊢
    omega
  · by_cases room : book.availableCopies.toInt + rows.length ≤ 2147483647
    · refine .inr ⟨new,by rw [written_append,last]; rfl,copies.trans total,?_,?_⟩
      · rw [counted room]
        omega
      · rw [counted room,lentCount_append,giveBackWrites_lent,returnedCount_append,all]
        omega
    · refine .inl ?_
      rw [Capped,returnedCount_append,all,← total]
      omega

/-- Taking back several loans of a book that were not deleted before. -/
theorem accounted_giveBack {log : List Write} {trace tail : List (Event Call Reply)}
    {returned rows : List (Id × BorrowedBook)} (account : Accounted log trace returned) {b : Id} {book : Book}
    (nonempty : rows ≠ []) (fresh : ∀ row ∈ rows, row.1 ∉ deletedIds log) (ofOne : ∀ row ∈ rows, ofBook b row.2 = true)
    (distinct : (rows.map Prod.fst).Nodup) (user : Option Id) (silent : ∀ j, firstRead j tail = none)
    (view : Capped ((firstRead b trace).getD book) b returned ∨
      Counts book ((firstRead b trace).getD book) b log returned) :
    Accounted (log ++ giveBackWrites b book rows)
      (trace ++ ⟨.findBookById (some b),some (b,book)⟩ :: ⟨.findByBookIdAndUserId (some b) user,rows⟩ :: tail)
      (returned ++ rows) := by
  refine accounted_round account b book ?_ (giveBackWrites_deleted b book rows).symm ?_ ?_ ?_ ?_
    (giveBackWrites_counted nonempty (List.countP_eq_length.mpr ofOne) view)
  · intro w member
    rcases mem_giveBackWrites b member with ⟨_,rfl⟩ | ⟨_,rfl⟩ <;> trivial
  · rw [deletedIds_append,giveBackWrites_deleted]
    refine List.nodup_append.mpr ⟨account.distinct,distinct,?_⟩
    rintro k before _ now rfl
    obtain ⟨row,member,rfl⟩ := List.mem_map.mp now
    exact fresh row member before
  · intro row member
    exact ⟨⟨.findByBookIdAndUserId (some b) user,rows⟩,by simp,member⟩
  · intro j other
    have none_back : returnedCount j rows = 0 := by
      refine List.countP_eq_zero.mpr (fun row member isBook => other ?_)
      have same := ofOne row member
      simp only [ofBook,beq_iff_eq] at isBook same
      exact isBook.symm.trans same
    refine ⟨?_,giveBackWrites_other b other book rows,giveBackWrites_lent b j book rows,none_back⟩
    simp [bookRead,silent,Ne.symm other]
  · simp [bookRead]

theorem returnBookForUser_accounted {u : Id} {userId bookId : Option Id} {log log' : List Write}
    {trace trace' : List (Event Call Reply)} {returned : List (Id × BorrowedBook)} (returning : Returning log)
    (account : Accounted log trace returned)
    (run : Among store Balanced (returnBookForUser u userId bookId) log trace (.ok ()) log' trace') :
    Returning log' ∧ ∃ returned', Accounted log' trace' returned' := by
  obtain ⟨b,db,rfl,balanced,run⟩ := among_findBookById run
  cases found : (store.replay log db).books.find b with
  | none =>
    rw [found] at run
    exact absurd run among_throw_ok
  | some book =>
    simp only [found,Option.map_some] at run
    obtain ⟨db',_,run⟩ := among_findByBookIdAndUserId run
    rw [matching_some] at run
    split_ifs at run with none_out
    · exact absurd run among_throw_ok
    · obtain ⟨events,rfl,rfl,silent⟩ := giveBackAll_among run
      refine ⟨returning_append returning ?_,returned ++ (store.replay log db').borrowedBooks.select (ofPair b u),?_⟩
      · intro w member loan
        rcases mem_giveBackWrites b member with ⟨_,rfl⟩ | ⟨_,rfl⟩ <;> simp
      · simp only [List.append_assoc]
        refine accounted_giveBack account none_out (fun row member => ?_) (fun row member => ?_) ?_ _ silent
          (accounted_view account balanced found)
        · exact (replay_returns returning (mem_select.mp member).1).2
        · simp [ofBook,(ofPair_iff.mp (mem_select.mp member).2).1]
        · exact (keys_nodup _).sublist (List.filter_sublist.map _)

/-! ### Whole transactions -/

theorem borrowBooksForUser_accounted {clock : Nat → Int} {bookIds : Option (List (Option Id))} {userId : Option Id}
    {log : List Write} {trace : List (Event Call Reply)}
    (run : Among store Balanced (borrowBooksForUser clock bookIds userId) [] [] (.ok ()) log trace) :
    ∃ returned, Accounted log trace returned := by
  obtain ⟨user,run⟩ := among_findUserById run
  cases user with
  | none => exact absurd run among_throw_ok
  | some user =>
    cases bookIds with
    | none => exact absurd run among_throw_ok
    | some ids =>
      have begins : Accounted ([] ++ []) ([] ++ [⟨.findUserById userId,some user⟩]) [] :=
        accounted_quiet accounted_nil (by simp) (by simp [bookRead])
      exact ⟨[],among_forEach ids.zipIdx (fun item _ _ _ _ _ account round => borrowBook_accounted account round)
        _ _ _ _ begins run⟩

/-- What the rounds of a return leave is accounted for. -/
theorem returnRounds_accounted {α : Type} {round : α → Service Unit} (items : List α)
    (rounds : ∀ item ∈ items, ∀ {log log' : List Write} {trace trace' : List (Event Call Reply)}
      {returned : List (Id × BorrowedBook)}, Returning log → Accounted log trace returned →
      Among store Balanced (round item) log trace (.ok ()) log' trace' →
      Returning log' ∧ ∃ returned', Accounted log' trace' returned')
    {log : List Write} {trace begins : List (Event Call Reply)} (begun : Accounted [] begins [])
    (run : Among store Balanced (Prog.forEach round items) [] begins (.ok ()) log trace) :
    ∃ returned, Accounted log trace returned := by
  refine (among_forEach (P := fun log trace => Returning log ∧ ∃ returned, Accounted log trace returned) items ?_
    _ _ _ _ ⟨?_,[],begun⟩ run).2
  · rintro item member log trace log' trace' ⟨returning,returned,account⟩ run
    exact rounds item member returning account run
  · intro w member
    exact absurd member List.not_mem_nil

theorem returnBooksForUser_accounted {bookIds : Option (List (Option Id))} {userId : Option Id} {log : List Write}
    {trace : List (Event Call Reply)}
    (run : Among store Balanced (returnBooksForUser bookIds userId) [] [] (.ok ()) log trace) :
    ∃ returned, Accounted log trace returned := by
  obtain ⟨user,run⟩ := among_findUserById run
  cases user with
  | none => exact absurd run among_throw_ok
  | some user =>
    cases bookIds with
    | none => exact absurd run among_throw_ok
    | some ids =>
      have begins : Accounted ([] ++ []) ([] ++ [⟨.findUserById userId,some user⟩]) [] :=
        accounted_quiet accounted_nil (by simp) (by simp [bookRead])
      exact returnRounds_accounted ids (fun _ _ => returnBookForUser_accounted) begins run

theorem returnBooks_accounted {bookIds userIds : Option (List (Option Id))} {userId : Option Id} {role : Option String}
    {log : List Write} {trace : List (Event Call Reply)}
    (run : Among store Balanced (returnBooks bookIds userIds userId role) [] [] (.ok ()) log trace) :
    ∃ returned, Accounted log trace returned := by
  unfold returnBooks at run
  split at run
  · exact absurd run among_throw_ok
  · exact absurd run among_throw_ok
  · dsimp only at run
    split_ifs at run
    · exact absurd run among_throw_ok
    · exact returnRounds_accounted _ (fun _ _ => returnBook_accounted) accounted_nil run

theorem program_safe (txn : LendingTxn) : Safe store uniqueLoans Balanced Undisturbed txn.program := by
  intro log trace db run balanced undisturbed _
  have accounted : ∃ returned, Accounted log trace returned := by
    cases txn with
    | borrowBooksForUser clock bookIds userId => exact borrowBooksForUser_accounted run
    | returnBooksForUser bookIds userId => exact returnBooksForUser_accounted run
    | returnBooks bookIds userIds userId role => exact returnBooks_accounted run
  obtain ⟨returned,account⟩ := accounted
  exact accounted_commit account balanced undisturbed

/-- The counters are right and no book has more loans than copies. -/
def NoLostUpdate (db : Db) : Prop :=
  Balanced db ∧ ∀ b book, db.books.find b = some book → (db.loansOf b : Int) ≤ book.totalCopies.toInt

/-- In every interleaving in which each transaction that commits finds what it
    read undisturbed, no update is lost. -/
theorem interleaved_balanced {db : Db} (balanced : Balanced db) (txns : List LendingTxn) (schedule : List Nat)
    (undisturbed : CommitsUnder store uniqueLoans Undisturbed (begun db txns) schedule) :
    NoLostUpdate (interleaved db txns schedule).shared := by
  have kept : Balanced (interleaved db txns schedule).shared := by
    refine interleaved_invariant ?_ balanced schedule undisturbed
    intro p member
    obtain ⟨txn,_,rfl⟩ := List.mem_map.mp member
    exact program_safe txn
  refine ⟨kept,?_⟩
  intro b book found
  obtain ⟨left,total⟩ := kept b book found
  omega

/-- One copy of a book and two users. -/
def lastCopy : Db where
  books := Table.empty.insert ⟨some "Dune",some "Frank Herbert",true,none,none,1,1⟩
  users := sampleDb.users
  borrowedBooks := .empty
  inventory := .empty

/-- Both users borrow the book. -/
def twoBorrowers : List LendingTxn :=
  [.borrowBooksForUser (fun _ => 20000) (some [some 1]) (some 1),
    .borrowBooksForUser (fun _ => 20000) (some [some 1]) (some 2)]

instance (db : Db) : Decidable (NoLostUpdate db) :=
  decidable_of_iff (Balanced db ∧ ∀ row ∈ db.books.rows, (db.loansOf row.1 : Int) ≤ row.2.totalCopies.toInt) (by
    refine and_congr_right (fun _ => ⟨?_,?_⟩)
    · intro rows b book found
      exact rows (b,book) (find_eq_some.mp found)
    · intro books row member
      exact books row.1 row.2 (find_eq_some.mpr member))

/-- A copy of each of three books, the last two of them with one of two users each. -/
def threeShelves : Db where
  books := ((Table.empty.insert ⟨some "Dune",some "Frank Herbert",true,none,none,1,1⟩).insert
    ⟨some "Emma",some "Jane Austen",true,none,none,0,1⟩).insert ⟨some "Utopia",some "Thomas More",true,none,none,0,1⟩
  users := sampleDb.users
  borrowedBooks := (Table.empty.insert ⟨2,1,atStartOfDay 20000,some 1,some (atStartOfDay 20014)⟩).insert
    ⟨3,2,atStartOfDay 20000,some 1,some (atStartOfDay 20014)⟩
  inventory := Table.empty.insert ⟨some 2,.BORROWED⟩

/-- The second user borrows the first book and returns the last, while the first user
    returns the other. -/
def comingAndGoing : List LendingTxn :=
  [.borrowBooksForUser (fun _ => 20001) (some [some 1]) (some 2),.returnBooks (some [some 2]) none (some 1) (some "USER"),
    .returnBooksForUser (some [some 3]) (some 2)]

/-- Step by step in turn. -/
def inTurn : List Nat := [0,1,2,0,1,2,0,1,2,0,1,2,0,1,2,0,1,2,0,1,2]

/-- All three are under way at once, and all of them commit. -/
theorem interleaved_balanced_shelves :
    (interleaved threeShelves comingAndGoing inTurn).txns.all Txn.isCommitted = true ∧
      NoLostUpdate (interleaved threeShelves comingAndGoing inTurn).shared :=
  ⟨by decide,interleaved_balanced (by decide) _ _ (by decide)⟩

/-- Step by step in turn, both read the one available copy and both commit. -/
theorem last_copy_lent_twice :
    Balanced lastCopy ∧ Finished (interleaved lastCopy twoBorrowers [0,1,0,1,0,1,0,1,0,1,0,1]) ∧
      ¬ NoLostUpdate (interleaved lastCopy twoBorrowers [0,1,0,1,0,1,0,1,0,1,0,1]).shared := by
  decide

end LibraryServer.LendingConcurrency
