import LibraryServer.Ledgers
import LibraryServer.LendingInvariant
import Mathlib.Data.Finset.Dedup

/-!
The lending services against the ledger. A conserved database stands for a ledger:
the total of a book is its number of copies, the loans are what is out, and the
counters follow from both. Borrowing and the two ways of returning do on the
database what the moves do on the ledger, and fail without a change exactly where
the moves are impossible.
-/
namespace LibraryServer.LendingRefinement
open LibraryServer.Java LibraryServer.Tables LibraryServer.Programs LibraryServer.Ledgers LibraryServer.Entities
open LibraryServer.Repositories LibraryServer.LendingServices LibraryServer.LendingInvariant
set_option linter.unusedSimpArgs false

/-! ### The ledger of a database -/

/-- The book and the user of a loan row. -/
def loanPair (row : Id × BorrowedBook) : Id × Id := (row.2.book,row.2.user)

/-- What is out. -/
def pairs (db : Db) : Finset (Id × Id) := (db.borrowedBooks.rows.map loanPair).toFinset

theorem mem_pairs {db : Db} {p : Id × Id} : p ∈ pairs db ↔ ∃ row ∈ db.borrowedBooks.rows, loanPair row = p := by
  rw [pairs,List.mem_toFinset,List.mem_map]

theorem mem_pairs_count {db : Db} {b u : Id} : (b,u) ∈ pairs db ↔ 0 < db.borrowedBooks.count (ofPair b u) := by
  simp only [mem_pairs,lent_iff,loanPair,Prod.mk.injEq]

/-- A pair is lent once, so its row is determined. -/
theorem loanPair_inj {db : Db} (inv : Conserved db) {x y : Id × BorrowedBook} (hx : x ∈ db.borrowedBooks.rows)
    (hy : y ∈ db.borrowedBooks.rows) (same : loanPair x = loanPair y) : x = y :=
  row_unique inv.once hx hy (congrArg Prod.fst same) (congrArg Prod.snd same)

theorem copiesOut_pairs {db : Db} (inv : Conserved db) (b : Id) : copiesOut (pairs db) b = db.loansOf b := by
  have rowsOf : (pairs db).filter (fun p => p.1 = b) = ((db.borrowedBooks.select (ofBook b)).map loanPair).toFinset := by
    ext p
    simp only [Finset.mem_filter,mem_pairs,List.mem_toFinset,List.mem_map,mem_select]
    constructor
    · rintro ⟨⟨row,member,rfl⟩,isBook⟩
      exact ⟨row,⟨member,by simpa [ofBook,loanPair] using isBook⟩,rfl⟩
    · rintro ⟨row,⟨member,isBook⟩,rfl⟩
      exact ⟨⟨row,member,rfl⟩,by simpa [ofBook,loanPair] using isBook⟩
  have rowsNodup : (db.borrowedBooks.select (ofBook b)).Nodup := (rows_nodup _).filter _
  have pairsNodup : ((db.borrowedBooks.select (ofBook b)).map loanPair).Nodup := by
    refine rowsNodup.map_on (fun x hx y hy same => ?_)
    exact loanPair_inj inv (mem_select.mp hx).1 (mem_select.mp hy).1 same
  rw [copiesOut,rowsOf,List.toFinset_card_of_nodup pairsNodup,List.length_map]
  rfl

/-- The ledger that a conserved database stands for. -/
def ledgerOf (db : Db) (inv : Conserved db) : Ledger Id Id where
  copies := fun b => (db.books.find b).map (fun book => book.totalCopies.toInt.toNat)
  members := {u | ∃ user, db.users.find u = some user}
  out := pairs db
  known := by
    intro p member
    obtain ⟨row,stored,rfl⟩ := mem_pairs.mp member
    obtain ⟨book,found⟩ := inv.bookStored row stored
    exact ⟨⟨_,by rw [loanPair,found,Option.map_some]⟩,inv.userStored row stored⟩
  enough := by
    intro b n kept
    obtain ⟨book,found,rfl⟩ := Option.map_eq_some_iff.mp kept
    have total := inv.balanced b book found
    rw [copiesOut_pairs inv]
    omega

theorem ledgerOf_copies {db : Db} (inv : Conserved db) (b : Id) :
    (ledgerOf db inv).copies b = (db.books.find b).map (fun book => book.totalCopies.toInt.toNat) := rfl
theorem ledgerOf_out {db : Db} (inv : Conserved db) : (ledgerOf db inv).out = pairs db := rfl

/-- The counter of a book is the number of copies that are not out. -/
theorem available_eq {db : Db} (inv : Conserved db) {b : Id} {book : Book} (found : db.books.find b = some book) :
    ∃ n, (ledgerOf db inv).copies b = some n ∧
      book.availableCopies.toInt + copiesOut (ledgerOf db inv).out b = n := by
  have total := inv.balanced b book found
  refine ⟨book.totalCopies.toInt.toNat,by rw [ledgerOf_copies,found,Option.map_some],?_⟩
  rw [ledgerOf_out,copiesOut_pairs inv]
  omega

def Stands (db : Db) (L : Ledger Id Id) : Prop := ∃ inv : Conserved db, ledgerOf db inv = L

theorem canLend_iff {db : Db} (inv : Conserved db) (b u : Id) :
    (ledgerOf db inv).CanLend b u ↔
      (∃ user, db.users.find u = some user) ∧ db.borrowedBooks.count (ofPair b u) = 0 ∧
        ∃ book, db.books.find b = some book ∧ 0 < book.availableCopies.toInt := by
  refine and_congr Iff.rfl (and_congr ?_ ?_)
  · rw [ledgerOf_out,mem_pairs_count]
    omega
  · constructor
    · rintro ⟨n,kept,left⟩
      obtain ⟨book,found,_⟩ := Option.map_eq_some_iff.mp kept
      obtain ⟨m,same,total⟩ := available_eq inv found
      rw [kept] at same
      cases same
      exact ⟨book,found,by omega⟩
    · rintro ⟨book,found,left⟩
      obtain ⟨n,kept,total⟩ := available_eq inv found
      exact ⟨n,kept,by omega⟩

/-! ### Moves -/

/-- Replacing a counter changes no number of copies. -/
theorem copies_set {t : Table Book} {b : Id} {book : Book} (found : t.find b = some book) (available : Int32) (j : Id) :
    ((t.set b { book with availableCopies := available }).find j).map (fun book => book.totalCopies.toInt.toNat) =
      (t.find j).map (fun book => book.totalCopies.toInt.toNat) := by
  rw [find_set]
  split_ifs with same
  · rw [same,found]
    rfl
  · rfl

theorem ledgerOf_lend {db : Db} (inv : Conserved db) {b : Id} {book : Book} {loan : BorrowedBook}
    (found : db.books.find b = some book) (isBook : loan.book = b) (after : Conserved (lend db b book loan))
    (can : (ledgerOf db inv).CanLend b loan.user) :
    ledgerOf (lend db b book loan) after = (ledgerOf db inv).lend b loan.user can := by
  refine Ledger.ext (funext (copies_set found _)) rfl ?_
  ext p
  show p ∈ pairs (lend db b book loan) ↔ p ∈ insert (b,loan.user) (pairs db)
  rw [Finset.mem_insert,mem_pairs,mem_pairs]
  constructor
  · rintro ⟨row,member,rfl⟩
    rcases mem_insert.mp member with old | rfl
    · exact .inr ⟨row,old,rfl⟩
    · exact .inl (by rw [loanPair,isBook])
  · rintro (rfl | ⟨row,old,rfl⟩)
    · exact ⟨_,mem_insert.mpr (.inr rfl),by rw [loanPair,isBook]⟩
    · exact ⟨row,mem_insert.mpr (.inl old),rfl⟩

theorem ledgerOf_takeBack {db : Db} (inv : Conserved db) {k : Id} {loan : BorrowedBook} {book : Book}
    (out : (k,loan) ∈ db.borrowedBooks.rows) (found : db.books.find loan.book = some book) (inventory : Table Inventory)
    (after : Conserved { takeBack db loan.book book k with inventory := inventory }) :
    ledgerOf { takeBack db loan.book book k with inventory := inventory } after =
      (ledgerOf db inv).giveBack loan.book loan.user := by
  refine Ledger.ext (funext (copies_set found _)) rfl ?_
  ext p
  show p ∈ pairs (takeBack db loan.book book k) ↔ p ∈ (pairs db).erase (loan.book,loan.user)
  rw [Finset.mem_erase,mem_pairs,mem_pairs]
  constructor
  · rintro ⟨row,member,rfl⟩
    obtain ⟨old,other⟩ := mem_erase.mp member
    refine ⟨fun same => other ?_,row,old,rfl⟩
    rw [loanPair_inj inv old out same]
  · rintro ⟨other,row,old,rfl⟩
    refine ⟨row,mem_erase.mpr ⟨old,fun same => other ?_⟩,rfl⟩
    rw [rows_key_inj old out same]
    rfl

/-! ### The services -/

/-- The exceptions that roll a transaction back. -/
def Unchecked (e : Exc) : Prop := e.isChecked = false

/-- A round of borrowing; null names no book. -/
noncomputable def lendTo (u : Id) (L : Ledger Id Id) (bookId : Option Id) : Option (Ledger Id Id) :=
  bookId.bind (fun b => L.tryLend b u)

/-- The rounds are for a user who is a member. -/
def StandsFor (u : Id) (db : Db) (L : Ledger Id Id) : Prop := Stands db L ∧ ∃ user, db.users.find u = some user

theorem borrowBook_refines (clock : Nat → Int) (u : Id) (n : Nat) (bookId : Option Id) :
    Refines store (StandsFor u) Unchecked (borrowBook clock u n bookId) (fun L => lendTo u L bookId) := by
  rintro db L ⟨⟨inv,rfl⟩,user,stored⟩
  rcases borrowBook_cases clock n db u bookId with ⟨e,unchecked,run⟩ | ⟨b,book,rfl,found,left,free,run⟩
  · rw [run]
    refine ⟨unchecked,?_⟩
    cases bookId with
    | none => rfl
    | some b =>
      -- Where the move is possible the round does not throw.
      refine tryLend_cannot (fun can => ?_)
      obtain ⟨_,free,book,found,left⟩ := (canLend_iff inv b u).mp can
      rw [borrowBook_ok clock n found left free] at run
      cases run
  · rw [run]
    have can := (canLend_iff inv b u).mpr ⟨⟨user,stored⟩,free,book,found,left⟩
    have after : Conserved (lend db b book (newLoan clock n b u)) := lend_conserved inv found left rfl stored free
    exact ⟨_,tryLend_can can,⟨after,ledgerOf_lend inv found rfl after can⟩,user,stored⟩

open Classical in
/-- Moves for a member, one after another, all or nothing. -/
noncomputable def eachFor (move : Id → Ledger Id Id → Option Id → Option (Ledger Id Id))
    (bookIds : Option (List (Option Id))) (userId : Option Id) (L : Ledger Id Id) : Option (Ledger Id Id) :=
  match userId, bookIds with
  | some u, some ids => if u ∈ L.members then ids.foldlM (move u) L else none
  | _, _ => none

/-- The user is looked up first; then the loop has to do the moves. -/
theorem eachFor_refines {move : Id → Ledger Id Id → Option Id → Option (Ledger Id Id)}
    {loop : List (Option Id) → Id → Service Unit}
    (moves : ∀ ids u db (inv : Conserved db), (∃ user, db.users.find u = some user) →
      Meets Stands Unchecked (ids.foldlM (move u) (ledgerOf db inv)) ((loop ids u).run store db))
    (bookIds : Option (List (Option Id))) (userId : Option Id) :
    Refines store Stands Unchecked
      (findUserById userId >>= fun found =>
        match found with
        | none => .throw (.runtimeException "User not found")
        | some (user,_) =>
          match bookIds with
          | none => .throw .nullPointer
          | some ids => loop ids user)
      (eachFor move bookIds userId) := by
  rintro db L ⟨inv,rfl⟩
  cases userId with
  | none =>
    rw [run_findUserById_null]
    exact ⟨rfl,rfl⟩
  | some u =>
    rw [run_findUserById]
    cases stored : db.users.find u with
    | none =>
      have stranger : u ∉ (ledgerOf db inv).members := by
        rintro ⟨user,found⟩
        rw [stored] at found
        cases found
      refine ⟨rfl,?_⟩
      cases bookIds with
      | none => rfl
      | some ids => exact if_neg stranger
    | some user =>
      have member : u ∈ (ledgerOf db inv).members := ⟨user,stored⟩
      cases bookIds with
      | none => exact ⟨rfl,rfl⟩
      | some ids =>
        rw [eachFor,if_pos member]
        exact moves ids u db inv member

theorem borrowBooksForUser_refines (clock : Nat → Int) (bookIds : Option (List (Option Id))) (userId : Option Id) :
    Refines store Stands Unchecked (borrowBooksForUser clock bookIds userId) (eachFor lendTo bookIds userId) := by
  refine eachFor_refines (fun ids u db inv member => ?_) bookIds userId
  have rounds := refines_forEach ids.zipIdx (fun item _ => borrowBook_refines clock u item.2 item.1) db _ ⟨⟨inv,rfl⟩,member⟩
  have numbered : ids.foldlM (lendTo u) (ledgerOf db inv) =
      ids.zipIdx.foldlM (fun L item => lendTo u L item.1) (ledgerOf db inv) := by
    conv_lhs => rw [← List.zipIdx_map_fst 0 ids]
    exact List.foldlM_map
  rw [numbered]
  exact meets_imp (fun _ _ => And.left) rounds

/-- A round of returning for a user. -/
def takeFrom (u : Id) (L : Ledger Id Id) (bookId : Option Id) : Option (Ledger Id Id) :=
  bookId.bind (fun b => L.tryGiveBack b u)

theorem returnBookForUser_refines (u : Id) (userId bookId : Option Id) :
    Refines store Stands Unchecked (returnBookForUser u userId bookId) (fun L => takeFrom u L bookId) := by
  rintro db L ⟨inv,rfl⟩
  rcases returnBookForUser_cases inv.counted u userId bookId with ⟨e,unchecked,run,free⟩ | ⟨k,loan,book,rfl,rfl,out,found,run⟩
  · rw [run]
    refine ⟨unchecked,?_⟩
    cases bookId with
    | none => rfl
    | some b =>
      refine if_neg (fun member => ?_)
      obtain ⟨row,out,same⟩ := mem_pairs.mp member
      obtain ⟨book,found⟩ := inv.bookStored row out
      cases same
      have lent := mem_pairs_count.mp member
      rw [free _ book rfl found] at lent
      omega
  · rw [run]
    have after := takeBack_conserved inv out found
    have member : (loan.book,loan.user) ∈ (ledgerOf db inv).out := mem_pairs.mpr ⟨_,out,rfl⟩
    exact ⟨_,if_pos member,after,ledgerOf_takeBack inv out found db.inventory after⟩

theorem returnBooksForUser_refines (bookIds : Option (List (Option Id))) (userId : Option Id) :
    Refines store Stands Unchecked (returnBooksForUser bookIds userId) (eachFor takeFrom bookIds userId) :=
  eachFor_refines (fun ids u db inv _ =>
    refines_forEach ids (fun bookId _ => returnBookForUser_refines u userId bookId) db _ ⟨inv,rfl⟩) bookIds userId

/-- A round of `returnBooks`; a pair that is not out is skipped. -/
def clear (L : Ledger Id Id) : Option Id × Option Id → Ledger Id Id
  | (some b,some u) => L.giveBack b u
  | _ => L

theorem returnBook_refines (bookId target : Option Id) :
    Refines store Stands Unchecked (returnBook bookId target) (fun L => some (clear L (bookId,target))) := by
  rintro db L ⟨inv,rfl⟩
  rcases returnBook_cases inv bookId target with ⟨run,free⟩ | ⟨k,loan,book,inventory,rfl,rfl,out,found,run⟩
  · rw [run]
    refine ⟨_,rfl,inv,?_⟩
    cases bookId with
    | none => rfl
    | some b =>
      cases target with
      | none => rfl
      | some u =>
        refine (giveBack_absent (fun member => ?_)).symm
        have lent := mem_pairs_count.mp member
        rw [free b u rfl rfl] at lent
        omega
  · rw [run]
    have after := inventory_conserved (takeBack_conserved inv out found) inventory
    exact ⟨_,rfl,after,ledgerOf_takeBack inv out found inventory after⟩

/-- An administrator has to name a user for every book. -/
def mismatched (role : Option String) (bookIds : List (Option Id)) : Option (List (Option Id)) → Bool
  | none => equalsIgnoreCase "admin" role
  | some userIds => equalsIgnoreCase "admin" role && bookIds.length != userIds.length

/-- The pairs that `returnBooks` goes through, unless it refuses the lists. -/
def returnRequest (bookIds userIds : Option (List (Option Id))) (userId : Option Id) (role : Option String) :
    Option (List (Option Id × Option Id)) :=
  match bookIds with
  | none => none
  | some [] => none
  | some (first :: rest) =>
    if mismatched role (first :: rest) userIds then none
    else some (returnTargets (equalsIgnoreCase "admin" role) (first :: rest) (userIds.getD []) userId)

/-- An administrator names the users beside the books, as many as there are books. -/
theorem returnRequest_zip {bookIds : List (Option Id)} (nonempty : bookIds ≠ []) (userIds : List (Option Id))
    (userId : Option Id) :
    returnRequest (some bookIds) (some userIds) userId (some "ADMIN") =
      if bookIds.length = userIds.length then some (bookIds.zip userIds) else none := by
  have admin : equalsIgnoreCase "admin" (some "ADMIN") = true := by decide
  cases bookIds with
  | nil => exact absurd rfl nonempty
  | cons first rest =>
    by_cases same : (first :: rest).length = userIds.length
    · have accepted : mismatched (some "ADMIN") (first :: rest) (some userIds) = false := by simp [mismatched,same]
      rw [returnRequest,accepted,if_pos same,admin]
      rfl
    · have refused : mismatched (some "ADMIN") (first :: rest) (some userIds) = true := by
        simp only [mismatched,admin,Bool.true_and,bne_iff_ne]
        exact same
      rw [returnRequest,if_pos refused,if_neg same]

/-- The refusal of `returnBooks`, as it is written there. -/
theorem mismatched_eq (role : Option String) (bookIds : List (Option Id)) (userIds : Option (List (Option Id))) :
    (equalsIgnoreCase "admin" role && (match userIds with | none => true | some ids => bookIds.length != ids.length)) =
      mismatched role bookIds userIds := by
  cases userIds <;> simp [mismatched]

theorem returnBooks_refused {bookIds userIds : Option (List (Option Id))} {userId : Option Id} {role : Option String}
    (refused : returnRequest bookIds userIds userId role = none) :
    ∃ message, returnBooks bookIds userIds userId role = .throw (.illegalArgument message) := by
  cases bookIds with
  | none => exact ⟨_,rfl⟩
  | some ids =>
    cases ids with
    | nil => exact ⟨_,rfl⟩
    | cons first rest =>
      by_cases mismatch : mismatched role (first :: rest) userIds = true
      · exact ⟨_,if_pos ((mismatched_eq role (first :: rest) userIds).trans mismatch)⟩
      · rw [returnRequest,if_neg mismatch] at refused
        cases refused

theorem returnBooks_loop {bookIds userIds : Option (List (Option Id))} {userId : Option Id} {role : Option String}
    {targets : List (Option Id × Option Id)} (request : returnRequest bookIds userIds userId role = some targets) :
    returnBooks bookIds userIds userId role = Prog.forEach (fun pair => returnBook pair.1 pair.2) targets := by
  cases bookIds with
  | none => cases request
  | some ids =>
    cases ids with
    | nil => cases request
    | cons first rest =>
      by_cases mismatch : mismatched role (first :: rest) userIds = true
      · rw [returnRequest,if_pos mismatch] at request
        cases request
      · rw [returnRequest,if_neg mismatch] at request
        cases request
        exact if_neg (fun yes => mismatch ((mismatched_eq role (first :: rest) userIds).symm.trans yes))

/-- Returning pairs: those that are out are cleared, in any case. -/
def returning (bookIds userIds : Option (List (Option Id))) (userId : Option Id) (role : Option String) (L : Ledger Id Id) :
    Option (Ledger Id Id) :=
  (returnRequest bookIds userIds userId role).map (fun targets => targets.foldl clear L)

theorem returnBooks_refines (bookIds userIds : Option (List (Option Id))) (userId : Option Id) (role : Option String) :
    Refines store Stands Unchecked (returnBooks bookIds userIds userId role) (returning bookIds userIds userId role) := by
  intro db L stands
  cases request : returnRequest bookIds userIds userId role with
  | none =>
    obtain ⟨message,thrown⟩ := returnBooks_refused request
    rw [returning,request,thrown]
    exact ⟨rfl,rfl⟩
  | some targets =>
    have rounds := refines_forEach targets (fun pair _ => returnBook_refines pair.1 pair.2) db L stands
    have total : targets.foldlM (fun L pair => some (clear L pair)) L = some (targets.foldl clear L) :=
      List.foldlM_pure
    rw [returning,request,returnBooks_loop request,Option.map_some,← total]
    exact rounds

/-! ### Whole runs -/

/-- The calls that lend and take back. -/
inductive LendingCall where
  | borrowBooksForUser (clock : Nat → Int) (bookIds : Option (List (Option Id))) (userId : Option Id)
  | returnBooksForUser (bookIds : Option (List (Option Id))) (userId : Option Id)
  | returnBooks (bookIds userIds : Option (List (Option Id))) (userId : Option Id) (role : Option String)

def LendingCall.request : LendingCall → Request
  | .borrowBooksForUser clock bookIds userId => .borrowBooksForUser clock bookIds userId
  | .returnBooksForUser bookIds userId => .returnBooksForUser bookIds userId
  | .returnBooks bookIds userIds userId role => .returnBooks bookIds userIds userId role

/-- What a call does on the ledger, if it does not fail. -/
noncomputable def LendingCall.move (L : Ledger Id Id) : LendingCall → Option (Ledger Id Id)
  | .borrowBooksForUser _ bookIds userId => eachFor lendTo bookIds userId L
  | .returnBooksForUser bookIds userId => eachFor takeFrom bookIds userId L
  | .returnBooks bookIds userIds userId role => returning bookIds userIds userId role L

/-- A call leaves a database that stands for the result of its move, or the
    database as it was if the move is impossible. -/
theorem serve_refines {db : Db} {L : Ledger Id Id} (stands : Stands db L) (call : LendingCall) :
    (∃ after, call.move L = some after ∧ Stands (serve db call.request) after) ∨
      call.move L = none ∧ serve db call.request = db := by
  have ofRun : ∀ {p : Service Unit} {f : Ledger Id Id → Option (Ledger Id Id)}, Refines store Stands Unchecked p f →
      (∃ after, f L = some after ∧ Stands (transactional p db).2 after) ∨ f L = none ∧ (transactional p db).2 = db := by
    intro p f refines
    have run := transact_refines refines (fun _ unchecked => unchecked) stands
    rw [transactional]
    cases result : p.transact store Exc.isChecked db with
    | mk outcome after =>
      rw [result] at run
      cases outcome with
      | error e => exact .inr ⟨run.2,run.1⟩
      | ok _ => exact .inl run
  cases call with
  | borrowBooksForUser clock bookIds userId => exact ofRun (borrowBooksForUser_refines clock bookIds userId)
  | returnBooksForUser bookIds userId => exact ofRun (returnBooksForUser_refines bookIds userId)
  | returnBooks bookIds userIds userId role => exact ofRun (returnBooks_refines bookIds userIds userId role)

/-- Every run of the services is a run of the ledger in which impossible moves
    are left out. -/
theorem run_refines {db : Db} {L : Ledger Id Id} (stands : Stands db L) (calls : List LendingCall) :
    Stands ((calls.map LendingCall.request).foldl serve db)
      (calls.foldl (fun L call => (call.move L).getD L) L) := by
  induction calls generalizing db L with
  | nil => exact stands
  | cons call rest ih =>
    refine ih ?_
    show Stands _ ((call.move L).getD L)
    rcases serve_refines stands call with ⟨after,moved,later⟩ | ⟨impossible,same⟩
    · rw [moved]
      exact later
    · rw [impossible,same]
      exact stands

/-- Both users ask for the book, the second gets it, and the first one's comes back. -/
def dayCalls : List LendingCall :=
  [.borrowBooksForUser (fun _ => 20001) (some [some 1]) (some 1),.borrowBooksForUser (fun _ => 20001) (some [some 1]) (some 2),
    .returnBooks (some [some 1]) none (some 1) (some "USER")]

theorem run_refines_day :
    Stands ((dayCalls.map LendingCall.request).foldl serve sampleDb)
      (dayCalls.foldl (fun L call => (call.move L).getD L) (ledgerOf sampleDb (by decide))) :=
  run_refines ⟨by decide,rfl⟩ dayCalls

end LibraryServer.LendingRefinement
