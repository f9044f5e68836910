import LibraryServer.LendingOutcomes

/-!
Returning undoes borrowing. Calls that lend to other users or take back from them
leave the loans of a user, the stored books and the counts alone (`Apart`); so the
books that the user has borrowed can be returned afterwards in any order and in
any of the ways there are. What then remains of the counters is what the others
have done to them.
-/
namespace LibraryServer.LendingRoundTrip
open LibraryServer.Java LibraryServer.Tables LibraryServer.Programs LibraryServer.Entities LibraryServer.Repositories
open LibraryServer.LendingServices LibraryServer.LendingInvariant LibraryServer.LendingRefinement
open LibraryServer.LendingOutcomes
set_option linter.unusedSimpArgs false

/-! ### What other users do in between -/

/-- The call lends to others than this user, or takes back from others. -/
def Spares (u : Id) : LendingCall → Prop
  | .borrowBooksForUser _ _ userId => userId ≠ some u
  | .returnBooksForUser _ userId => userId ≠ some u
  | .returnBooks _ userIds userId role =>
    if equalsIgnoreCase "admin" role then some u ∉ userIds.getD [] else userId ≠ some u

/-- What such calls keep of a database in which they start. -/
structure Apart (u : Id) (start db : Db) : Prop where
  counted : Counted db
  users : db.users = start.users
  books : ∀ b book, start.books.find b = some book → ∃ kept, db.books.find b = some kept
  loans : db.borrowedBooks.select (ofUser u) = start.borrowedBooks.select (ofUser u)

theorem apart_refl (u : Id) {db : Db} (counted : Counted db) : Apart u db db :=
  ⟨counted,rfl,fun _ book found => ⟨book,found⟩,rfl⟩

theorem books_set_stay {start db : Db} (books : ∀ b book, start.books.find b = some book → ∃ kept, db.books.find b = some kept)
    (k : Id) (new : Book) (b : Id) (book : Book) (found : start.books.find b = some book) :
    ∃ kept, (db.books.set k new).find b = some kept :=
  find_set_stays k new (books b book found)

theorem borrowBook_apart {u v : Id} (other : v ≠ u) {start : Db} (clock : Nat → Int) (n : Nat) (bookId : Option Id) :
    Keeps store (Apart u start) (borrowBook clock v n bookId) := by
  intro db apart
  rcases borrowBook_cases clock n db v bookId with ⟨e,_,run⟩ | ⟨b,book,_,found,left,free,run⟩
  · rw [run]
    exact apart
  · rw [run]
    have foreign : ofUser u (newLoan clock n b v) = false := by simpa [ofUser,newLoan] using other
    refine ⟨lend_counted apart.counted found left rfl free,apart.users,books_set_stay apart.books b _,?_⟩
    rw [← apart.loans]
    simp [lend,select_insert,foreign]

theorem takeBack_apart {u : Id} {start db : Db} (apart : Apart u start db) {k : Id} {loan : BorrowedBook} {book : Book}
    (other : loan.user ≠ u) (out : (k,loan) ∈ db.borrowedBooks.rows) (found : db.books.find loan.book = some book)
    (inventory : Table Inventory) : Apart u start { takeBack db loan.book book k with inventory := inventory } := by
  obtain ⟨once,balanced⟩ := takeBack_counted apart.counted out found
  refine ⟨⟨once,balanced⟩,apart.users,books_set_stay apart.books loan.book _,?_⟩
  rw [← apart.loans]
  exact select_erase_other out (by simpa [ofUser] using other)

theorem returnBookForUser_apart {u v : Id} (other : v ≠ u) {start : Db} (userId bookId : Option Id) :
    Keeps store (Apart u start) (returnBookForUser v userId bookId) := by
  intro db apart
  rcases returnBookForUser_cases apart.counted v userId bookId with ⟨e,_,run,_⟩ | ⟨k,loan,book,_,rfl,out,found,run⟩
  · rw [run]
    exact apart
  · rw [run]
    exact takeBack_apart apart other out found db.inventory

/-- The loan of a book that is not stored may be missing: no counter has to make
    up for it. -/
theorem erase_counted {db : Db} (inv : Counted db) {k : Id} {loan : BorrowedBook} (out : (k,loan) ∈ db.borrowedBooks.rows)
    (absent : db.books.find loan.book = none) : Counted { db with borrowedBooks := db.borrowedBooks.erase k } := by
  refine ⟨?_,?_⟩
  · intro b u
    exact Nat.le_trans (count_erase_le _ _ _) (inv.once b u)
  · intro b book found
    have other : loan.book ≠ b := by
      rintro rfl
      rw [absent] at found
      cases found
    have same := count_erase out (ofBook b)
    rw [show ofBook b loan = false by simpa [ofBook] using other] at same
    have total := inv.balanced b book found
    simp only [Db.loansOf] at total ⊢
    simp only [Bool.false_eq_true,if_false,Nat.add_zero] at same
    rw [same]
    exact total

theorem returnBook_apart {u : Id} {target : Option Id} (other : target ≠ some u) {start : Db} (bookId : Option Id) :
    Keeps store (Apart u start) (returnBook bookId target) := by
  intro db apart
  rcases returnBook_outcomes db bookId target with ⟨run,_⟩ | ⟨k,loan,_,rfl,out,outcome⟩
  · rw [run]
    exact apart
  · have foreign : loan.user ≠ u := fun same => other (by rw [same])
    rcases outcome with ⟨absent,e,_,run⟩ | ⟨book,found,run⟩
    · rw [run]
      refine ⟨erase_counted apart.counted out absent,apart.users,apart.books,?_⟩
      rw [← apart.loans]
      exact select_erase_other out (by simpa [ofUser] using foreign)
    · rw [countedUp_room apart.counted.balanced out found] at run
      rw [run]
      exact takeBack_apart apart foreign out found _

/-- The pairs that `returnBooks` goes through spare the user too. -/
theorem returnRequest_spares {u : Id} {bookIds userIds : Option (List (Option Id))} {userId : Option Id} {role : Option String}
    (spares : Spares u (.returnBooks bookIds userIds userId role)) {targets : List (Option Id × Option Id)}
    (request : returnRequest bookIds userIds userId role = some targets) {pair : Option Id × Option Id}
    (member : pair ∈ targets) : pair.2 ≠ some u := by
  have chosen : ∃ ids, targets = returnTargets (equalsIgnoreCase "admin" role) ids (userIds.getD []) userId := by
    unfold returnRequest at request
    split at request
    · cases request
    · cases request
    · split_ifs at request
      exact ⟨_,(Option.some.inj request).symm⟩
  obtain ⟨ids,rfl⟩ := chosen
  by_cases admin : equalsIgnoreCase "admin" role = true
  · rw [returnTargets,if_pos admin] at member
    rw [Spares,if_pos admin] at spares
    intro same
    exact spares (same ▸ (List.of_mem_zip member).2)
  · rw [returnTargets,if_neg admin] at member
    rw [Spares,if_neg admin] at spares
    obtain ⟨_,_,rfl⟩ := List.mem_map.mp member
    exact spares

theorem serve_apart {u : Id} {start db : Db} {call : LendingCall} (spares : Spares u call) (apart : Apart u start db) :
    Apart u start (serve db call.request) := by
  cases call with
  | borrowBooksForUser clock bookIds userId =>
    have rounds : ∀ v n bookId db, userId = some v → (∃ user, db.users.find v = some user) → Apart u start db →
        Apart u start ((borrowBook clock v n bookId).run store db).2 := by
      rintro v n bookId db rfl _ apart
      exact borrowBook_apart (fun same => spares (by rw [same])) clock n bookId db apart
    exact transact_keeps (borrowBooksForUser_keeps rounds bookIds) _ db apart
  | returnBooksForUser bookIds userId =>
    have rounds : ∀ v bookId, userId = some v → Keeps store (Apart u start) (returnBookForUser v userId bookId) := by
      rintro v bookId rfl
      exact returnBookForUser_apart (fun same => spares (by rw [same])) _ bookId
    exact transact_keeps (returnBooksForUser_keeps rounds bookIds) _ db apart
  | returnBooks bookIds userIds userId role =>
    have whole : Keeps store (Apart u start) (returnBooks bookIds userIds userId role) := by
      cases request : returnRequest bookIds userIds userId role with
      | none =>
        obtain ⟨message,thrown⟩ := returnBooks_refused request
        rw [thrown]
        exact keeps_throw _ _
      | some targets =>
        rw [returnBooks_loop request]
        exact keeps_forEach targets (fun pair member => returnBook_apart (returnRequest_spares spares request member) pair.1)
    exact transact_keeps whole _ db apart

/-- Any number of calls for others. -/
theorem run_apart {u : Id} {start db : Db} {calls : List LendingCall} (spare : ∀ call ∈ calls, Spares u call)
    (apart : Apart u start db) : Apart u start ((calls.map LendingCall.request).foldl serve db) := by
  induction calls generalizing db with
  | nil => exact apart
  | cons call rest ih =>
    exact ih (fun other member => spare other (List.mem_cons_of_mem _ member))
      (serve_apart (spare call List.mem_cons_self) apart)

/-! ### The round trip -/

theorem borrow_counted (clock : Nat → Int) (bookIds : Option (List (Option Id))) (userId : Option Id) {db : Db}
    (inv : Counted db) : Counted (transactional (borrowBooksForUser clock bookIds userId) db).2 := by
  have rounds : ∀ u n bookId db, userId = some u → (∃ user, db.users.find u = some user) → Counted db →
      Counted ((borrowBook clock u n bookId).run store db).2 := by
    rintro u n bookId db _ _ inv
    rcases borrowBook_cases clock n db u bookId with ⟨e,_,run⟩ | ⟨b,book,_,found,left,free,run⟩
    · rw [run]
      exact inv
    · rw [run]
      exact lend_counted inv found left rfl free
  exact transact_keeps (borrowBooksForUser_keeps rounds bookIds) _ db inv

/-- A call that returns has lent what could be lent. -/
theorem borrow_lentOut {clock : Nat → Int} {ids : List (Option Id)} {u : Id} {db lent : Db}
    (borrowed : transactional (borrowBooksForUser clock (some ids) (some u)) db = (.ok (),lent)) :
    Lendable db u ids ∧ (∃ user, db.users.find u = some user) ∧ lent = lentOut clock u 0 ids db := by
  rcases borrowBooksForUser_outcomes clock (some ids) (some u) db with ⟨_,_,⟨rfl⟩,⟨rfl⟩,able,run⟩ | ⟨_,e,run⟩
  · obtain ⟨_,user,_,⟨rfl⟩,stored,⟨rfl⟩,lendable⟩ := able
    rw [run] at borrowed
    cases borrowed
    exact ⟨lendable,⟨user,stored⟩,rfl⟩
  · rw [run] at borrowed
    cases borrowed

/-- The new loans are of the listed books to the user. -/
theorem mem_loanColumns {added : List (Id × BorrowedBook)} {ids : List (Option Id)} {u : Id}
    (columns : loanColumns added = ids.map (fun id => (id,u,some 1))) {row : Id × BorrowedBook} (member : row ∈ added) :
    some row.2.book ∈ ids ∧ row.2.user = u := by
  have listed : (some row.2.book,row.2.user,row.2.borrowCount) ∈ loanColumns added := List.mem_map_of_mem member
  rw [columns] at listed
  obtain ⟨id,named,same⟩ := List.mem_map.mp listed
  simp only [Prod.mk.injEq] at same
  exact ⟨same.1 ▸ named,same.2.1.symm⟩

theorem find_lentOut (clock : Nat → Int) {u : Id} (ids : List (Option Id)) {db : Db} {b : Id} {book : Book}
    (found : db.books.find b = some book) :
    (lentOut clock u 0 ids db).books.find b = some (if listed ids b then lowered book else book) := by
  show (db.books.adjust (listed ids) lowered).find b = _
  rw [find_adjust,found]
  rfl

/-- What has been borrowed can be returned after any calls for others. -/
theorem returnable_later {clock : Nat → Int} {ids back : List (Option Id)} {u : Id} {db later : Db}
    (lendable : Lendable db u ids) (perm : back.Perm ids) (apart : Apart u (lentOut clock u 0 ids db) later) :
    Returnable later u back := by
  refine ⟨perm.nodup_iff.mpr lendable.distinct,?_⟩
  intro id member
  obtain ⟨b,book,rfl,found,_⟩ := lendable.each id (perm.mem_iff.mp member)
  -- The loan of the book is among the new rows, hence among the loans of the user.
  obtain ⟨added,rows,columns⟩ := lentOut_loans clock u 0 db (lendable_named lendable)
  have listed : (some b,u,some 1) ∈ loanColumns added := by
    rw [columns]
    exact List.mem_map_of_mem (perm.mem_iff.mp member)
  obtain ⟨row,new,same⟩ := List.mem_map.mp listed
  obtain ⟨isBook,isUser,_⟩ : row.2.book = b ∧ row.2.user = u ∧ row.2.borrowCount = some 1 := by simpa using same
  have lent : row ∈ (lentOut clock u 0 ids db).borrowedBooks.select (ofUser u) := by
    refine mem_select.mpr ⟨?_,by simp [ofUser,isUser]⟩
    rw [rows]
    exact List.mem_append_right _ new
  rw [← apart.loans] at lent
  obtain ⟨kept,storedLater⟩ := apart.books b _ (find_lentOut clock ids found)
  exact ⟨row.1,row.2,kept,by rw [isBook],isUser,(mem_select.mp lent).1,by rw [isBook]; exact storedLater⟩

/-- Taking the new loans away from the loans of the user leaves the old ones. -/
theorem loans_undone {clock : Nat → Int} {ids back : List (Option Id)} {u : Id} {db later : Db}
    (lendable : Lendable db u ids) (perm : back.Perm ids) (apart : Apart u (lentOut clock u 0 ids db) later) :
    (givenBack u back later).borrowedBooks.select (ofUser u) = db.borrowedBooks.select (ofUser u) := by
  obtain ⟨added,rows,columns⟩ := lentOut_loans clock u 0 db (lendable_named lendable)
  have old : ∀ row ∈ db.borrowedBooks.select (ofUser u), (!lentTo u back row.2) = true := by
    intro row member
    obtain ⟨stored,isUser⟩ := mem_select.mp member
    by_contra taken
    have named : row.2.user = u ∧ some row.2.book ∈ ids := by
      simpa [lentTo,listed,perm.mem_iff] using taken
    obtain ⟨b,_,same,_,_,free⟩ := lendable.each _ named.2
    have lent : 0 < db.borrowedBooks.count (ofPair b u) :=
      lent_iff.mpr ⟨row,stored,Option.some.inj same,named.1⟩
    omega
  have new : ∀ row ∈ added.filter (fun row => ofUser u row.2), ¬ (!lentTo u back row.2) = true := by
    intro row member
    obtain ⟨named,isUser⟩ := mem_loanColumns columns (List.mem_filter.mp member).1
    simp [lentTo,listed,isUser,perm.mem_iff,named]
  calc (givenBack u back later).borrowedBooks.select (ofUser u)
      = (later.borrowedBooks.select (ofUser u)).filter (fun row => !lentTo u back row.2) := select_discard _ _ _
    _ = ((lentOut clock u 0 ids db).borrowedBooks.select (ofUser u)).filter (fun row => !lentTo u back row.2) := by
        rw [apart.loans]
    _ = (db.borrowedBooks.select (ofUser u) ++ added.filter (fun row => ofUser u row.2)).filter
          (fun row => !lentTo u back row.2) := by
        rw [Table.select,rows,List.filter_append]
        rfl
    _ = db.borrowedBooks.select (ofUser u) := by
        rw [List.filter_append,List.filter_eq_self.mpr old,List.filter_eq_nil_iff.mpr new,List.append_nil]

/-- The counter of a book goes down with the borrowing and up with the return. -/
theorem available_undone {clock : Nat → Int} {ids back : List (Option Id)} {u : Id} {db later : Db}
    (lendable : Lendable db u ids) (perm : back.Perm ids) (apart : Apart u (lentOut clock u 0 ids db) later)
    {b : Id} {book : Book} (found : db.books.find b = some book) :
    ∃ atLent atLater atFinal, (lentOut clock u 0 ids db).books.find b = some atLent ∧ later.books.find b = some atLater ∧
      (givenBack u back later).books.find b = some atFinal ∧
      atFinal.availableCopies.toInt - book.availableCopies.toInt =
        atLater.availableCopies.toInt - atLent.availableCopies.toInt := by
  have storedLent : (lentOut clock u 0 ids db).books.find b = some (if listed ids b then lowered book else book) :=
    find_lentOut clock ids found
  obtain ⟨atLater,storedLater⟩ := apart.books b _ storedLent
  have storedFinal : (givenBack u back later).books.find b = some (if listed ids b then raised atLater else atLater) := by
    show (later.books.adjust (listed back) raised).find b = _
    rw [find_adjust,storedLater,listed_perm perm]
    rfl
  refine ⟨_,atLater,_,storedLent,storedLater,storedFinal,?_⟩
  by_cases named : listed ids b = true
  · rw [if_pos named,if_pos named]
    have member : some b ∈ ids := by simpa [listed] using named
    -- The copy that is out keeps the counter below the number of copies.
    obtain ⟨k,loan,kept,same,_,out,stored⟩ := (returnable_later lendable perm apart).each _ (perm.mem_iff.mpr member)
    cases same
    have room := available_lt_total apart.counted.balanced out storedLater
    obtain ⟨_,other,⟨rfl⟩,stored',left,_⟩ := lendable.each _ member
    rw [found] at stored'
    cases stored'
    have down := toInt_pred left
    have up := toInt_succ room
    simp only [lowered,raised]
    omega
  · rw [if_neg named,if_neg named]

/-- A user who returns what was borrowed, in any order and in any of the ways, has
    the loans of before, whatever calls for others come in between; the counter of
    every book has changed as these calls have changed it. -/
theorem return_undoes_borrow {db lent : Db} (inv : Counted db) {clock : Nat → Int} {ids : List (Option Id)}
    (nonempty : ids ≠ []) {u : Id}
    (borrowed : transactional (borrowBooksForUser clock (some ids) (some u)) db = (.ok (),lent))
    {between : List LendingCall} (others : ∀ call ∈ between, Spares u call) {back : List (Option Id)}
    (perm : back.Perm ids) (path : ReturnPath) :
    let later := (between.map LendingCall.request).foldl serve lent
    let final := transactional (path.service u back) later
    final.1 = .ok () ∧
      final.2.borrowedBooks.select (ofUser u) = db.borrowedBooks.select (ofUser u) ∧
      ∀ b book, db.books.find b = some book → ∃ atLent atLater atFinal,
        lent.books.find b = some atLent ∧ later.books.find b = some atLater ∧ final.2.books.find b = some atFinal ∧
          atFinal.availableCopies.toInt - book.availableCopies.toInt =
            atLater.availableCopies.toInt - atLent.availableCopies.toInt := by
  intro later final
  have counted : Counted lent := by
    have kept := borrow_counted clock (some ids) (some u) inv
    rw [borrowed] at kept
    exact kept
  obtain ⟨lendable,⟨user,stored⟩,rfl⟩ := borrow_lentOut borrowed
  have apart : Apart u (lentOut clock u 0 ids db) later := run_apart others (apart_refl u counted)
  have member : ∃ user, later.users.find u = some user := ⟨user,by rw [apart.users]; exact stored⟩
  have some_back : back ≠ [] := fun empty => nonempty (List.nil_perm.mp (empty ▸ perm))
  obtain ⟨inventory,run⟩ := returnPath_run path apart.counted member some_back (returnable_later lendable perm apart)
  have final_eq : final = _ := run
  rw [final_eq]
  refine ⟨rfl,loans_undone lendable perm apart,?_⟩
  intro b book found
  exact available_undone lendable perm apart found

/-- Two books come back in the other order, after another user has returned one of them. -/
theorem return_undoes_borrow_sample :
    (transactional (ReturnPath.service 2 [some 2,some 1] (.asAdmin (some 2)))
      (serve (transactional (borrowBooksForUser (fun _ => 20001) (some [some 1,some 2]) (some 2)) twoTitles).2
        (.returnBooksForUser (some [some 1]) (some 1)))).2.borrowedBooks.select (ofUser 2) =
      twoTitles.borrowedBooks.select (ofUser 2) := by
  have inv : Conserved twoTitles := by decide
  have borrowed : transactional (borrowBooksForUser (fun _ => 20001) (some [some 1,some 2]) (some 2)) twoTitles =
      (.ok (),(transactional (borrowBooksForUser (fun _ => 20001) (some [some 1,some 2]) (some 2)) twoTitles).2) := rfl
  have others : ∀ call ∈ [LendingCall.returnBooksForUser (some [some 1]) (some 1)], Spares 2 call := by
    intro call member
    rw [List.mem_singleton.mp member]
    exact (by decide : (some 1 : Option Id) ≠ some 2)
  exact (return_undoes_borrow inv.counted (List.cons_ne_nil _ _) borrowed others (List.Perm.swap _ _ _)
    (.asAdmin (some 2))).2.1

end LibraryServer.LendingRoundTrip
