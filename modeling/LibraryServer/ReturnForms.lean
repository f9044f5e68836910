import LibraryServer.ReturnSets

/-!
The form with which an administrator returns books. An entry whose user id is
malformed leaves its book id behind, and the service then refuses all entries; any
other malformed entry is skipped. The values of the checkboxes that the page renders
are never malformed: what is ticked is what is returned, unless another user has the
administrator's name.
-/
namespace LibraryServer.ReturnForms
open LibraryServer.Java LibraryServer.Tables LibraryServer.Programs LibraryServer.Runs LibraryServer.Entities
open LibraryServer.Repositories LibraryServer.LendingServices LibraryServer.LendingInvariant LibraryServer.LendingRefinement
open LibraryServer.JwtFilter LibraryServer.Accounts LibraryServer.BorrowedViews LibraryServer.Controllers
open LibraryServer.Fallible LibraryServer.BatchReturns LibraryServer.ReturnSets
open LibraryServer.LoanLists (bobAuth)
set_option linter.unusedSimpArgs false

/-! ### Malformed entries -/

/-- Two parts that are both numbers. -/
def wellFormed (text : String) : Bool := (pairOf text).isSome

/-- What is left of the tables is what the well-formed entries alone would leave. -/
def SkipsMalformed (auth : Authentication) (bookIds : Option (List (Option Id))) (texts : List String) (db : Db) : Prop :=
  let after := (ReturnBooksController.returnBooks bookIds (some texts) (some auth) db).2
  let expected := (ReturnBooksController.returnBooks bookIds (some (texts.filter wellFormed)) (some auth) db).2
  after.books = expected.books ∧ after.borrowedBooks = expected.borrowedBooks ∧ after.inventory = expected.inventory

/-- The loop returns normally, and removes some row if one of the pairs is lent. -/
theorem returnLoop_removes (targets : List (Option Id × Option Id)) {db : Db}
    (bookStored : ∀ row ∈ db.borrowedBooks.rows, ∃ book, db.books.find row.2.book = some book) :
    ∃ after, (Prog.forEach (fun pair => returnBook pair.1 pair.2) targets).run store db = (.ok (),after) ∧
      after.borrowedBooks.rows.length ≤ db.borrowedBooks.rows.length ∧
      ((∀ b u, (some b,some u) ∈ targets → lent db b u = false) → after = db) ∧
      ∀ b u, (some b,some u) ∈ targets → lent db b u = true →
        after.borrowedBooks.rows.length < db.borrowedBooks.rows.length := by
  induction targets generalizing db with
  | nil => exact ⟨db,rfl,Nat.le_refl _,fun _ => rfl,fun b u member => absurd member List.not_mem_nil⟩
  | cons pair rest ih =>
    rw [Prog.forEach,run_bind]
    rcases returnBook_outcomes db pair.1 pair.2 with ⟨run,free⟩ | ⟨k,loan,isBook,isUser,out,⟨absent,_⟩ | ⟨book,found,run⟩⟩
    · obtain ⟨after,later,fewer,unchanged,removed⟩ := ih bookStored
      refine ⟨after,by rw [run]; exact later,fewer,?_,?_⟩
      · intro none_lent
        exact unchanged (fun b u member => none_lent b u (List.mem_cons_of_mem _ member))
      · intro b u member isLent
        rcases List.mem_cons.mp member with first | member
        · have none_out := free b u (congrArg Prod.fst first).symm (congrArg Prod.snd first).symm
          simp [lent,none_out] at isLent
        · exact removed b u member isLent
    · obtain ⟨book,found⟩ := bookStored _ out
      rw [absent] at found
      cases found
    · generalize isNext : ({ db with
        borrowedBooks := db.borrowedBooks.erase k
        books := countedUp db.books loan.book book
        inventory := released db.inventory pair.1 } : Db) = next at run
      have stays : ∀ row ∈ next.borrowedBooks.rows, ∃ kept, next.books.find row.2.book = some kept := by
        subst isNext
        intro row member
        exact countedUp_stored book (bookStored row (mem_erase.mp member).1)
      have shorter : next.borrowedBooks.rows.length < db.borrowedBooks.rows.length := by
        subst isNext
        exact List.length_filter_lt_length_iff_exists.mpr ⟨(k,loan),out,by simp⟩
      obtain ⟨after,later,fewer,_⟩ := ih stays
      have less : after.borrowedBooks.rows.length < db.borrowedBooks.rows.length := Nat.lt_of_le_of_lt fewer shorter
      refine ⟨after,by rw [run]; exact later,Nat.le_of_lt less,?_,fun _ _ _ _ => less⟩
      intro none_lent
      have isLent : lent db loan.book loan.user = true := by simpa [lent] using lent_iff.mpr ⟨_,out,rfl,rfl⟩
      rw [none_lent loan.book loan.user (by rw [← isBook,← isUser]; exact List.mem_cons_self)] at isLent
      cases isLent

theorem halfRead_wellFormed {text : String} (whole : wellFormed text = true) : halfRead text = false := by
  rcases readPairs_cons text [] with ⟨_,_,_,half,_⟩ | ⟨none_read,_⟩ | ⟨none_read,_⟩
  · exact half
  · simp [wellFormed,none_read] at whole
  · simp [wellFormed,none_read] at whole

theorem wellFormed_filter (texts : List String) :
    (texts.filter wellFormed).filterMap pairOf = texts.filterMap pairOf ∧ (texts.filter wellFormed).countP halfRead = 0 := by
  constructor
  · rw [List.filterMap_filter]
    refine List.filterMap_congr (fun text _ => ?_)
    cases read : pairOf text <;> simp [wellFormed,read]
  · refine List.countP_eq_zero.mpr (fun text member => ?_)
    simp [halfRead_wellFormed (List.mem_filter.mp member).2]

/-- The pairs that the service goes through, unless some entry has left its book id
    behind. -/
theorem textsRequest (texts : List String) (userId : Option Id) :
    returnRequest (some (readPairs texts).1) (some (readPairs texts).2.1) userId (some "ADMIN") =
      if texts.countP halfRead = 0 ∧ texts.filterMap pairOf ≠ [] then some ((texts.filterMap pairOf).map target) else none := by
  obtain ⟨users,length,books⟩ := readPairs_lists texts
  by_cases empty : (readPairs texts).1 = []
  · have nothing : texts.filterMap pairOf = [] := by
      rw [empty,List.length_nil] at length
      exact List.length_eq_zero_iff.mp (by omega)
    simp [empty,nothing,returnRequest]
  · rw [returnRequest_zip empty]
    by_cases none_half : texts.countP halfRead = 0
    · have same : (readPairs texts).1.length = (readPairs texts).2.1.length := by
        rw [length,users,List.length_map,none_half,Nat.add_zero]
      have some_pair : texts.filterMap pairOf ≠ [] := by
        intro nothing
        rw [books none_half,nothing] at empty
        exact empty rfl
      rw [if_pos same,if_pos ⟨none_half,some_pair⟩,readPairs_aligned same]
    · have differ : ¬ (readPairs texts).1.length = (readPairs texts).2.1.length := by
        rw [length,users,List.length_map]
        omega
      rw [if_neg differ,if_neg (fun both => none_half both.1)]

section
variable {auth : Authentication} {name : String} {db : Db} {k : Id} {requester : User}

/-- What the handler leaves behind: nothing is changed if some entry has left its
    book id behind, and otherwise the pairs are gone through. -/
theorem post_texts (own : auth.name = some name) (found : findByUsername db.users (some name) = .ok (some (k,requester)))
    (role : requester.role = some .ADMIN) (bookIds : Option (List (Option Id))) (texts : List String) {after : Db}
    (run : (Prog.forEach (fun pair => returnBook pair.1 pair.2) ((texts.filterMap pairOf).map target)).run store db =
      (.ok (),after)) :
    (ReturnBooksController.returnBooks bookIds (some texts) (some auth) db).2 =
      if texts.countP halfRead = 0 then after else db := by
  rw [post_found own found role]
  show (transactional (LendingServices.returnBooks (some (readPairs texts).1) (some (readPairs texts).2.1) (some k)
    (some "ADMIN")) db).2 = _
  have request := textsRequest texts (some k)
  by_cases none_half : texts.countP halfRead = 0
  · rw [if_pos none_half]
    by_cases some_pair : texts.filterMap pairOf ≠ []
    · rw [if_pos ⟨none_half,some_pair⟩] at request
      rw [returnBooks_loop request,transactional_ok run]
    · rw [if_neg (fun both => some_pair both.2)] at request
      obtain ⟨message,thrown⟩ := returnBooks_refused request
      rw [ne_eq,not_not] at some_pair
      rw [some_pair] at run
      cases run
      rw [thrown,transactional_throw]
  · rw [if_neg none_half]
    rw [if_neg (fun both => none_half both.1)] at request
    obtain ⟨message,thrown⟩ := returnBooks_refused request
    rw [thrown,transactional_throw]

/-- Of a requester whom the lookup finds: they are skipped exactly if none of them has
    a book id or no entry names a loan. -/
theorem malformed_skipped_found (own : auth.name = some name)
    (bookStored : ∀ row ∈ db.borrowedBooks.rows, ∃ book, db.books.find row.2.book = some book)
    (found : findByUsername db.users (some name) = .ok (some (k,requester))) (role : requester.role = some .ADMIN)
    (bookIds : Option (List (Option Id))) (texts : List String) :
    SkipsMalformed auth bookIds texts db ↔
      (∀ text ∈ texts, halfRead text = false) ∨
        ∀ row ∈ db.borrowedBooks.rows, ¬ Names (some texts) row.2.book row.2.user := by
  obtain ⟨after,run,_,unchanged,removed⟩ := returnLoop_removes ((texts.filterMap pairOf).map target) bookStored
  obtain ⟨pairs,none_half⟩ := wellFormed_filter texts
  have actual := post_texts own found role bookIds texts run
  have expected := post_texts own found role bookIds (texts.filter wellFormed) (by rw [pairs]; exact run)
  rw [if_pos none_half] at expected
  have none_read : texts.countP halfRead = 0 ↔ ∀ text ∈ texts, halfRead text = false := by simp [List.countP_eq_zero]
  rw [SkipsMalformed,actual,expected,← none_read]
  by_cases half : texts.countP halfRead = 0
  · rw [if_pos half]
    exact iff_of_true ⟨rfl,rfl,rfl⟩ (.inl half)
  · rw [if_neg half]
    constructor
    · rintro ⟨_,loans,_⟩
      refine .inr (fun row member namesIt => ?_)
      have isLent : lent db row.2.book row.2.user = true := by simpa [lent] using lent_iff.mpr ⟨row,member,rfl,rfl⟩
      have less := removed row.2.book row.2.user (mem_targets.mpr namesIt) isLent
      rw [← loans] at less
      exact Nat.lt_irrefl _ less
    · intro condition
      have none_named := condition.resolve_left half
      have same : after = db := by
        refine unchanged (fun b u member => ?_)
        rw [Bool.eq_false_iff]
        intro isLent
        obtain ⟨row,out,rfl,rfl⟩ := lent_iff.mp (by simpa [lent] using isLent)
        exact none_named row out (mem_targets.mp member)
      rw [same]
      exact ⟨rfl,rfl,rfl⟩

/-- Malformed entries are skipped exactly if none of them has a book id, or there is
    nothing to return anyway: no entry names a loan, or the requester is not the only
    one of the name. -/
theorem malformed_skipped_iff (own : auth.name = some name)
    (bookStored : ∀ row ∈ db.borrowedBooks.rows, ∃ book, db.books.find row.2.book = some book)
    (stored : db.users.find k = some requester) (named : requester.username = some name)
    (role : requester.role = some .ADMIN) (bookIds : Option (List (Option Id))) (texts : List String) :
    SkipsMalformed auth bookIds texts db ↔
      (∀ text ∈ texts, halfRead text = false) ∨
        (∀ row ∈ db.borrowedBooks.rows, ¬ Names (some texts) row.2.book row.2.user) ∨
        ∃ row ∈ db.users.rows, row.2.username = some name ∧ row.1 ≠ k := by
  have shared := findByUsername_shared stored
  rw [named] at shared
  rcases findByUsername_stored stored with found | several
  · rw [named] at found
    have nobody_else : ¬ ∃ row ∈ db.users.rows, row.2.username = some name ∧ row.1 ≠ k := by
      rw [← shared,found]
      intro failed
      cases failed
    rw [malformed_skipped_found own bookStored found role]
    simp only [nobody_else,or_false]
  · rw [named] at several
    refine iff_of_true ?_ (.inr (.inr (shared.mp several)))
    rw [SkipsMalformed,post_several own several,post_several own several]
    exact ⟨rfl,rfl,rfl⟩

end

theorem malformed_skipped_sample : SkipsMalformed bobAuth none ["1:1","x:1","7"] sampleDb := by
  have inv : Conserved sampleDb := by decide
  have stored : sampleDb.users.find 2 = some _ := rfl
  refine (malformed_skipped_iff rfl inv.bookStored stored rfl rfl none _).mpr (.inl ?_)
  decide

/-- An entry with a malformed user id keeps the loan of the other entry from being
    returned. -/
theorem malformed_user_id : ¬ SkipsMalformed bobAuth none ["1:1","1:x"] sampleDb := by
  rintro ⟨_,loans,_⟩
  exact absurd loans (by decide)

/-! ### The checkboxes of the page -/

/-- The value that the template renders for a row. -/
def checkbox (dto : ReturnBooksdto) : String := toString dto.bookId ++ ":" ++ shown dto.userId

theorem pairOf_checkbox {dto : ReturnBooksdto} {u : Id} (isUser : dto.userId = some u) (book : IsLong dto.bookId)
    (user : IsLong u) : pairOf (checkbox dto) = some (dto.bookId,u) := by
  have plain : ∀ n : Int, ':' ∉ (toString n).toList := by
    intro n member
    rcases mem_toString member with digit | sign
    · exact absurd digit (by decide)
    · exact absurd sign (by decide)
  have shape : (checkbox dto).toList = (toString dto.bookId).toList ++ ':' :: (toString u).toList := by
    simp [checkbox,isUser,shown]
  have filled : (toString u).toList ≠ [] := by
    intro empty
    have read := parseLong_toString user
    rw [parseLong,empty] at read
    cases read
  exact pairOf_eq_some.mpr
    ⟨_,_,split_two shape (plain dto.bookId) (plain u) filled,parseLong_toString book,parseLong_toString user⟩

theorem toReturnDto_pair {db : Db} {loan : BorrowedBook} {dto : ReturnBooksdto} (converted : toReturnDto db loan = .ok dto) :
    dto.bookId = loan.book ∧ dto.userId = some loan.user := by
  simp only [toReturnDto,bind_eq_ok] at converted
  obtain ⟨book,_,date,_,user,_,made⟩ := converted
  cases made
  exact ⟨rfl,rfl⟩

/-- The pair that a row of the page stands for. -/
def ticks (dto : ReturnBooksdto) : Option Id × Option Id := (some dto.bookId,dto.userId)

def loanTarget (row : Id × BorrowedBook) : Option Id × Option Id := (some row.2.book,some row.2.user)

/-- The page of an administrator has one row for each loan. -/
theorem listed_ticks {db : Db} {userId : Option Id} {rows : List ReturnBooksdto}
    (listed : getBorrowedBooks db userId "ADMIN" = .ok rows) : rows.map ticks = db.borrowedBooks.rows.map loanTarget := by
  have admin : equalsIgnoreCase "admin" (some "ADMIN") = true := by decide
  rw [getBorrowedBooks,if_pos admin,mapM_ok] at listed
  rw [← List.forall₂_eq_eq_eq,List.forall₂_map_left_iff,List.forall₂_map_right_iff]
  refine List.Forall₂.flip (listed.imp (fun row dto converted => ?_))
  obtain ⟨book,user⟩ := toReturnDto_pair converted
  simp only [flip,ticks,loanTarget,book,user]

/-- All that is rendered is read as it was meant. -/
theorem checkboxes_read {ticked : List ReturnBooksdto}
    (each : ∀ dto ∈ ticked, ∃ u, dto.userId = some u ∧ IsLong dto.bookId ∧ IsLong u) :
    ((ticked.map checkbox).filterMap pairOf).map target = ticked.map ticks ∧ (ticked.map checkbox).countP halfRead = 0 := by
  induction ticked with
  | nil => exact ⟨rfl,rfl⟩
  | cons dto rest ih =>
    obtain ⟨u,isUser,book,user⟩ := each dto List.mem_cons_self
    obtain ⟨pairs,none_half⟩ := ih (fun other later => each other (List.mem_cons_of_mem _ later))
    have read := pairOf_checkbox isUser book user
    have whole : halfRead (checkbox dto) = false := halfRead_wellFormed (by simp [wellFormed,read])
    rw [List.map_cons,List.filterMap_cons_some read,List.map_cons,pairs,List.countP_cons_of_neg (by simp [whole])]
    exact ⟨by simp [ticks,target,isUser],none_half⟩

theorem loanTarget_nodup {db : Db} (once : ∀ b u, db.borrowedBooks.count (ofPair b u) ≤ 1) :
    (db.borrowedBooks.rows.map loanTarget).Nodup := by
  refine List.Nodup.map_on ?_ (rows_nodup db.borrowedBooks)
  intro x hx y hy same
  simp only [loanTarget,Prod.mk.injEq,Option.some.injEq] at same
  exact row_unique once hx hy same.1 same.2

/-- As many loans of a book are named as there are pairs of it. -/
theorem countP_named {db : Db} (once : ∀ b u, db.borrowedBooks.count (ofPair b u) ≤ 1)
    {targets : List (Option Id × Option Id)} (distinct : targets.Nodup)
    (lent : ∀ pair ∈ targets, pair ∈ db.borrowedBooks.rows.map loanTarget) (b : Id) :
    (db.borrowedBooks.discard (fun loan => decide ((some loan.book,some loan.user) ∈ targets))).count (ofBook b) +
      targets.countP (fun pair => pair.1 == some b) = db.borrowedBooks.count (ofBook b) := by
  have perm : ((db.borrowedBooks.rows.map loanTarget).filter (fun pair => decide (pair ∈ targets))).Perm targets := by
    refine (List.perm_ext_iff_of_nodup ((loanTarget_nodup once).filter _) distinct).mpr (fun pair => ?_)
    rw [List.mem_filter,decide_eq_true_eq]
    exact ⟨And.right,fun named => ⟨lent pair named,named⟩⟩
  rw [← perm.countP_eq,List.filter_map,List.countP_map]
  simp only [Table.count,Table.select,Table.discard,← List.countP_eq_length_filter]
  rw [List.countP_eq_countP_filter_add db.borrowedBooks.rows (fun row => ofBook b row.2)
    (fun row => decide ((some row.2.book,some row.2.user) ∈ targets)),Nat.add_comm]
  congr 1

/-- The counter of a book goes up by the number of its loans that are returned. -/
theorem returned_copies {db : Db} (inv : Conserved db) {targets : List (Option Id × Option Id)} (distinct : targets.Nodup)
    (lent : ∀ pair ∈ targets, pair ∈ db.borrowedBooks.rows.map loanTarget) {b : Id} {book : Book}
    (stored : db.books.find b = some book) :
    ∃ copies : Int32, (targets.foldl returned db).books.find b = some { book with availableCopies := copies } ∧
      copies.toInt = book.availableCopies.toInt + targets.countP (fun pair => pair.1 == some b) := by
  have kept : Conserved (targets.foldl returned db) := by
    have whole := keeps_forEach targets (fun pair _ => returnBook_conserved pair.1 pair.2) db inv
    rw [returnLoop_run targets inv.toReferring] at whole
    exact whole
  obtain ⟨copies,books⟩ := returned_books targets db b
  rw [stored,Option.map_some] at books
  refine ⟨copies book,books,?_⟩
  -- Both states are balanced, and the loans of the book are fewer by those that are named.
  have before := (inv.balanced b book stored).2
  have now := (kept.balanced b _ books).2
  have removed := countP_named inv.once distinct lent b
  rw [← returned_loans] at removed
  simp only [Db.loansOf] at before now
  omega

section
variable {db : Db} {userId : Option Id} {rows ticked : List ReturnBooksdto}

/-- What is ticked are different loans. -/
theorem ticked_loans (listed : getBorrowedBooks db userId "ADMIN" = .ok rows) (sub : ticked.Subperm rows) :
    (ticked.map ticks).Subperm (db.borrowedBooks.rows.map loanTarget) := by
  obtain ⟨chosen,perm,sublist⟩ := sub
  rw [← listed_ticks listed]
  exact ⟨chosen.map ticks,perm.map ticks,sublist.map ticks⟩

theorem post_ticked {auth : Authentication} {name : String} (own : auth.name = some name) (refers : Referring db) {k : Id}
    {requester : User} (found : findByUsername db.users (some name) = .ok (some (k,requester)))
    (role : requester.role = some .ADMIN)
    (range : ∀ row ∈ db.borrowedBooks.rows, IsLong row.2.book ∧ IsLong row.2.user)
    (among : ticked.map ticks ⊆ db.borrowedBooks.rows.map loanTarget) (bookIds : Option (List (Option Id))) :
    (ReturnBooksController.returnBooks bookIds (some (ticked.map checkbox)) (some auth) db).2 =
      (ticked.map ticks).foldl returned db := by
  have each : ∀ dto ∈ ticked, ∃ u, dto.userId = some u ∧ IsLong dto.bookId ∧ IsLong u := by
    intro dto member
    obtain ⟨row,out,same⟩ := List.mem_map.mp (among (List.mem_map_of_mem member))
    simp only [ticks,loanTarget,Prod.mk.injEq,Option.some.injEq] at same
    refine ⟨row.2.user,same.2.symm,?_,(range row out).2⟩
    rw [← same.1]
    exact (range row out).1
  obtain ⟨pairs,none_half⟩ := checkboxes_read each
  have run := returnLoop_run (ticked.map ticks) refers
  rw [← pairs] at run
  have state := post_texts own found role bookIds (ticked.map checkbox) run
  rwa [if_pos none_half,pairs] at state

end

/-- What is ticked is what is returned: exactly those loans are gone, and the counter of
    each book has gone up by the number of its ticked rows. -/
def ReturnsTicked (auth : Authentication) (bookIds : Option (List (Option Id))) (ticked : List ReturnBooksdto) (db : Db) : Prop :=
  let after := (ReturnBooksController.returnBooks bookIds (some (ticked.map checkbox)) (some auth) db).2
  (∀ row : Id × BorrowedBook, row ∈ after.borrowedBooks.rows ↔
      row ∈ db.borrowedBooks.rows ∧ ¬ ∃ dto ∈ ticked, dto.bookId = row.2.book ∧ dto.userId = some row.2.user) ∧
    ∀ b, (db.books.find b = none → after.books.find b = none) ∧
      ∀ book, db.books.find b = some book → ∃ copies : Int32,
        after.books.find b = some { book with availableCopies := copies } ∧
          copies.toInt = book.availableCopies.toInt + ticked.countP (fun dto => dto.bookId == b)

section
variable {auth : Authentication} {name : String} {db : Db} {k : Id} {requester : User} {userId : Option Id}
  {rows ticked : List ReturnBooksdto}

/-- Of an administrator whom the lookup finds. -/
theorem ticked_returned (own : auth.name = some name) (inv : Conserved db)
    (found : findByUsername db.users (some name) = .ok (some (k,requester))) (role : requester.role = some .ADMIN)
    (range : ∀ row ∈ db.borrowedBooks.rows, IsLong row.2.book ∧ IsLong row.2.user)
    (listed : getBorrowedBooks db userId "ADMIN" = .ok rows) (sub : ticked.Subperm rows)
    (bookIds : Option (List (Option Id))) : ReturnsTicked auth bookIds ticked db := by
  have among := ticked_loans listed sub
  have isAfter := post_ticked own inv.toReferring found role range among.subset bookIds
  have distinct : (ticked.map ticks).Nodup := by
    obtain ⟨chosen,perm,sublist⟩ := among
    exact perm.nodup_iff.mp ((loanTarget_nodup inv.once).sublist sublist)
  rw [ReturnsTicked,isAfter]
  refine ⟨fun row => ?_,fun b => ⟨fun absent => ?_,fun book stored => ?_⟩⟩
  · rw [returned_loans,mem_discard,decide_eq_false_iff_not]
    refine and_congr_right (fun _ => not_congr ?_)
    simp [ticks]
  · obtain ⟨copies,books⟩ := returned_books (ticked.map ticks) db b
    rw [books,absent]
    rfl
  · obtain ⟨copies,isNow,raised⟩ := returned_copies inv distinct (fun pair member => among.subset member) stored
    rw [List.countP_map] at raised
    exact ⟨copies,isNow,raised⟩

/-- What an administrator ticks is returned exactly if no other user has the same name:
    otherwise the lookup throws. -/
theorem ticked_returned_iff (own : auth.name = some name) (inv : Conserved db) (stored : db.users.find k = some requester)
    (isName : requester.username = some name) (role : requester.role = some .ADMIN)
    (range : ∀ row ∈ db.borrowedBooks.rows, IsLong row.2.book ∧ IsLong row.2.user)
    (listed : getBorrowedBooks db userId "ADMIN" = .ok rows) (nonempty : ticked ≠ []) (sub : ticked.Subperm rows)
    (bookIds : Option (List (Option Id))) :
    ReturnsTicked auth bookIds ticked db ↔ ∀ row ∈ db.users.rows, row.2.username = some name → row.1 = k := by
  have alone := findByUsername_alone stored
  rcases findByUsername_stored stored with found | several
  · have nobody_else := alone.mp found
    rw [isName] at found nobody_else
    exact iff_of_true (ticked_returned own inv found role range listed sub bookIds) nobody_else
  · refine iff_of_false (fun returns => ?_) (fun nobody_else => ?_)
    · -- The loan of a ticked row is still there.
      obtain ⟨dto,member⟩ := List.exists_mem_of_ne_nil ticked nonempty
      obtain ⟨row,out,same⟩ := List.mem_map.mp ((ticked_loans listed sub).subset (List.mem_map_of_mem member))
      simp only [ticks,loanTarget,Prod.mk.injEq,Option.some.injEq] at same
      rw [isName] at several
      rw [ReturnsTicked,post_several own several] at returns
      exact ((returns.1 row).mp out).2 ⟨dto,member,same.1.symm,same.2.symm⟩
    · rw [← isName] at nobody_else
      rw [alone.mpr nobody_else] at several
      cases several

end

/-- Two users have the first book, and one of them the second. -/
def threeLent : Db :=
  { sampleDb with
    books := (Table.empty.insert ⟨some "Dune",some "Frank Herbert",true,none,none,0,2⟩).insert
      ⟨some "Emma",some "Jane Austen",true,none,none,1,2⟩
    borrowedBooks := (sampleDb.borrowedBooks.insert ⟨2,1,atStartOfDay 20001,some 1,some (atStartOfDay 20015)⟩).insert
      ⟨1,2,atStartOfDay 20002,some 1,some (atStartOfDay 20016)⟩ }

/-- The rows of the page on it. -/
def duneRow : ReturnBooksdto :=
  ⟨1,some "Dune",some "Frank Herbert",(atStartOfDay 20000).text,(atStartOfDay 20014).text,some "ann",some 1⟩

def emmaRow : ReturnBooksdto :=
  ⟨2,some "Emma",some "Jane Austen",(atStartOfDay 20001).text,(atStartOfDay 20015).text,some "ann",some 1⟩

def secondDuneRow : ReturnBooksdto :=
  ⟨1,some "Dune",some "Frank Herbert",(atStartOfDay 20002).text,(atStartOfDay 20016).text,some "bob",some 2⟩

/-- Two of three rows are ticked, from the last to the first. -/
theorem ticked_returned_sample :
    [secondDuneRow,duneRow].map checkbox = ["1:2","1:1"] ∧ ReturnsTicked bobAuth none [secondDuneRow,duneRow] threeLent := by
  have inv : Conserved threeLent := by decide
  have stored : threeLent.users.find 2 = some _ := rfl
  have range : ∀ row ∈ threeLent.borrowedBooks.rows, IsLong row.2.book ∧ IsLong row.2.user := by
    have keys : ∀ row ∈ threeLent.borrowedBooks.rows, row.2.book ∈ [1,2] ∧ row.2.user ∈ [1,2] := by decide
    have few : ∀ n ∈ ([1,2] : List Id), IsLong n := by simp [IsLong]
    exact fun row member => ⟨few _ (keys row member).1,few _ (keys row member).2⟩
  have listed : getBorrowedBooks threeLent none "ADMIN" = .ok [duneRow,emmaRow,secondDuneRow] := rfl
  have sub : [secondDuneRow,duneRow].Subperm [duneRow,emmaRow,secondDuneRow] :=
    ⟨[duneRow,secondDuneRow],List.Perm.swap _ _ _,.cons_cons _ (.cons _ (.cons_cons _ .slnil))⟩
  exact ⟨by decide,(ticked_returned_iff rfl inv stored rfl rfl range listed (List.cons_ne_nil _ _) sub none).mpr (by decide)⟩

/-- Somebody else has registered under the administrator's name. -/
def namesakeDb : Db :=
  { sampleDb with
    users := sampleDb.users.insert ⟨some "Bob Lee",some "bob",some "hash",some "lee@x.org",some "3",some "+1",some .USER,none⟩ }

/-- The row that is ticked is the only one, and its loan stays. -/
theorem ticked_kept :
    Conserved namesakeDb ∧ getBorrowedBooks namesakeDb none "ADMIN" = .ok [duneRow] ∧
      ¬ ReturnsTicked bobAuth none [duneRow] namesakeDb := by
  refine ⟨by decide,rfl,fun returns => ?_⟩
  have row : (1,⟨1,1,atStartOfDay 20000,some 1,some (atStartOfDay 20014)⟩) ∈ namesakeDb.borrowedBooks.rows := by decide
  exact ((returns.1 _).mp row).2 ⟨duneRow,List.mem_cons_self,rfl,rfl⟩

end LibraryServer.ReturnForms
