import LibraryServer.Controllers
import LibraryServer.LendingRefinement
import LibraryServer.LoanLists

/-!
Returns by an administrator. The form sends texts of a book id and a user id, and
the handler reads them into two lists. A text with a malformed user id leaves its
book id in the first list, after which the two no longer match; but then the first
is longer, and the service refuses lists of different length. So every pair that is
returned stands in one text.
-/
namespace LibraryServer.BatchReturns
open LibraryServer.Java LibraryServer.Tables LibraryServer.Programs LibraryServer.Entities LibraryServer.Repositories
open LibraryServer.LendingServices LibraryServer.LendingInvariant LibraryServer.LendingRefinement
open LibraryServer.JwtFilter LibraryServer.Accounts LibraryServer.Controllers
open LibraryServer.LoanLists (bobAuth)
set_option linter.unusedSimpArgs false

/-! ### The texts -/

/-- The book and the user of a text that is well formed. -/
def pairOf (text : String) : Option (Id × Id) :=
  match split ':' text with
  | [first,second] => (parseLong first).bind (fun book => (parseLong second).map (fun user => (book,user)))
  | _ => none

theorem pairOf_eq_some {text : String} {b u : Id} :
    pairOf text = some (b,u) ↔
      ∃ first second, split ':' text = [first,second] ∧ parseLong first = some b ∧ parseLong second = some u := by
  unfold pairOf
  split
  · rename_i first second parts
    simp only [Option.bind_eq_some_iff,Option.map_eq_some_iff,Prod.mk.injEq]
    constructor
    · rintro ⟨_,isBook,_,isUser,rfl,rfl⟩
      exact ⟨first,second,parts,isBook,isUser⟩
    · rintro ⟨_,_,same,isBook,isUser⟩
      rw [parts] at same
      cases same
      exact ⟨b,isBook,u,isUser,rfl,rfl⟩
  · rename_i other
    refine ⟨fun impossible => (by cases impossible),?_⟩
    rintro ⟨first,second,parts,_⟩
    exact (other first second parts).elim

/-- As the service takes a pair. -/
def target (pair : Id × Id) : Option Id × Option Id := (some pair.1,some pair.2)

/-- Both parts are there, but only the first is a number. -/
def halfRead (text : String) : Bool :=
  match split ':' text with
  | [first,second] => (parseLong first).isSome && (parseLong second).isNone
  | _ => false

/-- A text adds to both lists, to the first alone or to none. -/
theorem readPairs_cons (text : String) (rest : List String) :
    (∃ b u, pairOf text = some (b,u) ∧ halfRead text = false ∧ (readPairs (text :: rest)).1 = some b :: (readPairs rest).1 ∧
        (readPairs (text :: rest)).2.1 = some u :: (readPairs rest).2.1) ∨
      (pairOf text = none ∧ halfRead text = true ∧ (∃ b, (readPairs (text :: rest)).1 = some b :: (readPairs rest).1) ∧
        (readPairs (text :: rest)).2.1 = (readPairs rest).2.1) ∨
      pairOf text = none ∧ halfRead text = false ∧ (readPairs (text :: rest)).1 = (readPairs rest).1 ∧
        (readPairs (text :: rest)).2.1 = (readPairs rest).2.1 := by
  rcases parts : split ':' text with _ | ⟨first,_ | ⟨second,_ | ⟨third,more⟩⟩⟩
  · exact .inr (.inr (by simp [pairOf,halfRead,readPairs,parts]))
  · exact .inr (.inr (by simp [pairOf,halfRead,readPairs,parts]))
  · cases isBook : parseLong first with
    | none => exact .inr (.inr (by simp [pairOf,halfRead,readPairs,parts,isBook]))
    | some book =>
      cases isUser : parseLong second with
      | none => exact .inr (.inl (by simp [pairOf,halfRead,readPairs,parts,isBook,isUser]))
      | some user => exact .inl ⟨book,user,by simp [pairOf,halfRead,readPairs,parts,isBook,isUser]⟩
  · exact .inr (.inr (by simp [pairOf,halfRead,readPairs,parts]))

/-- The user ids are those of the pairs; the book ids are too, but for those that
    are read without a user id. -/
theorem readPairs_lists (texts : List String) :
    (readPairs texts).2.1 = (texts.filterMap pairOf).map (fun pair => some pair.2) ∧
      (readPairs texts).1.length = (texts.filterMap pairOf).length + texts.countP halfRead ∧
      (texts.countP halfRead = 0 → (readPairs texts).1 = (texts.filterMap pairOf).map (fun pair => some pair.1)) := by
  induction texts with
  | nil => exact ⟨rfl,rfl,fun _ => rfl⟩
  | cons text rest ih =>
    obtain ⟨users,length,books⟩ := ih
    rcases readPairs_cons text rest with
      ⟨b,u,pair,half,first,second⟩ | ⟨pair,half,⟨b,first⟩,second⟩ | ⟨pair,half,first,second⟩
    · rw [first,second,List.filterMap_cons_some pair,List.countP_cons_of_neg (by simp [half])]
      refine ⟨by rw [users]; rfl,by simp [length]; omega,fun none_half => ?_⟩
      rw [books none_half]
      rfl
    · rw [first,second,List.filterMap_cons_none pair,List.countP_cons_of_pos half]
      exact ⟨users,by simp [length]; omega,fun none_half => absurd none_half (Nat.succ_ne_zero _)⟩
    · rw [first,second,List.filterMap_cons_none pair,List.countP_cons_of_neg (by simp [half])]
      exact ⟨users,length,books⟩

/-- With as many book ids as user ids, they come from the same texts. -/
theorem readPairs_aligned {texts : List String} (same : (readPairs texts).1.length = (readPairs texts).2.1.length) :
    (readPairs texts).1.zip (readPairs texts).2.1 = (texts.filterMap pairOf).map target := by
  obtain ⟨users,length,books⟩ := readPairs_lists texts
  have none_half : texts.countP halfRead = 0 := by
    rw [users,List.length_map] at same
    omega
  rw [books none_half,users,List.zip_map']
  rfl

/-! ### The loop -/

theorem countedUp_stored {books : Table Book} {b : Id} (book : Book) {c : Id} (stored : ∃ old, books.find c = some old) :
    ∃ old, (countedUp books b book).find c = some old := by
  unfold countedUp
  split_ifs
  · exact find_set_stays _ _ stored
  · exact stored

/-- The loop removes the loans of its pairs, and no others. -/
theorem returnLoop_loans (targets : List (Option Id × Option Id)) {db : Db} (refers : Referring db) :
    ∃ after, (Prog.forEach (fun pair => returnBook pair.1 pair.2) targets).run store db = (.ok (),after) ∧
      ∀ row : Id × BorrowedBook, row ∈ after.borrowedBooks.rows ↔
        row ∈ db.borrowedBooks.rows ∧ (some row.2.book,some row.2.user) ∉ targets := by
  induction targets generalizing db with
  | nil => exact ⟨db,rfl,by simp⟩
  | cons pair rest ih =>
    rw [Prog.forEach,run_bind]
    rcases returnBook_outcomes db pair.1 pair.2 with ⟨run,free⟩ | ⟨k,loan,isBook,isUser,out,⟨absent,_⟩ | returned⟩
    · -- No loan of the pair: what remains is up to the rest.
      obtain ⟨after,later,rows⟩ := ih refers
      refine ⟨after,by rw [run]; exact later,fun row => ?_⟩
      rw [rows,List.mem_cons,not_or]
      refine and_congr_right (fun member => ⟨fun other => ⟨fun same => ?_,other⟩,And.right⟩)
      have lent : 0 < db.borrowedBooks.count (ofPair row.2.book row.2.user) :=
        lent_iff.mpr ⟨row,member,rfl,rfl⟩
      rw [free row.2.book row.2.user (congrArg Prod.fst same).symm (congrArg Prod.snd same).symm] at lent
      omega
    · obtain ⟨book,found⟩ := refers.bookStored _ out
      rw [absent] at found
      cases found
    · obtain ⟨book,found,run⟩ := returned
      have still : Referring
          { db with
            borrowedBooks := db.borrowedBooks.erase k
            books := countedUp db.books loan.book book
            inventory := released db.inventory pair.1 } := by
        refine ⟨⟨fun row member => ?_⟩,fun b u => ?_⟩
        · exact countedUp_stored book (refers.bookStored row (mem_erase.mp member).1)
        · exact Nat.le_trans (count_erase_le _ _ _) (refers.once b u)
      obtain ⟨after,later,rows⟩ := ih still
      refine ⟨after,by rw [run]; exact later,fun row => ?_⟩
      have same : pair = (some loan.book,some loan.user) := Prod.ext isBook isUser
      rw [rows,mem_erase,List.mem_cons,not_or,and_assoc]
      refine and_congr_right (fun member => and_congr_left (fun _ => not_congr ?_))
      constructor
      · intro sameKey
        rw [rows_key_inj member out sameKey,same]
      · intro samePair
        rw [same] at samePair
        have columns : row.2.book = loan.book ∧ row.2.user = loan.user := by simpa using samePair
        rw [row_unique refers.once member out columns.1 columns.2]

/-! ### The handler -/

/-- A text of the list names the pair. -/
def Names (texts : Option (List String)) (b u : Id) : Prop :=
  ∃ text ∈ texts.getD [], ∃ first second, split ':' text = [first,second] ∧ parseLong first = some b ∧
    parseLong second = some u

theorem mem_targets {texts : List String} {b u : Id} :
    (some b,some u) ∈ (texts.filterMap pairOf).map target ↔ Names (some texts) b u := by
  simp only [List.mem_map,List.mem_filterMap,Names,Option.getD_some,← pairOf_eq_some]
  constructor
  · rintro ⟨pair,⟨text,listed,read⟩,same⟩
    have columns : pair.1 = b ∧ pair.2 = u := by simpa [target] using same
    obtain ⟨rfl,rfl⟩ := columns
    exact ⟨text,listed,read⟩
  · rintro ⟨text,listed,read⟩
    exact ⟨(b,u),⟨text,listed,read⟩,rfl⟩

/-- The service accepts lists of the same length from an administrator. -/
theorem returnRequest_admin {bookIds userIds : List (Option Id)} {userId : Option Id}
    {targets : List (Option Id × Option Id)}
    (request : returnRequest (some bookIds) (some userIds) userId (some "ADMIN") = some targets) :
    bookIds.length = userIds.length ∧ targets = bookIds.zip userIds := by
  cases bookIds with
  | nil => cases request
  | cons first rest =>
    rw [returnRequest_zip (List.cons_ne_nil first rest)] at request
    split_ifs at request with same
    exact ⟨same,(Option.some.inj request).symm⟩

/-- What the service does with the lists that the handler reads. -/
theorem returnTexts_outcome (texts : Option (List String)) (bookIds : Option (List (Option Id))) (userId : Option Id)
    {db : Db} (refers : Referring db) :
    let lists := returnLists (some .ADMIN) bookIds texts
    let outcome := transactional (LendingServices.returnBooks (some lists.1) lists.2.1 userId (some "ADMIN")) db
    outcome.2 = db ∨ ∀ row : Id × BorrowedBook, row ∈ outcome.2.borrowedBooks.rows ↔
      row ∈ db.borrowedBooks.rows ∧ ¬ Names texts row.2.book row.2.user := by
  intro lists outcome
  cases request : returnRequest (some lists.1) lists.2.1 userId (some "ADMIN") with
  | none =>
    obtain ⟨message,thrown⟩ := returnBooks_refused request
    refine .inl ?_
    simp only [outcome,thrown,transactional_throw]
  | some targets =>
    cases texts with
    | none => cases request
    | some texts =>
      refine .inr ?_
      -- Accepted lists have the same length, so their pairs are those of the texts.
      have isTargets : targets = (texts.filterMap pairOf).map target := by
        obtain ⟨same,zipped⟩ := returnRequest_admin request
        rw [zipped]
        exact readPairs_aligned same
      obtain ⟨after,run,rows⟩ := returnLoop_loans targets refers
      have returned : outcome = (.ok (),after) := by
        simp only [outcome,returnBooks_loop request]
        exact transactional_ok run
      intro row
      rw [returned,rows,isTargets,mem_targets]

section
variable {auth : Authentication} {name : String} {db : Db}

/-- What the handler leaves behind for an administrator who is found by the name. -/
theorem post_found (own : auth.name = some name) {k : Id} {requester : User}
    (found : findByUsername db.users (some name) = .ok (some (k,requester))) (role : requester.role = some .ADMIN)
    (bookIds : Option (List (Option Id))) (texts : Option (List String)) :
    (ReturnBooksController.returnBooks bookIds texts (some auth) db).2 =
      (transactional (LendingServices.returnBooks (some (returnLists (some .ADMIN) bookIds texts).1)
        (returnLists (some .ADMIN) bookIds texts).2.1 (some k) (some "ADMIN")) db).2 := by
  simp only [ReturnBooksController.returnBooks,usernameOf,Option.bind_some,own,getUserIdByUsername,getUserRoleByUsername,found,
    role,roleName,Role.name]
  cases transactional (LendingServices.returnBooks (some (returnLists (some .ADMIN) bookIds texts).1)
      (returnLists (some .ADMIN) bookIds texts).2.1 (some k) (some "ADMIN")) db with
  | mk outcome state => cases outcome <;> rfl

theorem post_several (own : auth.name = some name) {e : Exc} (several : findByUsername db.users (some name) = .error e)
    (bookIds : Option (List (Option Id))) (texts : Option (List String)) :
    (ReturnBooksController.returnBooks bookIds texts (some auth) db).2 = db := by
  simp only [ReturnBooksController.returnBooks,usernameOf,Option.bind_some,own,getUserIdByUsername,several]

end

/-- A return by an administrator changes nothing, or removes exactly those loans
    whose book and user stand together in one of the texts. -/
theorem batch_return_named {auth : Authentication} {name : String} (own : auth.name = some name) {db : Db}
    (refers : Referring db) {k : Id} {requester : User} (stored : db.users.find k = some requester)
    (named : requester.username = some name) (role : requester.role = some .ADMIN) (bookIds : Option (List (Option Id)))
    (texts : Option (List String)) :
    let after := (ReturnBooksController.returnBooks bookIds texts (some auth) db).2
    (after.books = db.books ∧ after.borrowedBooks = db.borrowedBooks ∧ after.inventory = db.inventory) ∨
      ∀ row : Id × BorrowedBook, row ∈ after.borrowedBooks.rows ↔
        row ∈ db.borrowedBooks.rows ∧ ¬ Names texts row.2.book row.2.user := by
  intro after
  have unchanged : after = db → after.books = db.books ∧ after.borrowedBooks = db.borrowedBooks ∧
      after.inventory = db.inventory := by
    intro same
    rw [same]
    exact ⟨rfl,rfl,rfl⟩
  rcases findByUsername_stored stored with found | several
  · rw [named] at found
    have isAfter := post_found own found role bookIds texts
    rcases returnTexts_outcome texts bookIds (some k) refers with same | exactly
    · exact .inl (unchanged (isAfter.trans same))
    · refine .inr ?_
      rw [show after = _ from isAfter]
      exact exactly
  · rw [named] at several
    exact .inl (unchanged (post_several own several bookIds texts))

/-- One text that names the loan of the sample, and one with a book id alone. -/
theorem batch_return_sample :
    let after := (ReturnBooksController.returnBooks none (some ["1:1","7:"]) (some bobAuth) sampleDb).2
    (after.books = sampleDb.books ∧ after.borrowedBooks = sampleDb.borrowedBooks ∧
        after.inventory = sampleDb.inventory) ∨
      ∀ row : Id × BorrowedBook, row ∈ after.borrowedBooks.rows ↔
        row ∈ sampleDb.borrowedBooks.rows ∧ ¬ Names (some ["1:1","7:"]) row.2.book row.2.user := by
  have inv : Conserved sampleDb := by decide
  exact batch_return_named rfl inv.toReferring (show sampleDb.users.find 2 = some _ from rfl) rfl rfl none _

end LibraryServer.BatchReturns
