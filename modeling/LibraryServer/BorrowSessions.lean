import LibraryServer.Confinement
import LibraryServer.LendingOutcomes
import LibraryServer.Runs

/-!
Sessions of the borrow page. An administrator verifies the user to borrow for, and
the session keeps who it was and that it is verified; the handler of the borrowing
overwrites the one without the other, so that a session can be verified for nobody.
For other users the limit of three books is checked on every request and nothing is
counted over the session.
-/
namespace LibraryServer.BorrowSessions
open LibraryServer.Java LibraryServer.Tables LibraryServer.Programs LibraryServer.Runs LibraryServer.Entities
open LibraryServer.Repositories LibraryServer.LendingServices LibraryServer.LendingInvariant LibraryServer.LendingOutcomes
open LibraryServer.JwtFilter LibraryServer.Accounts LibraryServer.Controllers LibraryServer.Confinement
set_option linter.unusedSimpArgs false

/-- A session and the database. -/
structure Visit where
  session : Session
  db : Db

/-- What POST /borrow is sent. -/
structure BorrowPost where
  env : Env
  bookIds : Option (List (Option Id))
  userId : Option Id

inductive SessionStep where
  | getBorrowPage (env : Env) (search : Option String) (userId : Option Id) (selectedBookIds verify : Option String)
  | borrowBooks (post : BorrowPost)
  | registerUser (salt : Nat) (columns : User)

def send (auth : Authentication) (visit : Visit) (post : BorrowPost) : Visit :=
  let outcome := BorrowedBooksController.borrowBooks post.env post.bookIds post.userId (some auth) visit.session visit.db
  ⟨outcome.2.1,outcome.2.2⟩

section
variable (encoder : PasswordEncoder) (missing : OnMissing) (auth : Authentication)

/-- One request of the session, or the registration of a new user. -/
def proceed (visit : Visit) : SessionStep → Visit
  | .getBorrowPage env search userId selectedBookIds verify =>
    { visit with session :=
      (BorrowedBooksController.getBorrowPage env (some auth) search userId selectedBookIds verify visit.session visit.db).2 }
  | .borrowBooks post => send auth visit post
  | .registerUser salt columns => { visit with db := (registerUser encoder missing salt ⟨none,columns⟩ visit.db).2 }

end

/-! ### Verification by an administrator -/

/-- A verified session names a stored user. -/
def Sound (visit : Visit) : Prop :=
  visit.session.isVerified = some true → ∃ id ∈ visit.session.verifiedUserId, existsById visit.db.users id = true

/-- No page to be had now shows as verified a user who is not stored. -/
def ShowsStored (auth : Authentication) (visit : Visit) : Prop :=
  ∀ env search userId selectedBookIds verify page,
    (BorrowedBooksController.getBorrowPage env (some auth) search userId selectedBookIds verify visit.session visit.db).1 =
      .ok (some page) →
    page.isVerified = some true → ∃ id ∈ page.verifiedUserId, existsById visit.db.users id = true

/-- The name is that of one stored user, an administrator. -/
def Administers (name : String) (users : Table User) : Prop :=
  ∃ k user, findByUsername users (some name) = .ok (some (k,user)) ∧ user.role = some .ADMIN

theorem administers_lookups {name : String} {users : Table User} (admin : Administers name users) :
    ∃ k, getUserIdByUsername users name = .ok k ∧ Controllers.isAdmin users name = .ok true := by
  obtain ⟨k,user,found,role⟩ := admin
  refine ⟨k,?_,?_⟩
  · simp only [getUserIdByUsername,found]
  · have word : equalsIgnoreCase "ADMIN" (some (shown (some (Role.name .ADMIN)))) = true := by decide
    simp only [Controllers.isAdmin,found,role,Option.map_some,word]

theorem findByUsername_registered {name : Option String} {db : Db} (taken : findByUsername db.users name ≠ .ok none)
    (encoder : PasswordEncoder) (missing : OnMissing) (salt : Nat) (columns : User) :
    findByUsername (registerUser encoder missing salt ⟨none,columns⟩ db).2.users name = findByUsername db.users name := by
  rcases registerUser_new encoder missing salt columns db with ⟨e,refused⟩ | ⟨password,free,_,_,registered⟩
  · rw [refused]
  · rw [registered]
    exact findByUsername_insert_other free taken

theorem existsById_registered {encoder : PasswordEncoder} {missing : OnMissing} {db : Db} {id : Id} (salt : Nat)
    (columns : User) (stored : existsById db.users id = true) :
    existsById (registerUser encoder missing salt ⟨none,columns⟩ db).2.users id = true := by
  rcases registerUser_new encoder missing salt columns db with ⟨e,refused⟩ | ⟨password,_,_,_,registered⟩
  · rw [refused]
    exact stored
  · rw [registered]
    simp only [existsById,find_insert] at stored ⊢
    split_ifs
    · rfl
    · exact stored

theorem borrowBooksForUser_users (clock : Nat → Int) (bookIds : Option (List (Option Id))) (userId : Option Id) (db : Db) :
    (transactional (borrowBooksForUser clock bookIds userId) db).2.users = db.users := by
  rcases borrowBooksForUser_outcomes clock bookIds userId db with ⟨u,ids,_,_,_,run⟩ | ⟨_,e,run⟩
  · rw [run]
    rfl
  · rw [run]

theorem borrowFor_users (env : Env) (bookIds : Option (List (Option Id))) (username : String) (k u : Id) (shownId : Option Id)
    (db : Db) : (borrowFor env bookIds username k u shownId db).2.users = db.users := by
  rcases borrowFor_db env bookIds username k u shownId db with same | lent
  · rw [same]
  · rw [lent,borrowBooksForUser_users]

/-- Borrowing for an administrator writes the user id that is sent into the session
    before anything is checked. -/
theorem send_admin {auth : Authentication} {name : String} (own : auth.name = some name) {visit : Visit}
    (admin : Administers name visit.db.users) (post : BorrowPost) :
    (send auth visit post).session =
        (if post.userId.isSome then { visit.session with verifiedUserId := post.userId } else visit.session) ∧
      (send auth visit post).db.users = visit.db.users := by
  obtain ⟨k,isId,isAdmin⟩ := administers_lookups admin
  simp only [send,BorrowedBooksController.borrowBooks,usernameOf,Option.bind_some,own,isId,isAdmin]
  split
  · exact ⟨rfl,rfl⟩
  · exact ⟨rfl,borrowFor_users _ _ _ _ _ _ _⟩

/-- The page of an administrator shows what the verification decides. -/
theorem getBorrowPage_admin {auth : Authentication} {name : String} (own : auth.name = some name) {db : Db}
    (admin : Administers name db.users) (env : Env) (search : Option String) (userId : Option Id)
    (selectedBookIds verify : Option String) (session : Session) :
    (BorrowedBooksController.getBorrowPage env (some auth) search userId selectedBookIds verify session db).2 =
        (verification db userId verify session).1 ∧
      ∀ page, (BorrowedBooksController.getBorrowPage env (some auth) search userId selectedBookIds verify session db).1 =
          .ok (some page) →
        page.verifiedUserId = (verification db userId verify session).2.1 ∧
          page.isVerified = some (verification db userId verify session).2.2.1 := by
  obtain ⟨k,isId,isAdmin⟩ := administers_lookups admin
  simp only [BorrowedBooksController.getBorrowPage,usernameOf,Option.bind_some,own,isId,isAdmin,true_and]
  intro page shown
  obtain ⟨base,_,isPage⟩ := Fallible.map_eq_ok.mp shown
  cases isPage
  exact ⟨rfl,rfl⟩

/-- The verification asks whether the user is stored, or takes a sound session. -/
theorem verification_sound {visit : Visit} (sound : Sound visit) (userId : Option Id) (verify : Option String) :
    Sound ⟨(verification visit.db userId verify visit.session).1,visit.db⟩ ∧
      ((verification visit.db userId verify visit.session).2.2.1 = true →
        ∃ id ∈ (verification visit.db userId verify visit.session).2.1, existsById visit.db.users id = true) := by
  unfold verification
  split
  · split_ifs with stored
    · exact ⟨fun _ => ⟨_,rfl,stored⟩,fun _ => ⟨_,rfl,stored⟩⟩
    · exact ⟨fun verified => (by cases verified),fun verified => (by cases verified)⟩
  · split
    · rename_i id isId isVerified
      obtain ⟨other,same,stored⟩ := sound isVerified
      rw [isId] at same
      cases same
      exact ⟨sound,fun _ => ⟨_,rfl,stored⟩⟩
    · exact ⟨sound,fun verified => by cases verified⟩

section
variable {encoder : PasswordEncoder} {missing : OnMissing} {auth : Authentication} {name : String}

theorem showsStored_of_sound (own : auth.name = some name) {visit : Visit} (admin : Administers name visit.db.users)
    (sound : Sound visit) : ShowsStored auth visit := by
  intro env search userId selectedBookIds verify page shown verified
  obtain ⟨isId,isVerified⟩ := (getBorrowPage_admin own admin env search userId selectedBookIds verify visit.session).2 page shown
  rw [isId]
  refine (verification_sound sound userId verify).2 ?_
  rw [isVerified] at verified
  exact Option.some.inj verified

theorem proceed_administers (own : auth.name = some name) (visit : Visit) (step : SessionStep)
    (admin : Administers name visit.db.users) : Administers name (proceed encoder missing auth visit step).db.users := by
  cases step with
  | getBorrowPage => exact admin
  | borrowBooks post =>
    rw [proceed,(send_admin own admin post).2]
    exact admin
  | registerUser salt columns =>
    obtain ⟨k,user,found,role⟩ := admin
    have same := findByUsername_registered (by rw [found]; simp) encoder missing salt columns
    exact ⟨k,user,same.trans found,role⟩

/-- A user id that is sent while the session is verified names a stored user. -/
def NamesStored (visit : Visit) : SessionStep → Prop
  | .borrowBooks post => visit.session.isVerified = some true → ∀ id ∈ post.userId, existsById visit.db.users id = true
  | _ => True

theorem proceed_sound_iff (own : auth.name = some name) {visit : Visit} (admin : Administers name visit.db.users)
    (sound : Sound visit) (step : SessionStep) : Sound (proceed encoder missing auth visit step) ↔ NamesStored visit step := by
  cases step with
  | getBorrowPage env search userId selectedBookIds verify =>
    refine iff_of_true ?_ trivial
    rw [proceed,(getBorrowPage_admin own admin env search userId selectedBookIds verify visit.session).1]
    exact (verification_sound sound userId verify).1
  | borrowBooks post =>
    obtain ⟨session,users⟩ := send_admin own admin post
    simp only [proceed,Sound,NamesStored,session,users]
    cases post.userId with
    | none => exact iff_of_true sound (fun _ _ impossible => by cases impossible)
    | some id => simp
  | registerUser salt columns =>
    refine iff_of_true ?_ trivial
    intro verified
    obtain ⟨id,isId,stored⟩ := sound verified
    exact ⟨id,isId,existsById_registered salt columns stored⟩

/-- Others have the name too, so that every request throws at its lookup, and the
    session has never been verified. -/
structure Blocked (name : String) (visit : Visit) : Prop where
  several : findByUsername visit.db.users (some name) = .error .incorrectResultSize
  unverified : visit.session.isVerified = none

theorem proceed_blocked (own : auth.name = some name) (visit : Visit) (step : SessionStep) (blocked : Blocked name visit) :
    Blocked name (proceed encoder missing auth visit step) := by
  have unknown : getUserIdByUsername visit.db.users name = .error .incorrectResultSize := by
    simp only [getUserIdByUsername,blocked.several]
  cases step with
  | getBorrowPage env search userId selectedBookIds verify =>
    simp only [proceed,BorrowedBooksController.getBorrowPage,usernameOf,Option.bind_some,own,unknown]
    exact blocked
  | borrowBooks post =>
    simp only [proceed,send,BorrowedBooksController.borrowBooks,usernameOf,Option.bind_some,own,unknown]
    exact blocked
  | registerUser salt columns =>
    have same := findByUsername_registered (by rw [blocked.several]; simp) encoder missing salt columns
    exact ⟨same.trans blocked.several,blocked.unverified⟩

theorem blocked_sound (own : auth.name = some name) {visit : Visit} (blocked : Blocked name visit) :
    Sound visit ∧ ShowsStored auth visit := by
  constructor
  · intro verified
    rw [blocked.unverified] at verified
    cases verified
  · intro env search userId selectedBookIds verify page shown _
    simp only [BorrowedBooksController.getBorrowPage,usernameOf,Option.bind_some,own,getUserIdByUsername,blocked.several]
      at shown
    cases shown

theorem blocked_namesStored {visit : Visit} (blocked : Blocked name visit) (step : SessionStep) : NamesStored visit step := by
  cases step with
  | borrowBooks post =>
    intro verified
    rw [blocked.unverified] at verified
    cases verified
  | _ => trivial

/-- A session of an administrator is sound and shows stored users as verified in
    all its states exactly if no request to borrow names a user who is not stored
    while the session is verified. -/
theorem session_sound_iff (own : auth.name = some name) {db : Db} {k : Id} {requester : User}
    (stored : db.users.find k = some requester) (named : requester.username = some name)
    (role : requester.role = some .ADMIN) (steps : List SessionStep) :
    Always (proceed encoder missing auth) (fun visit => Sound visit ∧ ShowsStored auth visit) ⟨⟨none,none⟩,db⟩ steps ↔
      Throughout (proceed encoder missing auth) NamesStored ⟨⟨none,none⟩,db⟩ steps := by
  have lookup := findByUsername_stored stored
  rw [named] at lookup
  rcases lookup with found | several
  · have admin : Administers name db.users := ⟨k,requester,found,role⟩
    have fresh : Sound ⟨⟨none,none⟩,db⟩ := fun verified => (by cases verified)
    refine always_iff_under (proceed_administers own) ?_ admin ⟨fresh,showsStored_of_sound own admin fresh⟩ steps
    intro visit step admin holds
    rw [← proceed_sound_iff own admin holds.1 step]
    exact ⟨And.left,fun sound => ⟨sound,showsStored_of_sound own (proceed_administers own visit step admin) sound⟩⟩
  · have blocked : Blocked name ⟨⟨none,none⟩,db⟩ := ⟨several,rfl⟩
    refine always_iff_under (proceed_blocked own) ?_ blocked (blocked_sound own blocked) steps
    intro visit step blocked _
    exact iff_of_true (blocked_sound own (proceed_blocked own visit step blocked)) (blocked_namesStored blocked step)

end

def rootAuth : Authentication := ⟨some "root",some "root",["ROLE_ADMIN"]⟩

theorem session_sound_verified :
    Always (proceed markingEncoder .refuse rootAuth) (fun visit => Sound visit ∧ ShowsStored rootAuth visit)
      ⟨⟨none,none⟩,rootDb⟩
      [.getBorrowPage sampleEnv none (some 1) none (some "true"),.borrowBooks ⟨sampleEnv,none,some 1⟩] := by
  have stored : rootDb.users.find 1 = some rootUser := rfl
  refine (session_sound_iff rfl stored rfl rfl _).mpr ⟨trivial,?_,trivial⟩
  rintro _ id ⟨rfl⟩
  rfl

/-- The administrator verifies a user and then borrows for an id that is nobody's:
    the session stays verified, for nobody. -/
theorem session_verified_nobody :
    ¬ Always (proceed markingEncoder .refuse rootAuth) (fun visit => Sound visit ∧ ShowsStored rootAuth visit)
      ⟨⟨none,none⟩,rootDb⟩
      [.getBorrowPage sampleEnv none (some 1) none (some "true"),.borrowBooks ⟨sampleEnv,none,some 99⟩] := by
  intro always
  obtain ⟨sound,_⟩ := always_prefix always (List.append_nil _).symm
  obtain ⟨id,isId,stored⟩ := sound rfl
  cases isId
  cases stored

/-! ### The limit of a session -/

theorem firstUnavailable_lendable {db : Db} {u : Id} {ids : List (Option Id)} (lendable : Lendable db u ids) :
    firstUnavailable db ids = .ok none := by
  have each := lendable.each
  clear lendable
  induction ids with
  | nil => rfl
  | cons id rest ih =>
    obtain ⟨b,book,rfl,found,left,_⟩ := each id List.mem_cons_self
    have more : 0 < book.availableCopies := by
      rw [Int32.lt_iff_toInt_lt]
      exact left
    have available : isBookAvailable db (some b) = .ok true := by
      simp [isBookAvailable,findById,found,more]
    rw [firstUnavailable,available]
    exact ih (fun id member => each id (List.mem_cons_of_mem _ member))

/-- The handler lends what can be lent, unless there are more than three ids. -/
theorem borrowFor_after (env : Env) (ids : List (Option Id)) (username : String) (k : Id) {u : Id} (shownId : Option Id)
    {db : Db} (member : ∃ user, db.users.find u = some user) :
    (borrowFor env (some ids) username k u shownId db).2 = lentOut env.clock u 0 ids db ∧ ids.length ≤ 3 ∧ Lendable db u ids ∨
      (borrowFor env (some ids) username k u shownId db).2 = db ∧ ¬ (ids.length ≤ 3 ∧ Lendable db u ids) := by
  obtain ⟨user,stored⟩ := member
  cases ids with
  | nil => exact .inl ⟨(lentOut_nil env.clock u 0 db).symm,Nat.zero_le 3,lendable_nil db u⟩
  | cons first rest =>
    by_cases few : (first :: rest).length ≤ 3
    · rcases borrowBooksForUser_outcomes env.clock (some (first :: rest)) (some u) db with
        ⟨_,_,⟨rfl⟩,⟨rfl⟩,able,run⟩ | ⟨unable,e,run⟩
      · obtain ⟨_,_,_,⟨rfl⟩,_,⟨rfl⟩,lendable⟩ := able
        refine .inl ⟨?_,few,lendable⟩
        simp only [borrowFor,Nat.not_lt.mpr few,if_false,firstUnavailable_lendable lendable,run]
        split
        · rfl
        · split_ifs <;> rfl
      · refine .inr ⟨?_,fun able => unable ⟨u,user,_,rfl,stored,rfl,able.2⟩⟩
        simp only [borrowFor,Nat.not_lt.mpr few,if_false,run]
        split <;> rfl
    · refine .inr ⟨?_,fun able => few able.1⟩
      simp only [borrowFor,Nat.lt_of_not_le few,if_true]

/-- The loans are those of the start and at most three that the requests have
    created. -/
def WithinLimit (start : Db) (visit : Visit) : Prop :=
  ∃ created, visit.db.borrowedBooks.rows = start.borrowedBooks.rows ++ created ∧ created.length ≤ 3

/-- A request that is going to be granted asks for no more than what the session
    has left of its three books. -/
def AsksWithin (start : Db) (name : String) (k : Id) (visit : Visit) (post : BorrowPost) : Prop :=
  ∀ ids, post.bookIds = some ids → getUserIdByUsername visit.db.users name = .ok k → ids.length ≤ 3 →
    Lendable visit.db k ids → visit.db.borrowedBooks.rows.length + ids.length ≤ start.borrowedBooks.rows.length + 3

theorem withinLimit_same {start : Db} {visit after : Visit} (within : WithinLimit start visit)
    (same : after.db = visit.db) : WithinLimit start after := by
  obtain ⟨created,before,few⟩ := within
  exact ⟨created,by rw [same]; exact before,few⟩

/-- Lending appends one loan row for each id. -/
theorem lentOut_withinLimit {start : Db} {visit after : Visit} (within : WithinLimit start visit) {clock : Nat → Int} {k : Id}
    {ids : List (Option Id)} (lendable : Lendable visit.db k ids) (isAfter : after.db = lentOut clock k 0 ids visit.db) :
    WithinLimit start after ↔
      visit.db.borrowedBooks.rows.length + ids.length ≤ start.borrowedBooks.rows.length + 3 := by
  obtain ⟨created,before,_⟩ := within
  obtain ⟨added,rows,columns⟩ := lentOut_loans clock k 0 visit.db (lendable_named lendable)
  have size : added.length = ids.length := by simpa [loanColumns] using congrArg List.length columns
  have whole : after.db.borrowedBooks.rows = start.borrowedBooks.rows ++ (created ++ added) := by
    rw [isAfter,rows,before,List.append_assoc]
  have length : visit.db.borrowedBooks.rows.length = start.borrowedBooks.rows.length + created.length := by
    rw [before,List.length_append]
  constructor
  · rintro ⟨total,same,few⟩
    rw [whole] at same
    rw [← List.append_cancel_left same,List.length_append] at few
    omega
  · intro few
    refine ⟨created ++ added,whole,?_⟩
    rw [List.length_append]
    omega

section
variable {auth : Authentication} {name : String} {k : Id} {requester : User}

/-- The requester stays stored, and a granted request is one for the requester. -/
theorem send_requester (own : auth.name = some name) {visit : Visit} (stored : visit.db.users.find k = some requester)
    (named : requester.username = some name) (role : requester.role ≠ some .ADMIN) (post : BorrowPost) :
    ((send auth visit post).db = (borrowFor post.env post.bookIds name k k none visit.db).2 ∧
        getUserIdByUsername visit.db.users name = .ok k) ∨
      (send auth visit post).db = visit.db ∧ getUserIdByUsername visit.db.users name ≠ .ok k := by
  rcases requester_lookups stored named role with ⟨isId,_,isAdmin⟩ | ⟨isId,_,isAdmin⟩
  · refine .inl ⟨?_,isId⟩
    simp only [send,BorrowedBooksController.borrowBooks,usernameOf,Option.bind_some,own,isId,isAdmin]
  · refine .inr ⟨?_,by simp [isId]⟩
    simp only [send,BorrowedBooksController.borrowBooks,usernameOf,Option.bind_some,own,isId]

theorem send_users (own : auth.name = some name) {visit : Visit} (stored : visit.db.users.find k = some requester)
    (named : requester.username = some name) (role : requester.role ≠ some .ADMIN) (post : BorrowPost) :
    (send auth visit post).db.users = visit.db.users := by
  rcases send_requester own stored named role post with ⟨after,_⟩ | ⟨same,_⟩
  · rw [after,borrowFor_users]
  · rw [same]

theorem send_withinLimit_iff (own : auth.name = some name) {start : Db} {visit : Visit}
    (stored : visit.db.users.find k = some requester) (named : requester.username = some name)
    (role : requester.role ≠ some .ADMIN) (within : WithinLimit start visit) (post : BorrowPost) :
    WithinLimit start (send auth visit post) ↔ AsksWithin start name k visit post := by
  rcases send_requester own stored named role post with ⟨after,isId⟩ | ⟨same,unknown⟩
  · cases isIds : post.bookIds with
    | none =>
      rw [isIds] at after
      refine iff_of_true (withinLimit_same within after) ?_
      intro ids asked
      rw [isIds] at asked
      cases asked
    | some ids =>
      rw [isIds] at after
      rcases borrowFor_after post.env ids name k none ⟨requester,stored⟩ with ⟨lent,few,lendable⟩ | ⟨refused,unable⟩
      · rw [lentOut_withinLimit within lendable (after.trans lent)]
        constructor
        · intro fits other asked _ _ _
          rw [isIds] at asked
          cases asked
          exact fits
        · intro asks
          exact asks ids isIds isId few lendable
      · refine iff_of_true (withinLimit_same within (after.trans refused)) ?_
        intro other asked _ few lendable
        rw [isIds] at asked
        cases asked
        exact absurd ⟨few,lendable⟩ unable
  · exact iff_of_true (withinLimit_same within same) (fun ids _ known => absurd known unknown)

/-- The requests of a session of a user who is no administrator create at most
    three loans exactly if each that is granted stays within what is left of three;
    the handler itself looks at one request only. -/
theorem session_limit_iff (own : auth.name = some name) {start : Db} (stored : start.users.find k = some requester)
    (named : requester.username = some name) (role : requester.role ≠ some .ADMIN) (session : Session)
    (posts : List BorrowPost) :
    Always (send auth) (WithinLimit start) ⟨session,start⟩ posts ↔
      Throughout (send auth) (AsksWithin start name k) ⟨session,start⟩ posts := by
  have keeps : ∀ (visit : Visit) (post : BorrowPost), visit.db.users.find k = some requester →
      (send auth visit post).db.users.find k = some requester := by
    intro visit post stored
    rw [send_users own stored named role]
    exact stored
  refine always_iff_under keeps ?_ stored ⟨[],(List.append_nil _).symm,Nat.zero_le 3⟩ posts
  intro visit post stored within
  exact send_withinLimit_iff own stored named role within post

end

/-- Four books of one copy each, and a user who is no administrator. -/
def shelfDb : Db where
  books := (List.replicate 4 ⟨some "Dune",some "Frank Herbert",true,none,none,1,1⟩).foldl Table.insert Table.empty
  users := Table.empty.insert ⟨some "Ann Lee",some "ann",some "hash",some "ann@x.org",some "1",some "+1",some .USER,none⟩
  borrowedBooks := .empty
  inventory := .empty

/-- A request for these books. -/
def asking (ids : List (Option Id)) : BorrowPost := ⟨sampleEnv,some ids,none⟩

/-- Two books, and one more. -/
theorem session_limit_three :
    Always (send annAuth) (WithinLimit shelfDb) ⟨⟨none,none⟩,shelfDb⟩ [asking [some 1,some 2],asking [some 3]] := by
  refine (session_limit_iff rfl (show shelfDb.users.find 1 = some _ from rfl) rfl (by decide) _ _).mpr ⟨?_,?_,trivial⟩
  · rintro ids ⟨rfl⟩ _ _ _
    decide
  · rintro ids ⟨rfl⟩ _ _ _
    decide

/-- Two books, and two more. -/
theorem session_limit_four :
    ¬ Always (send annAuth) (WithinLimit shelfDb) ⟨⟨none,none⟩,shelfDb⟩ [asking [some 1,some 2],asking [some 3,some 4]] := by
  intro always
  obtain ⟨created,rows,few⟩ := always_prefix always (List.append_nil _).symm
  have four : ([asking [some 1,some 2],asking [some 3,some 4]].foldl (send annAuth)
      ⟨⟨none,none⟩,shelfDb⟩).db.borrowedBooks.rows.length = 4 := by decide
  rw [rows] at four
  have size : created.length = 4 := four
  omega

end LibraryServer.BorrowSessions
