import LibraryServer.BorrowSelection
import LibraryServer.BorrowSessions
import Mathlib.Data.List.DropRight

/-!
The borrow page in the hands of an administrator. A field takes the id of a user, and a
button has the script ask the server whether the user is stored; from then on the form
can be sent, and the page announces for whom the books are borrowed. The form has a
hidden field of its own for the id, which only the server fills in when the page is
loaded. So the books go to the id with which the page was loaded or, without one, to the
user of the last form that was sent, whoever has been verified.
-/
namespace LibraryServer.LendingDesk
open LibraryServer.Java LibraryServer.Tables LibraryServer.Programs LibraryServer.Runs LibraryServer.Entities
open LibraryServer.LendingInvariant LibraryServer.LendingOutcomes LibraryServer.JwtFilter LibraryServer.Accounts
open LibraryServer.Controllers LibraryServer.Confinement LibraryServer.BorrowSelection LibraryServer.BorrowSessions
set_option linter.unusedSimpArgs false

/-! ### Texts and ids -/

/-- White space for the script. -/
def isWhite (c : Char) : Bool :=
  [9,10,11,12,13,32,160,5760,8232,8233,8239,8287,12288,65279].contains c.toNat || (8192 ≤ c.toNat && c.toNat ≤ 8202)

/-- `trim` of the script. -/
def trimmed (text : String) : String := String.ofList ((text.toList.dropWhile isWhite).rdropWhile isWhite)

/-- How the server reads a parameter of type `Long`: an empty text is null, an id that a
    page has printed is read back, and white space is no id. What else is read or refused
    is left to the framework. -/
structure LongReader where
  read : String → Option (Option Id)
  empty : read "" = some none
  printed : ∀ id, IsLong id → read (toString id) = some (some id)
  long : ∀ text id, read text = some (some id) → IsLong id
  filled : ∀ text id, read text = some (some id) → trimmed text ≠ ""

/-! ### The page and its script -/

/-- The page and the variables of its script. The button for the verification is disabled
    while the script waits for the answer to what it is asking. -/
structure Desk where
  /-- `user_id` of the search form. -/
  userIdInput : String
  /-- The hidden `user_id` of the borrow form. -/
  userId : String
  page : BorrowSelection.Page
  isUserVerified : Bool
  borrowDisabled : Bool
  asking : Option String

/-- The value of a field for an id. -/
def printed (userId : Option Id) : String := (userId.map (fun id => toString id)).getD ""

/-- The page as it is loaded, with the same id in both forms. -/
def arrived (page : BorrowPage) (once : (shownBooks page.books).Nodup) : Desk where
  userIdInput := printed page.verifiedUserId
  userId := printed page.verifiedUserId
  page := load ⟨shownBooks page.books,once⟩ (page.selectedBookIds.getD "")
  isUserVerified := false
  borrowDisabled := true
  asking := none

def Desk.unverified (desk : Desk) : Desk := { desk with isUserVerified := false, borrowDisabled := true }

/-- The handler of the field. -/
def Desk.typed (desk : Desk) (text : String) : Desk :=
  let changed := { desk with userIdInput := text }
  if desk.isUserVerified then changed.unverified else changed

/-- The handler of the button, once there is an id to ask for. -/
def Desk.ask (desk : Desk) : Desk := { desk with asking := some (trimmed desk.userIdInput) }

/-- What the script does with the answer; none is an answer that is no JSON or no answer. -/
def Desk.answered (desk : Desk) (userId : String) : Option Bool → Desk
  | some true => { desk with isUserVerified := true, borrowDisabled := false, userIdInput := userId, asking := none }
  | some false => { desk.unverified with userIdInput := "", asking := none }
  | none => { desk.unverified with asking := none }

/-- A click on a checkbox; the button is set anew unless the click is taken back. -/
def Desk.click (desk : Desk) (b : Id) : Desk :=
  let changed := desk.page.put b (!desk.page.isChecked b)
  if changed.isChecked b && BORROW_LIMIT < changed.checkedBoxes.length then { desk with page := desk.page.click b }
  else
    { desk with
      page := desk.page.click b
      borrowDisabled := !desk.isUserVerified || (desk.page.click b).checkedBoxes.isEmpty }

/-- Whether the borrow form is sent. -/
def Desk.sends (desk : Desk) : Bool := !desk.borrowDisabled && desk.isUserVerified

/-! ### The pages of the server -/

theorem borrowFor_page {env : Env} {bookIds : Option (List (Option Id))} {username : String} {k u : Id} {shownId : Option Id}
    {db : Db} {page : BorrowPage} (served : (borrowFor env bookIds username k u shownId db).1 = .ok (some page)) :
    page.verifiedUserId = shownId ∧ (shownBooks page.books).Nodup := by
  have prepared : ∀ {after : Db} {message : String},
      (prepareBorrowPage env after u username none (some message)).map
          (fun page => some { page with verifiedUserId := shownId }) = .ok (some page) →
        page.verifiedUserId = shownId ∧ (shownBooks page.books).Nodup := by
    intro after message isPage
    obtain ⟨base,isPrepared,isThis⟩ := Fallible.map_eq_ok.mp isPage
    cases isThis
    exact ⟨rfl,(prepareBorrowPage_nodup isPrepared).sublist (List.filter_sublist.map Prod.fst)⟩
  unfold borrowFor at served
  split at served
  · exact prepared served
  · exact prepared served
  · split_ifs at served
    · exact prepared served
    · split at served
      · cases served
      · exact prepared served
      · split at served
        · cases served
        · split at served
          · cases served
          · split_ifs at served
            · exact prepared served
            · exact prepared served

theorem borrowBooks_once {env : Env} {bookIds : Option (List (Option Id))} {userId : Option Id} {auth : Option Authentication}
    {session : Session} {db : Db} {page : BorrowPage}
    (served : (BorrowedBooksController.borrowBooks env bookIds userId auth session db).1 = .ok (some page)) :
    (shownBooks page.books).Nodup := by
  unfold BorrowedBooksController.borrowBooks at served
  split at served
  · cases served
  · split at served
    · cases served
    · cases served
    · dsimp only at served
      split at served
      · obtain ⟨base,isPrepared,isThis⟩ := Fallible.map_eq_ok.mp served
        cases isThis
        exact (prepareBorrowPage_nodup isPrepared).sublist (List.filter_sublist.map Prod.fst)
      · exact (borrowFor_page served).2
    · exact (borrowFor_page served).2

/-! ### What the administrator does -/

/-- The pages that are open in one session, by number. A number without a page is a tab
    that is closed or shows something else. -/
structure State where
  tabs : Nat → Option Desk
  session : Session
  db : Db

def State.put (state : State) (n : Nat) (desk : Option Desk) : State :=
  { state with tabs := fun m => if m = n then desk else state.tabs m }

inductive Move where
  | openPage (n : Nat) (env : Env)
  | typed (n : Nat) (text : String)
  | verify (n : Nat) (env : Env) (search : String)
  | answer (n : Nat) (arrives : Bool)
  | click (n : Nat) (b : Id)
  | search (n : Nat) (env : Env) (text : String)
  | borrow (n : Nat) (env : Env)
  | elsewhere (change : Db → Db)

/-- What the template makes of a page; the field is there for administrators only. -/
def shownDesk (page : BorrowPage) (once : (shownBooks page.books).Nodup) : Option Desk :=
  if page.isAdmin then some (arrived page once) else none

section
variable (reader : LongReader) (auth : Authentication)

/-- A tab that is loaded with GET /borrow. -/
def State.get (state : State) (n : Nat) (env : Env) (search : Option String) (userId : Option Id)
    (selectedBookIds verify : Option String) : State :=
  match served : BorrowedBooksController.getBorrowPage env (some auth) search userId selectedBookIds verify state.session
      state.db with
  | (.ok (some page),session) => { state with session := session }.put n (shownDesk page (getBorrowPage_echo served).2)
  | (_,session) => { state with session := session }.put n none

/-- A tab that is loaded with POST /borrow. -/
def State.post (state : State) (n : Nat) (env : Env) (bookIds : Option (List (Option Id))) (userId : Option Id) : State :=
  match served : BorrowedBooksController.borrowBooks env bookIds userId (some auth) state.session state.db with
  | (.ok (some page),session,db) =>
    State.put ⟨state.tabs,session,db⟩ n (shownDesk page (borrowBooks_once (congrArg Prod.fst served)))
  | (_,session,db) => State.put ⟨state.tabs,session,db⟩ n none

/-- The search form is sent; `verify` is the button it is sent with. -/
def State.sendSearch (state : State) (n : Nat) (env : Env) (desk : Desk) (text : String) (verify : Option String) : State :=
  match reader.read desk.userIdInput with
  | none => state.put n none
  | some userId => state.get auth n env (some text) userId (some desk.page.submit.selectedBookIds) verify

/-- The parameter `bookIds` of the borrow form. -/
def checkedIds (page : BorrowSelection.Page) : Option (Option (List (Option Id))) :=
  if page.checkedBoxes.isEmpty then some none
  else (page.checkedBoxes.mapM (fun box => reader.read box.value)).map some

/-- The borrow form is sent. -/
def State.sendBorrow (state : State) (n : Nat) (env : Env) (desk : Desk) : State :=
  match reader.read desk.userId, checkedIds reader desk.page with
  | some userId, some bookIds => state.post auth n env bookIds userId
  | _, _ => state.put n none

/-- POST /borrow/verify-user-id, as the script reads the answer. -/
def confirmed (users : Table User) (userId : String) : Option Bool := (reader.read userId).join.map (existsById users)

def move (state : State) : Move → State
  | .openPage n env => state.get auth n env none none none none
  | .typed n text => state.put n ((state.tabs n).map (fun desk => desk.typed text))
  | .verify n env text =>
    match state.tabs n with
    | none => state
    | some desk =>
      if desk.asking.isSome then state
      -- Nothing stops the form from being sent with an empty field; otherwise the button
      -- is disabled by its own handler and sends nothing.
      else if trimmed desk.userIdInput = "" then state.sendSearch reader auth n env desk text (some "1")
      else state.put n (some desk.ask)
  | .answer n arrives =>
    match state.tabs n with
    | none => state
    | some desk =>
      match desk.asking with
      | none => state
      | some userId =>
        state.put n (some (desk.answered userId (if arrives then confirmed reader state.db.users userId else none)))
  | .click n b => state.put n ((state.tabs n).map (fun desk => if desk.page.books.contains b then desk.click b else desk))
  | .search n env text =>
    match state.tabs n with
    | none => state
    | some desk => state.sendSearch reader auth n env desk text none
  | .borrow n env =>
    match state.tabs n with
    | none => state
    | some desk => if desk.sends then state.sendBorrow reader auth n env desk else state
  | .elsewhere change => { state with db := change state.db }

end

/-- The page in a tab that has been loaded is the one that was served. -/
theorem get_outcome (auth : Authentication) (state : State) (n : Nat) (env : Env) (search : Option String) (userId : Option Id)
    (selectedBookIds verify : Option String) :
    ∃ desk, state.get auth n env search userId selectedBookIds verify =
        State.put ⟨state.tabs,(BorrowedBooksController.getBorrowPage env (some auth) search userId selectedBookIds verify
          state.session state.db).2,state.db⟩ n desk ∧
      ∀ d, desk = some d → ∃ page once,
        (BorrowedBooksController.getBorrowPage env (some auth) search userId selectedBookIds verify state.session state.db).1 =
          .ok (some page) ∧ d = arrived page once := by
  unfold State.get
  split
  · rename_i page session served
    refine ⟨_,congrArg (fun after => State.put ⟨state.tabs,after,state.db⟩ n _) (congrArg Prod.snd served).symm,?_⟩
    intro d isDesk
    rw [shownDesk] at isDesk
    split_ifs at isDesk
    exact ⟨page,_,by rw [served],(Option.some.inj isDesk).symm⟩
  · rename_i served
    exact ⟨none,by rw [served],fun d isDesk => by cases isDesk⟩

theorem post_outcome (auth : Authentication) (state : State) (n : Nat) (env : Env) (bookIds : Option (List (Option Id)))
    (userId : Option Id) :
    ∃ desk, state.post auth n env bookIds userId =
        State.put ⟨state.tabs,
          (BorrowedBooksController.borrowBooks env bookIds userId (some auth) state.session state.db).2.1,
          (BorrowedBooksController.borrowBooks env bookIds userId (some auth) state.session state.db).2.2⟩ n desk ∧
      ∀ d, desk = some d → ∃ page once,
        (BorrowedBooksController.borrowBooks env bookIds userId (some auth) state.session state.db).1 = .ok (some page) ∧
          d = arrived page once := by
  unfold State.post
  split
  · rename_i page session db served
    refine ⟨_,congrArg (fun after : Session × Db => State.put ⟨state.tabs,after.1,after.2⟩ n _) (congrArg Prod.snd served).symm,
      ?_⟩
    intro d isDesk
    rw [shownDesk] at isDesk
    split_ifs at isDesk
    exact ⟨page,_,by rw [served],(Option.some.inj isDesk).symm⟩
  · rename_i served
    exact ⟨none,by rw [served],fun d isDesk => by cases isDesk⟩

/-! ### What is sent has been confirmed -/

/-- The tab has the id in its field and takes it for verified. -/
def Verified (n : Nat) (text : String) (state : State) : Prop :=
  ∃ desk, state.tabs n = some desk ∧ desk.isUserVerified = true ∧ desk.userIdInput = text

/-- Where a tab has changed, it is the changed one or another. -/
theorem verified_put {n k : Nat} {text : String} {state : State} {after : Option Desk}
    (verified : Verified n text (state.put k after)) :
    (n = k ∧ ∃ desk, after = some desk ∧ desk.isUserVerified = true ∧ desk.userIdInput = text) ∨ Verified n text state := by
  obtain ⟨desk,isDesk,holds⟩ := verified
  simp only [State.put] at isDesk
  split_ifs at isDesk with same
  · exact .inl ⟨same,desk,isDesk,holds⟩
  · exact .inr ⟨desk,isDesk,holds⟩

section
variable (reader : LongReader) (auth : Authentication)

/-- A page that is loaded is not verified. -/
theorem get_verified {state : State} {n k : Nat} {text : String} {env : Env} {search : Option String} {userId : Option Id}
    {selectedBookIds verify : Option String}
    (verified : Verified n text (state.get auth k env search userId selectedBookIds verify)) : Verified n text state := by
  obtain ⟨after,isAfter,served⟩ := get_outcome auth state k env search userId selectedBookIds verify
  rw [isAfter] at verified
  rcases verified_put verified with ⟨_,desk,isDesk,isVerified,_⟩ | other
  · obtain ⟨page,once,_,rfl⟩ := served desk isDesk
    cases isVerified
  · exact other

theorem post_verified {state : State} {n k : Nat} {text : String} {env : Env} {bookIds : Option (List (Option Id))}
    {userId : Option Id} (verified : Verified n text (state.post auth k env bookIds userId)) : Verified n text state := by
  obtain ⟨after,isAfter,served⟩ := post_outcome auth state k env bookIds userId
  rw [isAfter] at verified
  rcases verified_put verified with ⟨_,desk,isDesk,isVerified,_⟩ | other
  · obtain ⟨page,once,_,rfl⟩ := served desk isDesk
    cases isVerified
  · exact other

theorem sendSearch_verified {state : State} {n k : Nat} {text query : String} {env : Env} {desk : Desk} {verify : Option String}
    (verified : Verified n text (state.sendSearch reader auth k env desk query verify)) : Verified n text state := by
  rw [State.sendSearch] at verified
  split at verified
  · rcases verified_put verified with ⟨_,desk,isDesk,_⟩ | other
    · cases isDesk
    · exact other
  · exact get_verified auth verified

/-- Only an answer of the server makes an id a verified one. -/
theorem move_verified {state : State} {m : Move} {n : Nat} {text : String} (unverified : ¬ Verified n text state)
    (verified : Verified n text (move reader auth state m)) :
    m = .answer n true ∧ confirmed reader state.db.users text = some true := by
  cases m with
  | openPage k env => exact absurd (get_verified auth verified) unverified
  | typed k typed =>
    rcases verified_put verified with ⟨rfl,desk,isDesk,isVerified,_⟩ | other
    · obtain ⟨before,isBefore,rfl⟩ := Option.map_eq_some_iff.mp isDesk
      simp only [Desk.typed] at isVerified
      split_ifs at isVerified with wasVerified
      · cases isVerified
      · exact absurd isVerified wasVerified
    · exact absurd other unverified
  | verify k env query =>
    simp only [move] at verified
    split at verified
    · exact absurd verified unverified
    · rename_i desk isDesk
      split_ifs at verified
      · exact absurd verified unverified
      · exact absurd (sendSearch_verified reader auth verified) unverified
      · rcases verified_put verified with ⟨rfl,asking,isAsking,isVerified,isText⟩ | other
        · cases isAsking
          exact absurd ⟨desk,isDesk,isVerified,isText⟩ unverified
        · exact absurd other unverified
  | answer k arrives =>
    simp only [move] at verified
    split at verified
    · exact absurd verified unverified
    · rename_i desk isDesk
      split at verified
      · exact absurd verified unverified
      · rename_i userId isAsking
        rcases verified_put verified with ⟨rfl,after,isAfter,isVerified,isText⟩ | other
        · cases isAfter
          cases arrives with
          | false => cases isVerified
          | true =>
            simp only [if_true] at isVerified isText
            cases reply : confirmed reader state.db.users userId with
            | none =>
              rw [reply] at isVerified
              cases isVerified
            | some stored =>
              rw [reply] at isVerified isText
              cases stored with
              | false => cases isVerified
              | true =>
                cases isText
                exact ⟨rfl,reply⟩
        · exact absurd other unverified
  | click k b =>
    rcases verified_put verified with ⟨rfl,desk,isDesk,isVerified,isText⟩ | other
    · obtain ⟨before,isBefore,rfl⟩ := Option.map_eq_some_iff.mp isDesk
      refine absurd ⟨before,isBefore,?_⟩ unverified
      split_ifs at isVerified isText
      · simp only [Desk.click] at isVerified isText
        split_ifs at isVerified isText <;> exact ⟨isVerified,isText⟩
      · exact ⟨isVerified,isText⟩
    · exact absurd other unverified
  | search k env query =>
    simp only [move] at verified
    split at verified
    · exact absurd verified unverified
    · exact absurd (sendSearch_verified reader auth verified) unverified
  | borrow k env =>
    simp only [move] at verified
    split at verified
    · exact absurd verified unverified
    · split_ifs at verified
      · rw [State.sendBorrow] at verified
        split at verified
        · exact absurd (post_verified auth verified) unverified
        · rcases verified_put verified with ⟨_,desk,isDesk,_⟩ | other
          · cases isDesk
          · exact absurd other unverified
      · exact absurd verified unverified
  | elsewhere change => exact absurd verified unverified

/-- A session without open pages. -/
def fresh (db : Db) : State := ⟨fun _ => none,⟨none,none⟩,db⟩

/-- Whenever the borrow form can be sent, the server has confirmed the id in the field
    while the page was open, and the id has stood there as verified ever since. -/
theorem sendable_confirmed (db : Db) (moves : List Move) {n : Nat} {desk : Desk}
    (isDesk : (moves.foldl (move reader auth) (fresh db)).tabs n = some desk) (sends : desk.sends = true) :
    ∃ before after, moves = before ++ .answer n true :: after ∧
      confirmed reader (before.foldl (move reader auth) (fresh db)).db.users desk.userIdInput = some true ∧
      Always (move reader auth) (Verified n desk.userIdInput)
        (move reader auth (before.foldl (move reader auth) (fresh db)) (.answer n true)) after := by
  have verified : Verified n desk.userIdInput (moves.foldl (move reader auth) (fresh db)) :=
    ⟨desk,isDesk,(Bool.and_eq_true _ _ ▸ sends).2,rfl⟩
  rcases run_began verified with always | ⟨before,m,after,split,unverified,since⟩
  · obtain ⟨_,impossible,_⟩ := always_head always
    cases impossible
  · obtain ⟨rfl,isStored⟩ := move_verified reader auth unverified (always_head since)
    exact ⟨before,after,split,isStored,since⟩

/-! ### For whom the books are borrowed -/

/-- The ids with which the pages were loaded, and that of the last form that was sent. -/
structure Note where
  loaded : Nat → Option Id
  last : Option Id

def Note.load (note : Note) (n : Nat) (userId : Option Id) : Note :=
  { note with loaded := fun m => if m = n then userId else note.loaded m }

/-- For whom the form of a tab is. -/
def Note.target (note : Note) (n : Nat) : Option Id := (note.loaded n).or note.last

/-- What a move adds to the note: a search loads the page with the id in the field, a form
    that is sent with the one that it was for. -/
def jot (state : State) (note : Note) : Move → Note
  | .openPage n _ => note.load n none
  | .verify n _ _ =>
    match state.tabs n with
    | none => note
    | some desk => if desk.asking.isSome || trimmed desk.userIdInput != "" then note else note.load n none
  | .search n _ _ =>
    match state.tabs n with
    | none => note
    | some desk => note.load n (reader.read desk.userIdInput).join
  | .borrow n _ =>
    match state.tabs n with
    | none => note
    | some desk =>
      if desk.sends && (checkedIds reader desk.page).isSome then
        Note.load { note with last := note.target n } n ((note.target n).filter (existsById state.db.users))
      else note
  | _ => note

/-- The session together with the note. -/
def proceed (state : State × Note) (m : Move) : State × Note := (move reader auth state.1 m,jot reader state.1 state.2 m)

end

/-- The note is right about the hidden fields and the session. -/
structure Noted (name : String) (state : State × Note) : Prop where
  admin : Administers name state.1.db.users
  unverified : state.1.session.isVerified = none
  last : state.1.session.verifiedUserId = state.2.last
  loaded : ∀ n desk, state.1.tabs n = some desk → desk.userId = printed (state.2.loaded n)
  longs : ∀ n id, state.2.loaded n = some id → IsLong id
  lastLong : ∀ id, state.2.last = some id → IsLong id

section
variable {reader : LongReader} {auth : Authentication} {name : String}

/-- The server reads its own id back. -/
theorem read_hidden (reader : LongReader) {state : State} {note : Note} (noted : Noted name (state,note)) {n : Nat} {desk : Desk}
    (isDesk : state.tabs n = some desk) : reader.read desk.userId = some (note.loaded n) := by
  rw [noted.loaded n desk isDesk]
  cases isLoaded : note.loaded n with
  | none => exact reader.empty
  | some id => exact reader.printed id (noted.longs n id isLoaded)

/-- Without a verification the page is loaded with the id that is sent. -/
theorem verification_sent {session : Session} (unverified : session.isVerified = none) (db : Db) {userId : Option Id}
    {verify : Option String} (plain : verify = none ∨ userId = none) :
    verification db userId verify session = (session,userId,false,none) := by
  unfold verification
  rcases plain with rfl | rfl
  · simp [unverified]
  · cases verify <;> simp [unverified]

theorem get_noted (own : auth.name = some name) {state : State} {note : Note} (noted : Noted name (state,note)) (n : Nat)
    (env : Env) (search : Option String) {userId : Option Id} (selectedBookIds : Option String) {verify : Option String}
    (plain : verify = none ∨ userId = none) (long : ∀ id, userId = some id → IsLong id) :
    Noted name (state.get auth n env search userId selectedBookIds verify,note.load n userId) := by
  obtain ⟨after,isAfter,served⟩ := get_outcome auth state n env search userId selectedBookIds verify
  obtain ⟨session,shown⟩ := getBorrowPage_admin own noted.admin env search userId selectedBookIds verify state.session
  rw [verification_sent noted.unverified state.db plain] at session shown
  rw [isAfter,session]
  refine ⟨noted.admin,noted.unverified,noted.last,?_,?_,noted.lastLong⟩
  · intro m desk isDesk
    simp only [State.put,Note.load] at isDesk ⊢
    split_ifs at isDesk ⊢
    · obtain ⟨page,once,isPage,rfl⟩ := served desk isDesk
      exact congrArg printed (shown page isPage).1
    · exact noted.loaded m desk isDesk
  · intro m id isId
    simp only [Note.load] at isId
    split_ifs at isId
    · exact long id isId
    · exact noted.longs m id isId

/-- A tab whose hidden field is as it was. -/
theorem put_noted {state : State} {note : Note} (noted : Noted name (state,note)) {n : Nat} {after : Option Desk}
    (same : ∀ desk, after = some desk → ∃ before, state.tabs n = some before ∧ desk.userId = before.userId) :
    Noted name (state.put n after,note) := by
  refine { noted with loaded := ?_ }
  intro m desk isDesk
  simp only [State.put] at isDesk
  split_ifs at isDesk with isThis
  · obtain ⟨before,isBefore,isId⟩ := same desk isDesk
    rw [isId,isThis]
    exact noted.loaded n before isBefore
  · exact noted.loaded m desk isDesk

theorem closed_noted {state : State} {note : Note} (noted : Noted name (state,note)) (n : Nat) :
    Noted name (state.put n none,note.load n none) := by
  refine { noted with loaded := ?_, longs := ?_ }
  · intro m desk isDesk
    simp only [State.put,Note.load] at isDesk ⊢
    split_ifs at isDesk ⊢
    exact noted.loaded m desk isDesk
  · intro m id isId
    simp only [Note.load] at isId
    split_ifs at isId
    exact noted.longs m id isId

theorem sendSearch_noted (own : auth.name = some name) {state : State} {note : Note} (noted : Noted name (state,note)) (n : Nat)
    (env : Env) {desk : Desk} (text : String) {verify : Option String}
    (plain : verify = none ∨ (reader.read desk.userIdInput).join = none) :
    Noted name (state.sendSearch reader auth n env desk text verify,note.load n (reader.read desk.userIdInput).join) := by
  rw [State.sendSearch]
  split
  · rename_i refused
    rw [refused]
    exact closed_noted noted n
  · rename_i userId read
    rw [read] at plain ⊢
    exact get_noted own noted n env _ _ plain (fun id isId => reader.long _ id (isId ▸ read))

/-- A form is for the id that it brings or for the one of the session, and the page that
    answers it is loaded with the id if the user is stored. -/
theorem borrowBooks_admin (own : auth.name = some name) {db : Db} (admin : Administers name db.users) (env : Env)
    (bookIds : Option (List (Option Id))) (userId : Option Id) (session : Session) :
    (∀ page, (BorrowedBooksController.borrowBooks env bookIds userId (some auth) session db).1 = .ok (some page) →
        page.verifiedUserId = (userId.or session.verifiedUserId).filter (existsById db.users)) ∧
      ((BorrowedBooksController.borrowBooks env bookIds userId (some auth) session db).2.2 = db ∨
        ∃ u ids, userId.or session.verifiedUserId = some u ∧ Lendable db u ids ∧
          (BorrowedBooksController.borrowBooks env bookIds userId (some auth) session db).2.2 =
            lentOut env.clock u 0 ids db) := by
  obtain ⟨k,isId,isAdmin⟩ := administers_lookups admin
  have sent : (if userId.isSome then { session with verifiedUserId := userId } else session).verifiedUserId =
      userId.or session.verifiedUserId := by cases userId <;> rfl
  simp only [BorrowedBooksController.borrowBooks,usernameOf,Option.bind_some,own,isId,isAdmin,sent]
  cases target : (userId.or session.verifiedUserId).filter (existsById db.users) with
  | none =>
    refine ⟨?_,.inl rfl⟩
    intro page served
    obtain ⟨base,isPrepared,isThis⟩ := Fallible.map_eq_ok.mp served
    cases isThis
    rw [prepareBorrowPage] at isPrepared
    obtain ⟨_,_,isPrepared⟩ := Fallible.bind_eq_ok.mp isPrepared
    obtain ⟨_,_,isPrepared⟩ := Fallible.bind_eq_ok.mp isPrepared
    cases isPrepared
    rfl
  | some u =>
    obtain ⟨isTarget,stored⟩ := Option.filter_eq_some_iff.mp target
    refine ⟨fun page served => (borrowFor_page served).1,?_⟩
    cases bookIds with
    | none => exact .inl rfl
    | some ids =>
      rcases borrowFor_after env ids name k (some u) (Option.isSome_iff_exists.mp stored) with ⟨lent,_,lendable⟩ | ⟨same,_⟩
      · exact .inr ⟨u,ids,isTarget,lendable,lent⟩
      · exact .inl same

theorem post_noted (own : auth.name = some name) {state : State} {note : Note} (noted : Noted name (state,note)) (n : Nat)
    (env : Env) (bookIds : Option (List (Option Id))) :
    Noted name (state.post auth n env bookIds (note.loaded n),
      Note.load { note with last := note.target n } n ((note.target n).filter (existsById state.db.users))) := by
  have isTarget : (note.loaded n).or state.session.verifiedUserId = note.target n := by rw [noted.last,Note.target]
  have long : ∀ id, note.target n = some id → IsLong id := by
    intro id isId
    rcases Option.or_eq_some_iff.mp isId with isLoaded | ⟨_,isLast⟩
    · exact noted.longs n id isLoaded
    · exact noted.lastLong id isLast
  obtain ⟨after,isAfter,served⟩ := post_outcome auth state n env bookIds (note.loaded n)
  obtain ⟨session,users⟩ := @send_admin auth name own ⟨state.session,state.db⟩ noted.admin ⟨env,bookIds,note.loaded n⟩
  have shown := (borrowBooks_admin own noted.admin env bookIds (note.loaded n) state.session).1
  simp only [send] at session users
  rw [isTarget] at shown
  rw [isAfter]
  refine ⟨?_,?_,?_,?_,?_,long⟩
  · show Administers name (BorrowedBooksController.borrowBooks _ _ _ _ _ _).2.2.users
    rw [users]
    exact noted.admin
  · show (BorrowedBooksController.borrowBooks _ _ _ _ _ _).2.1.isVerified = none
    rw [session]
    split_ifs <;> exact noted.unverified
  · show (BorrowedBooksController.borrowBooks _ _ _ _ _ _).2.1.verifiedUserId = note.target n
    rw [session,← isTarget]
    cases note.loaded n <;> rfl
  · intro m desk isDesk
    simp only [State.put,Note.load] at isDesk ⊢
    split_ifs at isDesk ⊢
    · obtain ⟨page,once,isPage,rfl⟩ := served desk isDesk
      exact congrArg printed (shown page isPage)
    · exact noted.loaded m desk isDesk
  · intro m id isId
    simp only [Note.load] at isId
    split_ifs at isId
    · exact long id (Option.filter_eq_some_iff.mp isId).1
    · exact noted.longs m id isId

/-- The administrator is still one after what others do. -/
def StaysAdmin (name : String) (state : State × Note) : Move → Prop
  | .elsewhere change => Administers name (change state.1.db).users
  | _ => True

theorem proceed_noted (own : auth.name = some name) (state : State × Note) (m : Move) (noted : Noted name state)
    (stays : StaysAdmin name state m) : Noted name (proceed reader auth state m) := by
  obtain ⟨state,note⟩ := state
  cases m with
  | openPage n env => exact get_noted own noted n env none none (.inl rfl) (fun id isId => by cases isId)
  | typed n text =>
    refine put_noted noted ?_
    intro desk isDesk
    obtain ⟨before,isBefore,rfl⟩ := Option.map_eq_some_iff.mp isDesk
    refine ⟨before,isBefore,?_⟩
    simp only [Desk.typed]
    split_ifs <;> rfl
  | verify n env text =>
    simp only [proceed,move,jot]
    cases isDesk : state.tabs n with
    | none => exact noted
    | some desk =>
      cases waiting : desk.asking.isSome with
      | true => simpa [waiting] using noted
      | false =>
        by_cases blank : trimmed desk.userIdInput = ""
        · have nobody : (reader.read desk.userIdInput).join = none := by
            cases read : reader.read desk.userIdInput with
            | none => rfl
            | some userId =>
              cases userId with
              | none => rfl
              | some id => exact absurd blank (reader.filled _ id read)
          have sent : Noted name (state.sendSearch reader auth n env desk text (some "1"),note.load n _) :=
            sendSearch_noted own noted n env text (.inr nobody)
          rw [nobody] at sent
          simpa [waiting,blank] using sent
        · have asked : Noted name (state.put n (some desk.ask),note) :=
            put_noted noted (fun after isAfter => ⟨desk,isDesk,by cases isAfter; rfl⟩)
          simpa [waiting,blank] using asked
  | answer n arrives =>
    simp only [proceed,move,jot]
    cases isDesk : state.tabs n with
    | none => exact noted
    | some desk =>
      cases isAsking : desk.asking with
      | none => simpa [isAsking] using noted
      | some userId =>
        simp only [isAsking]
        refine put_noted noted (fun after isAfter => ⟨desk,isDesk,?_⟩)
        cases isAfter
        unfold Desk.answered
        split <;> rfl
  | click n b =>
    refine put_noted noted ?_
    intro desk isDesk
    obtain ⟨before,isBefore,rfl⟩ := Option.map_eq_some_iff.mp isDesk
    refine ⟨before,isBefore,?_⟩
    simp only [Desk.click]
    split_ifs <;> rfl
  | search n env text =>
    simp only [proceed,move,jot]
    cases isDesk : state.tabs n with
    | none => exact noted
    | some desk => exact sendSearch_noted own noted n env text (.inl rfl)
  | borrow n env =>
    simp only [proceed,move,jot]
    cases isDesk : state.tabs n with
    | none => exact noted
    | some desk =>
      cases sends : desk.sends with
      | false => simpa [sends] using noted
      | true =>
        have read := read_hidden reader noted isDesk
        cases ids : checkedIds reader desk.page with
        | none =>
          have closed : Noted name (state.put n none,note) := put_noted noted (fun after isAfter => by cases isAfter)
          simpa [sends,ids,State.sendBorrow,read] using closed
        | some bookIds => simpa [sends,ids,State.sendBorrow,read] using post_noted own noted n env bookIds
  | elsewhere change => exact { noted with admin := stays }

/-- Books are lent to the user for whom the note has the form. -/
theorem borrow_lends (own : auth.name = some name) {state : State} {note : Note} (noted : Noted name (state,note)) (n : Nat)
    (env : Env) :
    (move reader auth state (.borrow n env)).db = state.db ∨
      ∃ u ids, note.target n = some u ∧ Lendable state.db u ids ∧
        (move reader auth state (.borrow n env)).db = lentOut env.clock u 0 ids state.db := by
  simp only [move]
  cases isDesk : state.tabs n with
  | none => exact .inl rfl
  | some desk =>
    cases sends : desk.sends with
    | false => exact .inl (by simp [sends])
    | true =>
      have read := read_hidden reader noted isDesk
      simp only [sends,if_true,State.sendBorrow,read]
      cases checkedIds reader desk.page with
      | none => exact .inl rfl
      | some bookIds =>
        obtain ⟨after,isAfter,_⟩ := post_outcome auth state n env bookIds (note.loaded n)
        have lends := (borrowBooks_admin own noted.admin env bookIds (note.loaded n) state.session).2
        rw [noted.last] at lends
        simp only [isAfter]
        exact lends

section
variable (reader : LongReader) (auth : Authentication)

/-- The loans that a form leads to are for the user whose id is in the field, which is the
    one that the page announces. -/
def LendsAsShown (state : State × Note) : Move → Prop
  | .borrow n env => ∀ desk, state.1.tabs n = some desk →
    ∀ row ∈ (move reader auth state.1 (.borrow n env)).db.borrowedBooks.rows,
      row ∈ state.1.db.borrowedBooks.rows ∨ reader.read desk.userIdInput = some (some row.2.user)
  | _ => True

/-- Where a form leads to loans, the id in the field is the one with which the page was
    loaded or, without one, that of the last form. -/
def ShowsTarget (state : State × Note) : Move → Prop
  | .borrow n env => ∀ desk, state.1.tabs n = some desk →
    (move reader auth state.1 (.borrow n env)).db.borrowedBooks.rows ≠ state.1.db.borrowedBooks.rows →
      reader.read desk.userIdInput = some (state.2.target n)
  | _ => True

end

theorem lendsAsShown_iff (own : auth.name = some name) (state : State × Note) (m : Move) (noted : Noted name state) :
    LendsAsShown reader auth state m ↔ ShowsTarget reader auth state m := by
  obtain ⟨state,note⟩ := state
  cases m with
  | borrow n env =>
    simp only [LendsAsShown,ShowsTarget]
    refine forall_congr' (fun desk => forall_congr' (fun isDesk => ?_))
    rcases borrow_lends own noted n env with same | ⟨u,ids,isTarget,lendable,lent⟩
    · rw [same]
      exact iff_of_true (fun row member => .inl member) (fun changed => absurd rfl changed)
    · obtain ⟨added,rows,columns⟩ := lentOut_loans env.clock u 0 state.db (lendable_named lendable)
      have users : ∀ row ∈ added, row.2.user = u := by
        intro row member
        have listed : (some row.2.book,row.2.user,row.2.borrowCount) ∈ loanColumns added := List.mem_map_of_mem member
        rw [columns] at listed
        obtain ⟨_,_,isRow⟩ := List.mem_map.mp listed
        exact (congrArg (fun column => column.2.1) isRow).symm
      have new : ∀ row ∈ added, row ∉ state.db.borrowedBooks.rows := by
        have distinct := rows_nodup (lentOut env.clock u 0 ids state.db).borrowedBooks
        rw [rows] at distinct
        exact fun row member old => List.disjoint_of_nodup_append distinct old member
      rw [lent,rows,isTarget]
      constructor
      · intro lends changed
        obtain ⟨row,member⟩ := List.exists_mem_of_ne_nil added (fun empty => changed (by rw [empty,List.append_nil]))
        rcases lends row (List.mem_append_right _ member) with old | shown
        · exact absurd old (new row member)
        · rw [shown,users row member]
      · intro shows row member
        rcases List.mem_append.mp member with old | isNew
        · exact .inl old
        · refine .inr ?_
          rw [users row isNew]
          refine shows (fun same => ?_)
          have nothing : added = [] := List.append_right_eq_self.mp same
          rw [nothing] at isNew
          cases isNew
  | _ => exact Iff.rfl

/-- Whatever an administrator types, has verified, searches for, checks and sends, in
    any number of tabs: the books always go to the announced user exactly if at every
    loan the id in the field is the one with which the page was loaded or, without one,
    that of the last form. -/
theorem lends_as_shown_iff (own : auth.name = some name) {db : Db} (admin : Administers name db.users) {moves : List Move}
    (stays : Throughout (proceed reader auth) (StaysAdmin name) (fresh db,⟨fun _ => none,none⟩) moves) :
    Throughout (proceed reader auth) (LendsAsShown reader auth) (fresh db,⟨fun _ => none,none⟩) moves ↔
      Throughout (proceed reader auth) (ShowsTarget reader auth) (fresh db,⟨fun _ => none,none⟩) moves := by
  have begins : Noted name (fresh db,⟨fun _ => none,none⟩) :=
    ⟨admin,rfl,rfl,fun _ _ isDesk => (by cases isDesk),fun _ _ isId => (by cases isId),fun _ isId => by cases isId⟩
  exact throughout_iff_under (proceed_noted own) (lendsAsShown_iff own) begins stays

end

theorem trimmed_filled {text : String} {c : Char} (member : c ∈ text.toList) (solid : isWhite c = false) : trimmed text ≠ "" := by
  intro blank
  have nothing : (text.toList.dropWhile isWhite).rdropWhile isWhite = [] := String.ofList_eq_empty_iff.mp blank
  have white := List.rdropWhile_eq_nil_iff.mp nothing
  rw [← List.takeWhile_append_dropWhile (p := isWhite) (l := text.toList)] at member
  rcases List.mem_append.mp member with first | later
  · rw [List.mem_takeWhile_imp first] at solid
    cases solid
  · rw [white c later] at solid
    cases solid

theorem isWhite_digit {c : Char} (digit : c.isDigit = true) : isWhite c = false := by
  simp only [Char.isDigit,Bool.and_eq_true,decide_eq_true_eq] at digit
  have low : 48 ≤ c.toNat := UInt32.le_iff_toNat_le.mp digit.1
  have high : c.toNat ≤ 57 := UInt32.le_iff_toNat_le.mp digit.2
  simp [isWhite]
  omega

theorem trimmed_toString (id : Id) : trimmed (toString id) ≠ "" := by
  have filled : (toString id).toList ≠ [] := fun empty => toString_filled id (String.toList_eq_nil_iff.mp empty)
  obtain ⟨c,member⟩ := List.exists_mem_of_ne_nil (toString id).toList filled
  rcases mem_toString member with digit | rfl
  · exact trimmed_filled member (isWhite_digit digit)
  · exact trimmed_filled member (by decide)

/-- A reader of decimal numbers and nothing else. -/
def plainReader : LongReader where
  read text := if text = "" then some none else if trimmed text = "" then none else (parseLong text).map some
  empty := rfl
  printed id long := by rw [if_neg (toString_filled id),if_neg (trimmed_toString id),parseLong_toString long,Option.map_some]
  long text id read := by
    split_ifs at read
    · cases read
    · obtain ⟨n,parsed,isId⟩ := Option.map_eq_some_iff.mp read
      cases isId
      have range := (Option.filter_eq_some_iff.mp parsed).2
      simpa [IsLong] using range
  filled text id read blank := by
    rw [if_pos blank] at read
    split_ifs at read
    cases read

/-- An administrator, two users, and a book with two copies. -/
def deskDb : Db where
  books := Table.empty.insert ⟨some "Dune",some "Frank Herbert",true,none,none,2,2⟩
  users := ((Table.empty.insert rootUser).insert annColumns).insert { annColumns with username := some "bob" }
  borrowedBooks := Table.empty
  inventory := Table.empty

/-- The administrator enters an id and searches, has an id verified, and checks the book. -/
def deskMoves (searched verified : String) : List Move :=
  [.openPage 0 sampleEnv,.typed 0 searched,.search 0 sampleEnv "",.typed 0 verified,.verify 0 sampleEnv "",.answer 0 true,
    .click 0 1]

theorem sendable_confirmed_ann :
    ∃ desk, ((deskMoves "2" "2").foldl (move plainReader rootAuth) (fresh deskDb)).tabs 0 = some desk ∧
      ∃ before after, deskMoves "2" "2" = before ++ .answer 0 true :: after ∧
        confirmed plainReader (before.foldl (move plainReader rootAuth) (fresh deskDb)).db.users desk.userIdInput = some true ∧
        Always (move plainReader rootAuth) (Verified 0 desk.userIdInput)
          (move plainReader rootAuth (before.foldl (move plainReader rootAuth) (fresh deskDb)) (.answer 0 true)) after := by
  have sends : (((deskMoves "2" "2").foldl (move plainReader rootAuth) (fresh deskDb)).tabs 0).map Desk.sends = some true := by
    decide +kernel
  obtain ⟨desk,isDesk,sends⟩ := Option.map_eq_some_iff.mp sends
  exact ⟨desk,isDesk,sendable_confirmed plainReader rootAuth deskDb _ isDesk sends⟩

theorem lends_as_shown_ann :
    Throughout (proceed plainReader rootAuth) (LendsAsShown plainReader rootAuth) (fresh deskDb,⟨fun _ => none,none⟩)
      (deskMoves "2" "2" ++ [.borrow 0 sampleEnv]) := by
  have admin : Administers "root" deskDb.users := ⟨1,rootUser,rfl,rfl⟩
  refine (lends_as_shown_iff rfl admin ?_).mpr (throughout_append.mpr ⟨?_,?_,trivial⟩)
  · exact ⟨trivial,trivial,trivial,trivial,trivial,trivial,trivial,trivial,trivial⟩
  · exact ⟨trivial,trivial,trivial,trivial,trivial,trivial,trivial,trivial⟩
  · intro desk isDesk _
    have shown : (((deskMoves "2" "2").foldl (proceed plainReader rootAuth) (fresh deskDb,⟨fun _ => none,none⟩)).1.tabs 0).map
        (fun desk => plainReader.read desk.userIdInput) = some (some (some 2)) := by decide +kernel
    have target : ((deskMoves "2" "2").foldl (proceed plainReader rootAuth) (fresh deskDb,⟨fun _ => none,none⟩)).2.target 0 =
        some 2 := by decide +kernel
    rw [isDesk] at shown
    rw [target]
    exact Option.some.inj shown

-- The page announces the third user, and the book goes to the second.
example :
    ((deskMoves "2" "3" ++ [Move.borrow 0 sampleEnv]).foldl (move plainReader rootAuth) (fresh deskDb)).db.borrowedBooks.count
      (ofPair 1 2) = 1 := by decide +kernel

end LibraryServer.LendingDesk
