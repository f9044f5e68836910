import LibraryServer.Accounts
import LibraryServer.Serializability

/-!
Registrations at the same time. `registerUser` asks whether the username and the email
are taken and then saves, each a repository call of its own, and no constraint is
declared on the columns. So usernames stay distinct exactly as long as a name that was
free when it was asked for is still free when it is saved (`registrations_distinct_iff`).
Two registrations of a name that both succeed lock it: nobody can sign in with it any
more (`raced_names_locked`). Registrations of different names and emails do not notice
each other (`registrations_serialized`).
-/
namespace LibraryServer.RegistrationRaces
open LibraryServer.Java LibraryServer.Tables LibraryServer.Programs LibraryServer.Runs LibraryServer.Entities
open LibraryServer.Accounts LibraryServer.Interleaving LibraryServer.Serializability
set_option linter.unusedSimpArgs false

/-! ### The calls of a registration -/

inductive Call where
  | existsByUsername (username : Option String)
  | existsByEmail (email : Option String)
  | save (object : UserForm)

abbrev Reply : Call → Type
  | .existsByUsername _ => Bool
  | .existsByEmail _ => Bool
  | .save _ => Unit

section
variable (encoder : PasswordEncoder) (missing : OnMissing)

def answer : (c : Call) → Table User → Except Exc (Reply c × List UserForm)
  | .existsByUsername username, users => .ok (Accounts.existsByUsername users username,[])
  | .existsByEmail email, users => .ok (Accounts.existsByEmail users email,[])
  | .save object, users => (Entities.save missing users object.id object.columns).map (fun _ => ((),[object]))

/-- The users after an object has been saved. -/
def saved (users : Table User) (object : UserForm) : Table User :=
  match Entities.save missing users object.id object.columns with
  | .ok after => after
  | .error _ => users

def store : Store Call Reply Exc (Table User) UserForm := ⟨answer missing,saved missing⟩

structure Registration where
  salt : Nat
  form : UserForm

/-- What is checked and prepared between the calls. -/
def Registration.prepared (registration : Registration) : Except Exc UserForm := do
  validateUserFields registration.form.columns
  let password ← encoder.encode registration.salt registration.form.columns.password
  .ok { registration.form with columns := { registration.form.columns with password := some password } }

/-- `registerUser` as the calls that it makes. -/
def Registration.program (registration : Registration) : Prog Call Reply Exc Unit := do
  if ← Prog.invoke (Call.existsByUsername registration.form.columns.username) then
    .throw (.runtimeException "Username already taken")
  else if ← Prog.invoke (Call.existsByEmail registration.form.columns.email) then
    .throw (.runtimeException "Email already taken")
  else
    match registration.prepared encoder with
    | .error e => .throw e
    | .ok object => Prog.invoke (Call.save object)

/-- The system in which the registrations are about to begin. -/
def begun (users : Table User) (registrations : List Registration) : System Call Reply Exc (Table User) UserForm :=
  start users (registrations.map (Registration.program encoder))

/-- Nothing is declared that could refuse a commit. -/
def unconstrained (_users : Table User) : Bool := true

end

variable {encoder : PasswordEncoder} {missing : OnMissing}

/-- The calls one after another. -/
theorem program_eq (registration : Registration) :
    registration.program encoder =
      .call (.existsByUsername registration.form.columns.username) (fun taken =>
        if taken = true then .throw (.runtimeException "Username already taken")
        else
          .call (.existsByEmail registration.form.columns.email) (fun used =>
            if used = true then .throw (.runtimeException "Email already taken")
            else
              match registration.prepared encoder with
              | .error e => .throw e
              | .ok object => Prog.invoke (Call.save object))) := by
  rfl

theorem registration_prepared (registration : Registration) (users : Table User) :
    Accounts.registration encoder registration.salt users registration.form =
      if existsByUsername users registration.form.columns.username then .error (.runtimeException "Username already taken")
      else if existsByEmail users registration.form.columns.email then .error (.runtimeException "Email already taken")
      else registration.prepared encoder := rfl

theorem prepared_ok {registration : Registration} {object : UserForm} (isPrepared : registration.prepared encoder = .ok object) :
    object.id = registration.form.id ∧ object.columns.username = registration.form.columns.username ∧
      object.columns.email = registration.form.columns.email := by
  obtain ⟨_,_,encoded⟩ := Fallible.bind_eq_ok.mp isPrepared
  obtain ⟨password,_,isObject⟩ := Fallible.bind_eq_ok.mp encoded
  cases isObject
  exact ⟨rfl,rfl,rfl⟩

/-- Alone, the calls do what `registerUser` does. -/
theorem program_run (encoder : PasswordEncoder) (missing : OnMissing) (registration : Registration) (db : Db) :
    (registration.program encoder).run (store missing) db.users =
      ((registerUser encoder missing registration.salt registration.form db).1,
        (registerUser encoder missing registration.salt registration.form db).2.users) := by
  rw [program_eq,registerUser,registration_prepared,run_call]
  simp only [store,answer,replay_nil]
  cases existsByUsername db.users registration.form.columns.username with
  | true => rfl
  | false =>
    simp only [Bool.false_eq_true,if_false,run_call,answer,replay_nil]
    cases existsByEmail db.users registration.form.columns.email with
    | true => rfl
    | false =>
      simp only [Bool.false_eq_true,if_false]
      cases registration.prepared encoder with
      | error e => rfl
      | ok object =>
        simp only [Prog.invoke,run_call,answer,saveUser]
        cases isSaved : Entities.save missing db.users object.id object.columns with
        | error e => rfl
        | ok after => simp [Except.map,Store.replay,saved,isSaved]

/-- Among its calls, a registration was told that a name is free. -/
def foundFree (trace : List (Event Call Reply)) (username : Option String) : Bool :=
  trace.any fun
    | ⟨.existsByUsername asked,taken⟩ => asked == username && !taken
    | ⟨.existsByEmail _,_⟩ => false
    | ⟨.save _,_⟩ => false

/-- A registration that returns has been told that its name is free, and saves its
    object. -/
theorem program_returned {registration : Registration} {log : List UserForm} {trace : List (Event Call Reply)}
    (run : Among (store missing) (fun _ => True) (registration.program encoder) [] [] (.ok ()) log trace) :
    foundFree trace registration.form.columns.username = true ∧
      ∃ object, registration.prepared encoder = .ok object ∧ log = [object] := by
  rw [program_eq] at run
  obtain ⟨_,taken,_,_,replied,run⟩ := among_call_ok run
  cases replied
  split_ifs at run with free
  · exact absurd run among_throw_ok
  · obtain ⟨_,used,_,_,replied,run⟩ := among_call_ok run
    cases replied
    split_ifs at run
    · exact absurd run among_throw_ok
    · cases isPrepared : registration.prepared encoder with
      | error e =>
        rw [isPrepared] at run
        exact absurd run among_throw_ok
      | ok object =>
        rw [isPrepared] at run
        obtain ⟨users,_,writes,_,replied,run⟩ := among_call_ok run
        obtain ⟨_,isLog,isTrace⟩ := among_pure_ok run
        obtain ⟨_,_,isReply⟩ := Fallible.map_eq_ok.mp replied
        cases isReply
        refine ⟨?_,object,rfl,isLog⟩
        rw [isTrace]
        simpa [foundFree] using free

/-! ### When usernames stay distinct -/

/-- A name was free when the registration asked for it, and is taken by now. -/
def TakenSince (trace : List (Event Call Reply)) (users : Table User) (username : Option String) : Prop :=
  foundFree trace username = true ∧ existsByUsername users username = true

/-- No name that is about to be saved has been taken since it was asked for. -/
def StillFree (log : List UserForm) (trace : List (Event Call Reply)) (users : Table User) : Prop :=
  ∀ object ∈ log, ¬ TakenSince trace users object.columns.username

instance (trace : List (Event Call Reply)) (users : Table User) (username : Option String) :
    Decidable (TakenSince trace users username) :=
  inferInstanceAs (Decidable (_ ∧ _))

instance (log : List UserForm) (trace : List (Event Call Reply)) (users : Table User) : Decidable (StillFree log trace users) :=
  inferInstanceAs (Decidable (∀ object ∈ log, ¬ TakenSince trace users object.columns.username))

theorem saved_new (users : Table User) {object : UserForm} (isNew : object.id = none) :
    saved missing users object = users.insert object.columns := by
  simp [saved,Entities.save,isNew]

theorem distinct_insert {users : Table User} (distinct : users.Distinct User.username) (user : User) :
    (users.insert user).Distinct User.username ↔ existsByUsername users user.username = false := by
  rw [← put_next,distinct_put distinct (.inl rfl),Bool.eq_false_iff,Ne,existsByUsername_iff]
  constructor
  · rintro alone ⟨row,stored,same⟩
    have below := users.below row stored
    have isNext := alone row stored same
    omega
  · intro free row stored same
    exact absurd ⟨row,stored,same⟩ free

section
variable {users : Table User} {registrations : List Registration}

/-- A step makes a registration succeed, which inserts its user; or no user is inserted
    and none succeeds. -/
theorem step_inserts (new : ∀ registration ∈ registrations, registration.form.id = none)
    {sys : System Call Reply Exc (Table User) UserForm}
    (follows : Follows (store missing) (registrations.map (Registration.program encoder)) sys) (i : Nat) :
    (∃ registration object trace, registrations[i]? = some registration ∧ registration.prepared encoder = .ok object ∧
        sys.txns[i]? = some (.running (.pure ()) [object] trace) ∧ foundFree trace object.columns.username = true ∧
        step (store missing) unconstrained sys i =
          ⟨sys.shared.insert object.columns,sys.txns.set i .committed⟩) ∨
      (step (store missing) unconstrained sys i).shared = sys.shared ∧
        (∀ j : Nat, (step (store missing) unconstrained sys i).txns[j]? = some .committed → sys.txns[j]? = some .committed) ∧
        ∀ log trace, sys.txns[i]? ≠ some (.running (.pure ()) log trace) := by
  rcases step_cases (store missing) unconstrained sys i with ⟨log,trace,chosen,isStep⟩ | ⟨same,others,refused⟩
  · obtain ⟨p,isProgram,run⟩ := follows_returned follows chosen
    rw [List.getElem?_map,Option.map_eq_some_iff] at isProgram
    obtain ⟨registration,listed,rfl⟩ := isProgram
    obtain ⟨free,object,isPrepared,rfl⟩ := program_returned run
    obtain ⟨isId,isName,_⟩ := prepared_ok isPrepared
    have isNew : object.id = none := isId.trans (new registration (List.mem_of_getElem? listed))
    refine .inl ⟨registration,object,trace,listed,isPrepared,chosen,isName ▸ free,isStep.trans ?_⟩
    rw [← saved_new sys.shared isNew]
    rfl
  · refine .inr ⟨same,others,fun log trace chosen => ?_⟩
    have refusal := refused log trace chosen
    cases refusal

/-- Usernames stay distinct exactly as long as no registration is saved whose name has
    been taken since it was asked for. -/
theorem registrations_distinct_iff (distinct : users.Distinct User.username)
    (new : ∀ registration ∈ registrations, registration.form.id = none) (schedule : List Nat) :
    Always (step (store missing) unconstrained) (fun sys => sys.shared.Distinct User.username)
        (begun encoder users registrations) schedule ↔
      CommitsUnder (store missing) unconstrained StillFree (begun encoder users registrations) schedule := by
  refine always_iff_under (J := Follows (store missing) (registrations.map (Registration.program encoder)))
    (fun _ i follows => follows_step follows i) ?_ (follows_start _ _) distinct schedule
  intro sys i follows distinct
  rcases step_inserts new follows i with ⟨_,object,trace,_,_,chosen,free,isStep⟩ | ⟨same,_,unfinished⟩
  · rw [isStep,distinct_insert distinct,chosen]
    simp [CommitMeets,StillFree,TakenSince,free]
  · rw [same]
    refine iff_of_true distinct (fun t isTxn => ?_)
    cases t with
    | committed => trivial
    | rolledBack => trivial
    | running rest log trace =>
      cases rest with
      | pure a => exact absurd isTxn (unfinished log trace)
      | throw e => trivial
      | call c next => trivial

end

/-- A reader who registers under a name. -/
def reader (username email : String) : Registration :=
  ⟨0,⟨none,⟨some "Ann Lee",some username,some "secret",some email,some "1",some "+1",some .USER,none⟩⟩⟩

/-- Both want the same name. -/
def twoAnns : List Registration := [reader "ann" "a@x.org",reader "ann" "b@x.org"]

/-- Step by step in turn. -/
def inTurn : List Nat := [0,1,0,1,0,1,0,1]

/-- Both have asked before one of them is saved. -/
theorem registrations_distinct_iff_anns :
    ¬ Always (step (store .refuse) unconstrained) (fun sys => sys.shared.Distinct User.username)
      (begun markingEncoder .empty twoAnns) inTurn := by
  rw [registrations_distinct_iff (by decide) (by decide)]
  decide

section
variable {users : Table User} {registrations : List Registration}

/-! ### What a race leads to -/

/-- A registration of a name has succeeded. -/
def Succeeded (registrations : List Registration) (username : Option String)
    (sys : System Call Reply Exc (Table User) UserForm) (i : Nat) : Prop :=
  ∃ registration, registrations[i]? = some registration ∧ registration.form.columns.username = username ∧
    sys.txns[i]? = some .committed

/-- Those that have succeeded have a row each, as far as two of them go. -/
structure RowsFor (registrations : List Registration) (username : Option String)
    (sys : System Call Reply Exc (Table User) UserForm) : Prop where
  one : ∀ i, Succeeded registrations username sys i → 1 ≤ sys.shared.count (named username)
  two : ∀ i j, i ≠ j → Succeeded registrations username sys i → Succeeded registrations username sys j →
    2 ≤ sys.shared.count (named username)

theorem rowsFor_step (new : ∀ registration ∈ registrations, registration.form.id = none) {username : Option String}
    {sys : System Call Reply Exc (Table User) UserForm}
    (follows : Follows (store missing) (registrations.map (Registration.program encoder)) sys)
    (rows : RowsFor registrations username sys) (i : Nat) :
    RowsFor registrations username (step (store missing) unconstrained sys i) := by
  rcases step_inserts new follows i with ⟨registration,object,trace,listed,isPrepared,_,_,isStep⟩ | ⟨same,others,_⟩
  · have before : ∀ j, j ≠ i → Succeeded registrations username (step (store missing) unconstrained sys i) j →
        Succeeded registrations username sys j := by
      rintro j other ⟨first,isFirst,isName,committed⟩
      rw [isStep,List.getElem?_set_ne (Ne.symm other)] at committed
      exact ⟨first,isFirst,isName,committed⟩
    have now : Succeeded registrations username (step (store missing) unconstrained sys i) i →
        named username object.columns = true := by
      rintro ⟨first,isFirst,isName,_⟩
      rw [listed] at isFirst
      cases isFirst
      rw [named,(prepared_ok isPrepared).2.1,isName]
      exact beq_self_eq_true _
    have count : (step (store missing) unconstrained sys i).shared.count (named username) =
        sys.shared.count (named username) + if named username object.columns then 1 else 0 := by
      rw [isStep,count_insert]
    refine ⟨fun j success => ?_,fun j k different first second => ?_⟩
    · rw [count]
      by_cases isThis : j = i
      · subst isThis
        rw [if_pos (now success)]
        omega
      · have := rows.one j (before j isThis success)
        omega
    · rw [count]
      by_cases isFirst : j = i
      · subst isFirst
        have := rows.one k (before k (Ne.symm different) second)
        rw [if_pos (now first)]
        omega
      · by_cases isSecond : k = i
        · subst isSecond
          have := rows.one j (before j isFirst first)
          rw [if_pos (now second)]
          omega
        · have := rows.two j k different (before j isFirst first) (before k isSecond second)
          omega
  · have before : ∀ j, Succeeded registrations username (step (store missing) unconstrained sys i) j →
        Succeeded registrations username sys j := by
      rintro j ⟨first,isFirst,isName,committed⟩
      exact ⟨first,isFirst,isName,others j committed⟩
    refine ⟨fun j success => ?_,fun j k different first second => ?_⟩
    · rw [same]
      exact rows.one j (before j success)
    · rw [same]
      exact rows.two j k different (before j first) (before k second)

theorem findByUsername_several {users : Table User} {username : Option String} (several : 2 ≤ users.count (named username)) :
    findByUsername users username = .error .incorrectResultSize := by
  rw [Table.count] at several
  unfold findByUsername
  cases rows : users.select (named username) with
  | nil => simp [rows] at several
  | cons row rest =>
    cases rest with
    | nil => simp [rows] at several
    | cons other more => rfl

/-- Under no schedule do two registrations of a name both succeed without locking it:
    from then on nobody can sign in with it, whatever the password. -/
theorem raced_names_locked (users : Table User) (new : ∀ registration ∈ registrations, registration.form.id = none)
    (schedule : List Nat) {i j : Nat} (different : i ≠ j) {username : Option String}
    (first : Succeeded registrations username
      (runSchedule (store missing) unconstrained (begun encoder users registrations) schedule) i)
    (second : Succeeded registrations username
      (runSchedule (store missing) unconstrained (begun encoder users registrations) schedule) j)
    (now lifetime : Int) (password : Option String) :
    loginUser encoder now lifetime username password
        (runSchedule (store missing) unconstrained (begun encoder users registrations) schedule).shared =
      .error .incorrectResultSize := by
  have begins : RowsFor registrations username (begun encoder users registrations) := by
    have none_yet : ∀ k, ¬ Succeeded registrations username (begun encoder users registrations) k := by
      rintro k ⟨registration,listed,_,committed⟩
      simp [begun,start,List.getElem?_map,listed] at committed
    exact ⟨fun k success => absurd success (none_yet k),fun k _ _ success => absurd success (none_yet k)⟩
  have rows : RowsFor registrations username
      (runSchedule (store missing) unconstrained (begun encoder users registrations) schedule) := by
    refine (run_kept (I := fun sys => Follows (store missing) (registrations.map (Registration.program encoder)) sys ∧
      RowsFor registrations username sys) ?_ ⟨follows_start _ _,begins⟩ schedule).2
    rintro sys k ⟨follows,rows⟩
    exact ⟨follows_step follows k,rowsFor_step new follows rows k⟩
  rw [loginUser,findByUsername_several (rows.two i j different first second)]

end

/-- Both registrations of the name succeed. -/
theorem anns_succeed :
    Succeeded twoAnns (some "ann") (runSchedule (store .refuse) unconstrained (begun markingEncoder .empty twoAnns) inTurn) 0 ∧
      Succeeded twoAnns (some "ann") (runSchedule (store .refuse) unconstrained (begun markingEncoder .empty twoAnns) inTurn) 1 :=
  ⟨⟨reader "ann" "a@x.org",rfl,rfl,committed_iff.mpr (by decide +kernel)⟩,
    reader "ann" "b@x.org",rfl,rfl,committed_iff.mpr (by decide +kernel)⟩

theorem raced_names_locked_anns :
    loginUser markingEncoder 0 60 (some "ann") (some "secret")
        (runSchedule (store .refuse) unconstrained (begun markingEncoder .empty twoAnns) inTurn).shared =
      .error .incorrectResultSize :=
  raced_names_locked .empty (by decide) inTurn Nat.zero_ne_one anns_succeed.1 anns_succeed.2 0 60 (some "secret")

/-! ### Registrations that do not concern each other -/

/-- Two tables in which the name and the email of a registration are taken alike. -/
def TakenAlike (registration : Registration) (s t : Table User) : Prop :=
  existsByUsername t registration.form.columns.username = existsByUsername s registration.form.columns.username ∧
    existsByEmail t registration.form.columns.email = existsByEmail s registration.form.columns.email

theorem program_inStep {registration : Registration} (new : registration.form.id = none) {s t : Table User}
    (alike : TakenAlike registration s t) :
    InStep (store missing) (fun _ _ _ => True) (registration.program encoder) s t := by
  rw [program_eq]
  refine inStep_call (by simp only [store,answer,alike.1]) ?_
  rintro reply answered
  cases answered
  simp only [replay_nil]
  split_ifs
  · trivial
  · refine inStep_call (by simp only [store,answer,alike.2]) ?_
    rintro reply answered
    cases answered
    simp only [replay_nil]
    split_ifs
    · trivial
    · cases isPrepared : registration.prepared encoder with
      | error e => trivial
      | ok object =>
        have isNew : object.id = none := (prepared_ok isPrepared).1.trans new
        refine inStep_call (by simp only [store,answer,Entities.save,isNew,Except.map]) ?_
        intro reply _
        trivial

/-- A registration inserts one user with its name and its email, or nothing. -/
theorem program_inserts (encoder : PasswordEncoder) (missing : OnMissing) {registration : Registration}
    (new : registration.form.id = none) (users : Table User) :
    ((registration.program encoder).run (store missing) users).2 = users ∨
      ∃ user, user.username = registration.form.columns.username ∧ user.email = registration.form.columns.email ∧
        ((registration.program encoder).run (store missing) users).2 = users.insert user := by
  have run := program_run encoder missing registration { Db.empty with users := users }
  have isForm : registration.form = ⟨none,registration.form.columns⟩ := by rw [← new]
  rw [isForm] at run
  rw [show ({ Db.empty with users := users } : Db).users = users from rfl] at run
  rcases registerUser_new encoder missing registration.salt registration.form.columns { Db.empty with users := users } with
    ⟨e,refused⟩ | ⟨password,_,_,_,inserted⟩
  · rw [run,refused]
    exact .inl rfl
  · rw [run,inserted]
    exact .inr ⟨{ registration.form.columns with password := some password },rfl,rfl,rfl⟩

/-- No two registrations have the same name or the same email. -/
def Different (registrations : List Registration) : Prop :=
  registrations.Pairwise (fun first second => first.form.columns.username ≠ second.form.columns.username ∧
    first.form.columns.email ≠ second.form.columns.email)

instance (registrations : List Registration) : Decidable (Different registrations) :=
  inferInstanceAs (Decidable (List.Pairwise _ _))

theorem different_apart {registrations : List Registration}
    (new : ∀ registration ∈ registrations, registration.form.id = none) (different : Different registrations) :
    Apart (store missing) (registrations.map (Registration.program encoder)) unconstrained
      (fun i s t => ∀ registration, registrations[i]? = some registration → TakenAlike registration s t) := by
  refine ⟨fun i => ⟨?_,?_,?_⟩,?_,?_,fun _ _ _ _ _ _ => rfl⟩
  · exact fun s _ _ => ⟨rfl,rfl⟩
  · exact fun alike registration listed => ⟨(alike registration listed).1.symm,(alike registration listed).2.symm⟩
  · intro r s t first second registration listed
    exact ⟨(second registration listed).1.trans (first registration listed).1,
      (second registration listed).2.trans (first registration listed).2⟩
  · intro i p s t isProgram alike
    rw [List.getElem?_map,Option.map_eq_some_iff] at isProgram
    obtain ⟨registration,listed,rfl⟩ := isProgram
    exact program_inStep (new registration (List.mem_of_getElem? listed)) (alike registration listed)
  · intro i j p s other isProgram registration listed
    rw [List.getElem?_map,Option.map_eq_some_iff] at isProgram
    obtain ⟨second,listed',rfl⟩ := isProgram
    obtain ⟨names,emails⟩ := pairwise_at (fun _ _ both => ⟨both.1.symm,both.2.symm⟩) different other listed listed'
    rcases program_inserts encoder missing (new second (List.mem_of_getElem? listed')) s with
      same | ⟨user,isName,isEmail,inserted⟩
    · rw [same]
      exact ⟨rfl,rfl⟩
    · rw [inserted]
      have otherName : named registration.form.columns.username user = false := by
        rw [named,isName]
        exact beq_false_of_ne (Ne.symm names)
      have otherEmail : (user.email == registration.form.columns.email) = false := by
        rw [isEmail]
        exact beq_false_of_ne (Ne.symm emails)
      exact ⟨by simp [existsByUsername,count_insert,otherName],by simp [existsByEmail,count_insert,otherEmail]⟩

/-- New registrations of different names and emails end, under every schedule, as they
    do one after another. -/
theorem registrations_serialized {registrations : List Registration}
    (new : ∀ registration ∈ registrations, registration.form.id = none) (different : Different registrations)
    (users : Table User) (schedule : List Nat) :
    ∃ order, Serialized (store missing) (registrations.map (Registration.program encoder)) users
      (runSchedule (store missing) unconstrained (begun encoder users registrations) schedule) order :=
  serializable (different_apart new different) rfl schedule

theorem registrations_serialized_two :
    ∃ order, Serialized (store .refuse) ([reader "ann" "a@x.org",reader "bob" "b@x.org"].map (Registration.program markingEncoder))
      .empty (runSchedule (store .refuse) unconstrained
        (begun markingEncoder .empty [reader "ann" "a@x.org",reader "bob" "b@x.org"]) inTurn) order :=
  registrations_serialized (by decide) (by decide) .empty inTurn

end LibraryServer.RegistrationRaces
