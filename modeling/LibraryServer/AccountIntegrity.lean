import LibraryServer.Accounts
import LibraryServer.Runs

/-!
What runs of the account operations keep. A form carries the id of the object
that it fills, so registration and the administrator's form can replace a stored
account; only registration looks whether a username is taken, and a profile is
saved without a look at the other emails. Each property holds of exactly those runs
that do not use this: credentials stay as they are if no form is saved over another
account, usernames stay unique if the administrator submits no username that
another account has, and emails stay distinct if no profile takes another's.
-/
namespace LibraryServer.AccountIntegrity
open LibraryServer.Java LibraryServer.Tables LibraryServer.Entities LibraryServer.Runs LibraryServer.JwtFilter
open LibraryServer.Accounts
set_option linter.unusedSimpArgs false

variable (encoder : PasswordEncoder) (missing : OnMissing)

/-! ### Credentials -/

/-- Same username, password and role. -/
def SameCredentials (u u' : User) : Prop := u'.username = u.username ∧ u'.password = u.password ∧ u'.role = u.role

/-- The change that an operation is meant to be able to make. -/
def Confined (db : Db) : AccountStep → Db → Prop
  | .registerUser _ _, after => after = db ∨ ∃ user, after = { db with users := db.users.insert user }
  | .handleAddUser _ _ _, after => after = db ∨ ∃ user, after = { db with users := db.users.insert user }
  | .updateProfile authentication _, after => after = db ∨
      ∃ auth k old new, authentication = some auth ∧ old.username = auth.name ∧ db.users.find k = some old ∧
        SameCredentials old new ∧ after = { db with users := db.users.set k new }
  | .deleteUser id, after => after = db ∨ ∃ k, id = some k ∧ after = { db with users := db.users.erase k }

/-- Accounts that are still there have the credentials they had. -/
def Durable (before after : Db) : Prop :=
  ∀ k u u', before.users.find k = some u → after.users.find k = some u' → SameCredentials u u'

/-- Every operation of the run is confined, and between any two moments of it
    the accounts that last keep their credentials. -/
def CredentialIntegrity (db : Db) (steps : List AccountStep) : Prop :=
  Throughout (account encoder missing) (fun db step => Confined db step (account encoder missing db step)) db steps ∧
    ∀ start middle rest, steps = start ++ middle ++ rest →
      Durable (start.foldl (account encoder missing) db) ((start ++ middle).foldl (account encoder missing) db)

/-- A form is not saved over an account with other columns. -/
def OverwritesNobody (db : Db) (step : AccountStep) : Prop :=
  ∀ row ∈ stores encoder missing db step, ∀ old ∈ db.users.find row.1, row.2 = old

instance (db : Db) (step : AccountStep) : Decidable (OverwritesNobody encoder missing db step) :=
  inferInstanceAs (Decidable (∀ row ∈ stores encoder missing db step, ∀ old ∈ db.users.find row.1, row.2 = old))

variable {encoder missing}

/-- Putting a row adds a fresh one, or changes nothing, exactly if it overwrites
    no other columns. -/
theorem put_confined {db : Db} {row : Id × User} (place : db.users.Open row.1) :
    ({ db with users := db.users.put row.1 row.2 } = db ∨
        ∃ user, { db with users := db.users.put row.1 row.2 } = { db with users := db.users.insert user }) ↔
      ∀ old ∈ db.users.find row.1, row.2 = old := by
  constructor
  · rintro (same | ⟨user,added⟩) old (stored : db.users.find row.1 = some old)
    · have users : db.users.put row.1 row.2 = db.users := congrArg Db.users same
      have found := find_put place row.2 row.1
      rw [users,stored,if_pos rfl] at found
      exact (Option.some.inj found).symm
    · -- Replacing a row draws no key, inserting one does.
      have next : (db.users.put row.1 row.2).next = (db.users.insert user).next := congrArg (fun d => d.users.next) added
      rw [put_stored stored,next_set,next_insert] at next
      omega
  · intro nobody
    rcases place with fresh | ⟨old,stored⟩
    · refine .inr ⟨row.2,?_⟩
      rw [fresh,put_next]
    · refine .inl ?_
      rw [put_stored stored,nobody old stored,set_same stored]

/-- An operation is confined exactly if it overwrites nobody. -/
theorem confined_iff (db : Db) (step : AccountStep) :
    Confined db step (account encoder missing db step) ↔ OverwritesNobody encoder missing db step := by
  cases step with
  | registerUser salt form =>
    rw [registerUser_db,OverwritesNobody]
    cases put : stores encoder missing db (.registerUser salt form) with
    | none => simp [Confined]
    | some row => simpa [Confined] using put_confined (stores_open put)
  | handleAddUser salt bindingErrors form =>
    rw [handleAddUser_db,OverwritesNobody]
    cases put : stores encoder missing db (.handleAddUser salt bindingErrors form) with
    | none => simp [Confined]
    | some row => simpa [Confined] using put_confined (stores_open put)
  | updateProfile authentication form =>
    have nobody : OverwritesNobody encoder missing db (.updateProfile authentication form) := by
      intro row impossible
      cases impossible
    refine ⟨fun _ => nobody,fun _ => ?_⟩
    rcases updateProfile_db authentication form db with same | ⟨auth,k,old,_,_,_,_,_,isAuth,_,own,stored,changed⟩
    · exact .inl same
    · refine .inr ⟨auth,k,old,_,isAuth,own,stored,?_,changed⟩
      exact ⟨rfl,rfl,rfl⟩
  | deleteUser id =>
    have nobody : OverwritesNobody encoder missing db (.deleteUser id) := by
      intro row impossible
      cases impossible
    exact ⟨fun _ => nobody,fun _ => deleteUser_db id db⟩

/-- The accounts known by a moment are, at a later one, gone or have kept their
    credentials; ids are not used again. -/
def Outlives (before after : Db) : Prop :=
  before.users.next ≤ after.users.next ∧
    ∀ k u', k < before.users.next → after.users.find k = some u' →
      ∃ u, before.users.find k = some u ∧ SameCredentials u u'

theorem outlives_refl (db : Db) : Outlives db db :=
  ⟨Int.le_refl _,fun _ u' _ stored => ⟨u',stored,rfl,rfl,rfl⟩⟩

theorem outlives_trans (a b c : Db) (first : Outlives a b) (second : Outlives b c) : Outlives a c := by
  refine ⟨Int.le_trans first.1 second.1,?_⟩
  intro k u'' known stored
  obtain ⟨u',middle,name',password',role'⟩ := second.2 k u'' (Int.lt_of_lt_of_le known first.1) stored
  obtain ⟨u,early,name,password,role⟩ := first.2 k u' known middle
  exact ⟨u,early,name'.trans name,password'.trans password,role'.trans role⟩

theorem insert_outlives (db : Db) (user : User) : Outlives db { db with users := db.users.insert user } := by
  refine ⟨by rw [next_insert]; omega,?_⟩
  intro k u' known stored
  rw [find_insert,if_neg (by omega)] at stored
  exact ⟨u',stored,rfl,rfl,rfl⟩

theorem confined_outlives {db after : Db} {step : AccountStep} (confined : Confined db step after) : Outlives db after := by
  cases step with
  | registerUser salt form =>
    rcases confined with rfl | ⟨user,rfl⟩
    · exact outlives_refl _
    · exact insert_outlives db user
  | handleAddUser salt bindingErrors form =>
    rcases confined with rfl | ⟨user,rfl⟩
    · exact outlives_refl _
    · exact insert_outlives db user
  | updateProfile authentication form =>
    rcases confined with rfl | ⟨auth,k,old,new,_,_,stored,same,rfl⟩
    · exact outlives_refl _
    · refine ⟨Int.le_refl _,?_⟩
      intro j u' _ found
      rw [find_set] at found
      split_ifs at found with isRow
      · rw [stored] at found
        cases found
        exact ⟨old,isRow ▸ stored,same⟩
      · exact ⟨u',found,rfl,rfl,rfl⟩
  | deleteUser id =>
    rcases confined with rfl | ⟨k,_,rfl⟩
    · exact outlives_refl _
    · refine ⟨Int.le_refl _,?_⟩
      intro j u' _ found
      rw [find_erase] at found
      split_ifs at found
      exact ⟨u',found,rfl,rfl,rfl⟩

theorem outlives_durable {before after : Db} (outlives : Outlives before after) : Durable before after := by
  intro k u u' early late
  obtain ⟨known,stored,same⟩ := outlives.2 k u' (find_lt_next early) late
  rw [early] at stored
  cases stored
  exact same

/-- Credentials have integrity in exactly the runs that overwrite nobody. -/
theorem credentials_kept_iff (db : Db) (steps : List AccountStep) :
    CredentialIntegrity encoder missing db steps ↔
      Throughout (account encoder missing) (OverwritesNobody encoder missing) db steps := by
  constructor
  · rintro ⟨confined,_⟩
    exact throughout_imp (fun db step => (confined_iff db step).mp) confined
  · intro nobody
    have confined := throughout_imp (fun db step => (confined_iff db step).mpr) nobody
    refine ⟨confined,?_⟩
    rintro start middle rest rfl
    rw [throughout_append,throughout_append] at confined
    rw [List.foldl_append]
    refine outlives_durable (run_related outlives_refl outlives_trans ?_)
    exact throughout_imp (fun db step => confined_outlives) confined.1.2

/-- The same name with another password, as somebody else submits it. -/
def forgedUser : User :=
  ⟨some "Eve",some "root",some "mine",some "eve@x.org",some "2",some "+1",some .ADMIN,some .OTHER⟩

/-- The administrator's form with the id of a stored account takes it over. -/
theorem account_taken_over :
    ¬ CredentialIntegrity markingEncoder .refuse rootDb [.handleAddUser 0 false ⟨some 1,forgedUser⟩] := by
  rintro ⟨_,durable⟩
  have kept := durable [] [.handleAddUser 0 false ⟨some 1,forgedUser⟩] [] rfl 1 rootUser
    { forgedUser with password := some "hash of mine" } (by decide) (by decide)
  exact absurd kept.2.1 (by decide)

/-! ### Usernames -/

/-- No two accounts have the same username, and no lookup finds two. -/
def UniqueUsernames (db : Db) : Prop :=
  (∀ row ∈ db.users.rows, ∀ other ∈ db.users.rows, row.2.username = other.2.username → row.1 = other.1) ∧
    ∀ username, findByUsername db.users username ≠ .error .incorrectResultSize

theorem uniqueUsernames_iff (db : Db) :
    UniqueUsernames db ↔ db.users.Distinct User.username := by
  refine ⟨fun unique => unique.1,fun distinct => ⟨distinct,?_⟩⟩
  intro username failed
  have single : db.users.select (named username) = [] ∨ ∃ row, db.users.select (named username) = [row] := by
    refine select_single (fun x hx y hy => ?_)
    obtain ⟨storedX,nameX⟩ := mem_select.mp hx
    obtain ⟨storedY,nameY⟩ := mem_select.mp hy
    simp only [named,beq_iff_eq] at nameX nameY
    exact distinct x storedX y storedY (nameX.trans nameY.symm)
  rcases single with none_found | ⟨row,one_found⟩
  · simp [findByUsername,none_found] at failed
  · simp [findByUsername,one_found] at failed

instance (db : Db) : Decidable (UniqueUsernames db) := decidable_of_iff _ (uniqueUsernames_iff db).symm

variable (encoder missing) in
/-- The administrator's form, if it is saved, has a username that no account has
    but the one it replaces. -/
def NewUsername (db : Db) : AccountStep → Prop
  | .handleAddUser salt bindingErrors form =>
    ∀ row ∈ stores encoder missing db (.handleAddUser salt bindingErrors form),
      ∀ other ∈ db.users.rows, other.2.username = row.2.username → other.1 = row.1
  | _ => True

/-- Putting a row keeps usernames unique exactly if no other row has its username. -/
theorem put_unique {db : Db} (unique : UniqueUsernames db) {k : Id} (place : db.users.Open k) (user : User) :
    UniqueUsernames { db with users := db.users.put k user } ↔
      ∀ other ∈ db.users.rows, other.2.username = user.username → other.1 = k := by
  rw [uniqueUsernames_iff]
  exact distinct_put unique.1 place user

/-- Registration has looked that the username is free. -/
theorem registered_free {db : Db} {salt : Nat} {form : UserForm} {row : Id × User}
    (put : stores encoder missing db (.registerUser salt form) = some row) :
    ∀ other ∈ db.users.rows, other.2.username ≠ row.2.username := by
  obtain ⟨object,accepted,_,columns⟩ := stores_some put
  simp only [submitted] at accepted
  cases checked : registration encoder salt db.users form with
  | error e =>
    rw [checked] at accepted
    cases accepted
  | ok object' =>
    rw [checked] at accepted
    cases accepted
    obtain ⟨free,_,password,_,rfl⟩ := registration_ok checked
    intro other stored same
    rw [columns] at same
    rw [existsByUsername_iff.mpr ⟨other,stored,same⟩] at free
    cases free

theorem account_unique_iff (db : Db) (step : AccountStep) (unique : UniqueUsernames db) :
    UniqueUsernames (account encoder missing db step) ↔ NewUsername encoder missing db step := by
  cases step with
  | registerUser salt form =>
    refine ⟨fun _ => trivial,fun _ => ?_⟩
    rw [registerUser_db]
    cases put : stores encoder missing db (.registerUser salt form) with
    | none => exact unique
    | some row =>
      refine (put_unique unique (stores_open put) row.2).mpr ?_
      intro other stored same
      exact absurd same (registered_free put other stored)
  | handleAddUser salt bindingErrors form =>
    rw [handleAddUser_db,NewUsername]
    cases put : stores encoder missing db (.handleAddUser salt bindingErrors form) with
    | none => simpa using unique
    | some row => simpa using put_unique unique (stores_open put) row.2
  | updateProfile authentication form =>
    refine ⟨fun _ => trivial,fun _ => ?_⟩
    rcases updateProfile_db authentication form db with same | ⟨auth,k,old,_,_,_,_,_,_,_,_,stored,changed⟩
    · rw [same]
      exact unique
    · rw [changed,← put_stored stored]
      have place : db.users.Open k := .inr ⟨old,stored⟩
      refine (put_unique unique place _).mpr ?_
      intro other member same
      exact unique.1 other member (k,old) (find_eq_some.mp stored) same
  | deleteUser id =>
    refine ⟨fun _ => trivial,fun _ => ?_⟩
    rcases deleteUser_db id db with same | ⟨k,_,erased⟩
    · rw [same]
      exact unique
    · rw [erased,uniqueUsernames_iff]
      intro x hx y hy
      exact unique.1 x (mem_erase.mp hx).1 y (mem_erase.mp hy).1

/-- From no accounts, usernames are unique throughout exactly those runs in which
    the administrator submits new usernames. -/
theorem usernames_unique_iff (db : Db) (steps : List AccountStep) :
    Always (account encoder missing) UniqueUsernames { db with users := .empty } steps ↔
      Throughout (account encoder missing) (NewUsername encoder missing) { db with users := .empty } steps := by
  refine always_iff account_unique_iff ?_ steps
  rw [uniqueUsernames_iff]
  intro row impossible
  cases impossible

/-- The administrator's form sent twice. -/
theorem username_added_twice :
    ¬ Always (account markingEncoder .refuse) UniqueUsernames { Db.empty with users := .empty }
      [.handleAddUser 0 false ⟨none,rootUser⟩,.handleAddUser 0 false ⟨none,forgedUser⟩] := by
  decide

/-! ### Emails -/

/-- The operations that write emails, the registrations without id. -/
inductive EmailStep where
  | registerUser (salt : Nat) (columns : User)
  | updateProfile (authentication : Option Authentication) (form : ProfileForm)

variable (encoder missing) in
def writeEmail (db : Db) : EmailStep → Db
  | .registerUser salt columns => account encoder missing db (.registerUser salt ⟨none,columns⟩)
  | .updateProfile authentication form => account encoder missing db (.updateProfile authentication form)

/-- A profile form that is complete has an email that, once trimmed, no account has
    but the requester's. -/
def NewEmail (db : Db) : EmailStep → Prop
  | .registerUser _ _ => True
  | .updateProfile authentication form =>
    ∀ name row email, authentication.bind (fun auth => auth.name) = some name →
      findByUsername db.users (some name) = .ok (some row) → filled form.email = some email → form.complete = true →
      ∀ other ∈ db.users.rows, other.2.email = some email → other.1 = row.1

theorem registered_emails (salt : Nat) (columns : User) {db : Db} (distinct : db.users.Distinct User.email) :
    (writeEmail encoder missing db (.registerUser salt columns)).users.Distinct User.email := by
  rcases registerUser_new encoder missing salt columns db with ⟨e,refused⟩ | ⟨password,_,unused,_,registered⟩
  · rw [writeEmail,account,refused]
    exact distinct
  · rw [writeEmail,account,registered,← put_next]
    refine (distinct_put distinct (.inl rfl) _).mpr ?_
    intro other stored same
    have taken : existsByEmail db.users columns.email = true := by
      simp only [existsByEmail,decide_eq_true_eq,count_pos,beq_iff_eq]
      exact ⟨other,stored,same⟩
    rw [taken] at unused
    cases unused

theorem writeEmail_distinct_iff (db : Db) (step : EmailStep) (distinct : db.users.Distinct User.email) :
    (writeEmail encoder missing db step).users.Distinct User.email ↔ NewEmail db step := by
  cases step with
  | registerUser salt columns => exact iff_of_true (registered_emails salt columns distinct) trivial
  | updateProfile authentication form =>
    rcases updateProfile_outcomes authentication form db with
      ⟨name,k,old,email,_,_,_,_,isName,found,isEmail,complete,changed⟩ | ⟨same,incomplete⟩
    · have place : db.users.Open k := .inr ⟨old,(findByUsername_some found).1⟩
      rw [writeEmail,account,changed,← put_stored (findByUsername_some found).1,distinct_put distinct place]
      constructor
      · intro alone name' row email' isName' found' isEmail' _
        rw [isName] at isName'
        cases isName'
        rw [found] at found'
        cases found'
        rw [isEmail] at isEmail'
        cases isEmail'
        exact alone
      · intro new
        exact new name (k,old) email isName found isEmail complete
    · rw [writeEmail,account,same]
      refine iff_of_true distinct ?_
      intro name row email isName found isEmail complete
      rw [incomplete name row email isName found isEmail] at complete
      cases complete

/-- Emails stay distinct throughout exactly those runs in which no profile is given
    the email of another account: registration looks for it, the profile does not. -/
theorem emails_distinct_iff {db : Db} (distinct : db.users.Distinct User.email) (steps : List EmailStep) :
    Always (writeEmail encoder missing) (fun db => db.users.Distinct User.email) db steps ↔
      Throughout (writeEmail encoder missing) NewEmail db steps :=
  always_iff writeEmail_distinct_iff distinct steps

/-- A form with which a user takes an email, with a blank after it. -/
def emailForm (email : String) : ProfileForm := ⟨some "Ann",some "female",some "2",some "+1",some (email ++ " ")⟩

/-- Two users register, and the first of them takes a new email. -/
def moving : List EmailStep :=
  [.registerUser 0 annColumns,.registerUser 1 { annColumns with username := some "eve", email := some "eve@x.org" },
    .updateProfile (some ⟨some "ann",some "ann",["ROLE_USER"]⟩) (emailForm "lee@x.org")]

theorem emails_distinct_registered :
    Always (writeEmail markingEncoder .refuse) (fun db => db.users.Distinct User.email) rootDb moving := by
  refine (emails_distinct_iff (by decide) moving).mpr ⟨trivial,trivial,?_,trivial⟩
  intro name row email _ _ isEmail _ other stored same
  cases isEmail
  have new : ∀ other ∈ ((moving.take 2).foldl (writeEmail markingEncoder .refuse) rootDb).users.rows,
      other.2.email ≠ filled (some "lee@x.org ") := by decide
  exact absurd same (new other stored)

/-- A user registers, and then takes the administrator's email. -/
theorem email_taken :
    ¬ Always (writeEmail markingEncoder .refuse) (fun db => db.users.Distinct User.email) rootDb
      [.registerUser 0 annColumns,.updateProfile (some ⟨some "ann",some "ann",["ROLE_USER"]⟩) (emailForm "root@x.org")] := by
  decide

end LibraryServer.AccountIntegrity
