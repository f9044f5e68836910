import LibraryServer.JwtFilter
import LibraryServer.LendingServices

/-!
Accounts: registration, the form of the administrator, the profile form, login
and deletion. The forms are bound to whole `User` objects, the id included, and
saved as they are. The password encoder is a parameter.
-/
namespace LibraryServer.Accounts
open LibraryServer.Java LibraryServer.Tables LibraryServer.Programs LibraryServer.Entities LibraryServer.Repositories
open LibraryServer.JwtFilter LibraryServer.LendingServices
set_option linter.unusedSimpArgs false

/-! ### Queries for users -/

/-- A null argument asks for a null column. -/
def named (username : Option String) (user : User) : Bool := user.username == username

/-- Two matches are an error. -/
def findByUsername (users : Table User) (username : Option String) : Except Exc (Option (Id × User)) :=
  match users.select (named username) with
  | [] => .ok none
  | [row] => .ok (some row)
  | _ => .error .incorrectResultSize

def existsByUsername (users : Table User) (username : Option String) : Bool := 0 < users.count (named username)

def existsByEmail (users : Table User) (email : Option String) : Bool := 0 < users.count (fun user => user.email == email)

theorem findByUsername_some {users : Table User} {username : Option String} {row : Id × User}
    (found : findByUsername users username = .ok (some row)) :
    users.find row.1 = some row.2 ∧ row.2.username = username := by
  unfold findByUsername at found
  split at found
  · cases found
  · rename_i only selected
    cases found
    obtain ⟨stored,same⟩ := select_head selected
    exact ⟨find_eq_some.mpr stored,by simpa [named] using same⟩
  · cases found

/-- A lookup by the name of a stored user finds that user, unless there are others
    of the same name. -/
theorem findByUsername_stored {users : Table User} {k : Id} {user : User} (stored : users.find k = some user) :
    findByUsername users user.username = .ok (some (k,user)) ∨
      findByUsername users user.username = .error .incorrectResultSize := by
  have member : (k,user) ∈ users.select (named user.username) :=
    mem_select.mpr ⟨find_eq_some.mp stored,by simp [named]⟩
  unfold findByUsername
  split
  · rename_i selected
    rw [selected] at member
    cases member
  · rename_i row selected
    rw [selected,List.mem_singleton] at member
    exact .inl (by rw [member])
  · exact .inr rfl

/-- That is so exactly if the name is nobody else's. -/
theorem findByUsername_alone {users : Table User} {k : Id} {user : User} (stored : users.find k = some user) :
    findByUsername users user.username = .ok (some (k,user)) ↔
      ∀ row ∈ users.rows, row.2.username = user.username → row.1 = k := by
  have member : (k,user) ∈ users.select (named user.username) :=
    mem_select.mpr ⟨find_eq_some.mp stored,by simp [named]⟩
  constructor
  · intro found row out same
    have selected : row ∈ users.select (named user.username) := mem_select.mpr ⟨out,by simpa [named] using same⟩
    unfold findByUsername at found
    split at found
    · cases found
    · rename_i only one
      rw [one,List.mem_singleton] at member selected
      rw [selected,← member]
    · cases found
  · intro alone
    have keys : ∀ row ∈ users.select (named user.username), row.1 = k := by
      intro row selected
      obtain ⟨out,same⟩ := mem_select.mp selected
      exact alone row out (by simpa [named] using same)
    rcases select_single (fun x hx y hy => (keys x hx).trans (keys y hy).symm) with none_found | ⟨row,one⟩
    · rw [none_found] at member
      cases member
    · rw [one,List.mem_singleton] at member
      simp only [findByUsername,one,member]

/-- And the lookup fails exactly if somebody else has the name. -/
theorem findByUsername_shared {users : Table User} {k : Id} {user : User} (stored : users.find k = some user) :
    findByUsername users user.username = .error .incorrectResultSize ↔
      ∃ row ∈ users.rows, row.2.username = user.username ∧ row.1 ≠ k := by
  have alone := findByUsername_alone stored
  rcases findByUsername_stored stored with found | several
  · refine iff_of_false (fun failed => by rw [found] at failed; cases failed) ?_
    rintro ⟨row,member,same,other⟩
    exact other (alone.mp found row member same)
  · refine iff_of_true several ?_
    by_contra nobody_else
    have found := alone.mpr (fun row member same => by
      by_contra other
      exact nobody_else ⟨row,member,same,other⟩)
    rw [several] at found
    cases found

theorem select_free {users : Table User} {username : Option String} (free : existsByUsername users username = false) :
    users.select (named username) = [] := by
  rw [existsByUsername,decide_eq_false_iff_not,Nat.not_lt,Nat.le_zero] at free
  exact List.length_eq_zero_iff.mp free

/-- A user who is the first of the name is found by it. -/
theorem findByUsername_insert {users : Table User} {user : User} (free : existsByUsername users user.username = false) :
    findByUsername (users.insert user) user.username = .ok (some (users.next,user)) := by
  have same : named user.username user = true := by simp [named]
  simp only [findByUsername,select_insert,select_free free,same,if_true,List.nil_append]

/-- Another user does not change the lookup of a name that is taken. -/
theorem findByUsername_insert_other {users : Table User} {user : User} {username : Option String}
    (free : existsByUsername users user.username = false) (taken : findByUsername users username ≠ .ok none) :
    findByUsername (users.insert user) username = findByUsername users username := by
  have other : named username user = false := by
    rw [named,beq_eq_false_iff_ne]
    rintro rfl
    exact taken (by simp only [findByUsername,select_free free])
  simp [findByUsername,select_insert,other]

theorem existsByUsername_iff {users : Table User} {username : Option String} :
    existsByUsername users username = true ↔ ∃ row ∈ users.rows, row.2.username = username := by
  simp [existsByUsername,count_pos,named]

/-! ### Registration and the administrator's form -/

/-- A password encoder: encoding draws a salt, and what it returns verifies. -/
structure PasswordEncoder where
  encode : Nat → Option String → Except Exc String
  verifies : Option String → Option String → Except Exc Bool
  verifies_encode : ∀ salt raw hash, encode salt raw = .ok hash → verifies raw (some hash) = .ok true

/-- A `User` as a form binds it. -/
structure UserForm where
  id : Option Id
  columns : User
deriving DecidableEq

/-- `AuthService.isBlank`. -/
def isMissing : Option String → Bool
  | none => true
  | some s => trim s == ""

def require (field : Option String) (message : String) : Except Exc Unit :=
  if isMissing field then .error (.runtimeException message) else .ok ()

def validateUserFields (user : User) : Except Exc Unit := do
  require user.fullName "Full name is required."
  require user.mobileNumber "Mobile number is required."
  require user.countryCode "Country code is required."

/-- What `registerUser` hands to `save`. -/
def registration (encoder : PasswordEncoder) (salt : Nat) (users : Table User) (form : UserForm) : Except Exc UserForm :=
  if existsByUsername users form.columns.username then .error (.runtimeException "Username already taken")
  else if existsByEmail users form.columns.email then .error (.runtimeException "Email already taken")
  else do
    validateUserFields form.columns
    let password ← encoder.encode salt form.columns.password
    .ok { form with columns := { form.columns with password := some password } }

/-- A registration that is accepted has a free username and email, and is the
    form with its password encoded. -/
theorem registration_ok {encoder : PasswordEncoder} {salt : Nat} {users : Table User} {form object : UserForm}
    (accepted : registration encoder salt users form = .ok object) :
    existsByUsername users form.columns.username = false ∧ existsByEmail users form.columns.email = false ∧
      ∃ password, encoder.encode salt form.columns.password = .ok password ∧
        object = { form with columns := { form.columns with password := some password } } := by
  unfold registration at accepted
  split_ifs at accepted with username email
  cases valid : validateUserFields form.columns with
  | error e =>
    rw [valid] at accepted
    cases accepted
  | ok _ =>
    cases encoded : encoder.encode salt form.columns.password with
    | error e =>
      rw [valid,encoded] at accepted
      cases accepted
    | ok password =>
      rw [valid,encoded] at accepted
      cases accepted
      exact ⟨by simpa using username,by simpa using email,password,rfl,rfl⟩

def saveUser (missing : OnMissing) (db : Db) (object : UserForm) : Except Exc Unit × Db :=
  match save missing db.users object.id object.columns with
  | .error e => (.error e,db)
  | .ok users => (.ok (),{ db with users := users })

def registerUser (encoder : PasswordEncoder) (missing : OnMissing) (salt : Nat) (form : UserForm) (db : Db) :
    Except Exc Unit × Db :=
  match registration encoder salt db.users form with
  | .error e => (.error e,db)
  | .ok object => saveUser missing db object

/-- A form without id is refused, or it becomes a new row with its password
    encoded. -/
theorem registerUser_new (encoder : PasswordEncoder) (missing : OnMissing) (salt : Nat) (columns : User) (db : Db) :
    (∃ e, registerUser encoder missing salt ⟨none,columns⟩ db = (.error e,db)) ∨
      ∃ password, existsByUsername db.users columns.username = false ∧ existsByEmail db.users columns.email = false ∧
        encoder.encode salt columns.password = .ok password ∧
        registerUser encoder missing salt ⟨none,columns⟩ db =
          (.ok (),{ db with users := db.users.insert { columns with password := some password } }) := by
  unfold registerUser
  cases registered : registration encoder salt db.users ⟨none,columns⟩ with
  | error e => exact .inl ⟨e,rfl⟩
  | ok object =>
    obtain ⟨free,unused,password,encoded,rfl⟩ := registration_ok registered
    exact .inr ⟨password,free,unused,encoded,rfl⟩

def addUserError : Page := ⟨"redirect:/add_user",[("errorMessage","An error occurred while adding the user.")]⟩

/-- What `handleAddUser` hands to `save`, or the page it shows instead. -/
def addition (encoder : PasswordEncoder) (salt : Nat) (bindingErrors : Bool) (form : UserForm) : Except Page UserForm :=
  if bindingErrors then .error ⟨"add_user",[("errorMessage","Please correct the errors in the form.")]⟩
  else
    match encoder.encode salt form.columns.password with
    | .error _ => .error addUserError
    | .ok password =>
      if form.columns.sex = none then .error ⟨"add_user",[("sex","Sex must be selected.")]⟩
      else
        .ok { form with
          columns := { form.columns with password := some password, role := some (form.columns.role.getD .USER) } }

def handleAddUser (encoder : PasswordEncoder) (missing : OnMissing) (salt : Nat) (bindingErrors : Bool) (form : UserForm)
    (db : Db) : Page × Db :=
  match addition encoder salt bindingErrors form with
  | .error page => (page,db)
  | .ok object =>
    match saveUser missing db object with
    | (.error _,after) => (addUserError,after)
    | (.ok _,after) => (⟨"redirect:/dashboard",[("successMessage","User added successfully!")]⟩,after)

/-! ### The profile form -/

structure ProfileForm where
  fullName : Option String
  sex : Option String
  mobileNumber : Option String
  countryCode : Option String
  email : Option String

/-- A required field, trimmed, unless it is null or blank. -/
def filled : Option String → Option String
  | none => none
  | some s => if isBlank s then none else some (trim s)

/-- `Sex.valueOf`. -/
def sexOf (s : String) : Option Sex := [Sex.MALE,.FEMALE,.OTHER].find? (fun sex => sex.name == s)

/-- `UserServiceImpl.updateUser`, which copies five fields. -/
def updateUser (id : Id) (updated : User) (db : Db) : Except Exc Unit × Db :=
  match db.users.find id with
  | none => (.error (.runtimeException ("User not found with ID: " ++ toString id)),db)
  | some existing =>
    let user :=
      { existing with
        fullName := updated.fullName
        email := updated.email
        sex := updated.sex
        mobileNumber := updated.mobileNumber
        countryCode := updated.countryCode }
    (.ok (),{ db with users := db.users.set id user })

def profileError (message : String) : Page := ⟨"profile",[("error",message)]⟩

def updateProfile (authentication : Option Authentication) (form : ProfileForm) (db : Db) : Except Exc Page × Db :=
  match authentication.bind (fun auth => auth.name) with
  | none => (.ok ⟨"redirect:/login",[]⟩,db)
  | some name =>
    match findByUsername db.users (some name) with
    | .error e => (.error e,db)
    | .ok none => (.ok ⟨"redirect:/login",[]⟩,db)
    | .ok (some (id,user)) =>
      match filled form.fullName, filled form.email, filled form.mobileNumber, filled form.countryCode with
      | some fullName, some email, some mobileNumber, some countryCode =>
        match form.sex.map (fun sex => sexOf (toUpperCase sex)) with
        | none => (.error .nullPointer,db)
        | some none => (.ok (profileError "Invalid gender selected."),db)
        | some (some sex) =>
          let changed :=
            { user with
              fullName := some fullName
              email := some email
              mobileNumber := some mobileNumber
              countryCode := some countryCode
              sex := some sex }
          match updateUser id changed db with
          | (.error e,after) => (.ok (profileError ("Failed to update profile: " ++ e.message)),after)
          | (.ok _,after) => (.ok ⟨"redirect:/profile",[("success","Profile updated successfully!")]⟩,after)
      | _, _, _, _ => (.ok (profileError "All fields are required."),db)

/-! ### Login -/

/-- The claims of the token that a login returns. -/
def loginUser (encoder : PasswordEncoder) (now lifetime : Int) (username rawPassword : Option String) (users : Table User) :
    Except Exc Claims :=
  match findByUsername users username with
  | .error e => .error e
  | .ok none => .error (.runtimeException "User not found")
  | .ok (some (_,user)) =>
    match encoder.verifies rawPassword user.password with
    | .error e => .error e
    | .ok false => .error (.runtimeException "Invalid credentials")
    | .ok true =>
      match user.role with
      | none => .error .nullPointer
      | some role => .ok { subject := user.username, role := some role.name, expiresAt := now + lifetime }

/-- The claims are those of a stored user. -/
theorem loginUser_ok {encoder : PasswordEncoder} {now lifetime : Int} {username rawPassword : Option String}
    {users : Table User} {claims : Claims} (login : loginUser encoder now lifetime username rawPassword users = .ok claims) :
    ∃ row ∈ users.rows, ∃ role, row.2.role = some role ∧ claims.subject = row.2.username ∧ claims.role = some role.name := by
  unfold loginUser at login
  split at login
  · cases login
  · cases login
  · rename_i k user found
    obtain ⟨stored,_⟩ := findByUsername_some found
    split at login
    · cases login
    · cases login
    · split at login
      · cases login
      · cases login
        exact ⟨(k,user),find_eq_some.mp stored,_,by assumption,rfl,rfl⟩

/-- The submitted password lets in the user who was registered with it, provided
    that a role was submitted. -/
theorem loginUser_registered {encoder : PasswordEncoder} {missing : OnMissing} {salt : Nat} {form : UserForm} {db after : Db}
    (now lifetime : Int) (unset : form.id = none) (accepted : registerUser encoder missing salt form db = (.ok (),after)) :
    loginUser encoder now lifetime form.columns.username form.columns.password after.users =
      match form.columns.role with
      | none => .error .nullPointer
      | some role => .ok { subject := form.columns.username, role := some role.name, expiresAt := now + lifetime } := by
  obtain ⟨_,columns⟩ := form
  subst unset
  rcases registerUser_new encoder missing salt columns db with ⟨e,refused⟩ | ⟨password,free,_,encoded,registered⟩
  · rw [refused] at accepted
    cases accepted
  · rw [registered] at accepted
    cases accepted
    have found : findByUsername (db.users.insert { columns with password := some password }) columns.username =
        .ok (some (db.users.next,{ columns with password := some password })) :=
      findByUsername_insert free
    have verified := encoder.verifies_encode salt columns.password password encoded
    simp only [loginUser,found,verified]

/-! ### What one operation does to the accounts -/

theorem deleteUser_transaction (k : Id) (db : Db) :
    transactional (deleteUser (some k)) db =
      match db.users.find k with
      | none => (.ok false,db)
      | some _ =>
        if db.userReferenced k then (.error .dataIntegrityViolation,db)
        else (.ok true,{ db with users := db.users.erase k }) := by
  rw [transactional,Prog.transact,deleteUser,run_findUserById]
  cases db.users.find k with
  | none => rfl
  | some user =>
    simp only [Option.map_some,run_deleteUserRow]
    cases db.userReferenced k <;> rfl

inductive AccountStep where
  | registerUser (salt : Nat) (form : UserForm)
  | handleAddUser (salt : Nat) (bindingErrors : Bool) (form : UserForm)
  | updateProfile (authentication : Option Authentication) (form : ProfileForm)
  | deleteUser (id : Option Id)

section
variable (encoder : PasswordEncoder) (missing : OnMissing)

/-- The database after an operation, each executed alone. -/
def account (db : Db) : AccountStep → Db
  | .registerUser salt form => (registerUser encoder missing salt form db).2
  | .handleAddUser salt bindingErrors form => (handleAddUser encoder missing salt bindingErrors form db).2
  | .updateProfile authentication form => (updateProfile authentication form db).2
  | .deleteUser id => (transactional (deleteUser id) db).2

/-- The object that an operation hands to `save`, if it gets that far. -/
def submitted (db : Db) : AccountStep → Option UserForm
  | .registerUser salt form => (registration encoder salt db.users form).toOption
  | .handleAddUser salt bindingErrors form => (addition encoder salt bindingErrors form).toOption
  | _ => none

/-- The row that an operation puts into the table: the submitted columns under
    the key of the row they replace or under a fresh one. -/
def stores (db : Db) (step : AccountStep) : Option (Id × User) :=
  (submitted encoder db step).bind
    (fun object => (saveKey missing db.users object.id).map (fun k => (k,object.columns)))

end

variable {encoder : PasswordEncoder} {missing : OnMissing}

theorem saveUser_db (db : Db) (object : UserForm) :
    (saveUser missing db object).2 =
      match saveKey missing db.users object.id with
      | some k => { db with users := db.users.put k object.columns }
      | none => db := by
  rw [saveUser,save_eq]
  cases saveKey missing db.users object.id <;> rfl

theorem registerUser_db (salt : Nat) (form : UserForm) (db : Db) :
    account encoder missing db (.registerUser salt form) =
      match stores encoder missing db (.registerUser salt form) with
      | some row => { db with users := db.users.put row.1 row.2 }
      | none => db := by
  simp only [account,registerUser,stores,submitted]
  cases registration encoder salt db.users form with
  | error e => rfl
  | ok object =>
    simp only [saveUser_db,Except.toOption,Option.bind_some]
    cases saveKey missing db.users object.id <;> rfl

theorem handleAddUser_db (salt : Nat) (bindingErrors : Bool) (form : UserForm) (db : Db) :
    account encoder missing db (.handleAddUser salt bindingErrors form) =
      match stores encoder missing db (.handleAddUser salt bindingErrors form) with
      | some row => { db with users := db.users.put row.1 row.2 }
      | none => db := by
  simp only [account,handleAddUser,stores,submitted]
  cases addition encoder salt bindingErrors form with
  | error page => rfl
  | ok object =>
    simp only [Except.toOption,Option.bind_some]
    have same : ∀ outcome : Except Exc Unit × Db,
        (match outcome with
          | (.error _,after) => (addUserError,after)
          | (.ok _,after) => ((⟨"redirect:/dashboard",[("successMessage","User added successfully!")]⟩ : Page),after)).2 =
        outcome.2 := by
      rintro ⟨_ | _,after⟩ <;> rfl
    rw [same,saveUser_db]
    cases saveKey missing db.users object.id <;> rfl

/-- The row that is put has the columns submitted, under the key for them. -/
theorem stores_some {db : Db} {step : AccountStep} {row : Id × User} (put : stores encoder missing db step = some row) :
    ∃ object, submitted encoder db step = some object ∧ saveKey missing db.users object.id = some row.1 ∧
      row.2 = object.columns := by
  simp only [stores,Option.bind_eq_some_iff,Option.map_eq_some_iff] at put
  obtain ⟨object,accepted,k,key,rfl⟩ := put
  exact ⟨object,accepted,key,rfl⟩

theorem stores_open {db : Db} {step : AccountStep} {row : Id × User} (put : stores encoder missing db step = some row) :
    db.users.Open row.1 := by
  obtain ⟨_,_,key,_⟩ := stores_some put
  exact saveKey_open key

/-- The fields of the profile form beside the email are filled in. -/
def ProfileForm.complete (form : ProfileForm) : Bool :=
  (filled form.fullName).isSome && (filled form.mobileNumber).isSome && (filled form.countryCode).isSome &&
    (form.sex.bind (fun sex => sexOf (toUpperCase sex))).isSome

theorem unfilled_incomplete {form : ProfileForm} {email : String} (isEmail : filled form.email = some email)
    (unfilled : ∀ fullName email mobileNumber countryCode, filled form.fullName = some fullName →
      filled form.email = some email → filled form.mobileNumber = some mobileNumber →
      filled form.countryCode = some countryCode → False) : form.complete = false := by
  cases isFullName : filled form.fullName with
  | none => simp [ProfileForm.complete,isFullName]
  | some fullName =>
    cases isMobile : filled form.mobileNumber with
    | none => simp [ProfileForm.complete,isMobile]
    | some mobileNumber =>
      cases isCountry : filled form.countryCode with
      | none => simp [ProfileForm.complete,isCountry]
      | some countryCode => exact (unfilled fullName email mobileNumber countryCode isFullName isEmail isMobile isCountry).elim

/-- The profile form changes five columns of the row with the requester's name, or
    nothing if there is no such row or a field is not filled in. -/
theorem updateProfile_outcomes (authentication : Option Authentication) (form : ProfileForm) (db : Db) :
    (∃ name k old email fullName sex mobileNumber countryCode,
        authentication.bind (fun auth => auth.name) = some name ∧
        findByUsername db.users (some name) = .ok (some (k,old)) ∧ filled form.email = some email ∧ form.complete = true ∧
        (updateProfile authentication form db).2 =
          { db with
            users := db.users.set k
              { old with
                fullName := fullName, email := some email, sex := sex, mobileNumber := mobileNumber,
                countryCode := countryCode } }) ∨
      (updateProfile authentication form db).2 = db ∧
        ∀ name row email, authentication.bind (fun auth => auth.name) = some name →
          findByUsername db.users (some name) = .ok (some row) → filled form.email = some email → form.complete = false := by
  unfold updateProfile
  split
  · rename_i nobody
    exact .inr ⟨rfl,fun name _ _ somebody => by rw [nobody] at somebody; cases somebody⟩
  · rename_i name isName
    have other : ∀ {found}, findByUsername db.users (some name) = found → (∀ row, found ≠ .ok (some row)) →
        ∀ name row email, authentication.bind (fun auth => auth.name) = some name →
          findByUsername db.users (some name) = .ok (some row) → filled form.email = some email → form.complete = false := by
      intro found isFound absent name' row email same stored _
      rw [isName] at same
      cases same
      rw [isFound] at stored
      exact absurd stored (absent row)
    split
    · rename_i e failed
      exact .inr ⟨rfl,other failed (fun _ impossible => by cases impossible)⟩
    · rename_i unknown
      exact .inr ⟨rfl,other unknown (fun _ impossible => by cases impossible)⟩
    · rename_i k old found
      obtain ⟨stored,_⟩ := findByUsername_some found
      split
      · rename_i fullName email mobileNumber countryCode isFullName isEmail isMobile isCountry
        split
        · rename_i unset
          refine .inr ⟨rfl,fun _ _ _ _ _ _ => ?_⟩
          have noSex : form.sex = none := by simpa using unset
          simp [ProfileForm.complete,noSex]
        · rename_i invalid
          refine .inr ⟨rfl,fun _ _ _ _ _ _ => ?_⟩
          obtain ⟨sex,isSex,noSuch⟩ := Option.map_eq_some_iff.mp invalid
          simp [ProfileForm.complete,isSex,noSuch]
        · rename_i sex valid
          obtain ⟨text,isSex,named⟩ := Option.map_eq_some_iff.mp valid
          refine .inl ⟨name,k,old,email,some fullName,some sex,some mobileNumber,some countryCode,isName,found,isEmail,?_,?_⟩
          · simp [ProfileForm.complete,isFullName,isMobile,isCountry,isSex,named]
          · simp only [updateUser,stored]
      · rename_i unfilled
        exact .inr ⟨rfl,fun _ _ _ _ _ isEmail => unfilled_incomplete isEmail unfilled⟩

/-- The row keeps its key, its name and its credentials. -/
theorem updateProfile_db (authentication : Option Authentication) (form : ProfileForm) (db : Db) :
    account encoder missing db (.updateProfile authentication form) = db ∨
      ∃ auth k old fullName email sex mobileNumber countryCode, authentication = some auth ∧ auth.name ≠ none ∧
        old.username = auth.name ∧ db.users.find k = some old ∧
        account encoder missing db (.updateProfile authentication form) =
          { db with
            users := db.users.set k
              { old with
                fullName := fullName, email := email, sex := sex, mobileNumber := mobileNumber,
                countryCode := countryCode } } := by
  rcases updateProfile_outcomes authentication form db with
    ⟨name,k,old,email,fullName,sex,mobileNumber,countryCode,isName,found,_,_,changed⟩ | ⟨same,_⟩
  · obtain ⟨auth,rfl,own⟩ := Option.bind_eq_some_iff.mp isName
    obtain ⟨stored,named⟩ := findByUsername_some found
    exact .inr ⟨auth,k,old,fullName,some email,sex,mobileNumber,countryCode,rfl,by simp [own],by rw [own]; exact named,
      stored,changed⟩
  · exact .inl same

/-- Deletion by id removes at most the row of the id. -/
theorem deleteUser_db (id : Option Id) (db : Db) :
    account encoder missing db (.deleteUser id) = db ∨
      ∃ k, id = some k ∧ account encoder missing db (.deleteUser id) = { db with users := db.users.erase k } := by
  cases id with
  | none => exact .inl (by simp [account,transactional,Prog.transact,deleteUser,lands,Exc.isChecked])
  | some k =>
    rw [account,deleteUser_transaction]
    cases db.users.find k with
    | none => exact .inl rfl
    | some user =>
      simp only
      split_ifs
      · exact .inl rfl
      · exact .inr ⟨k,rfl,rfl⟩

/-! ### A server with one account -/

/-- An encoder that marks what it encodes. -/
def markingEncoder : PasswordEncoder where
  encode
    | _, some raw => .ok ("hash of " ++ raw)
    | _, none => .error (.illegalArgument "rawPassword cannot be null")
  verifies
    | some raw, some hash => .ok (hash == "hash of " ++ raw)
    | some _, none => .ok false
    | none, _ => .error (.illegalArgument "rawPassword cannot be null")
  verifies_encode := by
    intro salt raw hash encoded
    cases raw with
    | none => cases encoded
    | some raw =>
      cases encoded
      simp

/-- An administrator, who has the id 1. -/
def rootUser : User :=
  ⟨some "Root",some "root",some "hash of secret",some "root@x.org",some "1",some "+1",some .ADMIN,some .OTHER⟩

def rootDb : Db := { Db.empty with users := Table.empty.insert rootUser }

/-- What a new user fills in. -/
def annColumns : User :=
  ⟨some "Ann",some "ann",some "pw",some "ann@x.org",some "2",some "+1",some .USER,some .FEMALE⟩

end LibraryServer.Accounts
