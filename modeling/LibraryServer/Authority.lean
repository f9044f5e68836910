import LibraryServer.Accounts
import LibraryServer.Runs

/-!
Who may do what. The path of the user deletion is public, so its controller never
sees an authentication, and its check takes a missing one for an administrator's:
one body of the controller then deletes for everybody and the other for nobody.
The filter grants what a token says, so an account keeps its authority for the
life of its tokens, also when it is deleted or replaced. Whoever registers can sign
in as what was submitted, provided that a role was.
-/
namespace LibraryServer.Authority
open LibraryServer.Java LibraryServer.Tables LibraryServer.Programs LibraryServer.Entities LibraryServer.Repositories
open LibraryServer.Runs LibraryServer.JwtFilter LibraryServer.Accounts
set_option linter.unusedSimpArgs false

/-! ### Deleting users -/

/-- `isAdmin` of both bodies; nobody at all counts as an administrator. -/
def isAdmin (users : Table User) (authentication : Option Authentication) : Except Exc Bool :=
  match authentication.bind (fun auth => auth.name) with
  | none => .ok true
  | some name =>
    match findByUsername users (some name) with
    | .error e => .error e
    | .ok none => .ok false
    | .ok (some (_,user)) =>
      match user.role with
      | none => .error .nullPointer
      | some role => .ok ("ADMIN" == role.name)

def message (text category : String) : List (String × String) := [("message",text),("messageCategory",category)]

def accessDenied : Page := ⟨"redirect:/dashboard",message "Access denied." "danger"⟩

/-- What both bodies do once the check is passed. -/
def deleteSelected (userId : Id) (db : Db) : Except Exc Page × Db :=
  match transactional (LendingServices.deleteUser (some userId)) db with
  | (.error e,after) => (.error e,after)
  | (.ok true,after) => (.ok ⟨"redirect:/delete_user",message "User deleted successfully." "success"⟩,after)
  | (.ok false,after) => (.ok ⟨"redirect:/delete_user",message "User not found." "danger"⟩,after)

/-- `handleDeleteUser` in the first body, which denies access unless `isAdmin`. -/
def handleDeleteUserFirst (authentication : Option Authentication) (userId : Id) (db : Db) : Except Exc Page × Db :=
  match isAdmin db.users authentication with
  | .error e => (.error e,db)
  | .ok admin => if !admin then (.ok accessDenied,db) else deleteSelected userId db

/-- `handleDeleteUser` in the second body, which denies access if `isAdmin`. -/
def handleDeleteUserSecond (authentication : Option Authentication) (userId : Id) (db : Db) : Except Exc Page × Db :=
  match isAdmin db.users authentication with
  | .error e => (.error e,db)
  | .ok admin => if admin then (.ok accessDenied,db) else deleteSelected userId db

/-- A request to POST /delete_user. -/
def deleteUserRequest (cookies : Option (List Cookie)) (authorization : Option String) : HttpRequest :=
  ⟨"/delete_user",cookies,authorization⟩

/-- The request carries an accepted token of a stored administrator. -/
def AdminToken (decodeToken : String → Option Claims) (db : Db) (request : HttpRequest) : Prop :=
  ∃ token ∈ extractToken request, ∃ claims ∈ decodeToken token, ∃ name ∈ claims.subject,
    ∃ row ∈ db.users.rows, row.2.username = some name ∧ row.2.role = some .ADMIN

/-- The row exists and no loan refers to it. -/
def Deletable (db : Db) (userId : Id) : Prop := (db.users.find userId).isSome ∧ db.userReferenced userId = false

/-- The law of user deletion, for a handler behind the filter. -/
def Lawful (handler : Option Authentication → Id → Db → Except Exc Page × Db) (matcher : PathMatcher)
    (decodeToken : String → Option Claims) (db : Db) (request : HttpRequest) (userId : Id) : Prop :=
  let after := (handler (doFilter matcher decodeToken request) userId db).2
  ((db.users.find userId).isSome ∧ after.users.find userId = none ↔
      AdminToken decodeToken db request ∧ Deletable db userId) ∧
    (¬ (AdminToken decodeToken db request ∧ Deletable db userId) → after.users = db.users)

instance (decodeToken : String → Option Claims) (db : Db) (request : HttpRequest) :
    Decidable (AdminToken decodeToken db request) := by
  unfold AdminToken
  infer_instance

instance (db : Db) (userId : Id) : Decidable (Deletable db userId) := by
  unfold Deletable
  infer_instance

instance (handler : Option Authentication → Id → Db → Except Exc Page × Db) (matcher : PathMatcher)
    (decodeToken : String → Option Claims) (db : Db) (request : HttpRequest) (userId : Id) :
    Decidable (Lawful handler matcher decodeToken db request userId) := by
  unfold Lawful
  infer_instance

theorem deleteSelected_users (userId : Id) (db : Db) :
    (deleteSelected userId db).2.users = if Deletable db userId then db.users.erase userId else db.users := by
  rw [deleteSelected,deleteUser_transaction]
  cases stored : db.users.find userId with
  | none => simp [Deletable,stored]
  | some user => cases referenced : db.userReferenced userId <;> simp [Deletable,stored,referenced]

theorem deleteUser_unauthenticated (matcher : PathMatcher) (decodeToken : String → Option Claims)
    (cookies : Option (List Cookie)) (authorization : Option String) :
    doFilter matcher decodeToken (deleteUserRequest cookies authorization) = none := by
  have skipped : shouldNotFilter matcher (deleteUserRequest cookies authorization) = true :=
    shouldNotFilter_listed matcher (show "/delete_user" ∈ publicPaths by decide) (show plain "/delete_user" = true by decide)
  rw [doFilter,if_pos skipped]

section
variable {handler : Option Authentication → Id → Db → Except Exc Page × Db} {matcher : PathMatcher}
  {decodeToken : String → Option Claims} {db : Db} {request : HttpRequest} {userId : Id}

theorem row_not_gone : ¬ ((db.users.find userId).isSome ∧ db.users.find userId = none) := by
  rintro ⟨stored,gone⟩
  rw [gone] at stored
  cases stored

/-- A handler that deletes for everybody keeps the law if only administrators ask. -/
theorem lawful_deleting
    (users : (handler (doFilter matcher decodeToken request) userId db).2.users =
      if Deletable db userId then db.users.erase userId else db.users) :
    Lawful handler matcher decodeToken db request userId ↔ (Deletable db userId → AdminToken decodeToken db request) := by
  rw [Lawful,users]
  by_cases deletable : Deletable db userId
  · have gone : (db.users.erase userId).find userId = none := by rw [find_erase,if_pos rfl]
    rw [if_pos deletable]
    constructor
    · intro law _
      exact (law.1.mp ⟨deletable.1,gone⟩).1
    · intro admin
      have both := And.intro (admin deletable) deletable
      exact ⟨iff_of_true ⟨deletable.1,gone⟩ both,fun neither => absurd both neither⟩
  · rw [if_neg deletable]
    exact iff_of_true ⟨iff_of_false row_not_gone (fun both => deletable both.2),fun _ => rfl⟩
      (fun yes => absurd yes deletable)

/-- A handler that deletes for nobody keeps the law if no administrator asks. -/
theorem lawful_denying (users : (handler (doFilter matcher decodeToken request) userId db).2.users = db.users) :
    Lawful handler matcher decodeToken db request userId ↔ (Deletable db userId → ¬ AdminToken decodeToken db request) := by
  rw [Lawful,users]
  constructor
  · intro law deletable admin
    exact row_not_gone (law.1.mpr ⟨admin,deletable⟩)
  · intro others
    exact ⟨iff_of_false row_not_gone (fun both => others both.2 both.1),fun _ => rfl⟩

end

/-- Behind the filter, the first body deletes for everybody and keeps the law
    exactly if nobody else than an administrator asks for a row that can go; the
    second deletes for nobody. Neither checks the token. -/
theorem delete_user_gate (matcher : PathMatcher) (decodeToken : String → Option Claims) (db : Db)
    (cookies : Option (List Cookie)) (authorization : Option String) (userId : Id) :
    let request := deleteUserRequest cookies authorization
    (Lawful handleDeleteUserFirst matcher decodeToken db request userId ↔
        (Deletable db userId → AdminToken decodeToken db request)) ∧
      (Lawful handleDeleteUserSecond matcher decodeToken db request userId ↔
        (Deletable db userId → ¬ AdminToken decodeToken db request)) ∧
      (Lawful handleDeleteUserFirst matcher decodeToken db request userId ∧
          Lawful handleDeleteUserSecond matcher decodeToken db request userId ↔ ¬ Deletable db userId) := by
  intro request
  have first : Lawful handleDeleteUserFirst matcher decodeToken db request userId ↔
      (Deletable db userId → AdminToken decodeToken db request) := by
    have passed : handleDeleteUserFirst (doFilter matcher decodeToken request) userId db = deleteSelected userId db := by
      rw [deleteUser_unauthenticated]
      rfl
    exact lawful_deleting (by rw [passed,deleteSelected_users])
  have second : Lawful handleDeleteUserSecond matcher decodeToken db request userId ↔
      (Deletable db userId → ¬ AdminToken decodeToken db request) := by
    have denied : handleDeleteUserSecond (doFilter matcher decodeToken request) userId db = (.ok accessDenied,db) := by
      rw [deleteUser_unauthenticated]
      rfl
    exact lawful_denying (by rw [denied])
  refine ⟨first,second,?_⟩
  rw [first,second]
  constructor
  · intro both deletable
    exact both.2 deletable (both.1 deletable)
  · intro absent
    exact ⟨fun deletable => absurd deletable absent,fun deletable => absurd deletable absent⟩

/-- Without any token the first body deletes the administrator; the second denies
    the administrator's own token. -/
theorem delete_user_gate_broken :
    ¬ Lawful handleDeleteUserFirst antMatcher (fun _ => none) rootDb (deleteUserRequest none none) 1 ∧
      ¬ Lawful handleDeleteUserSecond antMatcher (fun _ => some ⟨some "root",some "ADMIN",1⟩) rootDb
        (deleteUserRequest (some [⟨"token",some "signed"⟩]) none) 1 := by
  decide

/-! ### What tokens grant -/

/-- The signing of tokens; different claims give different tokens. -/
structure Jwt where
  sign : Claims → String
  sign_inj : ∀ c c', sign c = sign c' → c = c'

/-- The server with the tokens it has signed. -/
structure Site where
  db : Db
  issued : List Claims
  now : Int

inductive SiteStep where
  | tick (millis : Nat)
  | loginUser (username rawPassword : Option String)
  | account (step : AccountStep)

/-- The token library accepts exactly the unexpired tokens that were signed here
    and returns their claims. -/
def decodeToken (jwt : Jwt) (site : Site) (token : String) : Option Claims :=
  site.issued.find? (fun claims => jwt.sign claims == token && site.now < claims.expiresAt)

section
variable (encoder : PasswordEncoder) (missing : OnMissing) (lifetime : Int)

def visit (site : Site) : SiteStep → Site
  | .tick millis => { site with now := site.now + millis }
  | .loginUser username rawPassword =>
    match loginUser encoder site.now lifetime username rawPassword site.db.users with
    | .ok claims => { site with issued := claims :: site.issued }
    | .error _ => site
  | .account step => { site with db := account encoder missing site.db step }

end

/-- The account has the name and the role that the claims state. -/
def carries (user : User) (claims : Claims) : Bool :=
  user.username == claims.subject && user.role.any (fun role => role.name == shown claims.role)

/-- Whatever authentication a request gets from the filter at this moment, an
    account with that name and role is stored. -/
def Granting (jwt : Jwt) (site : Site) : Prop :=
  ∀ request auth, doFilterInternal (decodeToken jwt site) request none = some auth →
    ∃ row ∈ site.db.users.rows, ∃ role, row.2.username = auth.principal ∧ row.2.role = some role ∧
      auth.authorities = ["ROLE_" ++ role.name]

/-- Every unexpired token has an account that carries its claims. -/
def Held (site : Site) : Prop :=
  ∀ claims ∈ site.issued, site.now < claims.expiresAt → ∃ row ∈ site.db.users.rows, carries row.2 claims = true

theorem carries_iff {user : User} {claims : Claims} :
    carries user claims = true ↔
      ∃ role, user.username = claims.subject ∧ user.role = some role ∧ role.name = shown claims.role := by
  cases isRole : user.role <;> simp [carries,isRole]

/-- The token in a Bearer header. -/
def bearing (token : String) : HttpRequest := ⟨"/dashboard",none,some ("Bearer " ++ token)⟩

theorem extractToken_bearing (token : String) : extractToken (bearing token) = some token := by
  simp [extractToken,bearing]

theorem decodeToken_signed (jwt : Jwt) {site : Site} {claims : Claims} (signed : claims ∈ site.issued)
    (live : site.now < claims.expiresAt) : decodeToken jwt site (jwt.sign claims) = some claims := by
  rw [decodeToken]
  cases found : site.issued.find? (fun c => jwt.sign c == jwt.sign claims && site.now < c.expiresAt) with
  | none =>
    have rejected := List.find?_eq_none.mp found claims signed
    simp [live] at rejected
  | some other =>
    have accepted := List.find?_some found
    simp only [Bool.and_eq_true,beq_iff_eq] at accepted
    rw [jwt.sign_inj _ _ accepted.1]

theorem decodeToken_some {jwt : Jwt} {site : Site} {token : String} {claims : Claims}
    (accepted : decodeToken jwt site token = some claims) : claims ∈ site.issued ∧ site.now < claims.expiresAt := by
  have conditions := List.find?_some accepted
  simp only [Bool.and_eq_true,decide_eq_true_eq] at conditions
  exact ⟨List.mem_of_find?_eq_some accepted,conditions.2⟩

/-- What the filter grants is stored exactly if every live token is held. -/
theorem granting_iff (jwt : Jwt) (site : Site) : Granting jwt site ↔ Held site := by
  constructor
  · intro granting claims signed live
    have installed : doFilterInternal (decodeToken jwt site) (bearing (jwt.sign claims)) none =
        some ⟨claims.subject,some (claims.subject.getD ""),["ROLE_" ++ shown claims.role]⟩ := by
      simp only [doFilterInternal,extractToken_bearing,decodeToken_signed jwt signed live]
    obtain ⟨row,stored,role,name,isRole,authority⟩ := granting _ _ installed
    refine ⟨row,stored,carries_iff.mpr ⟨role,name,isRole,?_⟩⟩
    simpa using authority.symm
  · intro held request auth installed
    obtain ⟨token,claims,_,accepted,principal,authorities⟩ := doFilterInternal_some installed
    obtain ⟨signed,live⟩ := decodeToken_some accepted
    obtain ⟨row,stored,carried⟩ := held claims signed live
    obtain ⟨role,name,isRole,sameRole⟩ := carries_iff.mp carried
    exact ⟨row,stored,role,name.trans principal.symm,isRole,by rw [authorities,sameRole]⟩

/-- The row that a deletion removes. -/
def removes (db : Db) : AccountStep → Option Id
  | .deleteUser (some k) => if Deletable db k then some k else none
  | _ => none

section
variable (encoder : PasswordEncoder) (missing : OnMissing)

/-- After a form is saved or an account deleted, every live token still has an
    account that carries its claims: the saved one, or another than the row that
    is replaced or removed. -/
def LeavesHolder (site : Site) : SiteStep → Prop
  | .account step => ∀ claims ∈ site.issued, site.now < claims.expiresAt →
      (∀ row ∈ stores encoder missing site.db step, carries row.2 claims = true ∨
        ∃ other ∈ site.db.users.rows, other.1 ≠ row.1 ∧ carries other.2 claims = true) ∧
      ∀ k ∈ removes site.db step, ∃ other ∈ site.db.users.rows, other.1 ≠ k ∧ carries other.2 claims = true
  | _ => True

instance (site : Site) : (step : SiteStep) → Decidable (LeavesHolder encoder missing site step)
  | .tick _ => .isTrue trivial
  | .loginUser _ _ => .isTrue trivial
  | .account step => by
    unfold LeavesHolder
    infer_instance

end

variable {encoder : PasswordEncoder} {missing : OnMissing} {lifetime : Int}

/-- Some account carries the claims after a row is put. -/
theorem put_carries {users : Table User} {k : Id} (place : users.Open k) (user : User) (claims : Claims) :
    (∃ row ∈ (users.put k user).rows, carries row.2 claims = true) ↔
      carries user claims = true ∨ ∃ other ∈ users.rows, other.1 ≠ k ∧ carries other.2 claims = true := by
  constructor
  · rintro ⟨row,stored,carried⟩
    rcases (mem_put place).mp stored with rfl | ⟨old,other⟩
    · exact .inl carried
    · exact .inr ⟨row,old,other,carried⟩
  · rintro (carried | ⟨row,stored,other,carried⟩)
    · exact ⟨(k,user),(mem_put place).mpr (.inl rfl),carried⟩
    · exact ⟨row,(mem_put place).mpr (.inr ⟨stored,other⟩),carried⟩

theorem erase_carries (users : Table User) (k : Id) (claims : Claims) :
    (∃ row ∈ (users.erase k).rows, carries row.2 claims = true) ↔
      ∃ other ∈ users.rows, other.1 ≠ k ∧ carries other.2 claims = true := by
  simp only [mem_erase,and_assoc]

theorem deleteUser_removes (id : Option Id) (db : Db) :
    account encoder missing db (.deleteUser id) =
      match removes db (.deleteUser id) with
      | some k => { db with users := db.users.erase k }
      | none => db := by
  cases id with
  | none =>
    rcases deleteUser_db none db with same | ⟨k,impossible,_⟩
    · exact same
    · cases impossible
  | some k =>
    rw [account,deleteUser_transaction,removes]
    cases stored : db.users.find k with
    | none => simp [Deletable,stored]
    | some user => cases referenced : db.userReferenced k <;> simp [Deletable,stored,referenced]

/-- Which claims are still carried after an account operation. -/
theorem account_carries {db : Db} (step : AccountStep) {claims : Claims}
    (before : ∃ row ∈ db.users.rows, carries row.2 claims = true) :
    (∃ row ∈ (account encoder missing db step).users.rows, carries row.2 claims = true) ↔
      (∀ row ∈ stores encoder missing db step, carries row.2 claims = true ∨
        ∃ other ∈ db.users.rows, other.1 ≠ row.1 ∧ carries other.2 claims = true) ∧
      ∀ k ∈ removes db step, ∃ other ∈ db.users.rows, other.1 ≠ k ∧ carries other.2 claims = true := by
  cases step with
  | registerUser salt form =>
    rw [registerUser_db]
    cases put : stores encoder missing db (.registerUser salt form) with
    | none => simpa [removes] using before
    | some row => simpa [removes] using put_carries (stores_open put) row.2 claims
  | handleAddUser salt bindingErrors form =>
    rw [handleAddUser_db]
    cases put : stores encoder missing db (.handleAddUser salt bindingErrors form) with
    | none => simpa [removes] using before
    | some row => simpa [removes] using put_carries (stores_open put) row.2 claims
  | updateProfile authentication form =>
    refine iff_of_true ?_ (by simp [stores,submitted,removes])
    obtain ⟨row,stored,carried⟩ := before
    rcases updateProfile_db authentication form db with same | ⟨auth,k,old,_,_,_,_,_,_,_,_,isOld,changed⟩
    · rw [same]
      exact ⟨row,stored,carried⟩
    · rw [changed]
      by_cases isRow : row.1 = k
      · -- The form leaves the name and the role of the row as they are.
        obtain rfl : row = (k,old) := rows_key_inj stored (find_eq_some.mp isOld) isRow
        exact ⟨_,mem_set.mpr (.inr ⟨rfl,old,stored⟩),carried⟩
      · exact ⟨row,mem_set.mpr (.inl ⟨stored,isRow⟩),carried⟩
  | deleteUser id =>
    rw [deleteUser_removes]
    cases removed : removes db (.deleteUser id) with
    | none => simpa [stores,submitted] using before
    | some k => simpa [stores,submitted] using erase_carries db.users k claims

/-- A step from a site whose tokens are held leaves them so exactly if it leaves
    a holder. -/
theorem visit_held_iff (site : Site) (step : SiteStep) (held : Held site) :
    Held (visit encoder missing lifetime site step) ↔ LeavesHolder encoder missing site step := by
  cases step with
  | tick millis =>
    refine ⟨fun _ => trivial,fun _ claims signed live => held claims signed ?_⟩
    simp only [visit] at live
    omega
  | loginUser username rawPassword =>
    refine ⟨fun _ => trivial,fun _ => ?_⟩
    simp only [visit]
    cases login : loginUser encoder site.now lifetime username rawPassword site.db.users with
    | error e => exact held
    | ok claims =>
      intro other signed live
      rcases List.mem_cons.mp signed with rfl | old
      · obtain ⟨row,stored,role,isRole,name,sameRole⟩ := loginUser_ok login
        exact ⟨row,stored,carries_iff.mpr ⟨role,name.symm,isRole,by rw [sameRole]; rfl⟩⟩
      · exact held other old live
  | account step =>
    refine forall_congr' (fun claims => forall_congr' (fun signed => forall_congr' (fun live => ?_)))
    exact account_carries step (held claims signed live)

/-- From a server that has signed no token, the filter grants only what is stored
    throughout exactly those runs whose steps leave every live token a holder. -/
theorem authority_follows_iff (jwt : Jwt) (db : Db) (now : Int) (steps : List SiteStep) :
    Always (visit encoder missing lifetime) (Granting jwt) ⟨db,[],now⟩ steps ↔
      Throughout (visit encoder missing lifetime) (LeavesHolder encoder missing) ⟨db,[],now⟩ steps := by
  refine always_iff ?_ ?_ steps
  · intro site step granting
    rw [granting_iff] at granting ⊢
    exact visit_held_iff site step granting
  · rw [granting_iff]
    intro claims impossible
    cases impossible

instance (site : Site) : Decidable (Held site) := by
  unfold Held
  infer_instance

/-- A text or null, written so that its end can be found. -/
def framed : Option String → List Char
  | none => ['-']
  | some s => '+' :: s.toList.flatMap (fun c => [',',c]) ++ ['.']

theorem escaped_inj {l m x y : List Char}
    (same : l.flatMap (fun c => [',',c]) ++ '.' :: x = m.flatMap (fun c => [',',c]) ++ '.' :: y) : l = m ∧ x = y := by
  induction l generalizing m with
  | nil =>
    cases m with
    | nil => simpa using same
    | cons d m => simp at same
  | cons c l ih =>
    cases m with
    | nil => simp at same
    | cons d m =>
      simp only [List.flatMap_cons,List.cons_append,List.nil_append,List.cons.injEq,true_and] at same
      obtain ⟨rfl,rfl⟩ := ih same.2
      exact ⟨by rw [same.1],rfl⟩

theorem framed_inj {a b : Option String} {x y : List Char} (same : framed a ++ x = framed b ++ y) : a = b ∧ x = y := by
  cases a with
  | none =>
    cases b with
    | none => simpa [framed] using same
    | some t => simp [framed] at same
  | some s =>
    cases b with
    | none => simp [framed] at same
    | some t =>
      simp only [framed,List.cons_append,List.append_assoc,List.nil_append,List.cons.injEq,true_and] at same
      obtain ⟨texts,rest⟩ := escaped_inj same
      exact ⟨by rw [String.toList_inj.mp texts],rest⟩

/-- Signing that writes the claims out. -/
def plainJwt : Jwt where
  sign claims :=
    String.ofList (framed claims.subject ++ (framed claims.role ++
      ((if claims.expiresAt < 0 then '-' else '+') :: List.replicate claims.expiresAt.natAbs '|')))
  sign_inj := by
    intro c c' same
    obtain ⟨subject,same⟩ := framed_inj (String.ofList_injective same)
    obtain ⟨role,same⟩ := framed_inj same
    obtain ⟨sign,digits⟩ := List.cons.inj same
    have size : c.expiresAt.natAbs = c'.expiresAt.natAbs := by simpa using congrArg List.length digits
    have expires : c.expiresAt = c'.expiresAt := by
      split_ifs at sign
      · omega
      · cases sign
      · cases sign
      · omega
    cases c
    cases c'
    simp_all

/-- An administrator logs in and is deleted, and the token still grants. -/
theorem deleted_account_granted :
    ¬ Always (visit markingEncoder .refuse 3600000) (Granting plainJwt) ⟨rootDb,[],0⟩
      [.loginUser (some "root") (some "secret"),.account (.deleteUser (some 1))] := by
  intro always
  have granting := always_prefix always (List.append_nil _).symm
  rw [granting_iff] at granting
  exact absurd granting (by decide)

/-! ### From a registration to an authenticated request -/

/-- The first cookie named `token` holds the token, or there is no such cookie and
    the Authorization header does. -/
def Brings (request : HttpRequest) (token : String) : Prop :=
  match (request.cookies.getD []).find? (fun cookie => cookie.name == "token") with
  | some cookie => cookie.value = some token
  | none => request.authorization = some ("Bearer " ++ token)

theorem extractToken_brings {request : HttpRequest} {token : String} (brings : Brings request token) :
    extractToken request = some token := by
  unfold Brings at brings
  unfold extractToken
  split at brings
  · rename_i cookie first
    simp only [first,brings]
  · rename_i absent
    simp [absent,brings]

/-- A live token that the server signed authenticates a request to a path that is
    not public as what its claims say. -/
theorem doFilter_brings (matcher : PathMatcher) (jwt : Jwt) {site : Site} {claims : Claims} {request : HttpRequest}
    (signed : claims ∈ site.issued) (live : site.now < claims.expiresAt)
    (filtered : shouldNotFilter matcher request = false) (brings : Brings request (jwt.sign claims)) :
    doFilter matcher (decodeToken jwt site) request =
      some
        { principal := claims.subject
          name := some (claims.subject.getD "")
          authorities := ["ROLE_" ++ shown claims.role] } := by
  simp only [doFilter,filtered,doFilterInternal,extractToken_brings brings,decodeToken_signed jwt signed live]
  rfl

/-- The login with the submitted name and password succeeds, and for the life of
    its token every request that brings it to a path that is not public is
    authenticated with the submitted name and role. -/
def SignsIn (encoder : PasswordEncoder) (lifetime : Int) (matcher : PathMatcher) (jwt : Jwt) (form : UserForm) (now : Int)
    (users : Table User) : Prop :=
  ∃ claims, loginUser encoder now lifetime form.columns.username form.columns.password users = .ok claims ∧
    ∀ (site : Site) (request : HttpRequest), claims ∈ site.issued → site.now < claims.expiresAt →
      shouldNotFilter matcher request = false → Brings request (jwt.sign claims) →
        doFilter matcher (decodeToken jwt site) request =
          some
            { principal := form.columns.username
              name := some (form.columns.username.getD "")
              authorities := ["ROLE_" ++ shown (form.columns.role.map Role.name)] }

/-- Whoever registers can sign in as what was submitted exactly if a role was
    submitted: registration does not ask for one and login does. -/
theorem registered_signs_in_iff (matcher : PathMatcher) (jwt : Jwt) {salt : Nat} {form : UserForm} {db after : Db} (now : Int)
    (unset : form.id = none) (accepted : registerUser encoder missing salt form db = (.ok (),after)) :
    SignsIn encoder lifetime matcher jwt form now after.users ↔ form.columns.role ≠ none := by
  have login := loginUser_registered now lifetime unset accepted
  cases isRole : form.columns.role with
  | none =>
    rw [isRole] at login
    refine ⟨?_,fun present => absurd rfl present⟩
    rintro ⟨claims,returned,_⟩
    rw [login] at returned
    cases returned
  | some role =>
    rw [isRole] at login
    refine ⟨fun _ => Option.some_ne_none role,fun _ => ⟨_,login,?_⟩⟩
    intro site request signed live filtered brings
    rw [doFilter_brings matcher jwt signed live filtered brings,isRole]
    rfl

/-- A form as the registration page sends it, with a role or without. -/
def annForm (role : Option Role) : UserForm := ⟨none,{ annColumns with role := role }⟩

/-- A registration that returns and leaves the user able to sign in. -/
theorem registered_signs_in_user :
    SignsIn markingEncoder 3600000 antMatcher plainJwt (annForm (some .USER)) 0
      (registerUser markingEncoder .refuse 0 (annForm (some .USER)) rootDb).2.users := by
  have accepted : registerUser markingEncoder .refuse 0 (annForm (some .USER)) rootDb =
      (.ok (),(registerUser markingEncoder .refuse 0 (annForm (some .USER)) rootDb).2) := rfl
  exact (registered_signs_in_iff antMatcher plainJwt 0 rfl accepted).mpr (by decide)

/-- Registered without a role, and refused at the login. -/
theorem registered_without_role :
    (registerUser markingEncoder .refuse 0 (annForm none) rootDb).1.toOption = some () ∧
      ¬ SignsIn markingEncoder 3600000 antMatcher plainJwt (annForm none) 0
        (registerUser markingEncoder .refuse 0 (annForm none) rootDb).2.users := by
  refine ⟨by decide,?_⟩
  rintro ⟨claims,returned,_⟩
  cases returned

end LibraryServer.Authority
