import LibraryServer.Java
import LibraryServer.Tables

/-!
The entities and the tables that hold them. A row of a table is the entity
without its id, which is the key of the row; references to other entities are
their ids.
-/
namespace LibraryServer.Entities
open LibraryServer.Java LibraryServer.Tables
set_option linter.unusedSimpArgs false

/-- A `Long` that names a row. -/
abbrev Id := Int

inductive Role where
  | USER
  | ADMIN
deriving DecidableEq, Repr

inductive Sex where
  | MALE
  | FEMALE
  | OTHER
deriving DecidableEq, Repr

inductive Status where
  | AVAILABLE
  | BORROWED
deriving DecidableEq, Repr

def Role.name : Role → String
  | .USER => "USER"
  | .ADMIN => "ADMIN"

def Sex.name : Sex → String
  | .MALE => "MALE"
  | .FEMALE => "FEMALE"
  | .OTHER => "OTHER"

structure Book where
  title : Option String
  author : Option String
  available : Bool
  image : Option String
  imageUrl : Option String
  availableCopies : Int32
  totalCopies : Int32
deriving DecidableEq

/-- The columns of `users`; `confirmPassword` is transient. -/
structure User where
  fullName : Option String
  username : Option String
  password : Option String
  email : Option String
  mobileNumber : Option String
  countryCode : Option String
  role : Option Role
  sex : Option Sex
deriving DecidableEq

/-- A loan: `book_id` and `user_id` are not nullable. -/
structure BorrowedBook where
  book : Id
  user : Id
  borrowedDate : LocalDateTime
  borrowCount : Option Int32
  dueDate : Option LocalDateTime
deriving DecidableEq

structure Inventory where
  book : Option Id
  status : Status
deriving DecidableEq

structure Db where
  books : Table Book
  users : Table User
  borrowedBooks : Table BorrowedBook
  inventory : Table Inventory
deriving DecidableEq

/-- The database before the first request. -/
def Db.empty : Db := ⟨.empty,.empty,.empty,.empty⟩

/-- The loans of a book. -/
def ofBook (b : Id) (loan : BorrowedBook) : Bool := loan.book == b
/-- The loans of a user. -/
def ofUser (u : Id) (loan : BorrowedBook) : Bool := loan.user == u
/-- The loans of a book to a user. -/
def ofPair (b u : Id) (loan : BorrowedBook) : Bool := loan.book == b && loan.user == u

theorem ofPair_iff {b u : Id} {loan : BorrowedBook} : ofPair b u loan = true ↔ loan.book = b ∧ loan.user = u := by
  simp [ofPair]

/-- A book is out with a user if some row says so. -/
theorem lent_iff {loans : Table BorrowedBook} {b u : Id} :
    0 < loans.count (ofPair b u) ↔ ∃ row ∈ loans.rows, row.2.book = b ∧ row.2.user = u := by
  simp only [count_pos,ofPair_iff]

/-- The number of loan rows of a book. -/
def Db.loansOf (db : Db) (b : Id) : Nat := db.borrowedBooks.count (ofBook b)

/-- What the foreign keys forbid: deleting a book that a loan or an inventory
    row refers to. -/
def Db.bookReferenced (db : Db) (b : Id) : Bool :=
  0 < db.loansOf b || 0 < db.inventory.count (fun row => row.book == some b)

/-- Deleting a user that a loan refers to is forbidden likewise. -/
def Db.userReferenced (db : Db) (u : Id) : Bool := 0 < db.borrowedBooks.count (ofUser u)

/-- What merging an object does whose id is set but names no row: Hibernate
    inserts it under a fresh id up to version 6.5 and refuses it since 6.6. -/
inductive OnMissing where
  | insert
  | refuse
deriving DecidableEq, Repr

/-- `JpaRepository.save`: an object without an id is inserted under a fresh one,
    an object whose id names a row replaces that row. -/
def save {α : Type} (missing : OnMissing) (t : Table α) (id : Option Id) (a : α) : Except Exc (Table α) :=
  match id with
  | none => .ok (t.insert a)
  | some k =>
    match t.find k with
    | some _ => .ok (t.set k a)
    | none =>
      match missing with
      | .insert => .ok (t.insert a)
      | .refuse => .error .optimisticLockingFailure

/-- The key under which an object is stored, if it is not refused. -/
def saveKey {α : Type} (missing : OnMissing) (t : Table α) : Option Id → Option Id
  | none => some t.next
  | some k =>
    match t.find k, missing with
    | some _, _ => some k
    | none, .insert => some t.next
    | none, .refuse => none

theorem save_eq {α : Type} (missing : OnMissing) (t : Table α) (id : Option Id) (a : α) :
    save missing t id a =
      match saveKey missing t id with
      | some k => .ok (t.put k a)
      | none => .error .optimisticLockingFailure := by
  cases id with
  | none => simp [save,saveKey,put_next]
  | some k =>
    cases found : t.find k with
    | some old => simp [save,saveKey,found,put_stored found]
    | none => cases missing <;> simp [save,saveKey,found,put_next]

/-- A saved object replaces the row that its id names or becomes a fresh row. -/
theorem saveKey_cases {α : Type} {missing : OnMissing} {t : Table α} {id : Option Id} {k : Id}
    (key : saveKey missing t id = some k) :
    (k = t.next ∧ ∀ j, id = some j → t.find j = none) ∨ (id = some k ∧ ∃ old, t.find k = some old) := by
  cases id with
  | none => exact .inl ⟨(Option.some.inj key).symm,fun j impossible => by cases impossible⟩
  | some j =>
    cases found : t.find j with
    | some old =>
      simp only [saveKey,found,Option.some.injEq] at key
      subst key
      exact .inr ⟨rfl,old,found⟩
    | none =>
      cases missing with
      | insert =>
        simp only [saveKey,found,Option.some.injEq] at key
        exact .inl ⟨key.symm,fun i same => by cases same; exact found⟩
      | refuse => simp [saveKey,found] at key

theorem saveKey_open {α : Type} {missing : OnMissing} {t : Table α} {id : Option Id} {k : Id}
    (key : saveKey missing t id = some k) : t.Open k := by
  rcases saveKey_cases key with ⟨fresh,_⟩ | ⟨_,stored⟩
  · exact .inl fresh
  · exact .inr stored

end LibraryServer.Entities
