import LibraryServer.Entities
import LibraryServer.Programs

/-!
The repository calls that the services make. A call is answered in the present
state of the database with what the repository returns and the writes that it
sends; queries see the writes that the transaction has made before.
-/
namespace LibraryServer.Repositories
open LibraryServer.Java LibraryServer.Tables LibraryServer.Programs LibraryServer.Entities
set_option linter.unusedSimpArgs false

/-- `saveLoan` is the save of an object without id, `saveBook` and
    `saveInventory` are saves of entities that a query returned before. -/
inductive Call where
  | findUserById (id : Option Id)
  | findBookById (id : Option Id)
  | findByBookIdAndUserId (book user : Option Id)
  | findByBookId (book : Option Id)
  | saveLoan (loan : BorrowedBook)
  | saveBook (id : Id) (book : Book)
  | saveInventory (id : Id) (row : Inventory)
  | deleteLoan (id : Id)
  | deleteBook (id : Id)
  | deleteUser (id : Id)

abbrev Reply : Call → Type
  | .findUserById _ => Option (Id × User)
  | .findBookById _ => Option (Id × Book)
  | .findByBookIdAndUserId _ _ => List (Id × BorrowedBook)
  | .findByBookId _ => List (Id × Inventory)
  | _ => Unit

inductive Write where
  | insertLoan (loan : BorrowedBook)
  | setBook (id : Id) (book : Book)
  | setInventory (id : Id) (row : Inventory)
  | deleteLoan (id : Id)
  | deleteBook (id : Id)
  | deleteUser (id : Id)
deriving DecidableEq

/-- `findById`, which refuses null. -/
def findById {α : Type} (t : Table α) : Option Id → Except Exc (Option (Id × α))
  | none => .error (.illegalArgument "The given id must not be null")
  | some k => .ok ((t.find k).map (fun a => (k,a)))

/-- The loans whose columns equal the arguments; a null argument asks for a null
    column, which no loan has. -/
def matching (book user : Option Id) (loan : BorrowedBook) : Bool :=
  some loan.book == book && some loan.user == user

def answer (c : Call) (db : Db) : Except Exc (Reply c × List Write) :=
  match c with
  | .findUserById id => (findById db.users id).map (fun user => (user,[]))
  | .findBookById id => (findById db.books id).map (fun book => (book,[]))
  | .findByBookIdAndUserId book user => .ok (db.borrowedBooks.select (matching book user),[])
  | .findByBookId book => .ok (db.inventory.select (fun row => row.book == book),[])
  | .saveLoan loan =>
    -- The unique constraint on (book_id, user_id).
    if 0 < db.borrowedBooks.count (ofPair loan.book loan.user) then .error .dataIntegrityViolation
    else .ok ((),[.insertLoan loan])
  | .saveBook id book => .ok ((),[.setBook id book])
  | .saveInventory id row => .ok ((),[.setInventory id row])
  | .deleteLoan id => .ok ((),[.deleteLoan id])
  | .deleteBook id => if db.bookReferenced id then .error .dataIntegrityViolation else .ok ((),[.deleteBook id])
  | .deleteUser id => if db.userReferenced id then .error .dataIntegrityViolation else .ok ((),[.deleteUser id])

def applyWrite (db : Db) : Write → Db
  | .insertLoan loan => { db with borrowedBooks := db.borrowedBooks.insert loan }
  | .setBook id book => { db with books := db.books.set id book }
  | .setInventory id row => { db with inventory := db.inventory.set id row }
  | .deleteLoan id => { db with borrowedBooks := db.borrowedBooks.erase id }
  | .deleteBook id => { db with books := db.books.erase id }
  | .deleteUser id => { db with users := db.users.erase id }

def store : Store Call Reply Exc Db Write := ⟨answer,applyWrite⟩

abbrev Service := Prog Call Reply Exc

abbrev findUserById (id : Option Id) : Service (Option (Id × User)) := Prog.invoke (Call.findUserById id)
abbrev findBookById (id : Option Id) : Service (Option (Id × Book)) := Prog.invoke (Call.findBookById id)
abbrev findByBookIdAndUserId (book user : Option Id) : Service (List (Id × BorrowedBook)) :=
  Prog.invoke (Call.findByBookIdAndUserId book user)
abbrev findByBookId (book : Option Id) : Service (List (Id × Inventory)) := Prog.invoke (Call.findByBookId book)
abbrev saveLoan (loan : BorrowedBook) : Service Unit := Prog.invoke (Call.saveLoan loan)
abbrev saveBook (id : Id) (book : Book) : Service Unit := Prog.invoke (Call.saveBook id book)
abbrev saveInventory (id : Id) (row : Inventory) : Service Unit := Prog.invoke (Call.saveInventory id row)
abbrev deleteLoanRow (id : Id) : Service Unit := Prog.invoke (Call.deleteLoan id)
abbrev deleteBookRow (id : Id) : Service Unit := Prog.invoke (Call.deleteBook id)
abbrev deleteUserRow (id : Id) : Service Unit := Prog.invoke (Call.deleteUser id)

/-- A `@Transactional` method: unchecked exceptions roll back, checked ones
    commit. -/
def transactional {α : Type} (p : Service α) (db : Db) : Except Exc α × Db := p.transact store Exc.isChecked db

@[simp] theorem store_answer (c : Call) (db : Db) : store.answer c db = answer c db := rfl
@[simp] theorem store_apply (db : Db) (w : Write) : store.apply db w = applyWrite db w := rfl

theorem transactional_ok {α : Type} {p : Service α} {db after : Db} {a : α} (run : p.run store db = (.ok a,after)) :
    transactional p db = (.ok a,after) := by
  rw [transactional,Prog.transact,run]
  rfl

/-- What an unchecked exception interrupts is rolled back. -/
theorem transactional_thrown {α : Type} {p : Service α} {db after : Db} {e : Exc} (unchecked : e.isChecked = false)
    (run : p.run store db = (.error e,after)) : transactional p db = (.error e,db) := by
  rw [transactional,Prog.transact,run]
  simp [lands,unchecked]

/-- What is thrown at once leaves everything as it is. -/
theorem transactional_throw {α : Type} (e : Exc) (db : Db) : transactional (.throw e : Service α) db = (.error e,db) := by
  rw [transactional,Prog.transact,run_throw]
  exact Prod.ext rfl (ite_self db)

theorem matching_some (b u : Id) : matching (some b) (some u) = ofPair b u := by
  funext loan
  simp [matching,ofPair]

theorem matching_pair {book user : Option Id} {loan : BorrowedBook} (yes : matching book user loan = true) :
    book = some loan.book ∧ user = some loan.user := by
  simp only [matching,Bool.and_eq_true,beq_iff_eq] at yes
  exact ⟨yes.1.symm,yes.2.symm⟩

/-! ### Running one call -/

section
variable {α : Type} (db : Db)

@[simp] theorem run_findUserById_null (next : Option (Id × User) → Service α) :
    (findUserById none >>= next).run store db = (.error (.illegalArgument "The given id must not be null"),db) := by
  simp [bind_invoke,run_call,answer,findById,Except.map]

@[simp] theorem run_findUserById (u : Id) (next : Option (Id × User) → Service α) :
    (findUserById (some u) >>= next).run store db = (next ((db.users.find u).map (fun user => (u,user)))).run store db := by
  simp [bind_invoke,run_call,answer,findById,Except.map]

@[simp] theorem run_findBookById_null (next : Option (Id × Book) → Service α) :
    (findBookById none >>= next).run store db = (.error (.illegalArgument "The given id must not be null"),db) := by
  simp [bind_invoke,run_call,answer,findById,Except.map]

@[simp] theorem run_findBookById (b : Id) (next : Option (Id × Book) → Service α) :
    (findBookById (some b) >>= next).run store db = (next ((db.books.find b).map (fun book => (b,book)))).run store db := by
  simp [bind_invoke,run_call,answer,findById,Except.map]

@[simp] theorem run_findByBookIdAndUserId (book user : Option Id) (next : List (Id × BorrowedBook) → Service α) :
    (findByBookIdAndUserId book user >>= next).run store db =
      (next (db.borrowedBooks.select (matching book user))).run store db := by
  simp [bind_invoke,run_call,answer]

@[simp] theorem run_findByBookId (book : Option Id) (next : List (Id × Inventory) → Service α) :
    (findByBookId book >>= next).run store db = (next (db.inventory.select (fun row => row.book == book))).run store db := by
  simp [bind_invoke,run_call,answer]

theorem run_saveLoan {loan : BorrowedBook} (free : db.borrowedBooks.count (ofPair loan.book loan.user) = 0)
    (next : Unit → Service α) :
    (saveLoan loan >>= next).run store db =
      (next ()).run store { db with borrowedBooks := db.borrowedBooks.insert loan } := by
  simp [bind_invoke,run_call,answer,free,applyWrite]

@[simp] theorem run_saveBook (b : Id) (book : Book) (next : Unit → Service α) :
    (saveBook b book >>= next).run store db = (next ()).run store { db with books := db.books.set b book } := by
  simp [bind_invoke,run_call,answer,applyWrite]

@[simp] theorem run_saveBook_last (b : Id) (book : Book) :
    (saveBook b book).run store db = (.ok (),{ db with books := db.books.set b book }) := by
  simp [Prog.invoke,run_call,answer,applyWrite]

@[simp] theorem run_saveInventory_last (k : Id) (row : Inventory) :
    (saveInventory k row).run store db = (.ok (),{ db with inventory := db.inventory.set k row }) := by
  simp [Prog.invoke,run_call,answer,applyWrite]

@[simp] theorem run_deleteLoanRow (k : Id) (next : Unit → Service α) :
    (deleteLoanRow k >>= next).run store db =
      (next ()).run store { db with borrowedBooks := db.borrowedBooks.erase k } := by
  simp [bind_invoke,run_call,answer,applyWrite]

theorem run_deleteBookRow_last (b : Id) :
    (deleteBookRow b).run store db =
      if db.bookReferenced b then (.error .dataIntegrityViolation,db)
      else (.ok (),{ db with books := db.books.erase b }) := by
  by_cases referenced : db.bookReferenced b = true <;> simp [Prog.invoke,run_call,answer,referenced,applyWrite]

theorem run_deleteUserRow (u : Id) (next : Unit → Service α) :
    (deleteUserRow u >>= next).run store db =
      if db.userReferenced u then (.error .dataIntegrityViolation,db)
      else (next ()).run store { db with users := db.users.erase u } := by
  by_cases referenced : db.userReferenced u = true <;> simp [bind_invoke,run_call,answer,referenced,applyWrite]

end

end LibraryServer.Repositories
