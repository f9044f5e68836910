import LibraryServer.Accounts
import Mathlib.Data.List.Infix

/-!
The services that list loans for a page. They read the loans of one user, of all
users or of a search, and turn each row into a data transfer object, for which
they follow its references. `clock n` is the n-th reading of the date; `lower`
is the lower-casing of the default locale.
-/
namespace LibraryServer.BorrowedViews
open LibraryServer.Java LibraryServer.Tables LibraryServer.Entities LibraryServer.Accounts
set_option linter.unusedSimpArgs false

abbrev Loan := Id × BorrowedBook

/-! ### Queries -/

def findAll (db : Db) : List Loan := db.borrowedBooks.rows

def findByUserId (db : Db) (userId : Option Id) : List Loan :=
  db.borrowedBooks.select (fun loan => some loan.user == userId)

/-- `String.contains`. -/
def contains (s query : String) : Bool := decide (query.toList <:+: s.toList)

/-- A column that contains the text in any case; a null column does not. -/
def containingIgnoreCase (lower : String → String) (column : Option String) (query : String) : Bool :=
  column.any (fun text => contains (lower text) (lower query))

/-- The loans whose book has a title or an author that contains the text. -/
def findByBookTitleOrAuthor (lower : String → String) (db : Db) (query : String) : List Loan :=
  db.borrowedBooks.select (fun loan => (db.books.find loan.book).any (fun book =>
    containingIgnoreCase lower book.title query || containingIgnoreCase lower book.author query))

/-- The book of a loan. -/
def getBook (db : Db) (loan : BorrowedBook) : Except Exc Book :=
  match db.books.find loan.book with
  | some book => .ok book
  | none => .error .entityNotFound

/-- The user of a loan. -/
def getUser (db : Db) (loan : BorrowedBook) : Except Exc User :=
  match db.users.find loan.user with
  | some user => .ok user
  | none => .error .entityNotFound

/-- A date that is used although it may be null. -/
def getDueDate (loan : BorrowedBook) : Except Exc LocalDateTime :=
  match loan.dueDate with
  | some date => .ok date
  | none => .error .nullPointer

/-! ### Loans with fines -/

/-- The fine is a `double` that always holds a whole number; `image` is set by the
    borrow page only. -/
structure BorrowedBookdto where
  bookId : Id
  title : Option String
  author : Option String
  borrowedDate : Int
  dueDate : Option Int
  username : Option String
  overdueDays : Int32
  fine : Int
  image : Option String
deriving DecidableEq

/-- The days overdue, where a `long` is cast to `int`. -/
def overdueDays (dueDate today : Int) : Int32 := if 0 < today - dueDate then Int32.ofInt (today - dueDate) else 0

/-- `BorrowedBooksServiceImpl.mapToDto`. -/
def mapToDto (db : Db) (today : Int) (loan : BorrowedBook) : Except Exc BorrowedBookdto := do
  let book ← getBook db loan
  let dueDate ← getDueDate loan
  let user ← getUser db loan
  .ok
    { bookId := loan.book, title := book.title, author := book.author, borrowedDate := loan.borrowedDate.epochDay,
      dueDate := some dueDate.epochDay, username := user.username, overdueDays := overdueDays dueDate.epochDay today,
      fine := (overdueDays dueDate.epochDay today).toInt, image := none }

def getUserBorrowedBooks (clock : Nat → Int) (db : Db) (userId : Option Id) : Except Exc (List BorrowedBookdto) :=
  (findByUserId db userId).zipIdx.mapM (fun item => mapToDto db (clock item.2) item.1.2)

structure Dashboarddto where
  totalBooks : Nat
  totalBorrowedBooks : Nat
  borrowedBooks : List BorrowedBookdto
  userRole : Option Role

/-- A loan on the dashboard, at ten a day in `int` arithmetic. -/
def dashboardDto (db : Db) (today : Int) (loan : BorrowedBook) : Except Exc BorrowedBookdto := do
  let book ← getBook db loan
  let dueDate ← getDueDate loan
  let days := overdueDays dueDate.epochDay today
  .ok
    { bookId := loan.book, title := book.title, author := book.author, borrowedDate := loan.borrowedDate.epochDay,
      dueDate := some dueDate.epochDay, username := none, overdueDays := days, fine := (days * 10).toInt, image := none }

def getDashboardDataForUser (clock : Nat → Int) (db : Db) (user : Id × User) : Except Exc Dashboarddto := do
  let borrowedBooks := findByUserId db (some user.1)
  let dtos ← borrowedBooks.zipIdx.mapM (fun item => dashboardDto db (clock item.2) item.1.2)
  .ok ⟨db.books.rows.length,borrowedBooks.length,dtos,user.2.role⟩

/-- A loan on the library page, where the due date may be null. -/
def libraryDto (db : Db) (today : Int) (loan : BorrowedBook) : Except Exc BorrowedBookdto := do
  let book ← getBook db loan
  let dueDate := loan.dueDate.map (fun date => date.epochDay)
  let days := match dueDate with
    | some date => if 0 < (Int32.ofInt (today - date)).toInt then Int32.ofInt (today - date) else 0
    | none => 0
  .ok
    { bookId := loan.book, title := book.title, author := book.author, borrowedDate := loan.borrowedDate.epochDay,
      dueDate := dueDate, username := none, overdueDays := days, fine := (days * 10).toInt, image := none }

def getBorrowedBooksByUserId (clock : Nat → Int) (db : Db) (userId : Option Id) : Except Exc (List BorrowedBookdto) :=
  (findByUserId db userId).mapM (fun loan => libraryDto db (clock 0) loan.2)

/-! ### Loans to return -/

structure ReturnBooksdto where
  bookId : Id
  title : Option String
  author : Option String
  borrowedDate : String
  dueDate : String
  username : Option String
  userId : Option Id
deriving DecidableEq

def toReturnDto (db : Db) (loan : BorrowedBook) : Except Exc ReturnBooksdto := do
  let book ← getBook db loan
  let dueDate ← getDueDate loan
  let user ← getUser db loan
  .ok
    { bookId := loan.book, title := book.title, author := book.author, borrowedDate := loan.borrowedDate.text,
      dueDate := dueDate.text, username := user.username, userId := some loan.user }

/-- `ReturnBooksService.getBorrowedBooks`. -/
def getBorrowedBooks (db : Db) (userId : Option Id) (role : String) : Except Exc (List ReturnBooksdto) :=
  (if equalsIgnoreCase "admin" (some role) then findAll db else findByUserId db userId).mapM
    (fun loan => toReturnDto db loan.2)

/-! ### Loans to view -/

structure ViewBorrowedBooksdto where
  bookId : Id
  title : Option String
  author : Option String
  borrowedDate : String
  dueDate : String
  username : Option String
deriving DecidableEq

def toViewDto (db : Db) (loan : BorrowedBook) : Except Exc ViewBorrowedBooksdto := do
  let book ← getBook db loan
  let dueDate ← getDueDate loan
  let user ← getUser db loan
  .ok
    { bookId := loan.book, title := book.title, author := book.author, borrowedDate := loan.borrowedDate.formatted,
      dueDate := dueDate.formatted, username := user.username }

/-- `Role.valueOf`. -/
def roleOf (s : String) : Except Exc Role :=
  match [Role.USER,.ADMIN].find? (fun role => role.name == s) with
  | some role => .ok role
  | none => .error (.illegalArgument ("No enum constant org.library.entity.enums.Role." ++ s))

/-- `ViewBorrowedBooksServiceImpl.getBorrowedBooks`. -/
def viewBorrowed (db : Db) (userId : Option Id) (role : String) : Except Exc (List ViewBorrowedBooksdto) :=
  match roleOf (toUpperCase role) with
  | .error _ => .error (.illegalArgument ("Invalid role: " ++ role))
  | .ok role =>
    let borrowedBooks := if role = .ADMIN then findAll db else findByUserId db userId
    borrowedBooks.eraseDups.mapM (fun loan => toViewDto db loan.2)

/-- The filter of a user's own search; a null title or author is an error unless
    the title matches. -/
def matchesSearch (lower : String → String) (db : Db) (query : String) (loan : BorrowedBook) : Except Exc Bool := do
  let book ← getBook db loan
  match book.title with
  | none => .error .nullPointer
  | some title =>
    if contains (lower title) (lower query) then .ok true
    else
      match book.author with
      | none => .error .nullPointer
      | some author => .ok (contains (lower author) (lower query))

/-- `ViewBorrowedBooksServiceImpl.searchBorrowedBooks`. -/
def searchBorrowedBooks (lower : String → String) (db : Db) (query : String) (userId : Option Id) (role : String) :
    Except Exc (List ViewBorrowedBooksdto) := do
  let role ← roleOf (toUpperCase role)
  let borrowedBooks ←
    if role = .ADMIN then .ok (findByBookTitleOrAuthor lower db query)
    else (findByUserId db userId).filterM (fun loan => matchesSearch lower db query loan.2)
  borrowedBooks.eraseDups.mapM (fun loan => toViewDto db loan.2)

end LibraryServer.BorrowedViews
