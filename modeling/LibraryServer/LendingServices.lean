import LibraryServer.Repositories

/-!
The services that lend books, take them back and delete books and users, as the
repository calls that they make. `clock n` is the day that the n-th call of
`LocalDate.now` in a method reads.
-/
namespace LibraryServer.LendingServices
open LibraryServer.Java LibraryServer.Tables LibraryServer.Programs LibraryServer.Entities LibraryServer.Repositories
set_option linter.unusedSimpArgs false

/-- One round of the loop in `borrowBooksForUser`, the `n`-th. -/
def borrowBook (clock : Nat → Int) (user : Id) (n : Nat) (bookId : Option Id) : Service Unit := do
  match ← findBookById bookId with
  | none => .throw (.runtimeException "Book not found")
  | some (id,book) =>
    if book.availableCopies ≤ 0 then
      .throw (.runtimeException ("Book '" ++ shown book.title ++ "' is not available."))
    else do
      let existingBorrows ← findByBookIdAndUserId (some id) (some user)
      if existingBorrows ≠ [] then
        .throw (.runtimeException ("User already borrowed the book '" ++ shown book.title ++ "'"))
      else do
        saveLoan
          { book := id, user := user, borrowedDate := atStartOfDay (clock (2 * n)), borrowCount := some 1,
            dueDate := some (atStartOfDay (clock (2 * n + 1) + 14)) }
        saveBook id { book with availableCopies := book.availableCopies - 1 }

def borrowBooksForUser (clock : Nat → Int) (bookIds : Option (List (Option Id))) (userId : Option Id) : Service Unit := do
  match ← findUserById userId with
  | none => .throw (.runtimeException "User not found")
  | some (user,_) =>
    match bookIds with
    | none => .throw .nullPointer
    | some ids => Prog.forEach (fun item => borrowBook clock user item.2 item.1) ids.zipIdx

/-- The inner loop of `returnBooksForUser`, which keeps counting on one `Book`. -/
def giveBackAll (id : Id) : Book → List (Id × BorrowedBook) → Service Unit
  | _, [] => .pure ()
  | book, loan :: rest => do
    let book := { book with availableCopies := book.availableCopies + 1 }
    saveBook id book
    deleteLoanRow loan.1
    giveBackAll id book rest

def returnBookForUser (user : Id) (userId bookId : Option Id) : Service Unit := do
  match ← findBookById bookId with
  | none => .throw (.runtimeException "Book not found")
  | some (id,book) => do
    let borrowedBooks ← findByBookIdAndUserId (some id) (some user)
    if borrowedBooks = [] then
      .throw (.runtimeException ("No borrowed record found for book ID " ++ shown bookId ++ " and user " ++ shown userId))
    else giveBackAll id book borrowedBooks

def returnBooksForUser (bookIds : Option (List (Option Id))) (userId : Option Id) : Service Unit := do
  match ← findUserById userId with
  | none => .throw (.runtimeException "User not found")
  | some (user,_) =>
    match bookIds with
    | none => .throw .nullPointer
    | some ids => Prog.forEach (returnBookForUser user userId) ids

/-- The counter goes up, but never above the number of copies. -/
def countUp (id : Id) (book : Book) : Service Unit :=
  if book.availableCopies < book.totalCopies then
    saveBook id { book with availableCopies := book.availableCopies + 1 }
  else .pure ()

def releaseInventory (bookId : Option Id) : Service Unit := do
  match ← findByBookId bookId with
  | [] => .pure ()
  | (id,row) :: _ => saveInventory id { row with status := .AVAILABLE }

/-- One round of the loop in `returnBooks`. A loan found by its columns has a
    book and a user, so the null check on them never skips it. -/
def returnBook (bookId targetUserId : Option Id) : Service Unit := do
  match ← findByBookIdAndUserId bookId targetUserId with
  | [] => .pure ()
  | borrowedBook :: _ => do
    deleteLoanRow borrowedBook.1
    match ← findBookById bookId with
    | none => .throw (.bookNotFound ("❌ Book not found: ID=" ++ shown bookId))
    | some (id,book) => do
      countUp id book
      releaseInventory bookId

/-- The pairs of book and target user that `returnBooks` goes through. -/
def returnTargets (admin : Bool) (bookIds userIds : List (Option Id)) (userId : Option Id) :
    List (Option Id × Option Id) :=
  if admin then bookIds.zip userIds else bookIds.map (fun bookId => (bookId,userId))

def returnBooks (bookIds userIds : Option (List (Option Id))) (userId : Option Id) (role : Option String) :
    Service Unit :=
  let admin := equalsIgnoreCase "admin" role
  match bookIds with
  | none => .throw (.illegalArgument "📕 Book list is empty or null.")
  | some [] => .throw (.illegalArgument "📕 Book list is empty or null.")
  | some (first :: rest) =>
    if admin && (match userIds with | none => true | some ids => (first :: rest).length != ids.length) then
      .throw (.illegalArgument "🛑 Admin must provide a matching userId for each book.")
    else
      Prog.forEach (fun pair => returnBook pair.1 pair.2)
        (returnTargets admin (first :: rest) (userIds.getD []) userId)

def deleteBook (bookId : Option Id) : Service Unit := do
  match ← findBookById bookId with
  | some (id,_) => deleteBookRow id
  | none => .throw (.checkedException ("Book with ID " ++ shown bookId ++ " not found"))

def deleteBooks : Option (List (Option Id)) → Service Unit
  | none => .throw .nullPointer
  | some ids => Prog.forEach deleteBook ids

/-- `deleteUser` of the user service: whether there was such a user. -/
def deleteUser (id : Option Id) : Service Bool := do
  match ← findUserById id with
  | some (k,_) => do
    deleteUserRow k
    .pure true
  | none => .pure false

end LibraryServer.LendingServices
