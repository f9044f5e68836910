import LibraryServer.BorrowedViews

/-!
The controllers of the pages on which books are borrowed, returned and listed.
Each handler gets the authentication that the filter installed, the parameters
and, for the borrow page, the session, and returns the page or the exception that
it throws. `Env` is what they read outside the database.
-/
namespace LibraryServer.Controllers
open LibraryServer.Java LibraryServer.Tables LibraryServer.Entities LibraryServer.Repositories LibraryServer.JwtFilter
open LibraryServer.Accounts LibraryServer.BorrowedViews
set_option linter.unusedSimpArgs false

/-- The readings of the date, the lower-casing of the locale and the image files. -/
structure Env where
  clock : Nat → Int
  lower : String → String
  imageExists : String → Bool

/-! ### `UserService` -/

def getUserIdByUsername (users : Table User) (username : String) : Except Exc Id :=
  match findByUsername users (some username) with
  | .error e => .error e
  | .ok none => .error (.runtimeException "User not found")
  | .ok (some (id,_)) => .ok id

def getUserRoleByUsername (users : Table User) (username : String) : Except Exc (Option Role) :=
  match findByUsername users (some username) with
  | .error e => .error e
  | .ok none => .error (.runtimeException "User not found")
  | .ok (some (_,user)) => .ok user.role

/-- A null role prints as the text `null`. -/
def isAdmin (users : Table User) (username : String) : Except Exc Bool :=
  match findByUsername users (some username) with
  | .error e => .error e
  | .ok none => .ok false
  | .ok (some (_,user)) => .ok (equalsIgnoreCase "ADMIN" (some (shown (user.role.map Role.name))))

def existsById (users : Table User) (userId : Id) : Bool := (users.find userId).isSome

/-- `role.name()`. -/
def roleName : Option Role → Except Exc String
  | some role => .ok role.name
  | none => .error .nullPointer

def usernameOf (authentication : Option Authentication) : Option String := authentication.bind (fun auth => auth.name)

/-! ### The borrow page -/

/-- The attributes of the session. -/
structure Session where
  verifiedUserId : Option Id
  isVerified : Option Bool
deriving DecidableEq

/-- The borrow page; an empty `verifiedUserId` is `none`. -/
structure BorrowPage where
  borrowedBooks : List BorrowedBookdto
  books : List (Id × Book)
  searchQuery : Option String
  message : Option String
  isAdmin : Bool
  verifiedUserId : Option Id
  isVerified : Option Bool
  verificationMessage : Option String
  selectedBookIds : Option String

section
variable (env : Env)

/-- `BookService.getBooks`. -/
def getBooks (db : Db) (searchQuery : Option String) : List (Id × Book) :=
  match searchQuery with
  | none => db.books.rows
  | some query =>
    if trim query = "" then db.books.rows
    else
      let found := fun (row : Id × Book) =>
        containingIgnoreCase env.lower row.2.title query || containingIgnoreCase env.lower row.2.author query
      match parseLong (trim query) with
      | some id => db.books.rows.filter (fun row => found row || row.1 == id)
      | none => db.books.rows.filter found

/-- The default image in place of one that is missing. -/
def shownImage (image : Option String) : String :=
  match image with
  | none => "default.jpg"
  | some name => if name = "" then "default.jpg" else if env.imageExists name then name else "default.jpg"

/-- `prepareBorrowPage`; the images are changed on the page only. -/
def prepareBorrowPage (db : Db) (userId : Id) (username : String) (searchQuery message : Option String) :
    Except Exc BorrowPage := do
  let borrowedBooks ← getUserBorrowedBooks env.clock db (some userId)
  let admin ← isAdmin db.users username
  .ok
    { borrowedBooks := borrowedBooks.map (fun dto => { dto with image := some (shownImage env dto.image) })
      books := (getBooks env db searchQuery).map
        (fun row => (row.1,{ row.2 with image := some (shownImage env row.2.image) }))
      searchQuery := searchQuery, message := message, isAdmin := admin, verifiedUserId := none, isVerified := none,
      verificationMessage := none, selectedBookIds := none }

/-- The session, the user to show, whether it is verified and the message, for an
    administrator who opens the borrow page. -/
def verification (db : Db) (userId : Option Id) (verify : Option String) (session : Session) :
    Session × Option Id × Bool × Option String :=
  match verify, userId with
  | some _, some id =>
    if existsById db.users id then
      (⟨some id,some true⟩,some id,true,some "✅ User verified successfully!")
    else (⟨none,some false⟩,some id,false,some "❌ User not found. Please check the User ID.")
  | _, _ =>
    match session.verifiedUserId, session.isVerified with
    | some id, some true => (session,some id,true,none)
    | _, _ => (session,userId,false,none)

/-- GET /borrow; no page is a redirection to the login. -/
def BorrowedBooksController.getBorrowPage (authentication : Option Authentication) (search : Option String)
    (userId : Option Id) (selectedBookIds verify : Option String) (session : Session) (db : Db) :
    Except Exc (Option BorrowPage) × Session :=
  match usernameOf authentication with
  | none => (.ok none,session)
  | some username =>
    match getUserIdByUsername db.users username, isAdmin db.users username with
    | .error e, _ => (.error e,session)
    | _, .error e => (.error e,session)
    | .ok authenticatedUserId, .ok true =>
      let (session,userId,isVerified,verificationMessage) := verification db userId verify session
      let shownUser := if isVerified then userId.getD authenticatedUserId else authenticatedUserId
      ((prepareBorrowPage env db shownUser username search none).map (fun page =>
        some { page with
          verifiedUserId := userId, isVerified := some isVerified, verificationMessage := verificationMessage,
          selectedBookIds := some (selectedBookIds.getD "") }),session)
    | .ok authenticatedUserId, .ok false =>
      ((prepareBorrowPage env db authenticatedUserId username search none).map (fun page =>
        some { page with
          verifiedUserId := none, isVerified := some true, selectedBookIds := some (selectedBookIds.getD "") }),session)

/-- `BookService.isBookAvailable`. -/
def isBookAvailable (db : Db) (bookId : Option Id) : Except Exc Bool :=
  match findById db.books bookId with
  | .error e => .error e
  | .ok none => .ok false
  | .ok (some (_,book)) => .ok (0 < book.availableCopies)

/-- The first of the books that is not available. -/
def firstUnavailable (db : Db) : List (Option Id) → Except Exc (Option (Option Id))
  | [] => .ok none
  | bookId :: rest =>
    match isBookAvailable db bookId with
    | .error e => .error e
    | .ok false => .ok (some bookId)
    | .ok true => firstUnavailable db rest

/-- POST /borrow from where it is known for whom. -/
def borrowFor (bookIds : Option (List (Option Id))) (username : String) (authenticatedUserId actualUserId : Id)
    (verifiedUserId : Option Id) (db : Db) : Except Exc (Option BorrowPage) × Db :=
  let page := fun (db : Db) (message : String) =>
    (prepareBorrowPage env db actualUserId username none (some message)).map (fun page =>
      some { page with verifiedUserId := verifiedUserId })
  match bookIds with
  | none => (page db "⚠️ Please select at least one book to borrow.",db)
  | some [] => (page db "⚠️ Please select at least one book to borrow.",db)
  | some ids =>
    if 3 < ids.length then
      (page db "❌ You can only borrow up to 3 books at a time. Please select fewer books.",db)
    else
      match firstUnavailable db ids with
      | .error e => (.error e,db)
      | .ok (some bookId) => (page db ("❌ Book with ID " ++ shown bookId ++ " is not available for borrowing."),db)
      | .ok none =>
        match transactional (LendingServices.borrowBooksForUser env.clock (some ids) (some actualUserId)) db with
        | (.error e,after) => (.error e,after)
        | (.ok _,after) =>
          match isAdmin after.users username with
          | .error e => (.error e,after)
          | .ok admin =>
            if admin && actualUserId != authenticatedUserId then
              (page after ("✅ Books borrowed successfully for User ID: " ++ toString actualUserId ++
                "! Check the user's borrowed books list."),after)
            else (page after "✅ Books borrowed successfully! Check your borrowed books list.",after)

/-- POST /borrow. -/
def BorrowedBooksController.borrowBooks (bookIds : Option (List (Option Id))) (userId : Option Id)
    (authentication : Option Authentication) (session : Session) (db : Db) :
    Except Exc (Option BorrowPage) × Session × Db :=
  match usernameOf authentication with
  | none => (.ok none,session,db)
  | some username =>
    match getUserIdByUsername db.users username, isAdmin db.users username with
    | .error e, _ => (.error e,session,db)
    | _, .error e => (.error e,session,db)
    | .ok authenticatedUserId, .ok true =>
      let session := if userId.isSome then { session with verifiedUserId := userId } else session
      match session.verifiedUserId.filter (existsById db.users) with
      | none =>
        ((prepareBorrowPage env db authenticatedUserId username none
          (some "❌ Invalid user ID. Please verify the user ID before borrowing books.")).map some,session,db)
      | some actualUserId =>
        let (page,after) := borrowFor env bookIds username authenticatedUserId actualUserId (some actualUserId) db
        (page,session,after)
    | .ok authenticatedUserId, .ok false =>
      let (page,after) := borrowFor env bookIds username authenticatedUserId authenticatedUserId none db
      (page,session,after)

end

/-! ### The return page -/

structure ReturnPage where
  view : String
  error : Option String
  message : Option String
  borrowedBooks : Option (List ReturnBooksdto)
  role : Option Role

def loginPage : ReturnPage := ⟨"redirect:/login",some "User is not logged in.",none,none,none⟩

/-- The page with the loans that the service lists. -/
def listReturns (db : Db) (target : Option Id) (role : Option Role) (error message : Option String) :
    Except Exc ReturnPage := do
  let name ← roleName role
  let borrowedBooks ← getBorrowedBooks db target name
  .ok ⟨"return_books",error,message,some borrowedBooks,role⟩

/-- GET /return_books. -/
def ReturnBooksController.showReturnPage (authentication : Option Authentication) (userIdInput : Option Id) (db : Db) :
    Except Exc ReturnPage :=
  match usernameOf authentication with
  | none => .ok loginPage
  | some username => do
    let currentUserId ← getUserIdByUsername db.users username
    let role ← getUserRoleByUsername db.users username
    if role = some .ADMIN then
      match userIdInput with
      | none => listReturns db none role none none
      | some id =>
        if existsById db.users id then listReturns db (some id) role none none
        else .ok ⟨"return_books",some "User ID not found.",none,some [],role⟩
    else listReturns db (some currentUserId) role none none

/-- The lists that the entries of an administrator's form are read into; a book id
    stays in when the user id after it is malformed. -/
def readPairs : List String → List (Option Id) × List (Option Id) × Option String
  | [] => ([],[],none)
  | pair :: rest =>
    let (bookIds,userIds,error) := readPairs rest
    match split ':' pair with
    | [first,second] =>
      match parseLong first, parseLong second with
      | some book, some user => (some book :: bookIds,some user :: userIds,error)
      | some book, none => (some book :: bookIds,userIds,error <|> some "Invalid book ID or user ID format.")
      | none, _ => (bookIds,userIds,error <|> some "Invalid book ID or user ID format.")
    | _ => (bookIds,userIds,error <|> some "Invalid format for book and user IDs.")

/-- The book ids and user ids that the handler passes on, and its error. -/
def returnLists (role : Option Role) (bookIds : Option (List (Option Id))) (bookIdsAndUserIds : Option (List String)) :
    List (Option Id) × Option (List (Option Id)) × Option String :=
  if role = some .ADMIN then
    match bookIdsAndUserIds with
    | none => ([],none,none)
    | some pairs =>
      let (bookIds,userIds,error) := readPairs pairs
      (bookIds,some userIds,error)
  else (bookIds.getD [],none,none)

/-- POST /return_books. -/
def ReturnBooksController.returnBooks (bookIds : Option (List (Option Id))) (bookIdsAndUserIds : Option (List String))
    (authentication : Option Authentication) (db : Db) : Except Exc ReturnPage × Db :=
  match usernameOf authentication with
  | none => (.ok loginPage,db)
  | some username =>
    match getUserIdByUsername db.users username, getUserRoleByUsername db.users username with
    | .error e, _ => (.error e,db)
    | _, .error e => (.error e,db)
    | .ok currentUserId, .ok role =>
      let (finalBookIds,userIds,error) := returnLists role bookIds bookIdsAndUserIds
      match roleName role with
      -- The exception is caught, and thrown again when the list is refreshed.
      | .error e => (.error e,db)
      | .ok name =>
        match transactional (LendingServices.returnBooks (some finalBookIds) userIds (some currentUserId) (some name)) db with
        | (.error e,after) =>
          (listReturns after (some currentUserId) role (some ("Error returning books: " ++ e.message)) none,after)
        | (.ok _,after) => (listReturns after (some currentUserId) role error (some "Books returned successfully."),after)

/-! ### The pages that list loans -/

/-- `replace("ROLE_", "")`. -/
def withoutPrefix : List Char → List Char
  | 'R' :: 'O' :: 'L' :: 'E' :: '_' :: rest => withoutPrefix rest
  | c :: rest => c :: withoutPrefix rest
  | [] => []

structure ViewPage where
  view : String
  error : Option String
  borrowedBooks : Option (List ViewBorrowedBooksdto)
  role : Option String
  searchQuery : Option String

/-- GET /view_borrowed_books, which takes the role from the token. -/
def ViewBorrowedBooksController.viewBorrowedBooks (env : Env) (authentication : Option Authentication)
    (searchQuery : Option String) (db : Db) : Except Exc ViewPage :=
  match authentication with
  | none => .ok ⟨"redirect:/login",some "User not logged in.",none,none,none⟩
  | some auth =>
    match auth.name with
    | none => .ok ⟨"redirect:/login",some "User not logged in.",none,none,none⟩
    | some username => do
      let userId ← getUserIdByUsername db.users username
      match auth.authorities with
      | [] => .error (.illegalArgument "Role not found")
      | authority :: _ =>
        let cleanRole := String.ofList (withoutPrefix authority.toList)
        match roleOf cleanRole with
        | .error _ => .ok ⟨"view_borrowed_books",some ("Invalid role: " ++ cleanRole),none,none,none⟩
        | .ok _ => do
          let borrowedBooks ←
            match searchQuery with
            | none => viewBorrowed db (some userId) cleanRole
            | some query =>
              if trim query = "" then viewBorrowed db (some userId) cleanRole
              else searchBorrowedBooks env.lower db (env.lower (trim query)) (some userId) cleanRole
          .ok ⟨"view_borrowed_books",none,some borrowedBooks,some cleanRole,searchQuery⟩

structure DashboardPage where
  view : String
  data : Option Dashboarddto
  userRole : Option String
  allUsers : Option (List (Id × User))

/-- GET /dashboard. -/
def DashboardController.getDashboardView (env : Env) (authentication : Option Authentication) (db : Db) :
    Except Exc DashboardPage :=
  match authentication with
  | none => .error .nullPointer
  | some auth =>
    match findByUsername db.users auth.name with
    | .error e => .error e
    | .ok none => .ok ⟨"error/404",none,none,none⟩
    | .ok (some user) => do
      let data ← getDashboardDataForUser env.clock db user
      let role ← roleName user.2.role
      let allUsers := if equalsIgnoreCase "ADMIN" (some role) then some db.users.rows else none
      .ok ⟨"dashboard",some data,some role,allUsers⟩

structure LibraryPage where
  bookCount : Int32
  username : Option String
  userRole : Option String
  borrowedBooks : Option (List BorrowedBookdto)
  isAuthenticated : Option Bool

/-- GET /library. -/
def LibraryController.getLibraryPage (env : Env) (authentication : Option Authentication) (db : Db) :
    Except Exc LibraryPage :=
  let bookCount := Int32.ofNat db.books.rows.length
  match usernameOf authentication with
  | none => .ok ⟨bookCount,some "Guest",some "GUEST",some [],some false⟩
  | some username =>
    match findByUsername db.users (some username) with
    | .error e => .error e
    | .ok none => .ok ⟨bookCount,none,none,none,none⟩
    | .ok (some (id,user)) => do
      let borrowedBooks ← getBorrowedBooksByUserId env.clock db (some id)
      let role ← roleName user.role
      .ok ⟨bookCount,user.username,some role,some borrowedBooks,some true⟩

end LibraryServer.Controllers
