import LibraryServer.BorrowedViews

/-!
The fines that the pages show. Three services compute the days that a loan is
overdue and the fine for them, each in its own way: one takes one a day and the
others ten, and only one of them expects a loan without due date.
-/
namespace LibraryServer.Fines
open LibraryServer.Fallible LibraryServer.Java LibraryServer.Tables LibraryServer.Entities LibraryServer.Accounts
open LibraryServer.BorrowedViews
set_option linter.unusedSimpArgs false

/-! ### The lists of the services -/

/-- The overdue days and the fine that an entry of a page shows. -/
def charge (dto : BorrowedBookdto) : Int32 × Int := (dto.overdueDays,dto.fine)

/-- Three fallible maps over one list agree on the charges exactly if they do on
    every element. -/
theorem mapM_agree {α : Type} {f g h : α → Except Exc BorrowedBookdto} {R : α → BorrowedBookdto → Prop} (l : List α) :
    (∃ first second third, l.mapM f = .ok first ∧ l.mapM g = .ok second ∧ l.mapM h = .ok third ∧
        second.map charge = first.map charge ∧ third.map charge = first.map charge ∧ List.Forall₂ R l first) ↔
      ∀ a ∈ l, ∃ x y z, f a = .ok x ∧ g a = .ok y ∧ h a = .ok z ∧ charge y = charge x ∧ charge z = charge x ∧ R a x := by
  simp only [mapM_ok]
  induction l with
  | nil => simp
  | cons a rest ih =>
    rw [List.forall_mem_cons,← ih]
    constructor
    · rintro ⟨_,_,_,firsts,seconds,thirds,sameY,sameZ,related⟩
      obtain ⟨x,xs,isX,restX,rfl⟩ := List.forall₂_cons_left_iff.mp firsts
      obtain ⟨y,ys,isY,restY,rfl⟩ := List.forall₂_cons_left_iff.mp seconds
      obtain ⟨z,zs,isZ,restZ,rfl⟩ := List.forall₂_cons_left_iff.mp thirds
      obtain ⟨holds,later⟩ := List.forall₂_cons.mp related
      simp only [List.map_cons,List.cons.injEq] at sameY sameZ
      exact ⟨⟨x,y,z,isX,isY,isZ,sameY.1,sameZ.1,holds⟩,xs,ys,zs,restX,restY,restZ,sameY.2,sameZ.2,later⟩
    · rintro ⟨⟨x,y,z,isX,isY,isZ,sameY,sameZ,holds⟩,_,_,_,firsts,seconds,thirds,restY,restZ,related⟩
      refine ⟨_,_,_,.cons isX firsts,.cons isY seconds,.cons isZ thirds,?_,?_,.cons holds related⟩
      · rw [List.map_cons,List.map_cons,sameY,restY]
      · rw [List.map_cons,List.map_cons,sameZ,restZ]

/-! ### One loan -/

/-- No more days than 10,000 years have. -/
def Near (today dueDate : Int) : Prop := -3652425 ≤ today - dueDate ∧ today - dueDate ≤ 3652425

theorem toInt_near {n : Int} (low : -36524250 ≤ n) (high : n ≤ 36524250) : (Int32.ofInt n).toInt = n := by
  have size : (Int32.size : Int) = 4294967296 := rfl
  rw [Int32.toInt_ofInt]
  exact Int.bmod_eq_of_le (by omega) (by omega)

theorem overdueDays_near {today dueDate : Int} (near : Near today dueDate) :
    (overdueDays dueDate today).toInt = max 0 (today - dueDate) := by
  obtain ⟨low,high⟩ := near
  unfold overdueDays
  split_ifs with late
  · rw [toInt_near (by omega) (by omega)]
    omega
  · rw [show (0 : Int32).toInt = 0 by decide]
    omega

theorem ten_near {today dueDate : Int} (near : Near today dueDate) :
    (overdueDays dueDate today * 10).toInt = 10 * max 0 (today - dueDate) := by
  have days := overdueDays_near near
  obtain ⟨low,high⟩ := near
  rw [Int32.toInt_mul,days,show (10 : Int32).toInt = 10 by decide,Int.mul_comm]
  exact Int.bmod_eq_of_le (by omega) (by omega)

/-- The library page narrows the difference before it is compared with zero. -/
theorem libraryDays_near {today dueDate : Int} (near : Near today dueDate) :
    (if 0 < (Int32.ofInt (today - dueDate)).toInt then Int32.ofInt (today - dueDate) else 0) = overdueDays dueDate today := by
  obtain ⟨low,high⟩ := near
  rw [toInt_near (by omega) (by omega)]
  rfl

/-- The three entries for a loan are there and charge the same, for the days since
    the due date. -/
def RowAgrees (db : Db) (today : Int) (loan : BorrowedBook) : Prop :=
  ∃ own library dashboard, mapToDto db today loan = .ok own ∧ libraryDto db today loan = .ok library ∧
    dashboardDto db today loan = .ok dashboard ∧ charge library = charge own ∧ charge dashboard = charge own ∧
    ∀ due ∈ loan.dueDate, own.overdueDays.toInt = max 0 (today - due.epochDay)

theorem rowAgrees_iff {db : Db} {today : Int} {loan : BorrowedBook} {book : Book} {user : User}
    (hasBook : db.books.find loan.book = some book) (hasUser : db.users.find loan.user = some user)
    (near : ∀ due ∈ loan.dueDate, Near today due.epochDay) :
    RowAgrees db today loan ↔ ∃ due ∈ loan.dueDate, today ≤ due.epochDay := by
  cases isDue : loan.dueDate with
  | none =>
    constructor
    · rintro ⟨own,_,_,shown,_⟩
      simp [mapToDto,getBook,hasBook,getDueDate,isDue] at shown
    · rintro ⟨due,impossible,_⟩
      cases impossible
  | some due =>
    have isNear := near due (by rw [isDue]; rfl)
    have days := overdueDays_near isNear
    have ten := ten_near isNear
    have library := libraryDays_near isNear
    simp only [RowAgrees,mapToDto,libraryDto,dashboardDto,getBook,getUser,getDueDate,hasBook,hasUser,isDue,ok_bind,
      Option.map_some,library]
    constructor
    · rintro ⟨_,_,_,⟨rfl⟩,⟨rfl⟩,_,same,_⟩
      simp only [charge,Prod.mk.injEq,true_and,ten,days] at same
      exact ⟨due,rfl,by omega⟩
    · rintro ⟨_,⟨rfl⟩,early⟩
      refine ⟨_,_,_,rfl,rfl,rfl,?_,?_,?_⟩
      · simp only [charge,Prod.mk.injEq,true_and,ten,days]
        omega
      · simp only [charge,Prod.mk.injEq,true_and,ten,days]
        omega
      · rintro _ ⟨rfl⟩
        exact days

/-! ### The loans of a user -/

theorem zipIdx_mapM {α β : Type} (f : α → Except Exc β) (l : List α) :
    l.zipIdx.mapM (fun item => f item.1) = l.mapM f := by
  conv_rhs => rw [← List.zipIdx_map_fst 0 l]
  exact List.mapM_map.symm

/-- On one day, the borrow page, the library page and the dashboard of a user are
    all shown, with the same days and the same fine for each loan. -/
def SameFines (db : Db) (today : Int) (user : Id × User) : Prop :=
  ∃ own library dashboard, getUserBorrowedBooks (fun _ => today) db (some user.1) = .ok own ∧
    getBorrowedBooksByUserId (fun _ => today) db (some user.1) = .ok library ∧
    getDashboardDataForUser (fun _ => today) db user = .ok dashboard ∧
    library.map charge = own.map charge ∧ dashboard.borrowedBooks.map charge = own.map charge ∧
    List.Forall₂ (fun row dto => ∀ due ∈ row.2.dueDate, dto.overdueDays.toInt = max 0 (today - due.epochDay))
      (findByUserId db (some user.1)) own

theorem getUserBorrowedBooks_today (db : Db) (today : Int) (userId : Option Id) :
    getUserBorrowedBooks (fun _ => today) db userId =
      (findByUserId db userId).mapM (fun row => mapToDto db today row.2) :=
  zipIdx_mapM (fun row : Loan => mapToDto db today row.2) (findByUserId db userId)

theorem getDashboardDataForUser_today (db : Db) (today : Int) (user : Id × User) (dashboard : Dashboarddto) :
    getDashboardDataForUser (fun _ => today) db user = .ok dashboard ↔
      ∃ dtos, (findByUserId db (some user.1)).mapM (fun row => dashboardDto db today row.2) = .ok dtos ∧
        dashboard = ⟨db.books.rows.length,(findByUserId db (some user.1)).length,dtos,user.2.role⟩ := by
  rw [getDashboardDataForUser,zipIdx_mapM (fun row : Loan => dashboardDto db today row.2)]
  cases (findByUserId db (some user.1)).mapM (fun row => dashboardDto db today row.2) with
  | error e => simp
  | ok dtos => simp [eq_comm]

theorem sameFines_rows (db : Db) (today : Int) (user : Id × User) :
    SameFines db today user ↔ ∀ row ∈ findByUserId db (some user.1), RowAgrees db today row.2 := by
  refine Iff.trans ?_ (mapM_agree (findByUserId db (some user.1)))
  simp only [SameFines,getUserBorrowedBooks_today,getDashboardDataForUser_today]
  constructor
  · rintro ⟨own,library,_,isOwn,isLibrary,⟨dtos,isDashboard,rfl⟩,sameLibrary,sameDashboard,days⟩
    exact ⟨own,library,dtos,isOwn,isLibrary,isDashboard,sameLibrary,sameDashboard,days⟩
  · rintro ⟨own,library,dtos,isOwn,isLibrary,isDashboard,sameLibrary,sameDashboard,days⟩
    exact ⟨own,library,_,isOwn,isLibrary,⟨dtos,isDashboard,rfl⟩,sameLibrary,sameDashboard,days⟩

/-- The three pages agree on the fines of a user exactly if every loan of the user
    has a due date that is not past. -/
theorem same_fines_iff {db : Db} {today : Int} {user : Id × User} (stored : db.users.find user.1 = some user.2)
    (books : ∀ row ∈ findByUserId db (some user.1), ∃ book, db.books.find row.2.book = some book)
    (near : ∀ row ∈ findByUserId db (some user.1), ∀ due ∈ row.2.dueDate, Near today due.epochDay) :
    SameFines db today user ↔
      ∀ row ∈ findByUserId db (some user.1), ∃ due ∈ row.2.dueDate, today ≤ due.epochDay := by
  rw [sameFines_rows]
  refine forall_congr' (fun row => forall_congr' (fun member => ?_))
  obtain ⟨book,hasBook⟩ := books row member
  have own : row.2.user = user.1 := by
    have selected := (mem_select.mp member).2
    simpa using selected
  exact rowAgrees_iff hasBook (by rw [own]; exact stored) (near row member)

/-- A reader with one loan of the only book. -/
def reader : User := ⟨some "Ann Lee",some "ann",some "hash",some "ann@x.org",some "1",some "+1",some .USER,none⟩

def loanDb (dueDate : Option LocalDateTime) : Db where
  books := Table.empty.insert ⟨some "Dune",some "Frank Herbert",true,none,none,0,1⟩
  users := Table.empty.insert reader
  borrowedBooks := Table.empty.insert ⟨1,1,atStartOfDay 20000,some 1,dueDate⟩
  inventory := .empty

theorem same_fines_today : SameFines (loanDb (some (atStartOfDay 20014))) 20014 (1,reader) := by
  refine (same_fines_iff rfl ?_ ?_).mpr ?_
  · intro row member
    rw [List.mem_singleton.mp member]
    exact ⟨_,rfl⟩
  · intro row member
    rw [List.mem_singleton.mp member]
    rintro due ⟨rfl⟩
    exact ⟨by decide,by decide⟩
  · intro row member
    rw [List.mem_singleton.mp member]
    exact ⟨_,rfl,by decide⟩

/-- A day later the fine is one on the borrow page and ten on the others; without a
    due date only the library page can be shown. -/
theorem fines_differ :
    ¬ SameFines (loanDb (some (atStartOfDay 20014))) 20015 (1,reader) ∧ ¬ SameFines (loanDb none) 20015 (1,reader) := by
  constructor
  · rintro ⟨own,library,_,isOwn,isLibrary,_,same,_⟩
    cases isOwn
    cases isLibrary
    exact absurd same (by decide)
  · rintro ⟨own,_,_,isOwn,_⟩
    cases isOwn

end LibraryServer.Fines
