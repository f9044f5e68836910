import LibraryServer.Controllers
import LibraryServer.Runs
import Mathlib.Data.List.Perm.Subperm

/-!
The selection on the borrow page. The page has a checkbox for each available book that
it shows, and its script carries the checked ones over a search: it writes their ids
into a hidden field of the search form, the server sends the field back, and the
script checks the boxes with these ids. Every search writes the field anew from the
boxes of the page, so a selected book that one result leaves out is forgotten.
-/
namespace LibraryServer.BorrowSelection
open LibraryServer.Java LibraryServer.Tables LibraryServer.Runs LibraryServer.Entities LibraryServer.JwtFilter
open LibraryServer.Accounts LibraryServer.BorrowedViews LibraryServer.Controllers
set_option linter.unusedSimpArgs false

/-! ### The page and its script -/

/-- The checkbox of a book. -/
structure Checkbox where
  book : Id
  checked : Bool
deriving DecidableEq

def Checkbox.value (box : Checkbox) : String := toString box.book

def Checkbox.elementId (box : Checkbox) : String := "book_" ++ toString box.book

/-- The checkboxes in their order, one for each book, and the value of the hidden field. -/
structure Page where
  boxes : List Checkbox
  distinct : (boxes.map Checkbox.book).Nodup
  selectedBookIds : String

/-- The books that a search shows. -/
abbrev Shown := { books : List Id // books.Nodup }

def BORROW_LIMIT : Nat := 3

/-- The box of the book is there and checked. -/
def checkedIn (boxes : List Checkbox) (b : Id) : Bool := boxes.any (fun box => box.book == b && box.checked)

def Page.books (page : Page) : List Id := page.boxes.map Checkbox.book

def Page.isChecked (page : Page) (b : Id) : Bool := checkedIn page.boxes b

/-- `querySelectorAll('input[name="bookIds"]:checked')`. -/
def Page.checkedBoxes (page : Page) : List Checkbox := page.boxes.filter Checkbox.checked

/-- `getElementById(id)`, where there is such an element, is checked. -/
def checkById (id : String) : List Checkbox → List Checkbox
  | [] => []
  | box :: rest => if box.elementId = id then { box with checked := true } :: rest else box :: checkById id rest

/-- What the script does with the hidden field when the page is loaded. -/
def restored (selectedBookIds : String) (boxes : List Checkbox) : List Checkbox :=
  if selectedBookIds = "" then boxes
  else
    let selectedIds := (selectedBookIds.toList.splitOn ',').map String.ofList
    selectedIds.foldl (fun boxes id => checkById ("book_" ++ id) boxes) boxes

def setChecked (b : Id) (checked : Bool) (boxes : List Checkbox) : List Checkbox :=
  boxes.map (fun box => if box.book = b then { box with checked := checked } else box)

theorem books_checkById (id : String) (boxes : List Checkbox) :
    (checkById id boxes).map Checkbox.book = boxes.map Checkbox.book := by
  induction boxes with
  | nil => rfl
  | cons box rest ih =>
    rw [checkById]
    split_ifs with isThis
    · rfl
    · rw [List.map_cons,ih,List.map_cons]

theorem books_restored (selectedBookIds : String) (boxes : List Checkbox) :
    (restored selectedBookIds boxes).map Checkbox.book = boxes.map Checkbox.book := by
  have each : ∀ (ids : List String) (boxes : List Checkbox),
      (ids.foldl (fun boxes id => checkById ("book_" ++ id) boxes) boxes).map Checkbox.book = boxes.map Checkbox.book := by
    intro ids
    induction ids with
    | nil => exact fun _ => rfl
    | cons id rest ih =>
      intro boxes
      rw [List.foldl_cons,ih,books_checkById]
  rw [restored]
  split_ifs with empty
  · rfl
  · exact each _ boxes

theorem books_setChecked (b : Id) (checked : Bool) (boxes : List Checkbox) :
    (setChecked b checked boxes).map Checkbox.book = boxes.map Checkbox.book := by
  rw [setChecked,List.map_map]
  refine List.map_congr_left (fun box _ => ?_)
  by_cases isThis : box.book = b <;> simp [isThis]

/-- The boxes as the template has them. -/
def unchecked (books : List Id) : List Checkbox := books.map (fun b => ⟨b,false⟩)

theorem books_unchecked (books : List Id) : (unchecked books).map Checkbox.book = books := by
  rw [unchecked,List.map_map]
  exact List.map_id books

/-- The page as it is loaded. -/
def load (books : Shown) (selectedBookIds : String) : Page where
  boxes := restored selectedBookIds (unchecked books.val)
  distinct := by
    rw [books_restored,books_unchecked]
    exact books.property
  selectedBookIds := selectedBookIds

def Page.put (page : Page) (b : Id) (checked : Bool) : Page where
  boxes := setChecked b checked page.boxes
  distinct := (books_setChecked b checked page.boxes).symm ▸ page.distinct
  selectedBookIds := page.selectedBookIds

/-- A click on the checkbox of a book, and the handler of its change. -/
def Page.click (page : Page) (b : Id) : Page :=
  let changed := page.put b (!page.isChecked b)
  if changed.isChecked b && BORROW_LIMIT < changed.checkedBoxes.length then changed.put b false else changed

/-- The handler of the search form: the hidden field gets the values of the checked boxes. -/
def Page.submit (page : Page) : Page :=
  { page with selectedBookIds := ",".intercalate (page.checkedBoxes.map Checkbox.value) }

/-- A search: the field comes back unchanged, on a page with other books. -/
def Page.search (page : Page) (books : Shown) : Page := load books page.submit.selectedBookIds

/-! ### The pages of the server -/

/-- The template has a row for each book with available copies. -/
def shownBooks (books : List (Id × Book)) : List Id := (books.filter (fun row => 0 < row.2.availableCopies)).map Prod.fst

theorem getBooks_nodup (env : Env) (db : Db) (query : Option String) : ((getBooks env db query).map Prod.fst).Nodup := by
  have sub : (getBooks env db query).Sublist db.books.rows := by
    cases query with
    | none => exact List.Sublist.refl _
    | some text =>
      rw [getBooks]
      split_ifs
      · exact List.Sublist.refl _
      · split <;> exact List.filter_sublist
  exact (keys_nodup db.books).sublist (sub.map Prod.fst)

theorem prepareBorrowPage_nodup {env : Env} {db : Db} {userId : Id} {username : String} {query message : Option String}
    {page : BorrowPage} (prepared : prepareBorrowPage env db userId username query message = .ok page) :
    (page.books.map Prod.fst).Nodup := by
  rw [prepareBorrowPage] at prepared
  obtain ⟨borrowed,_,prepared⟩ := Fallible.bind_eq_ok.mp prepared
  obtain ⟨admin,_,prepared⟩ := Fallible.bind_eq_ok.mp prepared
  cases prepared
  rw [List.map_map]
  exact getBooks_nodup env db query

/-- The server sends the field back, and each book once. -/
theorem getBorrowPage_echo {env : Env} {auth : Option Authentication} {search : Option String} {userId : Option Id}
    {selectedBookIds verify : Option String} {session after : Session} {db : Db} {page : BorrowPage}
    (served : BorrowedBooksController.getBorrowPage env auth search userId selectedBookIds verify session db =
      (.ok (some page),after)) :
    page.selectedBookIds = some (selectedBookIds.getD "") ∧ (shownBooks page.books).Nodup := by
  have once : ∀ {books : List (Id × Book)}, (books.map Prod.fst).Nodup → (shownBooks books).Nodup :=
    fun distinct => distinct.sublist (List.filter_sublist.map Prod.fst)
  rw [BorrowedBooksController.getBorrowPage] at served
  split at served
  · cases served
  · split at served
    · cases served
    · cases served
    all_goals
      obtain ⟨shown,_⟩ := Prod.mk.inj served
      obtain ⟨prepared,isPrepared,isPage⟩ := Fallible.map_eq_ok.mp shown
      cases isPage
      have distinct := prepareBorrowPage_nodup isPrepared
      exact ⟨rfl,once distinct⟩

/-- A search that the server answers is a search of the page. -/
theorem search_served {page : Page} {env : Env} {auth : Option Authentication} {query : Option String} {userId : Option Id}
    {verify : Option String} {session after : Session} {db : Db} {answer : BorrowPage}
    (served : BorrowedBooksController.getBorrowPage env auth query userId (some page.submit.selectedBookIds) verify
      session db = (.ok (some answer),after)) :
    ∃ books : Shown, books.val = shownBooks answer.books ∧ load books (answer.selectedBookIds.getD "") = page.search books := by
  obtain ⟨echo,once⟩ := getBorrowPage_echo served
  refine ⟨⟨shownBooks answer.books,once⟩,rfl,?_⟩
  rw [echo]
  rfl

/-! ### What clicks and searches do to the boxes -/

theorem checkedIn_cons (box : Checkbox) (rest : List Checkbox) (b : Id) :
    checkedIn (box :: rest) b = (box.book == b && box.checked || checkedIn rest b) := rfl

theorem checkedIn_iff {boxes : List Checkbox} {b : Id} :
    checkedIn boxes b = true ↔ ∃ box ∈ boxes, box.book = b ∧ box.checked = true := by
  simp [checkedIn]

theorem checkedIn_shown {boxes : List Checkbox} {b : Id} (checked : checkedIn boxes b = true) :
    b ∈ boxes.map Checkbox.book := by
  obtain ⟨box,member,isBook,_⟩ := checkedIn_iff.mp checked
  exact List.mem_map.mpr ⟨box,member,isBook⟩

theorem checkedIn_setChecked (b c : Id) (checked : Bool) (boxes : List Checkbox) :
    checkedIn (setChecked b checked boxes) c =
      if c = b then decide (b ∈ boxes.map Checkbox.book) && checked else checkedIn boxes c := by
  induction boxes with
  | nil => by_cases same : c = b <;> simp [checkedIn,setChecked,same]
  | cons box rest ih =>
    rw [setChecked,List.map_cons,checkedIn_cons,← setChecked,ih]
    by_cases same : c = b
    · by_cases isThis : box.book = b
      · simp [same,isThis]
      · simp [same,isThis,Ne.symm isThis]
    · by_cases isThis : box.book = b
      · have other : (b == c) = false := beq_false_of_ne (Ne.symm same)
        simp [checkedIn_cons,same,isThis,other]
      · simp [checkedIn_cons,same,isThis]

theorem elementId_inj {box : Checkbox} {b : Id} : box.elementId = "book_" ++ toString b ↔ box.book = b := by
  rw [Checkbox.elementId,String.append_right_inj]
  exact toString_inj

/-- The book of a box is the only one with its id, so the script finds the box of the book. -/
theorem checkById_book {boxes : List Checkbox} (distinct : (boxes.map Checkbox.book).Nodup) (b : Id) :
    checkById ("book_" ++ toString b) boxes = setChecked b true boxes := by
  induction boxes with
  | nil => rfl
  | cons box rest ih =>
    obtain ⟨new,distinct⟩ := List.nodup_cons.mp distinct
    rw [checkById,setChecked,List.map_cons,← setChecked]
    by_cases isThis : box.book = b
    · have others : setChecked b true rest = rest := by
        refine (List.map_congr_left (fun other member => if_neg ?_)).trans (List.map_id rest)
        intro same
        exact new (List.mem_map.mpr ⟨other,member,same.trans isThis.symm⟩)
      rw [if_pos (elementId_inj.mpr isThis),if_pos isThis,others]
    · rw [if_neg (fun same => isThis (elementId_inj.mp same)),if_neg isThis,ih distinct]

/-- The boxes of the listed books become checked, the others stay. -/
theorem checkedIn_checkAll (ids : List Id) {boxes : List Checkbox} (distinct : (boxes.map Checkbox.book).Nodup) (c : Id) :
    checkedIn ((ids.map toString).foldl (fun boxes id => checkById ("book_" ++ id) boxes) boxes) c =
      (checkedIn boxes c || decide (c ∈ boxes.map Checkbox.book) && decide (c ∈ ids)) := by
  induction ids generalizing boxes with
  | nil => simp
  | cons b rest ih =>
    have same := books_setChecked b true boxes
    rw [List.map_cons,List.foldl_cons,checkById_book distinct,ih (same ▸ distinct),same,checkedIn_setChecked]
    by_cases isThis : c = b
    · by_cases shown : b ∈ boxes.map Checkbox.book
      · simp [isThis,shown]
      · have unchecked : checkedIn boxes b = false := Bool.eq_false_iff.mpr (fun checked => shown (checkedIn_shown checked))
        simp [isThis,shown,unchecked]
    · simp [isThis]

/-- What the handler of the search form writes is read back on the next page. -/
theorem restored_join (ids : List Id) (boxes : List Checkbox) :
    restored (",".intercalate (ids.map toString)) boxes =
      (ids.map toString).foldl (fun boxes id => checkById ("book_" ++ id) boxes) boxes := by
  have comma : ∀ text ∈ (ids.map toString).map String.toList, ',' ∉ text := by
    simp only [List.map_map,List.forall_mem_map]
    intro b _ member
    rcases mem_toString member with digit | sign
    · exact absurd digit (by decide)
    · exact absurd sign (by decide)
  cases ids with
  | nil => rfl
  | cons b rest =>
    have texts : ((",".intercalate ((b :: rest).map toString)).toList.splitOn ',').map String.ofList =
        (b :: rest).map toString := by
      rw [String.toList_intercalate]
      rw [show ",".toList = [','] from rfl,List.splitOn_intercalate ',' comma (by simp),List.map_map]
      simp
    have filled : ",".intercalate ((b :: rest).map toString) ≠ "" := by
      intro empty
      rw [empty] at texts
      exact toString_filled b (List.cons.inj texts).1.symm
    rw [restored,if_neg filled,texts]

theorem books_search (page : Page) (books : Shown) : (page.search books).books = books.val := by
  rw [Page.search,load,Page.books,books_restored,books_unchecked]

theorem mem_checkedBoxes (page : Page) (b : Id) : b ∈ page.checkedBoxes.map Checkbox.book ↔ page.isChecked b = true := by
  rw [Page.isChecked,checkedIn_iff,List.mem_map]
  refine exists_congr (fun box => ?_)
  rw [Page.checkedBoxes,List.mem_filter,and_assoc,and_comm (a := box.checked = true)]

/-- After a search those books are checked that were checked before it. -/
theorem isChecked_search (page : Page) (books : Shown) (b : Id) :
    (page.search books).isChecked b = (decide (b ∈ books.val) && page.isChecked b) := by
  have loaded : ∀ value, (load books value).isChecked b = checkedIn (restored value (unchecked books.val)) b := fun _ => rfl
  have written : page.submit.selectedBookIds = ",".intercalate ((page.checkedBoxes.map Checkbox.book).map toString) := by
    rw [List.map_map]
    rfl
  have distinct : ((unchecked books.val).map Checkbox.book).Nodup := (books_unchecked books.val).symm ▸ books.property
  have none_checked : checkedIn (unchecked books.val) b = false := by simp [checkedIn,unchecked]
  have selected : decide (b ∈ page.checkedBoxes.map Checkbox.book) = page.isChecked b := by
    rw [Bool.eq_iff_iff,decide_eq_true_eq,mem_checkedBoxes]
  rw [Page.search,loaded,written,restored_join,checkedIn_checkAll _ distinct,none_checked,books_unchecked,Bool.false_or,selected]

theorem books_put (page : Page) (b : Id) (checked : Bool) : (page.put b checked).books = page.books :=
  books_setChecked b checked page.boxes

theorem isChecked_put (page : Page) (b c : Id) (checked : Bool) :
    (page.put b checked).isChecked c = if c = b then decide (b ∈ page.books) && checked else page.isChecked c :=
  checkedIn_setChecked b c checked page.boxes

/-- No more boxes are checked than books may be borrowed. -/
def Page.WithinLimit (page : Page) : Prop := page.checkedBoxes.length ≤ BORROW_LIMIT

/-- The box changes and stays within the limit if it is checked now, or the handler takes the click back. -/
theorem click_cases (page : Page) (b : Id) :
    (page.click b = page.put b (!page.isChecked b) ∧ ((page.click b).isChecked b = true → (page.click b).WithinLimit)) ∨
      page.click b = (page.put b (!page.isChecked b)).put b false := by
  have isClick : page.click b = if (page.put b (!page.isChecked b)).isChecked b &&
      BORROW_LIMIT < (page.put b (!page.isChecked b)).checkedBoxes.length then (page.put b (!page.isChecked b)).put b false
    else page.put b (!page.isChecked b) := rfl
  rw [isClick]
  split_ifs with exceeded
  · exact .inr rfl
  · refine .inl ⟨rfl,fun checked => ?_⟩
    rw [checked,Bool.true_and,decide_eq_true_eq] at exceeded
    exact Nat.le_of_not_lt exceeded

theorem books_click (page : Page) (b : Id) : (page.click b).books = page.books := by
  rcases click_cases page b with ⟨changed,_⟩ | refused
  · rw [changed,books_put]
  · rw [refused,books_put,books_put]

/-- A click changes no other box. -/
theorem isChecked_click_other (page : Page) {b c : Id} (other : c ≠ b) : (page.click b).isChecked c = page.isChecked c := by
  rcases click_cases page b with ⟨changed,_⟩ | refused
  · rw [changed,isChecked_put,if_neg other]
  · rw [refused,isChecked_put,if_neg other,isChecked_put,if_neg other]

/-! ### The limit -/

/-- A page on which no box is checked that was not checked before has no more of them. -/
theorem withinLimit_mono {page after : Page} (fewer : ∀ b, after.isChecked b = true → page.isChecked b = true)
    (within : page.WithinLimit) : after.WithinLimit := by
  have distinct : (after.checkedBoxes.map Checkbox.book).Nodup := after.distinct.sublist (List.filter_sublist.map _)
  have sub : after.checkedBoxes.map Checkbox.book ⊆ page.checkedBoxes.map Checkbox.book := by
    intro b member
    exact (mem_checkedBoxes page b).mpr (fewer b ((mem_checkedBoxes after b).mp member))
  have lengths := (List.subperm_of_subset distinct sub).length_le
  rw [List.length_map,List.length_map] at lengths
  exact lengths.trans within

theorem withinLimit_search {page : Page} (within : page.WithinLimit) (books : Shown) : (page.search books).WithinLimit := by
  refine withinLimit_mono (fun b checked => ?_) within
  rw [isChecked_search,Bool.and_eq_true] at checked
  exact checked.2

theorem withinLimit_click {page : Page} (within : page.WithinLimit) (b : Id) : (page.click b).WithinLimit := by
  by_cases checked : (page.click b).isChecked b = true
  · rcases click_cases page b with ⟨_,limited⟩ | refused
    · exact limited checked
    · rw [refused,isChecked_put,if_pos rfl,Bool.and_false] at checked
      cases checked
  · refine withinLimit_mono (fun c isChecked => ?_) within
    have other : c ≠ b := fun same => checked (same ▸ isChecked)
    rw [isChecked_click_other page other] at isChecked
    exact isChecked

/-! ### Browsing -/

/-- The page, and what the user's clicks have done, the last one first. -/
structure Browsing where
  page : Page
  toggles : List (Id × Bool)

inductive Action where
  | toggle (book : Id)
  | search (books : Shown)

/-- The last click on the box of the book checked it. -/
def lastChecked (toggles : List (Id × Bool)) (b : Id) : Bool :=
  ((toggles.find? (fun toggle => toggle.1 == b)).map Prod.snd).getD false

/-- There is nothing to click where the page does not show the book. -/
def browse (s : Browsing) : Action → Browsing
  | .toggle b => if b ∈ s.page.books then ⟨s.page.click b,(b,(s.page.click b).isChecked b) :: s.toggles⟩ else s
  | .search books => ⟨s.page.search books,s.toggles⟩

/-- The page as it is opened, with nothing selected. -/
def opened (books : Shown) : Browsing := ⟨load books "",[]⟩

/-- The boxes that are shown are as the user left them. -/
def SelectionKept (s : Browsing) : Prop := ∀ b ∈ s.page.books, s.page.isChecked b = lastChecked s.toggles b

/-- A search brings back no selected book that the page before it did not show. -/
def NoReturn (s : Browsing) : Action → Prop
  | .toggle _ => True
  | .search books => ∀ b ∈ books.val, lastChecked s.toggles b = true → b ∈ s.page.books

instance (s : Browsing) : Decidable (SelectionKept s) := inferInstanceAs (Decidable (∀ b ∈ s.page.books, _ = _))

instance (s : Browsing) : (a : Action) → Decidable (NoReturn s a)
  | .toggle _ => .isTrue trivial
  | .search books => inferInstanceAs (Decidable (∀ b ∈ books.val, _ → _))

theorem lastChecked_cons (b c : Id) (checked : Bool) (toggles : List (Id × Bool)) :
    lastChecked ((b,checked) :: toggles) c = if c = b then checked else lastChecked toggles c := by
  by_cases same : c = b
  · simp [lastChecked,same]
  · have other : (b == c) = false := beq_false_of_ne (Ne.symm same)
    simp [lastChecked,same,other]

theorem isChecked_opened (books : Shown) (b : Id) : (opened books).page.isChecked b = false := by
  have boxes : (opened books).page.boxes = restored "" (unchecked books.val) := rfl
  rw [Page.isChecked,boxes,restored,if_pos rfl]
  simp [checkedIn,unchecked]

theorem toggle_keeps {s : Browsing} (kept : SelectionKept s) (b : Id) : SelectionKept (browse s (.toggle b)) := by
  rw [browse]
  split_ifs with shown
  · intro c member
    rw [lastChecked_cons]
    split_ifs with same
    · rw [same]
    · rw [isChecked_click_other s.page same]
      exact kept c (books_click s.page b ▸ member)
  · exact kept

theorem search_keeps_iff {s : Browsing} (kept : SelectionKept s) (books : Shown) :
    SelectionKept (browse s (.search books)) ↔ NoReturn s (.search books) := by
  have result : SelectionKept (browse s (.search books)) ↔
      ∀ b ∈ books.val, s.page.isChecked b = lastChecked s.toggles b := by
    rw [SelectionKept,browse,books_search]
    refine forall₂_congr (fun b member => ?_)
    rw [isChecked_search,decide_eq_true member,Bool.true_and]
  rw [result]
  refine forall₂_congr (fun b _ => ?_)
  by_cases shown : b ∈ s.page.books
  · exact iff_of_true (kept b shown) (fun _ => shown)
  · have off : s.page.isChecked b = false := Bool.eq_false_iff.mpr (fun checked => shown (checkedIn_shown checked))
    rw [off]
    simp [shown,eq_comm (a := false)]

/-- Over a run of clicks and searches every box that is shown is as the user left it
    exactly if no search brings back a selected book that was out of sight. -/
theorem selection_kept_iff (books : Shown) (actions : List Action) :
    Always browse SelectionKept (opened books) actions ↔ Throughout browse NoReturn (opened books) actions := by
  refine always_iff (fun s action kept => ?_) ?_ actions
  · cases action with
    | toggle b => exact iff_of_true (toggle_keeps kept b) trivial
    | search books => exact search_keeps_iff kept books
  · intro b _
    exact isChecked_opened books b

def twoBooks : Shown := ⟨[1,2],by decide⟩

/-- The first of two books is selected, a search shows the other one, and another both. -/
def searchAndBack : List Action := [.toggle 1,.search ⟨[2],by decide⟩,.search twoBooks]

/-- The first book is shown again and no longer checked. -/
theorem selection_forgotten :
    ¬ Always browse SelectionKept (opened twoBooks) searchAndBack ∧
      1 ∈ (searchAndBack.foldl browse (opened twoBooks)).page.books ∧
      (searchAndBack.foldl browse (opened twoBooks)).page.isChecked 1 = false ∧
      lastChecked (searchAndBack.foldl browse (opened twoBooks)).toggles 1 = true := by
  decide

theorem browse_withinLimit {s : Browsing} (within : s.page.WithinLimit) (action : Action) :
    (browse s action).page.WithinLimit := by
  cases action with
  | toggle b =>
    rw [browse]
    split_ifs
    · exact withinLimit_click within b
    · exact within
  | search books => exact withinLimit_search within books

theorem opened_withinLimit (books : Shown) : (opened books).page.WithinLimit := by
  have none_checked : (opened books).page.checkedBoxes = [] := by
    refine List.filter_eq_nil_iff.mpr (fun box member checked => ?_)
    have isChecked : (opened books).page.isChecked box.book = true := checkedIn_iff.mpr ⟨box,member,rfl,checked⟩
    rw [isChecked_opened] at isChecked
    cases isChecked
  rw [Page.WithinLimit,none_checked]
  exact Nat.zero_le _

/-- At no time more books are selected than may be borrowed at once. -/
theorem selection_limited (books : Shown) (actions : List Action) :
    Always browse (fun s => s.page.WithinLimit) (opened books) actions :=
  always_kept (I := fun s : Browsing => s.page.WithinLimit) (fun _ action within => browse_withinLimit within action)
    (opened_withinLimit books) actions

end LibraryServer.BorrowSelection
