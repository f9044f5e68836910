import LibraryServer.Catalogue
import LibraryServer.Paths
import Mathlib.Data.List.Induction

/-!
The files that `addBook` writes. The name of a cover is what the client calls the
file, with every character outside a small alphabet replaced. Different names can
become one, and the dots stay: a later cover replaces an earlier one of its name,
and three names lead out of the image folder.
-/
namespace LibraryServer.Covers
open LibraryServer.Java LibraryServer.Tables LibraryServer.Runs LibraryServer.Entities LibraryServer.Paths
open LibraryServer.LendingInvariant LibraryServer.Catalogue
set_option linter.unusedSimpArgs false

/-! ### Names -/

theorem toList_sanitized (name : String) : (sanitized name).toList = name.toList.map kept := by
  simp only [sanitized,String.toList_ofList]

theorem kept_dot {c : Char} : kept c = '.' ↔ c = '.' := by
  rw [kept]
  split_ifs with plain
  · exact Iff.rfl
  · refine iff_of_false (by decide) ?_
    rintro rfl
    exact plain (by decide)

theorem kept_ne_slash (c : Char) : kept c ≠ '/' := by
  rw [kept]
  split_ifs with plain
  · rintro rfl
    exact absurd plain (by decide)
  · decide

theorem sanitized_plain (name : String) : '/' ∉ (sanitized name).toList := by
  rw [toList_sanitized,List.mem_map]
  rintro ⟨c,_,slash⟩
  exact kept_ne_slash c slash

/-- Only dots become dots. -/
theorem sanitized_dots (name : String) (n : Nat) :
    (sanitized name).toList = List.replicate n '.' ↔ name.toList = List.replicate n '.' := by
  rw [toList_sanitized,List.eq_replicate_iff,List.eq_replicate_iff,List.length_map,List.forall_mem_map]
  simp only [kept_dot]

/-! ### The place of a cover -/

/-- `new File(directory, imageName)`, where an empty name stands for the directory.
    The doubled slashes that `File` removes lead nowhere. -/
def imagePath (imageFolderPath imageName : String) : String :=
  if imageName = "" then imageFolderPath else imageFolderPath ++ "/" ++ imageName

/-- The file that `addBook` writes for this name is in the image folder. -/
def StaysInside (working : Place) (imageFolderPath original : String) : Prop :=
  parent (place working (imagePath imageFolderPath (sanitized original)).toList) =
    some (place working imageFolderPath.toList)

instance (working : Place) (imageFolderPath original : String) : Decidable (StaysInside working imageFolderPath original) :=
  inferInstanceAs (Decidable (_ = _))

theorem place_imagePath (working : Place) {imageFolderPath imageName : String} (configured : imageFolderPath ≠ "")
    (plain : '/' ∉ imageName.toList) :
    place working (imagePath imageFolderPath imageName).toList =
      resolve (place working imageFolderPath.toList) imageName.toList := by
  rw [imagePath]
  split_ifs with empty
  · rw [empty]
    rfl
  · have filled : imageFolderPath.toList ≠ [] := fun nil => configured (String.toList_eq_nil_iff.mp nil)
    rw [String.toList_append,String.toList_append,List.append_assoc]
    exact place_append working filled plain

/-- A cover stays in the image folder exactly if its name is not empty, `.` or `..`. -/
theorem upload_inside_iff (working : Place) {imageFolderPath : String} (configured : imageFolderPath ≠ "") (original : String) :
    StaysInside working imageFolderPath original ↔ original ≠ "" ∧ original ≠ "." ∧ original ≠ ".." := by
  have named : ∀ n, (sanitized original).toList ≠ List.replicate n '.' ↔ original ≠ String.ofList (List.replicate n '.') := by
    intro n
    refine not_congr ((sanitized_dots original n).trans ?_)
    rw [← String.toList_inj,String.toList_ofList]
  rw [StaysInside,place_imagePath working configured (sanitized_plain original),parent_resolve]
  exact and_congr (named 0) (and_congr (named 1) (named 2))

theorem upload_inside_sample : "/srv/images/" ≠ "" ∧ StaysInside [] "/srv/images/" "../../etc/passwd" :=
  ⟨by decide,(upload_inside_iff [] (by decide) _).mpr (by decide)⟩

/-- These names lead to the folder itself and to the one above. -/
theorem upload_outside :
    ¬ StaysInside [] "/srv/images/" "" ∧ ¬ StaysInside [] "/srv/images/" "." ∧ ¬ StaysInside [] "/srv/images/" ".." ∧
      place [] (imagePath "/srv/images/" (sanitized "..")).toList = ["srv".toList] := by
  decide

/-! ### The contents of the covers -/

/-- A request to add a book with a cover, and what the disk does meanwhile. -/
structure Adding where
  disk : Disk
  form : BookForm
  image : Upload

/-- The contents of a file. -/
def contentsOf (folder : Folder) (name : String) : Option (List UInt8) :=
  (folder.files.find? (fun file => file.1 = name)).map Prod.snd

theorem read_write (folder : Folder) (name other : String) (contents : List UInt8) :
    contentsOf (folder.write name contents) other = if other = name then some contents else contentsOf folder other := by
  rw [contentsOf,Folder.write]
  by_cases same : other = name
  · rw [if_pos same,List.find?_cons_of_pos (by simp [same])]
    rfl
  · have unlike : ¬ name = other := fun eq => same eq.symm
    rw [if_neg same,List.find?_cons_of_neg (by simpa using unlike),List.find?_filter,contentsOf]
    congr 2
    funext file
    by_cases isOther : file.1 = other <;> simp [isOther,same]

section
variable (missing : OnMissing)

/-- The folder and the database after a request. -/
def add (state : Folder × Db) (adding : Adding) : Folder × Db :=
  (addBook missing adding.disk adding.form (some adding.image) state.1 state.2).2

/-- The request is for a new book with an image, and it returns. -/
def Returns (state : Folder × Db) (adding : Adding) : Prop :=
  adding.form.id = none ∧ adding.image.isEmpty = false ∧
    (addBook missing adding.disk adding.form (some adding.image) state.1 state.2).1 = .ok ()

/-- The name under which the cover is stored. -/
def coverName (adding : Adding) : String := sanitized (adding.image.originalFilename.getD "")

/-- The book that is saved. -/
def bookOf (adding : Adding) : Book := (shelved adding.form (some (coverName adding))).columns

theorem saveImage_writes {disk : Disk} {folder after : Folder} {file : Upload} {name : String}
    (run : saveImage disk folder file = (.ok name,after)) :
    name = sanitized (file.originalFilename.getD "") ∧
      after = ({ folder with present := true } : Folder).write name file.contents := by
  rw [saveImage] at run
  cases original : file.originalFilename with
  | none => simp [original,imageError] at run
  | some text =>
    simp only [original] at run
    split_ifs at run
    · simp [imageError] at run
    · cases failed : disk.transferError (sanitized text) with
      | some message => simp [failed,imageError] at run
      | none =>
        simp only [failed,Prod.mk.injEq,Except.ok.injEq] at run
        exact ⟨run.1.symm,by rw [← run.2,run.1]⟩

/-- A request that returns writes its cover and saves its book under a fresh id. -/
theorem add_returns {state : Folder × Db} {adding : Adding} (returns : Returns missing state adding) :
    add missing state adding =
      (({ state.1 with present := true } : Folder).write (coverName adding) adding.image.contents,
        { state.2 with books := state.2.books.insert (bookOf adding) }) := by
  obtain ⟨fresh,filled,ok⟩ := returns
  have image : (some adding.image).filter (fun file => !file.isEmpty) = some adding.image := by simp [filled]
  cases stored : saveImage adding.disk state.1 adding.image with
  | mk outcome after =>
    have shelf : shelving adding.disk state.1 adding.form (some adding.image) =
        (outcome.map (fun imageName => shelved adding.form (some imageName)),after) := by
      rw [shelving,image]
      dsimp only
      rw [stored]
      cases outcome <;> rfl
    cases outcome with
    | error e =>
      rw [addBook,shelf] at ok
      cases ok
    | ok name =>
      obtain ⟨rfl,rfl⟩ := saveImage_writes stored
      have inserted : save missing state.2.books (shelved adding.form (some (coverName adding))).id (bookOf adding) =
          .ok (state.2.books.insert (bookOf adding)) := by
        rw [show (shelved adding.form (some (coverName adding))).id = none from fresh]
        rfl
      rw [add,addBook,shelf]
      simp only [Except.map]
      rw [← coverName,← bookOf,inserted]

/-- The books of a run of requests, in their order. -/
theorem run_books {state : Folder × Db} {requests : List Adding}
    (returning : Throughout (add missing) (Returns missing) state requests) :
    (requests.foldl (add missing) state).2.books = (requests.map bookOf).foldl Table.insert state.2.books := by
  induction requests generalizing state with
  | nil => rfl
  | cons adding rest ih =>
    rw [List.foldl_cons,ih returning.2,add_returns missing returning.1]
    rfl

/-- The book of a request has the next id that is free. -/
theorem run_saved {state : Folder × Db} {requests : List Adding}
    (returning : Throughout (add missing) (Returns missing) state requests) {i : Nat} {adding : Adding}
    (isAdding : requests[i]? = some adding) :
    (requests.foldl (add missing) state).2.books.find (state.2.books.next + i) = some (bookOf adding) := by
  rw [run_books missing returning]
  refine find_eq_some.mpr ?_
  rw [rows_insertAll]
  exact List.mem_append_right _ (numbered_at (by rw [List.getElem?_map,isAdding]; rfl))

/-- A file holds what the last request of its name has brought. -/
theorem run_read {state : Folder × Db} {requests : List Adding}
    (returning : Throughout (add missing) (Returns missing) state requests) {adding : Adding} (member : adding ∈ requests) :
    ∃ last ∈ requests, coverName last = coverName adding ∧
      contentsOf (requests.foldl (add missing) state).1 (coverName adding) = some last.image.contents := by
  -- From the last request back: it wrote the file, or did not touch it.
  induction requests using List.reverseRecOn with
  | nil => cases member
  | append_singleton before final ih =>
    obtain ⟨earlier,returns,_⟩ := throughout_append.mp returning
    rw [List.foldl_append,List.foldl_cons,List.foldl_nil,add_returns missing returns]
    simp only [read_write]
    by_cases same : coverName adding = coverName final
    · exact ⟨final,by simp,same.symm,by simp [same]⟩
    · rcases List.mem_append.mp member with old | new
      · obtain ⟨last,among,isName,held⟩ := ih earlier old
        refine ⟨last,List.mem_append_left _ among,isName,?_⟩
        rw [if_neg same]
        exact held
      · rw [List.mem_singleton.mp new] at same
        exact absurd rfl same

/-- For the book of each request, the file that the image field names holds the
    contents that came with it. -/
def CoversKept (state : Folder × Db) (requests : List Adding) : Prop :=
  ∀ (i : Nat) adding, requests[i]? = some adding → ∃ book name,
    (requests.foldl (add missing) state).2.books.find (state.2.books.next + i) = some book ∧ book.image = some name ∧
    contentsOf (requests.foldl (add missing) state).1 name = some adding.image.contents

/-- The covers of a run are kept exactly if covers that are stored under one name
    have the same contents. -/
theorem covers_kept_iff {state : Folder × Db} {requests : List Adding}
    (returning : Throughout (add missing) (Returns missing) state requests) :
    CoversKept missing state requests ↔
      ∀ first ∈ requests, ∀ second ∈ requests, coverName first = coverName second →
        first.image.contents = second.image.contents := by
  constructor
  · intro kept
    have held : ∀ adding ∈ requests,
        contentsOf (requests.foldl (add missing) state).1 (coverName adding) = some adding.image.contents := by
      intro adding member
      obtain ⟨i,isAdding⟩ := List.mem_iff_getElem?.mp member
      obtain ⟨book,name,stored,isName,contents⟩ := kept i adding isAdding
      rw [run_saved missing returning isAdding] at stored
      cases stored
      cases isName
      exact contents
    intro first isFirst second isSecond same
    have contents := held first isFirst
    rw [same,held second isSecond] at contents
    exact (Option.some.inj contents).symm
  · intro agree i adding isAdding
    have member := List.mem_of_getElem? isAdding
    obtain ⟨last,among,same,held⟩ := run_read missing returning member
    rw [agree last among adding member same] at held
    exact ⟨_,_,run_saved missing returning isAdding,rfl,held⟩

end

instance (missing : OnMissing) (state : Folder × Db) (adding : Adding) : Decidable (Returns missing state adding) :=
  inferInstanceAs (Decidable (_ ∧ _ ∧ _))

/-- A request with a cover of this name and these contents. -/
def coverRequest (name : String) (contents : List UInt8) : Adding := ⟨workingDisk,duneForm none 1,⟨some name,contents⟩⟩

theorem covers_kept_sample :
    let requests := [coverRequest "dune.png" [1],coverRequest "emma.png" [2],coverRequest "dune.png" [1]]
    Throughout (add .refuse) (Returns .refuse) (emptyFolder,sampleDb) requests ∧
      CoversKept .refuse (emptyFolder,sampleDb) requests := by
  intro requests
  have returning : Throughout (add .refuse) (Returns .refuse) (emptyFolder,sampleDb) requests := by decide
  exact ⟨returning,(covers_kept_iff .refuse returning).mpr (by decide)⟩

/-- A first cover and another one under a second name. -/
def twoCovers (second : String) : List Adding := [coverRequest "dune 1.png" [1],coverRequest second [2]]

/-- A second cover of the same name, or of one that becomes the same, replaces the first. -/
theorem cover_replaced :
    (Throughout (add .refuse) (Returns .refuse) (emptyFolder,sampleDb) (twoCovers "dune 1.png") ∧
        ¬ CoversKept .refuse (emptyFolder,sampleDb) (twoCovers "dune 1.png")) ∧
      Throughout (add .refuse) (Returns .refuse) (emptyFolder,sampleDb) (twoCovers "dune_1.png") ∧
        ¬ CoversKept .refuse (emptyFolder,sampleDb) (twoCovers "dune_1.png") := by
  have lost : ∀ second, coverName (coverRequest second [2]) = "dune_1.png" →
      Throughout (add .refuse) (Returns .refuse) (emptyFolder,sampleDb) (twoCovers second) →
      ¬ CoversKept .refuse (emptyFolder,sampleDb) (twoCovers second) := by
    intro second isName returning kept
    obtain ⟨book,name,stored,named,held⟩ := kept 0 _ rfl
    rw [run_saved .refuse returning rfl] at stored
    cases stored
    cases named
    rw [twoCovers,List.foldl_cons,List.foldl_cons,List.foldl_nil,add_returns .refuse returning.2.1,read_write,isName,
      if_pos (by decide)] at held
    have impossible : some [(2 : UInt8)] = some [1] := held
    exact absurd impossible (by decide)
  exact ⟨⟨by decide,lost _ (by decide) (by decide)⟩,by decide,lost _ (by decide) (by decide)⟩

end LibraryServer.Covers
