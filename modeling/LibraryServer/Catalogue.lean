import LibraryServer.LendingInvariant
import LibraryServer.Runs

/-!
The operations that add books: the form with a cover image, and the import of a
spreadsheet. Both make all copies of a book available and save the book whole,
the form under whatever id the request binds. The counters stay right exactly if
no saved book has a negative number of copies and no loan refers to its id.
-/
namespace LibraryServer.Catalogue
open LibraryServer.Fallible LibraryServer.Java LibraryServer.Tables LibraryServer.Runs LibraryServer.Entities
open LibraryServer.LendingInvariant
set_option linter.unusedSimpArgs false

/-! ### The form -/

/-- A `Book` as the request binds it. -/
structure BookForm where
  id : Option Id
  columns : Book
deriving DecidableEq

structure Upload where
  originalFilename : Option String
  contents : List UInt8
deriving DecidableEq

def Upload.isEmpty (file : Upload) : Bool := file.contents.isEmpty

/-- The image folder: whether the directory exists, and its files by name. -/
structure Folder where
  present : Bool
  files : List (String × List UInt8)
deriving DecidableEq

/-- What the disk does when it is asked: the result of `mkdirs`, and the text of
    the exception with which writing a file of that name fails, if it does. -/
structure Disk where
  mkdirs : Bool
  transferError : String → Option String

/-- What becomes of one character of a file name. -/
def kept (c : Char) : Char := if c.isAlphanum || c = '.' || c = '_' || c = '-' then c else '_'

/-- `replaceAll("[^a-zA-Z0-9._-]", "_")`. -/
def sanitized (name : String) : String := String.ofList (name.toList.map kept)

/-- `transferTo` replaces a file of the same name. -/
def Folder.write (folder : Folder) (name : String) (contents : List UInt8) : Folder :=
  { folder with files := (name,contents) :: folder.files.filter (fun file => file.1 ≠ name) }

def imageError {α : Type} (message : String) : Except Exc α :=
  .error (.checkedException ("Error while saving image file: " ++ message))

/-- The part of `addBook` that stores the image: its name, or the exception. -/
def saveImage (disk : Disk) (folder : Folder) (imageFile : Upload) : Except Exc String × Folder :=
  match imageFile.originalFilename with
  | none => (imageError (Exc.message .nullPointer),folder)
  | some original =>
    let imageName := sanitized original
    if !folder.present && !disk.mkdirs then
      (imageError "Failed to create directories for saving the image.",folder)
    else
      let directory := { folder with present := true }
      match disk.transferError imageName with
      | some message => (imageError message,directory)
      | none => (.ok imageName,directory.write imageName imageFile.contents)

/-- The fields that `addBook` sets before it saves; without an image the form
    keeps the names it came with. -/
def shelved (form : BookForm) (imageName : Option String) : BookForm :=
  { form with
    columns :=
      { form.columns with
        image := imageName <|> form.columns.image
        imageUrl := imageName.map (fun name => "/images/" ++ name) <|> form.columns.imageUrl
        available := true
        availableCopies := form.columns.totalCopies } }

/-- `addBook` up to the save. -/
def shelving (disk : Disk) (folder : Folder) (form : BookForm) (imageFile : Option Upload) :
    Except Exc BookForm × Folder :=
  match imageFile.filter (fun file => !file.isEmpty) with
  | none => (.ok (shelved form none),folder)
  | some file =>
    match saveImage disk folder file with
    | (.error e,folder) => (.error e,folder)
    | (.ok imageName,folder) => (.ok (shelved form (some imageName)),folder)

def addBook (missing : OnMissing) (disk : Disk) (form : BookForm) (imageFile : Option Upload) (folder : Folder) (db : Db) :
    Except Exc Unit × Folder × Db :=
  match shelving disk folder form imageFile with
  | (.error e,folder) => (.error e,folder,db)
  | (.ok book,folder) =>
    match save missing db.books book.id book.columns with
    | .error e => (.error e,folder,db)
    | .ok books => (.ok (),folder,{ db with books := books })

/-- A page with its messages, each a category and a text. -/
structure MessagePage where
  view : String
  messages : List (String × String)
deriving DecidableEq

/-- Availability as the controller sets it on the bound book. -/
def allAvailable (form : BookForm) : BookForm :=
  { form with columns := { form.columns with availableCopies := form.columns.totalCopies } }

def handleAddBook (missing : OnMissing) (disk : Disk) (form : BookForm) (image : Upload) (folder : Folder) (db : Db) :
    MessagePage × Folder × Db :=
  if image.isEmpty then (⟨"add_books",[("error","Image file is required.")]⟩,folder,db)
  else
    match addBook missing disk (allAvailable form) (some image) folder db with
    | (.error e,after) => (⟨"add_books",[("error","Error: " ++ e.message)]⟩,after)
    | (.ok _,after) => (⟨"add_books",[("success","Book added successfully!")]⟩,after)

/-! ### The spreadsheet -/

/-- A cell by its type; a formula is the value that is stored with it. -/
inductive Cell where
  | string (text : String)
  | numeric (number : Double)
  | boolean
  | error
  | blank

def Cell.type : Cell → String
  | .string _ => "STRING"
  | .numeric _ => "NUMERIC"
  | .boolean => "BOOLEAN"
  | .error => "ERROR"
  | .blank => "BLANK"

def Cell.typeMismatch {α : Type} (cell : Cell) (expected : String) : Except Exc α :=
  .error (.illegalState ("Cannot get a " ++ expected ++ " value from a " ++ cell.type ++ " cell"))

def Cell.getStringCellValue (cell : Cell) : Except Exc String :=
  match cell with
  | .string text => .ok text
  | .blank => .ok ""
  | _ => cell.typeMismatch "STRING"

def Cell.getNumericCellValue (cell : Cell) : Except Exc Double :=
  match cell with
  | .numeric number => .ok number
  | .blank => .ok (.finite 0)
  | _ => cell.typeMismatch "NUMERIC"

/-- A row of the sheet, with the cells of the columns 1, 2 and 6. -/
structure SheetRow where
  rowNum : Nat
  titleCell : Option Cell
  authorCell : Option Cell
  totalCopiesCell : Option Cell

/-- `matches("\\d+(\\.0)?")`. -/
def isNumberText (s : String) : Bool :=
  let rest := s.toList.dropWhile Char.isDigit
  s.toList.takeWhile Char.isDigit ≠ [] && (rest = [] || rest = ['.','0'])

def getBook (title author : String) (totalCopies : Int32) : Book where
  title := some title
  author := some author
  available := true
  image := some "default.jpg"
  imageUrl := some "/static/images/default.jpg"
  availableCopies := totalCopies
  totalCopies := totalCopies

/-- What the loop makes of three cells. -/
def readCells (titleCell authorCell totalCopiesCell : Cell) : Except Exc (Option Book) := do
  let title ← titleCell.getStringCellValue
  let author ← authorCell.getStringCellValue
  let number ← totalCopiesCell.getNumericCellValue
  if isNumberText (trim title) then .ok none
  else .ok (some (getBook (trim title) (trim author) number.toInt32))

/-- The body of the loop before the save: the book of a row, or nothing if the
    row is skipped. -/
def readRow (row : SheetRow) : Except Exc (Option Book) :=
  if row.rowNum = 0 then .ok none
  else
    match row.titleCell, row.authorCell, row.totalCopiesCell with
    | some titleCell, some authorCell, some totalCopiesCell => readCells titleCell authorCell totalCopiesCell
    | _, _, _ => .ok none

/-- The loop over the rows. Every save commits on its own, so the rows before
    one that throws stay saved. -/
def importRows (db : Db) : List SheetRow → Except Exc Unit × Db
  | [] => (.ok (),db)
  | row :: rest =>
    match readRow row with
    | .error e => (.error e,db)
    | .ok none => importRows db rest
    | .ok (some book) => importRows { db with books := db.books.insert book } rest

def importError {α : Type} (e : Exc) : Except Exc α :=
  .error (.checkedException ("Error while reading the Excel file: " ++ e.message))

/-- `sheet` is what opening the file and its first sheet gives. -/
def importFromExcel (sheet : Except Exc (List SheetRow)) (db : Db) : Except Exc Unit × Db :=
  match sheet with
  | .error e => (importError e,db)
  | .ok rows =>
    match importRows db rows with
    | (.error e,after) => (importError e,after)
    | (.ok _,after) => (.ok (),after)

/-- The uploaded file, with what opening it and its first sheet gives. -/
structure ExcelUpload where
  originalFilename : Option String
  isEmpty : Bool
  sheet : Except Exc (List SheetRow)

/-- `endsWith(".xls")` or `endsWith(".xlsx")`. -/
def isExcelName (filename : String) : Bool :=
  ".xls".toList.isSuffixOf filename.toList || ".xlsx".toList.isSuffixOf filename.toList

def ExcelUpload.isInvalid (file : ExcelUpload) : Bool := file.isEmpty || !file.originalFilename.any isExcelName

def handleExcelUpload (file : ExcelUpload) (db : Db) : MessagePage × Db :=
  if file.isInvalid then (⟨"add_books",[("error","Please upload a valid Excel file.")]⟩,db)
  else
    match importFromExcel file.sheet db with
    | (.error e,after) => (⟨"add_books",[("error","Error importing Excel: " ++ e.message)]⟩,after)
    | (.ok _,after) => (⟨"redirect:/book_master",[("success","Books imported from Excel successfully!")]⟩,after)

/-! ### What is saved -/

inductive CatalogueStep where
  | addBook (disk : Disk) (folder : Folder) (form : BookForm) (imageFile : Option Upload)
  | handleAddBook (disk : Disk) (folder : Folder) (form : BookForm) (image : Upload)
  | importFromExcel (sheet : Except Exc (List SheetRow))
  | handleExcelUpload (file : ExcelUpload)

/-- The database after an operation, whether it returns or throws. -/
def catalogue (missing : OnMissing) (db : Db) : CatalogueStep → Db
  | .addBook disk folder form imageFile => (addBook missing disk form imageFile folder db).2.2
  | .handleAddBook disk folder form image => (handleAddBook missing disk form image folder db).2.2
  | .importFromExcel sheet => (importFromExcel sheet db).2
  | .handleExcelUpload file => (handleExcelUpload file db).2

/-- The books of the rows before the first that throws. -/
def readRows : List SheetRow → List Book
  | [] => []
  | row :: rest =>
    match readRow row with
    | .error _ => []
    | .ok none => readRows rest
    | .ok (some book) => book :: readRows rest

/-- The row that `addBook` saves, if it gets to it. -/
def formRow (missing : OnMissing) (db : Db) (disk : Disk) (folder : Folder) (form : BookForm) (imageFile : Option Upload) :
    List (Id × Book) :=
  match (shelving disk folder form imageFile).1 with
  | .error _ => []
  | .ok book => ((saveKey missing db.books book.id).map (fun k => (k,book.columns))).toList

/-- The rows that an import saves. -/
def sheetRows (db : Db) : Except Exc (List SheetRow) → List (Id × Book)
  | .error _ => []
  | .ok rows => numbered db.books.next (readRows rows)

/-- The rows that an operation saves, with their keys. -/
def saved (missing : OnMissing) (db : Db) : CatalogueStep → List (Id × Book)
  | .addBook disk folder form imageFile => formRow missing db disk folder form imageFile
  | .handleAddBook disk folder form image => if image.isEmpty then [] else formRow missing db disk folder form (some image)
  | .importFromExcel sheet => sheetRows db sheet
  | .handleExcelUpload file => if file.isInvalid then [] else sheetRows db file.sheet

theorem addBook_db (missing : OnMissing) (disk : Disk) (form : BookForm) (imageFile : Option Upload) (folder : Folder)
    (db : Db) :
    (addBook missing disk form imageFile folder db).2.2 =
      { db with books := db.books.putAll (formRow missing db disk folder form imageFile) } := by
  rw [addBook,formRow]
  cases shelving disk folder form imageFile with
  | mk outcome after =>
    cases outcome with
    | error e => rfl
    | ok book =>
      dsimp only
      rw [save_eq]
      cases saveKey missing db.books book.id with
      | none => rfl
      | some k => rfl

/-- The controller only sets the counter that the service sets again. -/
theorem addBook_allAvailable (missing : OnMissing) (disk : Disk) (form : BookForm) (imageFile : Option Upload)
    (folder : Folder) (db : Db) :
    addBook missing disk (allAvailable form) imageFile folder db = addBook missing disk form imageFile folder db := rfl

theorem handleAddBook_db (missing : OnMissing) (disk : Disk) (form : BookForm) (image : Upload) (folder : Folder) (db : Db) :
    (handleAddBook missing disk form image folder db).2.2 =
      { db with
        books := db.books.putAll (if image.isEmpty then [] else formRow missing db disk folder form (some image)) } := by
  rw [handleAddBook,addBook_allAvailable]
  split_ifs with empty
  · rfl
  · refine Eq.trans ?_ (addBook_db missing disk form (some image) folder db)
    cases addBook missing disk form (some image) folder db with
    | mk outcome after => cases outcome <;> rfl

theorem importRows_db (db : Db) (rows : List SheetRow) :
    (importRows db rows).2 = { db with books := (readRows rows).foldl Table.insert db.books } := by
  induction rows generalizing db with
  | nil => rfl
  | cons row rest ih =>
    rw [importRows,readRows]
    cases readRow row with
    | error e => rfl
    | ok outcome =>
      cases outcome with
      | none => exact ih db
      | some book => exact ih _

theorem importFromExcel_db (sheet : Except Exc (List SheetRow)) (db : Db) :
    (importFromExcel sheet db).2 = { db with books := db.books.putAll (sheetRows db sheet) } := by
  cases sheet with
  | error e => rfl
  | ok rows =>
    rw [sheetRows,putAll_numbered,← importRows_db,importFromExcel]
    cases importRows db rows with
    | mk outcome after => cases outcome <;> rfl

theorem handleExcelUpload_db (missing : OnMissing) (file : ExcelUpload) (db : Db) :
    (handleExcelUpload file db).2 = { db with books := db.books.putAll (saved missing db (.handleExcelUpload file)) } := by
  rw [handleExcelUpload,saved]
  split_ifs with refused
  · rfl
  · refine Eq.trans ?_ (importFromExcel_db file.sheet db)
    cases importFromExcel file.sheet db with
    | mk outcome after => cases outcome <;> rfl

/-- An operation changes the database by the rows that it saves. -/
theorem catalogue_eq (missing : OnMissing) (db : Db) (step : CatalogueStep) :
    catalogue missing db step = { db with books := db.books.putAll (saved missing db step) } := by
  cases step with
  | addBook disk folder form imageFile => exact addBook_db missing disk form imageFile folder db
  | handleAddBook disk folder form image => exact handleAddBook_db missing disk form image folder db
  | importFromExcel sheet => exact importFromExcel_db sheet db
  | handleExcelUpload file => exact handleExcelUpload_db missing file db

/-! ### The saved rows -/

/-- A saved book has all its copies available. -/
def AllAvailable (book : Book) : Prop := book.availableCopies = book.totalCopies

/-- The image has a name and can be written. -/
def Upload.writable (disk : Disk) (folder : Folder) (file : Upload) : Bool :=
  file.originalFilename.any (fun original =>
    (folder.present || disk.mkdirs) && (disk.transferError (sanitized original)).isNone)

/-- There is no image, or one that can be written. -/
def imageAccepted (disk : Disk) (folder : Folder) (imageFile : Option Upload) : Bool :=
  (imageFile.filter (fun file => !file.isEmpty)).all (Upload.writable disk folder)

theorem saveImage_outcome (disk : Disk) (folder : Folder) (file : Upload) :
    (∃ e after, saveImage disk folder file = (.error e,after) ∧ file.writable disk folder = false) ∨
      ∃ name after, saveImage disk folder file = (.ok name,after) ∧ file.writable disk folder = true := by
  rw [saveImage,Upload.writable]
  cases file.originalFilename with
  | none => exact .inl ⟨_,_,rfl,rfl⟩
  | some original =>
    dsimp only [Option.any_some]
    cases folder.present <;> cases disk.mkdirs <;> cases disk.transferError (sanitized original) <;>
      first | exact .inl ⟨_,_,rfl,rfl⟩ | exact .inr ⟨_,_,rfl,rfl⟩

/-- `addBook` gets to the save exactly if the image is accepted. -/
theorem shelving_outcome (disk : Disk) (folder : Folder) (form : BookForm) (imageFile : Option Upload) :
    (∃ e, (shelving disk folder form imageFile).1 = .error e ∧ imageAccepted disk folder imageFile = false) ∨
      ∃ imageName, (shelving disk folder form imageFile).1 = .ok (shelved form imageName) ∧
        imageAccepted disk folder imageFile = true := by
  rw [shelving,imageAccepted]
  cases imageFile.filter (fun file => !file.isEmpty) with
  | none => exact .inr ⟨none,rfl,rfl⟩
  | some file =>
    dsimp only [Option.all_some]
    rcases saveImage_outcome disk folder file with ⟨e,after,failed,refused⟩ | ⟨name,after,written,accepted⟩
    · rw [failed]
      exact .inl ⟨e,rfl,refused⟩
    · rw [written]
      exact .inr ⟨some name,rfl,accepted⟩

/-- The form saves nothing, or one row with the copies of the form. -/
theorem formRow_cases (missing : OnMissing) (db : Db) (disk : Disk) (folder : Folder) (form : BookForm)
    (imageFile : Option Upload) :
    (formRow missing db disk folder form imageFile = [] ∧
        (imageAccepted disk folder imageFile = false ∨ saveKey missing db.books form.id = none)) ∨
      ∃ row, formRow missing db disk folder form imageFile = [row] ∧ imageAccepted disk folder imageFile = true ∧
        saveKey missing db.books form.id = some row.1 ∧ row.2.totalCopies = form.columns.totalCopies ∧
        AllAvailable row.2 := by
  rw [formRow]
  rcases shelving_outcome disk folder form imageFile with ⟨e,failed,refused⟩ | ⟨imageName,shelf,accepted⟩
  · rw [failed]
    exact .inl ⟨rfl,.inl refused⟩
  · rw [shelf]
    dsimp only
    rw [show (shelved form imageName).id = form.id from rfl]
    cases saveKey missing db.books form.id with
    | none => exact .inl ⟨rfl,.inr rfl⟩
    | some k => exact .inr ⟨(k,(shelved form imageName).columns),rfl,accepted,rfl,rfl,rfl⟩

theorem readRow_allAvailable {row : SheetRow} {book : Book} (read : readRow row = .ok (some book)) : AllAvailable book := by
  rw [readRow] at read
  split_ifs at read with header
  · cases read
  · split at read
    · simp only [readCells,bind_eq_ok] at read
      obtain ⟨title,_,author,_,number,_,made⟩ := read
      split_ifs at made with junk
      · cases made
      · cases made
        rfl
    · cases read

theorem readRows_allAvailable {rows : List SheetRow} {book : Book} (member : book ∈ readRows rows) : AllAvailable book := by
  induction rows with
  | nil => cases member
  | cons row rest ih =>
    rw [readRows] at member
    cases read : readRow row with
    | error e =>
      rw [read] at member
      cases member
    | ok outcome =>
      rw [read] at member
      cases outcome with
      | none => exact ih member
      | some first =>
        rcases List.mem_cons.mp member with rfl | later
        · exact readRow_allAvailable read
        · exact ih later

/-- Rows that can be saved one after another, with all copies available. -/
structure Savable (db : Db) (rows : List (Id × Book)) : Prop where
  places : db.books.OpenAll rows
  distinct : (rows.map Prod.fst).Nodup
  available : ∀ row ∈ rows, AllAvailable row.2

theorem savable_nil (db : Db) : Savable db [] := ⟨trivial,List.nodup_nil,fun _ member => absurd member List.not_mem_nil⟩

theorem savable_formRow (missing : OnMissing) (db : Db) (disk : Disk) (folder : Folder) (form : BookForm)
    (imageFile : Option Upload) : Savable db (formRow missing db disk folder form imageFile) := by
  rcases formRow_cases missing db disk folder form imageFile with ⟨none_saved,_⟩ | ⟨row,one,_,key,_,available⟩
  · rw [none_saved]
    exact savable_nil db
  · rw [one]
    exact ⟨⟨saveKey_open key,trivial⟩,List.nodup_singleton _,by simpa using available⟩

theorem savable_sheetRows (db : Db) (sheet : Except Exc (List SheetRow)) : Savable db (sheetRows db sheet) := by
  cases sheet with
  | error e => exact savable_nil db
  | ok rows =>
    refine ⟨numbered_open db.books _,numbered_distinct _ _,fun row member => ?_⟩
    exact readRows_allAvailable (numbered_ge member).2

theorem savable_saved (missing : OnMissing) (db : Db) (step : CatalogueStep) : Savable db (saved missing db step) := by
  cases step with
  | addBook disk folder form imageFile => exact savable_formRow missing db disk folder form imageFile
  | handleAddBook disk folder form image =>
    rw [saved]
    split_ifs
    · exact savable_nil db
    · exact savable_formRow missing db disk folder form (some image)
  | importFromExcel sheet => exact savable_sheetRows db sheet
  | handleExcelUpload file =>
    rw [saved]
    split_ifs
    · exact savable_nil db
    · exact savable_sheetRows db file.sheet

/-! ### The counters -/

/-- Every book that the operation gets to save satisfies a condition on its key
    and its number of copies. -/
def EverySaved (missing : OnMissing) (db : Db) (P : Id → Int32 → Prop) : CatalogueStep → Prop
  | .addBook disk folder form imageFile =>
    imageAccepted disk folder imageFile = true →
      ∀ k, saveKey missing db.books form.id = some k → P k form.columns.totalCopies
  | .handleAddBook disk folder form image =>
    image.isEmpty = false → imageAccepted disk folder (some image) = true →
      ∀ k, saveKey missing db.books form.id = some k → P k form.columns.totalCopies
  | .importFromExcel sheet => ∀ row ∈ sheetRows db sheet, P row.1 row.2.totalCopies
  | .handleExcelUpload file => file.isInvalid = false → ∀ row ∈ sheetRows db file.sheet, P row.1 row.2.totalCopies

theorem everySaved_iff (missing : OnMissing) (db : Db) (P : Id → Int32 → Prop) (step : CatalogueStep) :
    EverySaved missing db P step ↔ ∀ row ∈ saved missing db step, P row.1 row.2.totalCopies := by
  have ofForm : ∀ disk folder form imageFile,
      (imageAccepted disk folder imageFile = true →
        ∀ k, saveKey missing db.books form.id = some k → P k form.columns.totalCopies) ↔
      ∀ row ∈ formRow missing db disk folder form imageFile, P row.1 row.2.totalCopies := by
    intro disk folder form imageFile
    rcases formRow_cases missing db disk folder form imageFile with
      ⟨none_saved,refused⟩ | ⟨row,one,accepted,key,copies,_⟩
    · rw [none_saved]
      refine iff_of_true (fun accepted k key => ?_) (fun row member => absurd member List.not_mem_nil)
      rcases refused with refused | refused
      · rw [refused] at accepted
        cases accepted
      · rw [refused] at key
        cases key
    · rw [one]
      simp only [accepted,key,Option.some.injEq,forall_const,forall_eq',List.mem_singleton,forall_eq,copies]
  cases step with
  | addBook disk folder form imageFile => exact ofForm disk folder form imageFile
  | handleAddBook disk folder form image =>
    cases empty : image.isEmpty with
    | true => simp [EverySaved,saved,empty]
    | false => simpa [EverySaved,saved,empty] using ofForm disk folder form (some image)
  | importFromExcel sheet => exact Iff.rfl
  | handleExcelUpload file => cases invalid : file.isInvalid <;> simp [EverySaved,saved,invalid]

instance (missing : OnMissing) (db : Db) (P : Id → Int32 → Prop) [∀ k n, Decidable (P k n)] (step : CatalogueStep) :
    Decidable (EverySaved missing db P step) :=
  decidable_of_iff _ (everySaved_iff missing db P step).symm

/-- No negative number of copies is saved, and no loan refers to a saved id. -/
def SavesUnlent (missing : OnMissing) (db : Db) (step : CatalogueStep) : Prop :=
  EverySaved missing db (fun k totalCopies => 0 ≤ totalCopies.toInt ∧ db.loansOf k = 0) step

instance (missing : OnMissing) (db : Db) (step : CatalogueStep) : Decidable (SavesUnlent missing db step) :=
  inferInstanceAs (Decidable (EverySaved missing db _ step))

/-- Where rows with all copies available are put, the other books keep their
    balance and the put ones have it if they are not negative and not lent. -/
theorem putAll_balanced {db : Db} (balanced : Balanced db) {rows : List (Id × Book)} (savable : Savable db rows) :
    Balanced { db with books := db.books.putAll rows } ↔
      ∀ row ∈ rows, 0 ≤ row.2.totalCopies.toInt ∧ db.loansOf row.1 = 0 := by
  have counts : ∀ row ∈ rows,
      (0 ≤ row.2.availableCopies.toInt ∧ row.2.availableCopies.toInt + db.loansOf row.1 = row.2.totalCopies.toInt) ↔
        0 ≤ row.2.totalCopies.toInt ∧ db.loansOf row.1 = 0 := by
    intro row member
    rw [savable.available row member]
    omega
  rw [balanced_iff]
  constructor
  · intro books row member
    exact (counts row member).mp (books row ((mem_putAll savable.places savable.distinct).mpr (.inl member)))
  · intro unlent row member
    rcases (mem_putAll savable.places savable.distinct).mp member with new | ⟨old,_⟩
    · exact (counts row new).mpr (unlent row new)
    · exact (balanced_iff db).mp balanced row old

/-- From a balanced state an operation on the catalogue leads to a balanced state
    exactly if it saves neither negative numbers nor over a lent book. -/
theorem catalogue_balanced_iff (missing : OnMissing) {db : Db} (balanced : Balanced db) (step : CatalogueStep) :
    Balanced (catalogue missing db step) ↔ SavesUnlent missing db step := by
  rw [catalogue_eq,SavesUnlent,everySaved_iff]
  exact putAll_balanced balanced (savable_saved missing db step)

def emptyFolder : Folder := ⟨true,[]⟩
def workingDisk : Disk := ⟨true,fun _ => none⟩
def cover : Upload := ⟨some "cover 1.png",[137,80]⟩

/-- A request that binds an id, if it does, and a number of copies. -/
def duneForm (id : Option Id) (totalCopies : Int32) : BookForm :=
  ⟨id,⟨some "Dune",some "Frank Herbert",false,none,none,0,totalCopies⟩⟩

/-- A header and one book. -/
def duneSheet (totalCopies : Rat) : List SheetRow :=
  [⟨0,some (.string "title"),some (.string "author"),some (.string "copies")⟩,
    ⟨1,some (.string " Dune "),some (.string "Frank Herbert"),some (.numeric (.finite totalCopies))⟩]

theorem catalogue_balanced_sample :
    Balanced (catalogue .refuse sampleDb (.handleAddBook workingDisk emptyFolder (duneForm none 3) cover)) :=
  (catalogue_balanced_iff .refuse (by decide) _).mpr (by decide)

/-- The book that is lent is overwritten with two available copies, and negative
    numbers are saved from the form and from a sheet. -/
theorem catalogue_unbalanced :
    Balanced sampleDb ∧
      ¬ Balanced (catalogue .refuse sampleDb (.handleAddBook workingDisk emptyFolder (duneForm (some 1) 2) cover)) ∧
      ¬ Balanced (catalogue .refuse sampleDb (.addBook workingDisk emptyFolder (duneForm none (-1)) none)) ∧
      ¬ Balanced (catalogue .refuse sampleDb (.importFromExcel (.ok (duneSheet (-1))))) := by
  decide

/-! ### Whole runs -/

/-- The operations on the catalogue and those that lend, take back or delete. -/
inductive Step where
  | catalogue (step : CatalogueStep)
  | serve (request : Request)

def act (missing : OnMissing) (db : Db) : Step → Db
  | .catalogue step => catalogue missing db step
  | .serve request => serve db request

end LibraryServer.Catalogue
