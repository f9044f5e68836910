import LibraryServer.Entities
import LibraryServer.Texts

/-!
The names of image files. A script makes the name of a book's image from its title, and
`processImages` gives an image to the books whose title it reads from the name of the
file. The script takes the name of a series apart from the title and puts it back with
a separator, whether or not there was one: the title is read back only if it goes on
after the name of a series with a space.
-/
namespace LibraryServer.ImageNames
open LibraryServer.Java LibraryServer.Tables LibraryServer.Entities LibraryServer.Texts
set_option linter.unusedSimpArgs false

/-! ### Lower case -/

/-- How the script, the server and the database turn text into lower case. The locale of
    the server may have its own idea of the capital letters. -/
structure LowerCasing where
  script : String → String
  server : String → String
  database : String → String
  script_basic : ∀ s : String, (∀ c ∈ s.toList, c.toNat < 128) → script s = lowered s
  server_basic : ∀ s : String, (∀ c ∈ s.toList, c.toNat < 128 ∧ c.isUpper = false) → server s = s
  database_basic : ∀ s : String, (∀ c ∈ s.toList, c.toNat < 128) → database s = lowered s

/-! ### The script -/

def seriesPrefixes : List (String × String) :=
  [("The Famous Five","the_famous_five_"),("The Secret Seven","the_secret_seven_"),
    ("Diary Of A Wimpy Kid","diary_of_a_wimpy_kid_"),("Harry Potter","harry_potter_"),("Percy Jackson","percy_jackson_")]

/-- What `[^a-z0-9]` matches. -/
def isSeparator (c : Char) : Bool := !(c.isLower || c.isDigit)

/-- `re.sub` for one or more characters of a kind. -/
def reSub (p : Char → Bool) (text : List Char) : List Char := collapse p '_' false text

/-- `str.strip` with the characters to remove. -/
def stripChars (chars : String) (text : List Char) : List Char := strip (fun c => c ∈ chars.toList) text

/-- The first series with whose name the text begins. -/
def seriesOf (lower : String → String) (filename : List Char) : Option (String × String) :=
  seriesPrefixes.find? (fun series => (lower series.1).toList.isPrefixOf filename)

/-- `title_to_filename`. -/
def titleToFilename (lower : String → String) (title : String) : String :=
  let filename := (lower title).toList
  let (lead,filename) :=
    match seriesOf lower filename with
    | some series => (series.2.toList,stripChars ": -" (filename.drop series.1.length))
    | none => ([],filename)
  let filename := reSub isSeparator filename
  let filename := stripChars "_" filename
  let filename := lead ++ filename
  let filename := reSub (fun c => c == '_') filename
  String.ofList (filename ++ ".jpg".toList)

/-! ### The server -/

/-- What `.` does not match. -/
def isLineTerminator (c : Char) : Bool := c = '\n' || c = '\r' || c = '\u0085' || c = '\u2028' || c = '\u2029'

/-- `matches(".*\\.(jpg|jpeg|png)")`. -/
def isImage (name : String) : Bool :=
  ["jpg","jpeg","png"].any (fun extension =>
    let ending := '.' :: extension.toList
    ending.isSuffixOf name.toList && (name.toList.take (name.toList.length - ending.length)).all (fun c => !isLineTerminator c))

/-- `replaceAll("\\.[^.]+$", "")`: only the last dot can match, and only if something
    follows it. -/
def dropExtension (name : List Char) : List Char :=
  let backwards := name.reverse
  match backwards.takeWhile (fun c => c ≠ '.'), backwards.dropWhile (fun c => c ≠ '.') with
  | [], _ => name
  | _ :: _, [] => name
  | _ :: _, _ :: before => before.reverse

def formattedName (casing : LowerCasing) (image : String) : String :=
  casing.server (String.ofList (dropExtension (image.toList.map (fun c => if c = '_' then ' ' else c))))

/-- `UPDATE books SET image = ? WHERE LOWER(title) = ?`. -/
def updateImage (casing : LowerCasing) (image name : String) (books : Table Book) : Table Book :=
  books.adjust (fun k => (books.find k).any (fun book => book.title.map casing.database = some name))
    (fun book => { book with image := some image })

/-- The loop body of `processImages`. -/
def processImage (casing : LowerCasing) (books : Table Book) (image : String) : Table Book :=
  if isImage (casing.server image) then updateImage casing image (formattedName casing image) books else books

/-- The image folder: not there, not readable, or its entries and which of them are
    regular files. -/
inductive ImageFolder where
  | notFound
  | unreadable (message : Option String)
  | listed (entries : List (String × Bool))

/-- `processImages`, and the line that it prints. -/
def processImages (casing : LowerCasing) (folder : ImageFolder) (db : Db) : String × Db :=
  match folder with
  | .notFound => ("⚠️ Image folder not found!",db)
  | .unreadable message => ("⚠️ Error processing images: " ++ shown message,db)
  | .listed entries =>
    let imageFiles := (entries.filter (fun entry => entry.2)).map Prod.fst
    ("✅ Database image names updated successfully!",{ db with books := imageFiles.foldl (processImage casing) db.books })

/-! ### Reading a name back -/

/-- Text in lower case, its words separated by spaces. -/
def Readable (text : List Char) : Prop := ∀ c ∈ text, isSeparator c = false ∨ c = ' '

/-- The name of a file for a text, without the extension. -/
def underscored (text : List Char) : List Char := text.map (fun c => if isSeparator c then '_' else c)

theorem isUpper_iff {c : Char} : c.isUpper = true ↔ 65 ≤ c.toNat ∧ c.toNat ≤ 90 := by
  have between : c.isUpper = true ↔ 'A'.val ≤ c.val ∧ c.val ≤ 'Z'.val := decide_eq_true_iff
  rw [between,UInt32.le_iff_toNat_le,UInt32.le_iff_toNat_le]
  exact Iff.rfl

theorem isLower_iff {c : Char} : c.isLower = true ↔ 97 ≤ c.toNat ∧ c.toNat ≤ 122 := by
  have between : c.isLower = true ↔ 'a'.val ≤ c.val ∧ c.val ≤ 'z'.val :=
    Bool.and_eq_true_iff.trans (and_congr decide_eq_true_iff decide_eq_true_iff)
  rw [between,UInt32.le_iff_toNat_le,UInt32.le_iff_toNat_le]
  exact Iff.rfl

theorem isSeparator_eq_false {c : Char} :
    isSeparator c = false ↔ (97 ≤ c.toNat ∧ c.toNat ≤ 122) ∨ (48 ≤ c.toNat ∧ c.toNat ≤ 57) := by
  rw [isSeparator,Bool.not_eq_false',Bool.or_eq_true,isLower_iff,Char.isDigit_iff_toNat]
  exact Iff.rfl

theorem name_basic {c : Char} (name : isSeparator c = false) : c.toNat < 128 ∧ c.isUpper = false := by
  rw [isSeparator_eq_false] at name
  refine ⟨by omega,Bool.eq_false_iff.mpr (fun upper => ?_)⟩
  rw [isUpper_iff] at upper
  omega

theorem readable_basic {text : List Char} (readable : Readable text) : ∀ c ∈ text, c.toNat < 128 ∧ c.isUpper = false := by
  intro c member
  rcases readable c member with name | space
  · exact name_basic name
  · rw [space]
    decide

theorem dropExtension_append (name : List Char) {extension : List Char} (plain : '.' ∉ extension) (filled : extension ≠ []) :
    dropExtension (name ++ '.' :: extension) = name := by
  have all : ∀ c ∈ extension.reverse, decide (c ≠ '.') = true := by
    intro c member
    refine decide_eq_true (fun dot => plain ?_)
    exact dot ▸ List.mem_reverse.mp member
  have backwards : (name ++ '.' :: extension).reverse = extension.reverse ++ '.' :: name.reverse := by simp
  have ending : (extension.reverse ++ '.' :: name.reverse).takeWhile (fun c => decide (c ≠ '.')) = extension.reverse := by
    rw [List.takeWhile_append_of_pos all]
    simp
  have before : (extension.reverse ++ '.' :: name.reverse).dropWhile (fun c => decide (c ≠ '.')) = '.' :: name.reverse := by
    rw [List.dropWhile_append_of_pos all]
    simp
  rw [dropExtension,backwards,ending,before]
  cases isEnding : extension.reverse with
  | nil => exact absurd (List.reverse_eq_nil_iff.mp isEnding) filled
  | cons c rest => exact List.reverse_reverse name

theorem spaced_underscored {text : List Char} (readable : Readable text) :
    (underscored text).map (fun c => if c = '_' then ' ' else c) = text := by
  rw [underscored,List.map_map]
  refine (List.map_congr_left (fun c member => ?_)).trans (List.map_id text)
  rcases readable c member with name | space
  · have other : c ≠ '_' := by
      rintro rfl
      exact absurd name (by decide)
    simp [name,other]
  · rw [space]
    rfl

/-- The server reads the text back that a name was made from. -/
theorem formattedName_underscored (casing : LowerCasing) {text : List Char} (readable : Readable text) :
    formattedName casing (String.ofList (underscored text ++ ".jpg".toList)) = String.ofList text := by
  have kept : ".jpg".toList.map (fun c => if c = '_' then ' ' else c) = '.' :: "jpg".toList := by decide
  rw [formattedName,String.toList_ofList,List.map_append,spaced_underscored readable,kept,
    dropExtension_append text (by decide) (by decide)]
  refine casing.server_basic _ ?_
  rw [String.toList_ofList]
  exact readable_basic readable

theorem mem_underscored {text : List Char} : ∀ c ∈ underscored text, isSeparator c = false ∨ c = '_' := by
  intro c member
  obtain ⟨original,_,rfl⟩ := List.mem_map.mp member
  by_cases separator : isSeparator original = true
  · exact .inr (if_pos separator)
  · rw [if_neg separator]
    exact .inl (Bool.eq_false_iff.mpr separator)

theorem server_underscored (casing : LowerCasing) (text : List Char) :
    casing.server (String.ofList (underscored text ++ ".jpg".toList)) = String.ofList (underscored text ++ ".jpg".toList) := by
  refine casing.server_basic _ ?_
  rw [String.toList_ofList]
  intro c member
  rcases List.mem_append.mp member with inName | inExtension
  · rcases mem_underscored c inName with name | mark
    · exact name_basic name
    · rw [mark]
      decide
  · have which : c = '.' ∨ c = 'j' ∨ c = 'p' ∨ c = 'g' := by simpa using inExtension
    rcases which with rfl | rfl | rfl | rfl <;> decide

theorem terminator_separator {c : Char} (terminator : isLineTerminator c = true) : isSeparator c = true ∧ c ≠ '_' := by
  have which : (((c = '\n' ∨ c = '\r') ∨ c = '\u0085') ∨ c = '\u2028') ∨ c = '\u2029' := by
    simpa [isLineTerminator] using terminator
  rcases which with (((rfl | rfl) | rfl) | rfl) | rfl <;> decide

/-- A name that the script makes is accepted as that of an image. -/
theorem isImage_underscored (casing : LowerCasing) (text : List Char) :
    isImage (casing.server (String.ofList (underscored text ++ ".jpg".toList))) = true := by
  have whole : (underscored text ++ ".jpg".toList).take
        ((underscored text ++ ".jpg".toList).length - ('.' :: "jpg".toList).length) =
      underscored text := by simp
  rw [server_underscored,isImage,String.toList_ofList,List.any_cons,Bool.or_eq_true]
  refine .inl (Bool.and_eq_true_iff.mpr ⟨List.isSuffixOf_iff_suffix.mpr (List.suffix_append _ _),?_⟩)
  rw [whole,List.all_eq_true]
  intro c member
  rw [Bool.not_eq_true']
  refine Bool.eq_false_iff.mpr (fun terminator => ?_)
  obtain ⟨separator,other⟩ := terminator_separator terminator
  rcases mem_underscored c member with name | mark
  · rw [name] at separator
    cases separator
  · exact other mark

/-! ### Making a name -/

/-- Only separators become underscores. -/
theorem underscore_separator {c : Char} (isMark : (if isSeparator c then '_' else c) = '_') : isSeparator c = true := by
  by_cases separator : isSeparator c = true
  · exact separator
  · rw [if_neg separator] at isMark
    rw [isMark]
    decide

theorem reSub_underscored {text : List Char} (apart : Apart isSeparator text) :
    reSub (fun c => c == '_') (underscored text) = underscored text := by
  have marks : Apart (fun c => c == '_') (underscored text) := by
    refine apart_map (fun c isMark => underscore_separator ?_) apart
    exact beq_iff_eq.mp isMark
  rw [reSub,collapse_apart marks]
  refine (List.map_congr_left (fun c _ => ?_)).trans (List.map_id _)
  by_cases isMark : c = '_' <;> simp [isMark]

/-- In a text of separated words each separator is replaced. -/
theorem stripped_underscored {text : List Char} (spaced : Spaced isSeparator text) :
    stripChars "_" (reSub isSeparator text) = underscored text := by
  have marks : Spaced (fun c => decide (c ∈ "_".toList)) (underscored text) := by
    refine spaced_map (fun c isMark => underscore_separator ?_) spaced
    exact List.mem_singleton.mp (of_decide_eq_true isMark)
  rw [reSub,collapse_apart spaced.apart]
  exact strip_spaced marks

/-! ### Titles -/

/-- A title of words of basic letters and digits, separated by single spaces. -/
structure PlainTitle where
  words : List String
  nonempty : words ≠ []
  filled : ∀ word ∈ words, word ≠ ""
  plain : ∀ word ∈ words, word.toList.all Char.isAlphanum = true

def PlainTitle.text (title : PlainTitle) : String := " ".intercalate title.words

theorem lowered_plain {c : Char} (plain : c.isAlphanum = true) : c.toNat < 128 ∧ isSeparator c.toLower = false := by
  have basic : c.toNat < 128 := by
    have kinds : c.isAlphanum = (c.isUpper || c.isLower || c.isDigit) := rfl
    rw [kinds,Bool.or_eq_true,Bool.or_eq_true,isUpper_iff,isLower_iff,Char.isDigit_iff_toNat] at plain
    have nine : '9'.toNat = 57 := rfl
    omega
  have every : ∀ n : Fin 128, (Char.ofNat n).isAlphanum = true → isSeparator (Char.ofNat n).toLower = false := by decide
  have this_one := every ⟨c.toNat,basic⟩
  rw [Char.ofNat_toNat] at this_one
  exact ⟨basic,this_one plain⟩

theorem text_words (title : PlainTitle) : title.text.toList = [' '].intercalate (title.words.map String.toList) :=
  String.toList_intercalate

theorem text_plain (title : PlainTitle) : ∀ c ∈ title.text.toList, c.isAlphanum = true ∨ c = ' ' := by
  intro c member
  rw [text_words] at member
  rcases mem_words member with space | ⟨word,isWord,inWord⟩
  · exact .inr space
  · obtain ⟨written,isWritten,rfl⟩ := List.mem_map.mp isWord
    exact .inl (List.all_eq_true.mp (title.plain written isWritten) c inWord)

theorem text_basic (title : PlainTitle) : ∀ c ∈ title.text.toList, c.toNat < 128 := by
  intro c member
  rcases text_plain title c member with plain | space
  · exact (lowered_plain plain).1
  · rw [space]
    decide

theorem text_readable (title : PlainTitle) : Readable (lowered title.text).toList := by
  rw [lowered,String.toList_ofList]
  intro c member
  obtain ⟨original,isOriginal,rfl⟩ := List.mem_map.mp member
  rcases text_plain title original isOriginal with plain | space
  · exact .inl (lowered_plain plain).2
  · rw [space]
    exact .inr rfl

theorem text_spaced (title : PlainTitle) : Spaced isSeparator (lowered title.text).toList := by
  have words : Spaced (fun c => !c.isAlphanum) title.text.toList := by
    rw [text_words]
    refine spaced_words ' ' ?_ ?_
    · rintro word isWord rfl
      obtain ⟨written,isWritten,empty⟩ := List.mem_map.mp isWord
      exact title.filled written isWritten (String.toList_eq_nil_iff.mp empty)
    · intro word isWord c member
      obtain ⟨written,isWritten,rfl⟩ := List.mem_map.mp isWord
      rw [List.all_eq_true.mp (title.plain written isWritten) c member]
      rfl
  rw [lowered,String.toList_ofList]
  refine spaced_map (fun c separator => ?_) words
  rw [Bool.not_eq_true']
  refine Bool.eq_false_iff.mpr (fun plain => ?_)
  rw [(lowered_plain plain).2] at separator
  cases separator

/-! ### Series -/

/-- The name of a series in lower case. -/
def seriesText (series : String × String) : List Char := (lowered series.1).toList

/-- The names of the series are such titles. -/
theorem series_title : ∀ series ∈ seriesPrefixes, ∃ title : PlainTitle, title.text = series.1 := by
  intro series member
  simp only [seriesPrefixes,List.mem_cons,List.not_mem_nil,or_false] at member
  rcases member with rfl | rfl | rfl | rfl | rfl
  · exact ⟨⟨["The","Famous","Five"],by decide,by decide,by decide⟩,rfl⟩
  · exact ⟨⟨["The","Secret","Seven"],by decide,by decide,by decide⟩,rfl⟩
  · exact ⟨⟨["Diary","Of","A","Wimpy","Kid"],by decide,by decide,by decide⟩,rfl⟩
  · exact ⟨⟨["Harry","Potter"],by decide,by decide,by decide⟩,rfl⟩
  · exact ⟨⟨["Percy","Jackson"],by decide,by decide,by decide⟩,rfl⟩

theorem series_spaced {series : String × String} (member : series ∈ seriesPrefixes) : Spaced isSeparator (seriesText series) := by
  obtain ⟨title,isName⟩ := series_title series member
  rw [seriesText,← isName]
  exact text_spaced title

theorem series_readable {series : String × String} (member : series ∈ seriesPrefixes) : Readable (seriesText series) := by
  obtain ⟨title,isName⟩ := series_title series member
  rw [seriesText,← isName]
  exact text_readable title

theorem series_lower (casing : LowerCasing) {series : String × String} (member : series ∈ seriesPrefixes) :
    (casing.script series.1).toList = seriesText series := by
  obtain ⟨title,isName⟩ := series_title series member
  rw [seriesText,← isName,casing.script_basic _ (text_basic title)]

/-- What the script puts before the rest of the title is the name of the series and a space. -/
theorem series_lead : ∀ series ∈ seriesPrefixes, series.2.toList = underscored (seriesText series ++ [' ']) := by
  decide +kernel

/-- No title begins with the names of two series. -/
theorem series_alone : ∀ series ∈ seriesPrefixes, ∀ other ∈ seriesPrefixes,
    seriesText series <+: seriesText other → series = other := by
  decide +kernel

theorem seriesOf_script (casing : LowerCasing) (text : List Char) : seriesOf casing.script text = seriesOf lowered text := by
  have same : seriesPrefixes.filter (fun series => (casing.script series.1).toList.isPrefixOf text) =
      seriesPrefixes.filter (fun series => (lowered series.1).toList.isPrefixOf text) := by
    refine List.filter_congr (fun series member => ?_)
    rw [series_lower casing member,seriesText]
  rw [seriesOf,seriesOf,← List.head?_filter,same,List.head?_filter]

/-- After the beginning of a title there is at most a space to strip. -/
theorem stripped_end {before rest : List Char} (spaced : Spaced isSeparator (before ++ rest)) (readable : Readable rest) :
    Spaced isSeparator (stripChars ": -" rest) ∧ (rest = stripChars ": -" rest ∨ rest = ' ' :: stripChars ": -" rest) := by
  have marks : ∀ c, decide (c ∈ ": -".toList) = true → isSeparator c = true := by
    intro c isMark
    have which : c = ':' ∨ c = ' ' ∨ c = '-' := by simpa using isMark
    rcases which with rfl | rfl | rfl <;> decide
  have kept : ∀ text, Spaced isSeparator text → stripChars ": -" text = text := by
    intro text isSpaced
    have same : Spaced (fun c => decide (c ∈ ": -".toList)) (text.map id) := spaced_map marks isSpaced
    rw [List.map_id] at same
    exact strip_spaced same
  rcases spaced_end spaced with whole | ⟨c,text,isRest,separator,isSpaced⟩
  · rw [kept rest whole]
    exact ⟨whole,.inl rfl⟩
  · have space : c = ' ' := by
      rcases readable c (isRest ▸ List.mem_cons_self) with name | space
      · rw [name] at separator
        cases separator
      · exact space
    have stripped : stripChars ": -" rest = text := by
      rw [isRest,space,stripChars,strip_cons (by decide),← stripChars,kept text isSpaced]
    rw [stripped]
    exact ⟨isSpaced,.inr (by rw [isRest,space])⟩

/-- A title with a series is the name of the series and a rest, which at most a space
    separates from it. -/
theorem seriesOf_rest {text : List Char} (spaced : Spaced isSeparator text) (readable : Readable text)
    {series : String × String} (found : seriesOf lowered text = some series) :
    series ∈ seriesPrefixes ∧ ∃ rest, text = seriesText series ++ rest ∧ text.drop series.1.length = rest ∧ Readable rest ∧
      Spaced isSeparator (stripChars ": -" rest) ∧ (rest = stripChars ": -" rest ∨ rest = ' ' :: stripChars ": -" rest) := by
  have member : series ∈ seriesPrefixes := List.mem_of_find?_eq_some found
  have starts : (seriesText series).isPrefixOf text = true :=
    List.find?_some (p := fun series => (seriesText series).isPrefixOf text) found
  obtain ⟨rest,rfl⟩ := List.isPrefixOf_iff_prefix.mp starts
  have restReadable : Readable rest := fun c isRest => readable c (List.mem_append_right _ isRest)
  refine ⟨member,rest,rfl,?_,restReadable,stripped_end spaced restReadable⟩
  have length : series.1.length = (seriesText series).length := by
    rw [seriesText,lowered,String.toList_ofList,List.length_map,String.length_toList]
  rw [length,List.drop_left]

/-- What is read back of a title in lower case. -/
def readBack (text : List Char) : List Char :=
  match seriesOf lowered text with
  | some series => seriesText series ++ ' ' :: stripChars ": -" (text.drop series.1.length)
  | none => text

theorem readBack_readable {text : List Char} (spaced : Spaced isSeparator text) (readable : Readable text) :
    Readable (readBack text) := by
  rw [readBack]
  cases found : seriesOf lowered text with
  | none => exact readable
  | some series =>
    obtain ⟨member,rest,_,dropped,restReadable,_,shape⟩ := seriesOf_rest spaced readable found
    intro c isRead
    dsimp only at isRead
    rw [dropped] at isRead
    rcases List.mem_append.mp isRead with inSeries | inRest
    · exact series_readable member c inSeries
    · rcases List.mem_cons.mp inRest with space | stripped
      · exact .inr space
      · refine restReadable c ?_
        rcases shape with whole | spaceFirst
        · exact whole ▸ stripped
        · exact spaceFirst ▸ List.mem_cons_of_mem _ stripped

/-- The name that the script makes is that of the text to be read back. -/
theorem titleToFilename_eq (casing : LowerCasing) {title : String} {text : List Char}
    (isLower : (casing.script title).toList = text) (spaced : Spaced isSeparator text) (readable : Readable text) :
    titleToFilename casing.script title = String.ofList (underscored (readBack text) ++ ".jpg".toList) := by
  rw [titleToFilename,isLower,seriesOf_script,readBack]
  cases found : seriesOf lowered text with
  | none =>
    dsimp only
    rw [List.nil_append,stripped_underscored spaced,reSub_underscored spaced.apart]
  | some series =>
    obtain ⟨member,rest,_,dropped,_,isSpaced,_⟩ := seriesOf_rest spaced readable found
    have joined : underscored (seriesText series ++ [' ']) ++ underscored (stripChars ": -" rest) =
        underscored (seriesText series ++ ' ' :: stripChars ": -" rest) := by
      rw [underscored,underscored,← List.map_append,List.append_assoc]
      rfl
    dsimp only
    rw [dropped,stripped_underscored isSpaced,series_lead series member,joined,
      reSub_underscored (apart_join (series_spaced member) isSpaced ' ')]

/-- The title goes on with a space after the name of a series. -/
def SeriesApart (text : List Char) : Prop :=
  ∀ series ∈ seriesPrefixes, seriesText series <+: text → seriesText series ++ [' '] <+: text

instance (text : List Char) : Decidable (SeriesApart text) := inferInstanceAs (Decidable (∀ series ∈ seriesPrefixes, _ → _))

/-- It is enough to look at the one series with which the title begins. -/
theorem seriesApart_iff {series : String × String} (member : series ∈ seriesPrefixes) (rest : List Char) :
    SeriesApart (seriesText series ++ rest) ↔ [' '] <+: rest := by
  have begins : seriesText series <+: seriesText series ++ rest := List.prefix_append _ _
  rw [← List.prefix_append_right_inj (seriesText series)]
  refine ⟨fun apart => apart series member begins,fun goesOn other isSeries starts => ?_⟩
  have same : series = other := by
    rcases List.prefix_or_prefix_of_prefix begins starts with first | second
    · exact series_alone series member other isSeries first
    · exact (series_alone other isSeries series member second).symm
  exact same ▸ goesOn

/-- The title is read back exactly if it goes on with a space after the name of a series. -/
theorem readBack_iff {text : List Char} (spaced : Spaced isSeparator text) (readable : Readable text) :
    readBack text = text ↔ SeriesApart text := by
  rw [readBack]
  cases found : seriesOf lowered text with
  | none =>
    refine iff_of_true rfl (fun series member starts => ?_)
    have other := List.find?_eq_none.mp found series member
    exact absurd (List.isPrefixOf_iff_prefix.mpr starts) other
  | some series =>
    obtain ⟨member,rest,split,dropped,_,isSpaced,shape⟩ := seriesOf_rest spaced readable found
    dsimp only
    rw [dropped,split,seriesApart_iff member,List.append_cancel_left_eq]
    rcases shape with whole | spaceFirst
    · -- nothing separates the rest from the series, and the script puts a separator there
      refine iff_of_false (fun same => ?_) ?_
      · have lengths := congrArg List.length (same.trans whole)
        rw [List.length_cons] at lengths
        omega
      · rintro ⟨more,isRest⟩
        have plain := isSpaced.first ' ' (by rw [← whole,← isRest]; rfl)
        exact absurd plain (by decide)
    · exact iff_of_true spaceFirst.symm ⟨stripChars ": -" rest,spaceFirst.symm⟩

/-! ### Names and titles -/

section
variable (casing : LowerCasing) (title : PlainTitle)

/-- The file that the script names for a title. -/
def imageOf : String := titleToFilename casing.script title.text

/-- The title is read back from the name of its image, and the image is given to the books
    with the title and to no other. -/
def NamesTitle : Prop :=
  formattedName casing (imageOf casing title) = lowered title.text ∧
    ∀ (books : Table Book) (k : Id) (book : Book), books.find k = some book →
      (processImage casing books (imageOf casing title)).find k =
        some (if book.title.map casing.database = some (casing.database title.text) then
          { book with image := some (imageOf casing title) } else book)

end

theorem imageOf_eq (casing : LowerCasing) (title : PlainTitle) :
    imageOf casing title = String.ofList (underscored (readBack (lowered title.text).toList) ++ ".jpg".toList) := by
  have isLower : (casing.script title.text).toList = (lowered title.text).toList := by
    rw [casing.script_basic _ (text_basic title)]
  exact titleToFilename_eq casing isLower (text_spaced title) (text_readable title)

theorem formattedName_imageOf (casing : LowerCasing) (title : PlainTitle) :
    formattedName casing (imageOf casing title) = String.ofList (readBack (lowered title.text).toList) := by
  rw [imageOf_eq,formattedName_underscored casing (readBack_readable (text_spaced title) (text_readable title))]

theorem isImage_imageOf (casing : LowerCasing) (title : PlainTitle) : isImage (casing.server (imageOf casing title)) = true := by
  rw [imageOf_eq]
  exact isImage_underscored casing _

theorem find_updateImage (casing : LowerCasing) (image name : String) {books : Table Book} {k : Id} {book : Book}
    (stored : books.find k = some book) :
    (updateImage casing image name books).find k =
      some (if book.title.map casing.database = some name then { book with image := some image } else book) := by
  rw [updateImage,find_adjust,stored,Option.map_some]
  simp

/-- The name of the image stands for the title exactly if the title goes on with a space
    after the name of a series. -/
theorem names_title_iff (casing : LowerCasing) (title : PlainTitle) :
    NamesTitle casing title ↔ SeriesApart (lowered title.text).toList := by
  have isRead : formattedName casing (imageOf casing title) = lowered title.text ↔
      readBack (lowered title.text).toList = (lowered title.text).toList := by
    rw [formattedName_imageOf,← String.toList_inj,String.toList_ofList]
  rw [← readBack_iff (text_spaced title) (text_readable title),← isRead]
  refine ⟨And.left,fun isTitle => ⟨isTitle,fun books k book stored => ?_⟩⟩
  rw [processImage,if_pos (isImage_imageOf casing title),isTitle,← casing.database_basic _ (text_basic title)]
  exact find_updateImage casing _ _ stored

/-- The lower case of basic letters everywhere. -/
def basicCasing : LowerCasing where
  script := lowered
  server := lowered
  database := lowered
  script_basic := fun _ _ => rfl
  server_basic := by
    intro s lower
    have same : s.toList.map Char.toLower = s.toList := by
      refine (List.map_congr_left (fun c member => ?_)).trans (List.map_id _)
      exact dif_neg (of_decide_eq_false (lower c member).2)
    rw [lowered,same,String.ofList_toList]
  database_basic := fun _ _ => rfl

def harryPotter : PlainTitle := ⟨["Harry","Potter"],by decide,by decide,by decide⟩

def harryPotters : PlainTitle := ⟨["Harry","Potters","Dog"],by decide,by decide,by decide⟩

/-- The name of a series alone gets a separator at its end, and a title that only begins
    with its letters is taken apart: its image is that of another title. -/
theorem series_title_lost :
    ¬ NamesTitle basicCasing harryPotter ∧ imageOf basicCasing harryPotter = "harry_potter_.jpg" ∧
      formattedName basicCasing "harry_potter_.jpg" = "harry potter " ∧
      ¬ NamesTitle basicCasing harryPotters ∧ imageOf basicCasing harryPotters = "harry_potter_s_dog.jpg" ∧
      formattedName basicCasing "harry_potter_s_dog.jpg" = lowered "Harry Potter S Dog" := by
  refine ⟨fun named => ?_,by decide +kernel,by decide +kernel,fun named => ?_,by decide +kernel,by decide +kernel⟩
  · exact absurd named.1 (by decide +kernel)
  · exact absurd named.1 (by decide +kernel)

/-! ### The whole folder -/

/-- The image is given to the books with this title. -/
def givenTo (casing : LowerCasing) (title : Option String) (image : String) : Bool :=
  isImage (casing.server image) && title.map casing.database = some (formattedName casing image)

theorem find_processImage (casing : LowerCasing) (image : String) {books : Table Book} {k : Id} {book : Book}
    (stored : books.find k = some book) :
    (processImage casing books image).find k =
      some (if givenTo casing book.title image then { book with image := some image } else book) := by
  rw [processImage,givenTo]
  by_cases accepted : isImage (casing.server image) = true
  · rw [if_pos accepted,find_updateImage casing _ _ stored,accepted,Bool.true_and]
    simp
  · rw [if_neg accepted,Bool.eq_false_iff.mpr accepted,Bool.false_and,if_neg Bool.false_ne_true]
    exact stored

/-- Of several images that a book is given the last one stays. -/
theorem find_processAll (casing : LowerCasing) (files : List String) {books : Table Book} {k : Id} {book : Book}
    (stored : books.find k = some book) :
    (files.foldl (processImage casing) books).find k =
      some { book with image := (files.filter (givenTo casing book.title)).getLast?.or book.image } := by
  induction files generalizing books book with
  | nil => exact stored
  | cons image rest ih =>
    have step := find_processImage casing image stored
    rw [List.foldl_cons]
    by_cases given : givenTo casing book.title image = true
    · rw [if_pos given] at step
      rw [ih step,List.filter_cons_of_pos given,List.getLast?_cons]
      cases (rest.filter (givenTo casing book.title)).getLast? <;> rfl
    · rw [if_neg given] at step
      rw [ih step,List.filter_cons_of_neg given]

theorem books_processImages (casing : LowerCasing) (entries : List (String × Bool)) (db : Db) :
    (processImages casing (.listed entries) db).2.books =
      ((entries.filter (fun entry => entry.2)).map Prod.fst).foldl (processImage casing) db.books := rfl

theorem imageOf_lowered (casing : LowerCasing) {title other : PlainTitle} (same : lowered title.text = lowered other.text) :
    imageOf casing title = imageOf casing other := by
  rw [imageOf_eq,imageOf_eq,same]

/-- From a folder with the images of some titles every book with one of these titles gets
    the image of its title, and every other book keeps its own. -/
theorem processImages_titles (casing : LowerCasing) {titles : List PlainTitle}
    (apart : ∀ title ∈ titles, SeriesApart (lowered title.text).toList) {db : Db} {k : Id} {book : Book}
    (stored : db.books.find k = some book) :
    ∃ image, (processImages casing (.listed (titles.map (fun title => (imageOf casing title,true)))) db).2.books.find k =
        some { book with image := image } ∧
      (∀ title ∈ titles, book.title.map casing.database = some (lowered title.text) → image = some (imageOf casing title)) ∧
      ((∀ title ∈ titles, book.title.map casing.database ≠ some (lowered title.text)) → image = book.image) := by
  have files : ((titles.map (fun title => (imageOf casing title,true))).filter (fun entry => entry.2)).map Prod.fst =
      titles.map (imageOf casing) := by
    rw [List.filter_eq_self.mpr (by simp),List.map_map]
    rfl
  have given : ∀ title ∈ titles, givenTo casing book.title (imageOf casing title) = true ↔
      book.title.map casing.database = some (lowered title.text) := by
    intro title member
    have isRead : formattedName casing (imageOf casing title) = lowered title.text := by
      rw [formattedName_imageOf,(readBack_iff (text_spaced title) (text_readable title)).mpr (apart title member),
        String.ofList_toList]
    rw [givenTo,isImage_imageOf,Bool.true_and,isRead,decide_eq_true_eq]
  refine ⟨((titles.map (imageOf casing)).filter (givenTo casing book.title)).getLast?.or book.image,?_,?_,?_⟩
  · rw [books_processImages,files,find_processAll casing _ stored]
  · intro title member isTitle
    have some_given : imageOf casing title ∈ (titles.map (imageOf casing)).filter (givenTo casing book.title) :=
      List.mem_filter.mpr ⟨List.mem_map_of_mem member,(given title member).mpr isTitle⟩
    cases isLast : ((titles.map (imageOf casing)).filter (givenTo casing book.title)).getLast? with
    | none =>
      rw [List.getLast?_eq_none_iff.mp isLast] at some_given
      cases some_given
    | some image =>
      obtain ⟨isFile,isGiven⟩ := List.mem_filter.mp (List.mem_of_getLast? isLast)
      obtain ⟨other,isOther,rfl⟩ := List.mem_map.mp isFile
      have same := Option.some.inj (isTitle.symm.trans ((given other isOther).mp isGiven))
      rw [imageOf_lowered casing same]
      rfl
  · intro none_matches
    have none_given : (titles.map (imageOf casing)).filter (givenTo casing book.title) = [] := by
      refine List.filter_eq_nil_iff.mpr (fun image isFile isGiven => ?_)
      obtain ⟨other,isOther,rfl⟩ := List.mem_map.mp isFile
      exact none_matches other isOther ((given other isOther).mp isGiven)
    rw [none_given]
    rfl

def secondStone : PlainTitle := ⟨["The","Second","Stone"],by decide,by decide,by decide⟩

def firstPotter : PlainTitle := ⟨["Harry","Potter","and","the","Stone"],by decide,by decide,by decide⟩

/-- Three books, two of them with an image. -/
def bareDb : Db :=
  { Db.empty with
    books := ((Table.empty.insert ⟨some "The second Stone",none,true,none,none,1,1⟩).insert
      ⟨some "Emma",none,true,some "emma.png",none,1,1⟩).insert
      ⟨some "harry potter and the stone",none,true,some "old.png",none,1,1⟩ }

/-- The images of two titles, one of them of a series. -/
def twoImages : List (String × Bool) := [secondStone,firstPotter].map (fun title => (imageOf basicCasing title,true))

theorem processImages_titles_stone :
    (processImages basicCasing (.listed twoImages) bareDb).2.books.find 1 =
        some ⟨some "The second Stone",none,true,some (imageOf basicCasing secondStone),none,1,1⟩ ∧
      (processImages basicCasing (.listed twoImages) bareDb).2.books.find 2 =
        some ⟨some "Emma",none,true,some "emma.png",none,1,1⟩ ∧
      (processImages basicCasing (.listed twoImages) bareDb).2.books.find 3 =
        some ⟨some "harry potter and the stone",none,true,some (imageOf basicCasing firstPotter),none,1,1⟩ := by
  have apart : ∀ title ∈ [secondStone,firstPotter], SeriesApart (lowered title.text).toList := by decide +kernel
  refine ⟨?_,?_,?_⟩
  · obtain ⟨image,found,named,_⟩ := @processImages_titles basicCasing _ apart bareDb 1 _ rfl
    rw [twoImages,found,named secondStone (by simp) (by decide)]
  · obtain ⟨image,found,_,unnamed⟩ := @processImages_titles basicCasing _ apart bareDb 2 _ rfl
    rw [twoImages,found,unnamed (by decide)]
  · obtain ⟨image,found,named,_⟩ := @processImages_titles basicCasing _ apart bareDb 3 _ rfl
    rw [twoImages,found,named firstPotter (by simp) (by decide)]

end LibraryServer.ImageNames
