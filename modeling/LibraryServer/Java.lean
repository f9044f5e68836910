import LibraryServer.Fallible
import Mathlib.Data.List.Basic
import Mathlib.Tactic.Common

/-!
What the Java code takes from its runtime: exceptions, the checked ones kept
apart, text, dates and the wrapping arithmetic of `int`. Null is `none`.
-/
namespace LibraryServer.Java
set_option linter.unusedSimpArgs false

/-- The exceptions that the services and the persistence layer throw. -/
inductive Exc where
  | runtimeException (message : String)
  | illegalArgument (message : String)
  | illegalState (message : String)
  | bookNotFound (message : String)
  | nullPointer
  | dataIntegrityViolation
  | incorrectResultSize
  | optimisticLockingFailure
  | entityNotFound
  | checkedException (message : String)
deriving DecidableEq

/-- Only `java.lang.Exception` itself is checked; the others extend
    `RuntimeException`. -/
def Exc.isChecked : Exc → Bool
  | .checkedException _ => true
  | _ => false

/-- The text of an exception. Those that the persistence layer or the runtime
    raises bring a text of their own, which is not modelled. -/
def Exc.message : Exc → String
  | .runtimeException message => message
  | .illegalArgument message => message
  | .illegalState message => message
  | .bookNotFound message => message
  | .checkedException message => message
  | _ => ""

/-- How string concatenation prints a reference. -/
def shown {α : Type} [ToString α] : Option α → String
  | none => "null"
  | some a => toString a

/-- `String.trim`: code points up to the space go at both ends. -/
def trim (s : String) : String :=
  let cut := fun (cs : List Char) => cs.dropWhile (fun c => c.toNat ≤ 32)
  String.ofList (cut (cut s.toList).reverse).reverse

/-- `Character.isWhitespace`, where the non-breaking spaces do not count. -/
def isWhitespace (c : Char) : Bool :=
  let n := c.toNat
  (9 ≤ n && n ≤ 13) || (28 ≤ n && n ≤ 32) || n == 0x1680 || (0x2000 ≤ n && n ≤ 0x2006) || (0x2008 ≤ n && n ≤ 0x200A) ||
    n == 0x2028 || n == 0x2029 || n == 0x205F || n == 0x3000

/-- The upper case of basic letters, and of the two other characters that have
    a basic letter as their upper case. -/
def toUpperCase (s : String) : String :=
  String.ofList (s.toList.map (fun c => if c = '\u0131' then 'I' else if c = '\u017f' then 'S' else c.toUpper))

/-- `String.isBlank`. -/
def isBlank (s : String) : Bool := s.toList.all isWhitespace

/-- The lower case form under which `equalsIgnoreCase` compares characters when
    one of them is a basic letter: the dotless and dotted i, the long s and the
    Kelvin sign also have basic letters as their case variants. -/
def foldCase (c : Char) : Char :=
  if c = '\u0131' ∨ c = '\u0130' then 'i' else if c = '\u017f' then 's' else if c = '\u212a' then 'k' else c.toLower

/-- `"word".equalsIgnoreCase(s)` for a word of basic letters; false for null. -/
def equalsIgnoreCase (word : String) : Option String → Bool
  | none => false
  | some s => s.toList.map foldCase == word.toList.map foldCase

/-! ### Numbers in text -/

/-- The zeros of the decimal digits that `Character.digit` knows. -/
def zeroDigits : List Nat :=
  [0x30,0x660,0x6F0,0x7C0,0x966,0x9E6,0xA66,0xAE6,0xB66,0xBE6,0xC66,0xCE6,0xD66,0xDE6,0xE50,0xED0,0xF20,0x1040,0x1090,
    0x17E0,0x1810,0x1946,0x19D0,0x1A80,0x1A90,0x1B50,0x1BB0,0x1C40,0x1C50,0xA620,0xA8D0,0xA900,0xA9D0,0xA9F0,0xAA50,
    0xABF0,0xFF10]

def digitValue (c : Char) : Option Nat :=
  (zeroDigits.find? (fun base => base ≤ c.toNat && c.toNat < base + 10)).map (fun base => c.toNat - base)

/-- The value of a non-empty list of digits. -/
def digitsValue (digits : List Char) : Option Nat :=
  if digits = [] then none
  else (digits.mapM digitValue).map (fun values => values.foldl (fun sum d => 10 * sum + d) 0)

/-- `Long.parseLong`, where `none` is a `NumberFormatException`. -/
def parseLong (s : String) : Option Int :=
  let value :=
    match s.toList with
    | '-' :: digits => (digitsValue digits).map (fun n => -(n : Int))
    | '+' :: digits => (digitsValue digits).map (fun n => (n : Int))
    | digits => (digitsValue digits).map (fun n => (n : Int))
  value.filter (fun n => -9223372036854775808 ≤ n && n ≤ 9223372036854775807)

/-- `split` at a character that is no metacharacter: empty parts at the end go,
    but a text without the character is kept as it is. -/
def split (separator : Char) (s : String) : List String :=
  if separator ∈ s.toList then
    (((s.toList.splitOn separator).reverse.dropWhile (fun part => part = [])).reverse).map String.ofList
  else [s]

/-- The values of a `long`. -/
def IsLong (n : Int) : Prop := -9223372036854775808 ≤ n ∧ n ≤ 9223372036854775807

theorem digitValue_ascii {c : Char} (digit : c.isDigit = true) : digitValue c = some (c.toNat - 48) := by
  simp only [Char.isDigit,Bool.and_eq_true,decide_eq_true_eq] at digit
  have low : 48 ≤ c.toNat := UInt32.le_iff_toNat_le.mp digit.1
  have high : c.toNat ≤ 57 := UInt32.le_iff_toNat_le.mp digit.2
  have first : zeroDigits.find? (fun base => base ≤ c.toNat && c.toNat < base + 10) = some 48 := by
    rw [zeroDigits,List.find?_cons_of_pos]
    simp only [Bool.and_eq_true,decide_eq_true_eq]
    omega
  rw [digitValue,first]
  rfl

theorem isDigit_toDigits (n : Nat) : ∀ c ∈ Nat.toDigits 10 n, c.isDigit = true :=
  fun _ member => Nat.isDigit_of_mem_toDigits (by decide) (by decide) member

theorem digitsValue_toDigits (n : Nat) : digitsValue (Nat.toDigits 10 n) = some n := by
  have values : ∀ digits : List Char, (∀ c ∈ digits, c.isDigit = true) →
      digits.mapM digitValue = some (digits.map (fun c => c.toNat - 48)) := by
    intro digits all
    induction digits with
    | nil => rfl
    | cons c rest ih =>
      simp [List.mapM_cons,digitValue_ascii (all c List.mem_cons_self),ih (fun d later => all d (List.mem_cons_of_mem _ later))]
  have sum := (Nat.ofDigitChars_ten_toDigits (n := n)).symm
  rw [Nat.ofDigitChars_eq_foldl] at sum
  rw [digitsValue,if_neg Nat.toDigits_ne_nil,values _ (isDigit_toDigits n),Option.map_some,List.foldl_map]
  exact congrArg some sum.symm

theorem toList_toString_nat (m : Nat) : (toString (Int.ofNat m)).toList = Nat.toDigits 10 m := Nat.toList_repr

theorem toList_toString_neg (m : Nat) : (toString (Int.negSucc m)).toList = '-' :: Nat.toDigits 10 (m + 1) := by
  rw [show toString (Int.negSucc m) = "-" ++ (m + 1).repr from rfl,String.toList_append,Nat.toList_repr]
  rfl

/-- A number is printed with digits and a sign. -/
theorem mem_toString {n : Int} {c : Char} (member : c ∈ (toString n).toList) : c.isDigit = true ∨ c = '-' := by
  cases n with
  | ofNat m =>
    rw [toList_toString_nat] at member
    exact .inl (isDigit_toDigits m c member)
  | negSucc m =>
    rw [toList_toString_neg] at member
    rcases List.mem_cons.mp member with sign | digit
    · exact .inr sign
    · exact .inl (isDigit_toDigits (m + 1) c digit)

theorem toString_filled (n : Int) : toString n ≠ "" := by
  intro empty
  have text := congrArg String.toList empty
  cases n with
  | ofNat m =>
    rw [toList_toString_nat] at text
    exact Nat.toDigits_ne_nil text
  | negSucc m =>
    rw [toList_toString_neg] at text
    cases text

/-- Different numbers are printed differently. -/
theorem toString_inj {m n : Int} : toString m = toString n ↔ m = n := by
  have digits_inj : ∀ a b : Nat, Nat.toDigits 10 a = Nat.toDigits 10 b → a = b := by
    intro a b same
    exact Option.some.inj (by rw [← digitsValue_toDigits a,same,digitsValue_toDigits])
  refine ⟨fun same => ?_,fun same => congrArg toString same⟩
  have texts := congrArg String.toList same
  cases m with
  | ofNat a =>
    cases n with
    | ofNat b =>
      rw [toList_toString_nat,toList_toString_nat] at texts
      rw [digits_inj a b texts]
    | negSucc b =>
      rw [toList_toString_nat,toList_toString_neg] at texts
      exact absurd (isDigit_toDigits a '-' (texts ▸ List.mem_cons_self)) (by decide)
  | negSucc a =>
    cases n with
    | ofNat b =>
      rw [toList_toString_nat,toList_toString_neg] at texts
      exact absurd (isDigit_toDigits b '-' (texts ▸ List.mem_cons_self)) (by decide)
    | negSucc b =>
      rw [toList_toString_neg,toList_toString_neg] at texts
      rw [Nat.succ.inj (digits_inj _ _ (List.cons.inj texts).2)]

/-- What is printed is read back. -/
theorem parseLong_toString {n : Int} (range : IsLong n) : parseLong (toString n) = some n := by
  have kept : (some n).filter (fun n => -9223372036854775808 ≤ n && n ≤ 9223372036854775807) = some n := by
    simp [Option.filter,range.1,range.2]
  cases n with
  | ofNat m =>
    have digits := isDigit_toDigits m
    rw [parseLong,toList_toString_nat]
    split
    · rename_i rest sign
      exact absurd (digits '-' (by rw [sign]; simp)) (by decide)
    · rename_i rest sign
      exact absurd (digits '+' (by rw [sign]; simp)) (by decide)
    · rw [digitsValue_toDigits]
      exact kept
  | negSucc m =>
    rw [parseLong,toList_toString_neg]
    simp only [digitsValue_toDigits]
    exact kept

/-- Two parts without the separator, the second not empty. -/
theorem split_two {separator : Char} {text first second : String}
    (shape : text.toList = first.toList ++ separator :: second.toList) (plain : separator ∉ first.toList)
    (plain_second : separator ∉ second.toList) (filled : second.toList ≠ []) : split separator text = [first,second] := by
  have parts : text.toList.splitOn separator = [first.toList,second.toList] := by
    rw [shape,List.splitOn_append_cons_self_of_not_mem plain,List.splitOn_eq_singleton plain_second]
  have separated : separator ∈ text.toList := by simp [shape]
  rw [split,if_pos separated,parts]
  simp [filled]

/-! ### Floating point numbers -/

/-- A `double`: every finite one is a rational number. -/
inductive Double where
  | finite (value : Rat)
  | infinite (positive : Bool)
  | nan
deriving DecidableEq

/-- The whole part, towards zero. -/
def truncated (value : Rat) : Int := if 0 ≤ value then value.floor else value.ceil

/-- The cast to `int`, which saturates. -/
def Double.toInt32 : Double → Int32
  | .finite value => Int32.ofInt (max (-2147483648) (min 2147483647 (truncated value)))
  | .infinite positive => if positive then Int32.maxValue else Int32.minValue
  | .nan => 0

/-! ### Dates -/

/-- A `LocalDateTime`: the day since the epoch and the time within it. -/
structure LocalDateTime where
  epochDay : Int
  nanoOfDay : Nat
deriving DecidableEq

/-- The first moment of a day. -/
def atStartOfDay (day : Int) : LocalDateTime := ⟨day,0⟩

def LocalDateTime.plusDays (date : LocalDateTime) (days : Int) : LocalDateTime := { date with epochDay := date.epochDay + days }

/-- The year, the month and the day of the month of an epoch day. -/
def civil (epochDay : Int) : Int × Int × Int :=
  -- Years are counted from March, in eras of 400 years.
  let shifted := epochDay + 719468
  let era := shifted.fdiv 146097
  let dayOfEra := shifted.fmod 146097
  let yearOfEra := (dayOfEra - dayOfEra / 1460 + dayOfEra / 36524 - dayOfEra / 146096) / 365
  let dayOfYear := dayOfEra - (365 * yearOfEra + yearOfEra / 4 - yearOfEra / 100)
  let month := (5 * dayOfYear + 2) / 153
  let day := dayOfYear - (153 * month + 2) / 5 + 1
  let year := yearOfEra + era * 400
  if month < 10 then (year,month + 3,day) else (year + 1,month - 9,day)

/-- A number with leading zeros. -/
def padded (width : Nat) (n : Nat) : String :=
  let digits := (toString n).toList
  String.ofList (List.replicate (width - digits.length) '0' ++ digits)

/-- `LocalDate.toString`. -/
def dateText (epochDay : Int) : String :=
  let (year,month,day) := civil epochDay
  let sign := if year < 0 then "-" else if 9999 < year then "+" else ""
  sign ++ padded 4 year.natAbs ++ "-" ++ padded 2 month.toNat ++ "-" ++ padded 2 day.toNat

/-- `LocalDateTime.toString`: seconds and their fraction only where needed. -/
def LocalDateTime.text (t : LocalDateTime) : String :=
  let second := t.nanoOfDay / 1000000000
  let nano := t.nanoOfDay % 1000000000
  let fraction :=
    if nano = 0 then ""
    else if nano % 1000000 = 0 then "." ++ padded 3 (nano / 1000000)
    else if nano % 1000 = 0 then "." ++ padded 6 (nano / 1000)
    else "." ++ padded 9 nano
  let seconds := if second % 60 = 0 ∧ nano = 0 then "" else ":" ++ padded 2 (second % 60) ++ fraction
  dateText t.epochDay ++ "T" ++ padded 2 (second / 3600) ++ ":" ++ padded 2 (second / 60 % 60) ++ seconds

/-- The pattern `yyyy-MM-dd`, with the year of the era. -/
def LocalDateTime.formatted (t : LocalDateTime) : String :=
  let (year,month,day) := civil t.epochDay
  let yearOfEra := if year ≤ 0 then 1 - year else year
  (if 9999 < yearOfEra then "+" else "") ++ padded 4 yearOfEra.toNat ++ "-" ++ padded 2 month.toNat ++ "-" ++
    padded 2 day.toNat

example : (atStartOfDay 19782).text = "2024-02-29T00:00" ∧ (atStartOfDay (-1)).formatted = "1969-12-31" := by decide

/-! ### Arithmetic of `int` -/

theorem toInt_succ {a b : Int32} (less : a.toInt < b.toInt) : (a + 1).toInt = a.toInt + 1 := by
  have high := Int32.toInt_le b
  have low := Int32.le_toInt a
  have max : Int32.maxValue.toInt = 2147483647 := by decide
  have min : Int32.minValue.toInt = -2147483648 := by decide
  have one : (1 : Int32).toInt = 1 := by decide
  rw [Int32.toInt_add,one]
  exact Int.bmod_eq_of_le (by omega) (by omega)

theorem toInt_pred {a : Int32} (positive : 0 < a.toInt) : (a - 1).toInt = a.toInt - 1 := by
  have high := Int32.toInt_le a
  have max : Int32.maxValue.toInt = 2147483647 := by decide
  have one : (1 : Int32).toInt = 1 := by decide
  rw [Int32.toInt_sub,one]
  exact Int.bmod_eq_of_le (by omega) (by omega)

theorem not_le_zero {a : Int32} : ¬ a ≤ 0 ↔ 0 < a.toInt := by
  have zero : (0 : Int32).toInt = 0 := by decide
  rw [Int32.le_iff_toInt_le,zero]
  omega

end LibraryServer.Java
