import Mathlib.Data.List.Basic
import Mathlib.Data.List.Chain
import Mathlib.Tactic.Common

/-!
Texts with separators, as lists over any type. A text is spaced if it begins and ends
with no separator and has no two of them in a row, as words that are joined by single
separators are. On such a text the replacement of every run of separators by one mark
is a replacement of each separator, and there is nothing to strip.
-/
namespace LibraryServer.Texts
set_option linter.unusedSimpArgs false

/-- The lower case of basic letters. -/
def lowered (s : String) : String := String.ofList (s.toList.map Char.toLower)

variable {α β : Type}

/-- Every longest run of elements that satisfy `p` replaced by a mark; `inside` says
    that the element before belongs to such a run. -/
def collapse (p : α → Bool) (mark : α) (inside : Bool) : List α → List α
  | [] => []
  | a :: rest =>
    if p a then (if inside then collapse p mark true rest else mark :: collapse p mark true rest)
    else a :: collapse p mark false rest

/-- The elements at both ends that satisfy `p` removed. -/
def strip (p : α → Bool) (text : List α) : List α := ((text.dropWhile p).reverse.dropWhile p).reverse

/-- No two separators in a row. -/
def Apart (p : α → Bool) (text : List α) : Prop := text.IsChain (fun a b => p a = true → p b = false)

structure Spaced (p : α → Bool) (text : List α) : Prop where
  apart : Apart p text
  first : ∀ a ∈ text.head?, p a = false
  last : ∀ a ∈ text.getLast?, p a = false

variable {p : α → Bool}

theorem collapse_apart {text : List α} (apart : Apart p text) (mark : α) :
    collapse p mark false text = text.map (fun a => if p a then mark else a) := by
  -- inside a run the next element is no separator, so the flag makes no difference
  have either : ∀ (inside : Bool) (text : List α), Apart p text → (inside = true → ∀ a ∈ text.head?, p a = false) →
      collapse p mark inside text = text.map (fun a => if p a then mark else a) := by
    intro inside text
    induction text generalizing inside with
    | nil => exact fun _ _ => rfl
    | cons a rest ih =>
      intro apart after
      obtain ⟨next,apart⟩ := List.isChain_cons.mp apart
      by_cases separator : p a = true
      · have outside : inside = false := by
          refine Bool.eq_false_iff.mpr (fun within => ?_)
          rw [after within a rfl] at separator
          cases separator
        rw [collapse,if_pos separator,outside,if_neg Bool.false_ne_true,List.map_cons,if_pos separator]
        rw [ih true apart (fun _ b first => next b first separator)]
      · rw [collapse,if_neg separator,List.map_cons,if_neg separator]
        rw [ih false apart (fun within => by cases within)]
  exact either false text apart (fun within => by cases within)

theorem dropWhile_first {text : List α} (first : ∀ a ∈ text.head?, p a = false) : text.dropWhile p = text := by
  cases text with
  | nil => rfl
  | cons a rest => rw [List.dropWhile_cons_of_neg (by simp [first a rfl])]

theorem strip_spaced {text : List α} (spaced : Spaced p text) : strip p text = text := by
  have last : ∀ a ∈ text.reverse.head?, p a = false := by
    rw [List.head?_reverse]
    exact spaced.last
  rw [strip,dropWhile_first spaced.first,dropWhile_first last,List.reverse_reverse]

theorem strip_cons {a : α} (separator : p a = true) (text : List α) : strip p (a :: text) = strip p text := by
  rw [strip,List.dropWhile_cons_of_pos separator,strip]

section
variable {q : β → Bool} {f : α → β} (only : ∀ a, q (f a) = true → p a = true)
include only

theorem plain_map {a : α} (plain : p a = false) : q (f a) = false := by
  refine Bool.eq_false_iff.mpr (fun separator => ?_)
  rw [only a separator] at plain
  cases plain

theorem apart_map {text : List α} (apart : Apart p text) : Apart q (text.map f) := by
  refine (List.isChain_map f).mpr (apart.imp (fun a b next separator => ?_))
  exact plain_map only (next (only a separator))

/-- A text is still spaced if only separators become separators. -/
theorem spaced_map {text : List α} (spaced : Spaced p text) : Spaced q (text.map f) := by
  refine ⟨apart_map only spaced.apart,?_,?_⟩
  · intro b mapped
    rw [List.head?_map] at mapped
    obtain ⟨a,first,rfl⟩ := Option.map_eq_some_iff.mp mapped
    exact plain_map only (spaced.first a first)
  · intro b mapped
    rw [List.getLast?_map] at mapped
    obtain ⟨a,last,rfl⟩ := Option.map_eq_some_iff.mp mapped
    exact plain_map only (spaced.last a last)

end

/-- Two texts with a separator between them. -/
theorem apart_join {before after : List α} (left : Spaced p before) (right : Spaced p after) (separator : α) :
    Apart p (before ++ separator :: after) := by
  refine List.isChain_append.mpr ⟨left.apart,List.isChain_cons.mpr ⟨?_,right.apart⟩,?_⟩
  · exact fun b first _ => right.first b first
  · intro a last b first isSeparator
    rw [left.last a last] at isSeparator
    cases isSeparator

theorem spaced_join {before after : List α} (left : Spaced p before) (right : Spaced p after) (separator : α)
    (filled : before ≠ []) (more : after ≠ []) : Spaced p (before ++ separator :: after) := by
  refine ⟨apart_join left right separator,?_,?_⟩
  · intro a first
    rw [List.head?_append_of_ne_nil _ filled] at first
    exact left.first a first
  · intro a last
    rw [List.getLast?_append_of_ne_nil _ (by simp),List.getLast?_cons_of_ne_nil more] at last
    exact right.last a last

/-- The end of a spaced text is spaced or a separator before a spaced text. -/
theorem spaced_end {before after : List α} (spaced : Spaced p (before ++ after)) :
    Spaced p after ∨ ∃ separator rest, after = separator :: rest ∧ p separator = true ∧ Spaced p rest := by
  have apart : Apart p after := spaced.apart.right_of_append
  have last : ∀ a ∈ after.getLast?, p a = false := by
    intro a isLast
    exact spaced.last a (by rw [List.getLast?_append,isLast]; rfl)
  cases after with
  | nil => exact .inl ⟨apart,by simp,last⟩
  | cons a rest =>
    obtain ⟨next,rest_apart⟩ := List.isChain_cons.mp apart
    by_cases separator : p a = true
    · refine .inr ⟨a,rest,rfl,separator,rest_apart,fun b first => next b first separator,fun b isLast => last b ?_⟩
      rw [List.getLast?_cons,isLast]
      rfl
    · refine .inl ⟨apart,fun b first => ?_,last⟩
      cases first
      exact Bool.eq_false_iff.mpr separator

theorem spaced_plain {word : List α} (plain : ∀ a ∈ word, p a = false) : Spaced p word where
  apart := by
    have pairs : word.Pairwise (fun a b => p a = true → p b = false) :=
      List.pairwise_of_forall_mem_list (fun _ _ b member _ => plain b member)
    exact pairs.isChain
  first := fun a first => plain a (List.mem_of_mem_head? first)
  last := fun a last => plain a (List.mem_of_mem_getLast? last)

theorem words_filled (separator : α) {word : List α} (filled : word ≠ []) (rest : List (List α)) :
    [separator].intercalate (word :: rest) ≠ [] := by
  cases rest with
  | nil => rwa [List.intercalate_singleton]
  | cons next rest =>
    rw [List.intercalate_cons_cons,List.append_assoc]
    exact List.append_ne_nil_of_left_ne_nil filled _

theorem mem_words {separator a : α} {words : List (List α)} (member : a ∈ [separator].intercalate words) :
    a = separator ∨ ∃ word ∈ words, a ∈ word := by
  induction words with
  | nil => cases member
  | cons word rest ih =>
    cases rest with
    | nil =>
      rw [List.intercalate_singleton] at member
      exact .inr ⟨word,List.mem_cons_self,member⟩
    | cons next rest =>
      rw [List.intercalate_cons_cons,List.append_assoc] at member
      rcases List.mem_append.mp member with inWord | later
      · exact .inr ⟨word,List.mem_cons_self,inWord⟩
      · rcases List.mem_cons.mp later with isSeparator | later
        · exact .inl isSeparator
        · refine (ih later).imp_right (fun inRest => ?_)
          obtain ⟨other,isOther,inOther⟩ := inRest
          exact ⟨other,List.mem_cons_of_mem _ isOther,inOther⟩

/-- Words joined by single separators. -/
theorem spaced_words (separator : α) {words : List (List α)} (filled : ∀ word ∈ words, word ≠ [])
    (plain : ∀ word ∈ words, ∀ a ∈ word, p a = false) : Spaced p ([separator].intercalate words) := by
  induction words with
  | nil => exact spaced_plain (fun a member => by cases member)
  | cons word rest ih =>
    obtain ⟨isWord,isFilled⟩ := List.forall_mem_cons.mp filled
    obtain ⟨isPlain,allPlain⟩ := List.forall_mem_cons.mp plain
    cases rest with
    | nil =>
      rw [List.intercalate_singleton]
      exact spaced_plain isPlain
    | cons next rest =>
      have more := words_filled separator (isFilled next List.mem_cons_self) rest
      rw [List.intercalate_cons_cons,List.append_assoc]
      exact spaced_join (spaced_plain isPlain) (ih isFilled allPlain) separator isWord more

end LibraryServer.Texts
