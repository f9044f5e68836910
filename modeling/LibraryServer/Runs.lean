import Mathlib.Data.List.Basic
import Mathlib.Tactic.Common

/-!
Runs of a step function. A run is the fold of the step over a list of inputs;
`Throughout` states a condition on every step at the state in which it is taken,
`Always` a property of every state reached. When the steps that keep a property
are exactly those that meet a condition, so are the runs (`always_iff`). A run of
steps that commute and have no effect when repeated depends only on which inputs
it has (`Settling.run_members`).
-/
namespace LibraryServer.Runs
set_option linter.unusedSimpArgs false

variable {σ ι : Type} {step : σ → ι → σ}

/-- Every step of the run meets the condition where it is taken. -/
def Throughout (step : σ → ι → σ) (Cond : σ → ι → Prop) : σ → List ι → Prop
  | _, [] => True
  | s, i :: rest => Cond s i ∧ Throughout step Cond (step s i) rest

/-- Every state of the run, the first and the last included, has the property. -/
def Always (step : σ → ι → σ) (I : σ → Prop) : σ → List ι → Prop
  | s, [] => I s
  | s, i :: rest => I s ∧ Always step I (step s i) rest

instance decidableThroughout {Cond : σ → ι → Prop} [∀ s i, Decidable (Cond s i)] :
    (s : σ) → (items : List ι) → Decidable (Throughout step Cond s items)
  | _, [] => .isTrue trivial
  | s, i :: rest =>
    have : Decidable (Throughout step Cond (step s i) rest) := decidableThroughout (step s i) rest
    inferInstanceAs (Decidable (Cond s i ∧ Throughout step Cond (step s i) rest))

instance decidableAlways {I : σ → Prop} [∀ s, Decidable (I s)] :
    (s : σ) → (items : List ι) → Decidable (Always step I s items)
  | s, [] => inferInstanceAs (Decidable (I s))
  | s, i :: rest =>
    have : Decidable (Always step I (step s i) rest) := decidableAlways (step s i) rest
    inferInstanceAs (Decidable (I s ∧ Always step I (step s i) rest))

theorem throughout_append {Cond : σ → ι → Prop} {s : σ} {items more : List ι} :
    Throughout step Cond s (items ++ more) ↔ Throughout step Cond s items ∧ Throughout step Cond (items.foldl step s) more := by
  induction items generalizing s with
  | nil => simp [Throughout]
  | cons i rest ih => simp [Throughout,ih,and_assoc]

/-- A condition may be weakened along a run. -/
theorem throughout_imp {P Q : σ → ι → Prop} (weaker : ∀ s i, P s i → Q s i) {s : σ} {items : List ι}
    (holds : Throughout step P s items) : Throughout step Q s items := by
  induction items generalizing s with
  | nil => trivial
  | cons i rest ih => exact ⟨weaker s i holds.1,ih holds.2⟩

/-- Conditions that say the same of every step from a state of an invariant say the same
    of a run. -/
theorem throughout_iff_under {J : σ → Prop} {C P Q : σ → ι → Prop} (keeps : ∀ s i, J s → C s i → J (step s i))
    (same : ∀ s i, J s → (P s i ↔ Q s i)) {s : σ} (inv : J s) {items : List ι} (under : Throughout step C s items) :
    Throughout step P s items ↔ Throughout step Q s items := by
  induction items generalizing s with
  | nil => exact Iff.rfl
  | cons i rest ih => exact and_congr (same s i inv) (ih (keeps s i inv under.1) under.2)

/-- What every step keeps, the whole run keeps. -/
theorem run_invariant {I : σ → Prop} {Cond : σ → ι → Prop} (keeps : ∀ s i, I s → Cond s i → I (step s i)) {s : σ}
    (holds : I s) {items : List ι} (under : Throughout step Cond s items) : I (items.foldl step s) := by
  induction items generalizing s with
  | nil => exact holds
  | cons i rest ih => exact ih (keeps s i holds under.1) under.2

/-- What follows from an invariant holds in every state of the run. -/
theorem always_invariant {I J : σ → Prop} {Cond : σ → ι → Prop} (keeps : ∀ s i, I s → Cond s i → I (step s i))
    (gives : ∀ s, I s → J s) {s : σ} (holds : I s) {items : List ι} (under : Throughout step Cond s items) :
    Always step J s items := by
  induction items generalizing s with
  | nil => exact gives s holds
  | cons i rest ih => exact ⟨gives s holds,ih (keeps s i holds under.1) under.2⟩

/-- What every step keeps holds in every state of the run. -/
theorem always_kept {I : σ → Prop} (keeps : ∀ s i, I s → I (step s i)) {s : σ} (holds : I s) (items : List ι) :
    Always step I s items := by
  induction items generalizing s with
  | nil => exact holds
  | cons i rest ih => exact ⟨holds,ih (keeps s i holds)⟩

/-- A property of all states of a run may be weakened. -/
theorem always_imp {I J : σ → Prop} (weaker : ∀ s, I s → J s) {s : σ} {items : List ι} (always : Always step I s items) :
    Always step J s items := by
  induction items generalizing s with
  | nil => exact weaker s always
  | cons i rest ih => exact ⟨weaker s always.1,ih always.2⟩

theorem always_head {I : σ → Prop} {s : σ} {items : List ι} (always : Always step I s items) : I s := by
  cases items with
  | nil => exact always
  | cons i rest => exact always.1

/-- What every step keeps holds at the end of the run. -/
theorem run_kept {I : σ → Prop} (keeps : ∀ s i, I s → I (step s i)) {s : σ} (holds : I s) (items : List ι) :
    I (items.foldl step s) := by
  induction items generalizing s with
  | nil => exact holds
  | cons i rest ih => exact ih (keeps s i holds)

/-- What holds at the end of a run has held all along, or ever since some step began it. -/
theorem run_began {P : σ → Prop} {s : σ} {items : List ι} (holds : P (items.foldl step s)) :
    Always step P s items ∨
      ∃ before i after, items = before ++ i :: after ∧ ¬ P (before.foldl step s) ∧
        Always step P (step (before.foldl step s) i) after := by
  induction items generalizing s with
  | nil => exact .inl holds
  | cons i rest ih =>
    rcases ih holds with since | ⟨before,j,after,rfl,later⟩
    · by_cases already : P s
      · exact .inl ⟨already,since⟩
      · exact .inr ⟨[],i,rest,rfl,already,since⟩
    · exact .inr ⟨i :: before,j,after,rfl,later⟩

/-- A preorder that contains every step relates the ends of the run. -/
theorem run_related {R : σ → σ → Prop} (refl : ∀ s, R s s) (trans : ∀ a b c, R a b → R b c → R a c) {s : σ}
    {items : List ι} (steps : Throughout step (fun s i => R s (step s i)) s items) : R s (items.foldl step s) := by
  induction items generalizing s with
  | nil => exact refl s
  | cons i rest ih => exact trans _ _ _ steps.1 (ih steps.2)

/-- Among the states of an invariant, if a step from a state with the property
    keeps it exactly when it meets the condition, then all states of a run have it
    exactly when all steps do. -/
theorem always_iff_under {J I : σ → Prop} {Cond : σ → ι → Prop} (keeps : ∀ s i, J s → J (step s i))
    (exact_ : ∀ s i, J s → I s → (I (step s i) ↔ Cond s i)) {s : σ} (inv : J s) (holds : I s) (items : List ι) :
    Always step I s items ↔ Throughout step Cond s items := by
  induction items generalizing s with
  | nil => exact ⟨fun _ => trivial,fun _ => holds⟩
  | cons i rest ih =>
    constructor
    · rintro ⟨_,later⟩
      have kept : I (step s i) := by
        cases rest with
        | nil => exact later
        | cons j rest => exact later.1
      exact ⟨(exact_ s i inv holds).mp kept,(ih (keeps s i inv) kept).mp later⟩
    · rintro ⟨meets,later⟩
      exact ⟨holds,(ih (keeps s i inv) ((exact_ s i inv holds).mpr meets)).mpr later⟩

/-- If a step from a state with the property keeps it exactly when it meets the
    condition, then all states of a run have it exactly when all steps do. -/
theorem always_iff {I : σ → Prop} {Cond : σ → ι → Prop} (exact_ : ∀ s i, I s → (I (step s i) ↔ Cond s i)) {s : σ}
    (holds : I s) (items : List ι) : Always step I s items ↔ Throughout step Cond s items := by
  have nothing : ∀ s i, True → (fun _ : σ => True) (step s i) := fun _ _ _ => trivial
  exact always_iff_under nothing (fun s i _ => exact_ s i) trivial holds items

/-- A property of all states of a run holds after every prefix of it. -/
theorem always_prefix {I : σ → Prop} {s : σ} {items : List ι} (always : Always step I s items) {before after : List ι}
    (split : items = before ++ after) : I (before.foldl step s) := by
  subst split
  induction before generalizing s with
  | nil =>
    cases after with
    | nil => exact always
    | cons i rest => exact always.1
  | cons i rest ih => exact ih always.2

/-- Among the states of an invariant, steps commute and a repeated step does nothing
    more. -/
structure Settling (step : σ → ι → σ) (J : σ → Prop) : Prop where
  keeps : ∀ s i, J s → J (step s i)
  commutes : ∀ s i j, J s → step (step s i) j = step (step s j) i
  again : ∀ s i, J s → step (step s i) i = step s i

section
variable {J : σ → Prop}

theorem Settling.run_keeps (settling : Settling step J) {s : σ} (inv : J s) (items : List ι) : J (items.foldl step s) := by
  induction items generalizing s with
  | nil => exact inv
  | cons i rest ih => exact ih (settling.keeps s i inv)

/-- A step may be taken after the run as well as before it. -/
theorem Settling.run_after (settling : Settling step J) {s : σ} (inv : J s) (i : ι) (items : List ι) :
    items.foldl step (step s i) = step (items.foldl step s) i := by
  induction items generalizing s with
  | nil => rfl
  | cons j rest ih =>
    rw [List.foldl_cons,settling.commutes s i j inv]
    exact ih (settling.keeps s j inv)

/-- A step that the run takes anyway may be taken before it too. -/
theorem Settling.run_absorbs (settling : Settling step J) {s : σ} (inv : J s) {i : ι} {items : List ι} (member : i ∈ items) :
    items.foldl step (step s i) = items.foldl step s := by
  induction items generalizing s with
  | nil => cases member
  | cons j rest ih =>
    rcases List.mem_cons.mp member with rfl | later
    · rw [List.foldl_cons,settling.again s i inv]
      rfl
    · rw [List.foldl_cons,settling.commutes s i j inv]
      exact ih (settling.keeps s j inv) later

/-- So may any number of them. -/
theorem Settling.run_absorbs_all (settling : Settling step J) {s : σ} (inv : J s) {items more : List ι}
    (members : ∀ i ∈ more, i ∈ items) : items.foldl step (more.foldl step s) = items.foldl step s := by
  induction more generalizing s with
  | nil => rfl
  | cons i rest ih =>
    rw [List.foldl_cons,ih (settling.keeps s i inv) (fun j later => members j (List.mem_cons_of_mem _ later))]
    exact settling.run_absorbs inv (members i List.mem_cons_self)

/-- Runs of the same inputs, in any order and any number, end in the same state. -/
theorem Settling.run_members (settling : Settling step J) {s : σ} (inv : J s) {items more : List ι}
    (same : ∀ i, i ∈ items ↔ i ∈ more) : items.foldl step s = more.foldl step s := by
  have commute : ∀ {s : σ}, J s → ∀ l : List ι, items.foldl step (l.foldl step s) = l.foldl step (items.foldl step s) := by
    intro s inv l
    induction l generalizing s with
    | nil => rfl
    | cons i rest ih => rw [List.foldl_cons,ih (settling.keeps s i inv),settling.run_after inv,List.foldl_cons]
  calc items.foldl step s
      = items.foldl step (more.foldl step s) := (settling.run_absorbs_all inv (fun i member => (same i).mpr member)).symm
    _ = more.foldl step (items.foldl step s) := commute inv more
    _ = more.foldl step s := settling.run_absorbs_all inv (fun i member => (same i).mp member)

end

end LibraryServer.Runs
