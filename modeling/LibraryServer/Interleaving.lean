import LibraryServer.Programs
import LibraryServer.Runs

/-!
Transactions whose calls interleave. All transactions share one state. A call
sees that state with the transaction's own writes on top; the writes reach the
shared state when the transaction commits, if the declared constraints admit the
result, and are dropped when it throws. A schedule says which transaction takes
the next step. `interleaved_invariant` reduces an invariant of the shared state to
the programs one by one: each must keep it whenever it commits under the agreed
condition, whatever states, all within the invariant, its calls were answered in.
-/
namespace LibraryServer.Interleaving
open LibraryServer.Programs LibraryServer.Runs
set_option linter.unusedSimpArgs false

variable {Call : Type} {Reply : Call → Type} {ε σ ω : Type}

/-- A transaction: what is left of its program, its writes and its calls so far. -/
inductive Txn (Call : Type) (Reply : Call → Type) (ε ω : Type) where
  | running (rest : Prog Call Reply ε Unit) (log : List ω) (trace : List (Event Call Reply))
  | committed
  | rolledBack

structure System (Call : Type) (Reply : Call → Type) (ε σ ω : Type) where
  shared : σ
  txns : List (Txn Call Reply ε ω)

section
variable (S : Store Call Reply ε σ ω) (admits : σ → Bool)

/-- One step of a transaction, and the shared state after it. -/
def advance (shared : σ) : Txn Call Reply ε ω → Txn Call Reply ε ω × σ
  | .running (.pure _) log _ =>
    if admits (S.replay log shared) then (.committed,S.replay log shared) else (.rolledBack,shared)
  | .running (.throw _) _ _ => (.rolledBack,shared)
  | .running (.call c next) log trace =>
    match S.answer c (S.replay log shared) with
    | .error _ => (.rolledBack,shared)
    | .ok reply => (.running (next reply.1) (log ++ reply.2) (trace ++ [⟨c,reply.1⟩]),shared)
  | .committed => (.committed,shared)
  | .rolledBack => (.rolledBack,shared)

/-- The system after the step of its `i`-th transaction. -/
def step (sys : System Call Reply ε σ ω) (i : Nat) : System Call Reply ε σ ω :=
  match sys.txns[i]? with
  | none => sys
  | some t => ⟨(advance S admits sys.shared t).2,sys.txns.set i (advance S admits sys.shared t).1⟩

/-- The system after a schedule. -/
def runSchedule (sys : System Call Reply ε σ ω) (schedule : List Nat) : System Call Reply ε σ ω :=
  schedule.foldl (step S admits) sys

/-- All programs at their beginning. -/
def start (shared : σ) (programs : List (Prog Call Reply ε Unit)) : System Call Reply ε σ ω :=
  ⟨shared,programs.map (fun p => .running p [] [])⟩

def Txn.over : Txn Call Reply ε ω → Bool
  | .running _ _ _ => false
  | .committed => true
  | .rolledBack => true

/-- No transaction is under way any more. -/
def Finished (sys : System Call Reply ε σ ω) : Prop := ∀ t ∈ sys.txns, t.over = true

/-- If the transaction is about to commit, it meets the condition on its writes,
    its calls and the shared state. -/
def CommitMeets (Cond : List ω → List (Event Call Reply) → σ → Prop) (shared : σ) : Txn Call Reply ε ω → Prop
  | .running (.pure _) log trace => Cond log trace shared
  | _ => True

/-- Along the schedule, every commit meets the condition. -/
def CommitsUnder (Cond : List ω → List (Event Call Reply) → σ → Prop) (sys : System Call Reply ε σ ω)
    (schedule : List Nat) : Prop :=
  Throughout (step S admits) (fun sys i => ∀ t ∈ sys.txns[i]?, CommitMeets Cond sys.shared t) sys schedule

/-- The obligation on one program. -/
def Safe (J : σ → Prop) (Cond : List ω → List (Event Call Reply) → σ → Prop) (p : Prog Call Reply ε Unit) : Prop :=
  ∀ log trace s, Among S J p [] [] (.ok ()) log trace → J s → Cond log trace s →
    admits (S.replay log s) = true → J (S.replay log s)

/-- However the transaction goes on to return, its program could have returned
    with the same writes and calls from the beginning. -/
def Continues (J : σ → Prop) (p : Prog Call Reply ε Unit) : Txn Call Reply ε ω → Prop
  | .running rest log trace => ∀ log' trace', Among S J rest log trace (.ok ()) log' trace' →
      Among S J p [] [] (.ok ()) log' trace'
  | _ => True

end

variable {S : Store Call Reply ε σ ω} {admits : σ → Bool}

instance (sys : System Call Reply ε σ ω) : Decidable (Finished sys) :=
  inferInstanceAs (Decidable (∀ t ∈ sys.txns, t.over = true))

section
variable {Cond : List ω → List (Event Call Reply) → σ → Prop} [∀ log trace s, Decidable (Cond log trace s)]

instance (shared : σ) : (t : Txn Call Reply ε ω) → Decidable (CommitMeets Cond shared t)
  | .running (.pure _) log trace => inferInstanceAs (Decidable (Cond log trace shared))
  | .running (.throw _) _ _ => .isTrue trivial
  | .running (.call _ _) _ _ => .isTrue trivial
  | .committed => .isTrue trivial
  | .rolledBack => .isTrue trivial

instance (sys : System Call Reply ε σ ω) (schedule : List Nat) : Decidable (CommitsUnder S admits Cond sys schedule) :=
  decidableThroughout sys schedule

end

theorem advance_continues {J : σ → Prop} {p : Prog Call Reply ε Unit} {shared : σ} (holds : J shared)
    {t : Txn Call Reply ε ω} (continues : Continues S J p t) : Continues S J p (advance S admits shared t).1 := by
  cases t with
  | committed => trivial
  | rolledBack => trivial
  | running rest log trace =>
    cases rest with
    | pure a =>
      simp only [advance]
      split_ifs <;> trivial
    | throw e => trivial
    | call c next =>
      simp only [advance]
      cases reply : S.answer c (S.replay log shared) with
      | error e => trivial
      | ok result =>
        intro log' trace' run
        exact continues log' trace' (.call holds reply run)

theorem advance_shared {J : σ → Prop} {Cond : List ω → List (Event Call Reply) → σ → Prop} {p : Prog Call Reply ε Unit}
    (safe : Safe S admits J Cond p) {shared : σ} (holds : J shared) {t : Txn Call Reply ε ω}
    (continues : Continues S J p t)
    (condition : CommitMeets Cond shared t) :
    J (advance S admits shared t).2 := by
  cases t with
  | committed => exact holds
  | rolledBack => exact holds
  | running rest log trace =>
    cases rest with
    | pure a =>
      simp only [advance]
      split_ifs with admitted
      · exact safe log trace shared (continues log trace (.pure () log trace)) holds condition admitted
      · exact holds
    | throw e => exact holds
    | call c next =>
      simp only [advance]
      cases S.answer c (S.replay log shared) with
      | error e => exact holds
      | ok result => exact holds

/-- What every step keeps: the invariant, and that every transaction continues
    one of the programs. -/
theorem step_invariant {J : σ → Prop} {Cond : List ω → List (Event Call Reply) → σ → Prop}
    {programs : List (Prog Call Reply ε Unit)} (safe : ∀ p ∈ programs, Safe S admits J Cond p)
    {sys : System Call Reply ε σ ω} (holds : J sys.shared)
    (continue_ : ∀ t ∈ sys.txns, ∃ p ∈ programs, Continues S J p t) (i : Nat)
    (condition : ∀ t ∈ sys.txns[i]?, CommitMeets Cond sys.shared t) :
    J (step S admits sys i).shared ∧ ∀ t ∈ (step S admits sys i).txns, ∃ p ∈ programs, Continues S J p t := by
  rw [step]
  cases chosen : sys.txns[i]? with
  | none => exact ⟨holds,continue_⟩
  | some t =>
    obtain ⟨p,member,continues⟩ := continue_ t (List.mem_of_getElem? chosen)
    refine ⟨?_,?_⟩
    · exact advance_shared (safe p member) holds continues (condition t chosen)
    · intro t' later
      rcases List.mem_or_eq_of_mem_set later with old | rfl
      · exact continue_ t' old
      · exact ⟨p,member,advance_continues holds continues⟩

/-- The invariant rule for interleaved transactions. -/
theorem interleaved_invariant {J : σ → Prop} {Cond : List ω → List (Event Call Reply) → σ → Prop}
    {programs : List (Prog Call Reply ε Unit)} (safe : ∀ p ∈ programs, Safe S admits J Cond p) {shared : σ}
    (holds : J shared) (schedule : List Nat) (under : CommitsUnder S admits Cond (start shared programs) schedule) :
    J (runSchedule S admits (start shared programs) schedule).shared := by
  refine (run_invariant (I := fun sys => J sys.shared ∧ ∀ t ∈ sys.txns, ∃ p ∈ programs, Continues S J p t) ?_
    ⟨holds,?_⟩ under).1
  · rintro sys i ⟨holds,continue_⟩ condition
    exact step_invariant safe holds continue_ i condition
  · intro t member
    obtain ⟨p,listed,rfl⟩ := List.mem_map.mp member
    exact ⟨p,listed,fun _ _ run => run⟩

/-! ### One step -/

def Txn.isCommitted : Txn Call Reply ε ω → Bool
  | .committed => true
  | _ => false

theorem committed_iff {t : Option (Txn Call Reply ε ω)} : t = some .committed ↔ t.any Txn.isCommitted = true := by
  cases t with
  | none => simp
  | some t => cases t <;> simp [Txn.isCommitted]

/-- A step commits the chosen transaction; or it leaves the shared state and commits
    nothing, and then the transaction was not at its end or is not admitted. -/
theorem step_cases (S : Store Call Reply ε σ ω) (admits : σ → Bool) (sys : System Call Reply ε σ ω) (i : Nat) :
    (∃ log trace, sys.txns[i]? = some (.running (.pure ()) log trace) ∧
        step S admits sys i = ⟨S.replay log sys.shared,sys.txns.set i .committed⟩) ∨
      (step S admits sys i).shared = sys.shared ∧
        (∀ j : Nat, (step S admits sys i).txns[j]? = some .committed → sys.txns[j]? = some .committed) ∧
        ∀ log trace, sys.txns[i]? = some (.running (.pure ()) log trace) → admits (S.replay log sys.shared) = false := by
  have uncommitted : ∀ (t : Txn Call Reply ε ω), t ≠ .committed → ∀ j : Nat,
      (sys.txns.set i t)[j]? = some .committed → sys.txns[j]? = some .committed := by
    intro t other j isCommitted
    rw [List.getElem?_set] at isCommitted
    split_ifs at isCommitted
    · exact absurd (Option.some.inj isCommitted) other
    · exact isCommitted
  rw [step]
  cases chosen : sys.txns[i]? with
  | none => exact .inr ⟨rfl,fun _ same => same,fun _ _ impossible => by cases impossible⟩
  | some t =>
    cases t with
    | committed =>
      refine .inr ⟨rfl,fun j isCommitted => ?_,fun _ _ impossible => by cases impossible⟩
      simp only [advance] at isCommitted
      rw [List.getElem?_set] at isCommitted
      split_ifs at isCommitted with same
      · rw [← same,chosen]
      · exact isCommitted
    | rolledBack => exact .inr ⟨rfl,uncommitted _ (by simp [advance]),fun _ _ impossible => by cases impossible⟩
    | running rest log trace =>
      cases rest with
      | throw e => exact .inr ⟨rfl,uncommitted _ (by simp [advance]),fun _ _ impossible => by cases impossible⟩
      | pure a =>
        simp only [advance]
        cases admitted : admits (S.replay log sys.shared) with
        | true => exact .inl ⟨log,trace,rfl,by simp⟩
        | false =>
          refine .inr ⟨by simp,?_,?_⟩
          · simpa using uncommitted .rolledBack (by simp)
          · intro log' trace' same
            cases same
            exact admitted
      | call c next =>
        simp only [advance]
        cases S.answer c (S.replay log sys.shared) with
        | error e => exact .inr ⟨rfl,uncommitted _ (by simp),fun _ _ impossible => by cases impossible⟩
        | ok reply => exact .inr ⟨rfl,uncommitted _ (by simp),fun _ _ impossible => by cases impossible⟩

/-- Every transaction continues the program in its place. -/
def Follows (S : Store Call Reply ε σ ω) (programs : List (Prog Call Reply ε Unit)) (sys : System Call Reply ε σ ω) : Prop :=
  ∀ (i : Nat) t, sys.txns[i]? = some t → ∃ p, programs[i]? = some p ∧ Continues S (fun _ => True) p t

theorem follows_start (shared : σ) (programs : List (Prog Call Reply ε Unit)) : Follows S programs (start shared programs) := by
  intro i t isTxn
  simp only [start,List.getElem?_map,Option.map_eq_some_iff] at isTxn
  obtain ⟨p,isProgram,rfl⟩ := isTxn
  exact ⟨p,isProgram,fun _ _ run => run⟩

theorem follows_step {programs : List (Prog Call Reply ε Unit)} {sys : System Call Reply ε σ ω}
    (follows : Follows S programs sys) (i : Nat) : Follows S programs (step S admits sys i) := by
  rw [step]
  cases chosen : sys.txns[i]? with
  | none => exact follows
  | some t =>
    intro j t' isTxn
    obtain ⟨p,isProgram,continues⟩ := follows i t chosen
    simp only [List.getElem?_set] at isTxn
    split_ifs at isTxn with same inside
    · cases isTxn
      exact ⟨p,same ▸ isProgram,advance_continues trivial continues⟩
    · exact follows j t' isTxn

/-- How a transaction that is at its end has come there. -/
theorem follows_returned {programs : List (Prog Call Reply ε Unit)} {sys : System Call Reply ε σ ω}
    (follows : Follows S programs sys) {i : Nat} {log : List ω} {trace : List (Event Call Reply)}
    (chosen : sys.txns[i]? = some (.running (.pure ()) log trace)) :
    ∃ p, programs[i]? = some p ∧ Among S (fun _ => True) p [] [] (.ok ()) log trace := by
  obtain ⟨p,isProgram,continues⟩ := follows i _ chosen
  exact ⟨p,isProgram,continues log trace (.pure () log trace)⟩

end LibraryServer.Interleaving
