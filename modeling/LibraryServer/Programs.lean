import Mathlib.Data.List.Basic
import Mathlib.Tactic.Common

/-!
Programs that call a store. A program returns, throws, or makes one call and
goes on with the reply. The store answers a call in its present state with a
reply and the writes that the call makes. `Prog.run` executes a program alone,
`Prog.transact` does so in a transaction, and `Among` says what a program may do
when other programs change the store between its calls: every call is answered
in some admitted state, seen under the program's own writes.
-/
namespace LibraryServer.Programs
set_option linter.unusedSimpArgs false

/-- A program that returns an `α` or throws an `ε`, one call after another. -/
inductive Prog (Call : Type) (Reply : Call → Type) (ε α : Type) where
  | pure (a : α)
  | throw (e : ε)
  | call (c : Call) (next : Reply c → Prog Call Reply ε α)

/-- How a store in a state `σ` answers calls, and what a write does to it. -/
structure Store (Call : Type) (Reply : Call → Type) (ε σ ω : Type) where
  answer : (c : Call) → σ → Except ε (Reply c × List ω)
  apply : σ → ω → σ

variable {Call : Type} {Reply : Call → Type} {ε σ ω α β : Type}

def Prog.bind : Prog Call Reply ε α → (α → Prog Call Reply ε β) → Prog Call Reply ε β
  | .pure a, f => f a
  | .throw e, _ => .throw e
  | .call c next, f => .call c (fun r => (next r).bind f)

instance : Monad (Prog Call Reply ε) where
  pure := .pure
  bind := .bind

/-- A single call. -/
def Prog.invoke (c : Call) : Prog Call Reply ε (Reply c) := .call c .pure

/-- A loop over a list, for its effects. -/
def Prog.forEach (f : α → Prog Call Reply ε Unit) : List α → Prog Call Reply ε Unit
  | [] => .pure ()
  | a :: rest => do
    f a
    Prog.forEach f rest

@[simp] theorem pure_def (a : α) : (Pure.pure a : Prog Call Reply ε α) = .pure a := rfl
@[simp] theorem bind_pure (a : α) (f : α → Prog Call Reply ε β) : (Prog.pure a >>= f) = f a := rfl
@[simp] theorem bind_throw (e : ε) (f : α → Prog Call Reply ε β) : (Prog.throw e >>= f) = .throw e := rfl
theorem bind_invoke (c : Call) (f : Reply c → Prog Call Reply ε β) :
    (Prog.invoke c >>= f) = .call c f := rfl
theorem bind_call (c : Call) (next : Reply c → Prog Call Reply ε α) (f : α → Prog Call Reply ε β) :
    (Prog.call c next >>= f) = .call c (fun r => next r >>= f) := rfl

/-- The state after a list of writes. -/
def Store.replay (S : Store Call Reply ε σ ω) (log : List ω) (s : σ) : σ := log.foldl S.apply s

@[simp] theorem replay_nil (S : Store Call Reply ε σ ω) (s : σ) : S.replay [] s = s := rfl
@[simp] theorem replay_cons (S : Store Call Reply ε σ ω) (w : ω) (log : List ω) (s : σ) :
    S.replay (w :: log) s = S.replay log (S.apply s w) := rfl
theorem replay_append (S : Store Call Reply ε σ ω) (log more : List ω) (s : σ) :
    S.replay (log ++ more) s = S.replay more (S.replay log s) := by
  simp [Store.replay]

/-! ### Running alone -/

/-- The outcome of a program that runs alone, and the state it leaves, also
    when it throws. -/
def Prog.run (S : Store Call Reply ε σ ω) : Prog Call Reply ε α → σ → Except ε α × σ
  | .pure a, s => (.ok a,s)
  | .throw e, s => (.error e,s)
  | .call c next, s =>
    match S.answer c s with
    | .error e => (.error e,s)
    | .ok reply => (next reply.1).run S (S.replay reply.2 s)

/-- Whether a transaction with this outcome commits. -/
def lands (commits : ε → Bool) : Except ε α → Bool
  | .ok _ => true
  | .error e => commits e

/-- A program in a transaction of its own: unless the outcome commits, the
    state is rolled back. -/
def Prog.transact (S : Store Call Reply ε σ ω) (commits : ε → Bool) (p : Prog Call Reply ε α) (s : σ) :
    Except ε α × σ :=
  let (outcome,after) := p.run S s
  (outcome,if lands commits outcome then after else s)

variable {S : Store Call Reply ε σ ω}

@[simp] theorem run_pure (a : α) (s : σ) : (Prog.pure a : Prog Call Reply ε α).run S s = (.ok a,s) := rfl
@[simp] theorem run_throw (e : ε) (s : σ) : (Prog.throw e : Prog Call Reply ε α).run S s = (.error e,s) := rfl
theorem run_call (c : Call) (next : Reply c → Prog Call Reply ε α) (s : σ) :
    (Prog.call c next).run S s =
      match S.answer c s with
      | .error e => (.error e,s)
      | .ok reply => (next reply.1).run S (S.replay reply.2 s) := by
  rw [Prog.run]

/-- The second part of a sequence runs in the state that the first leaves. -/
theorem run_bind (p : Prog Call Reply ε α) (f : α → Prog Call Reply ε β) (s : σ) :
    (p >>= f).run S s =
      match p.run S s with
      | (.ok a,after) => (f a).run S after
      | (.error e,after) => (.error e,after) := by
  induction p generalizing s with
  | pure a => rfl
  | throw e => rfl
  | call c next ih =>
    simp only [bind_call,run_call]
    cases S.answer c s with
    | error e => rfl
    | ok reply => exact ih reply.1 _

theorem forEach_map (f : β → Prog Call Reply ε Unit) (g : α → β) (items : List α) :
    Prog.forEach f (items.map g) = Prog.forEach (fun a => f (g a)) items := by
  induction items with
  | nil => rfl
  | cons a rest ih => rw [List.map_cons,Prog.forEach,Prog.forEach,ih]

/-- A property of states that a program keeps, whether it returns or throws. -/
def Keeps (S : Store Call Reply ε σ ω) (I : σ → Prop) (p : Prog Call Reply ε α) : Prop :=
  ∀ s, I s → I (p.run S s).2

theorem keeps_pure (I : σ → Prop) (a : α) : Keeps S I (Prog.pure a : Prog Call Reply ε α) := fun _ holds => holds
theorem keeps_throw (I : σ → Prop) (e : ε) : Keeps S I (Prog.throw e : Prog Call Reply ε α) := fun _ holds => holds

theorem keeps_bind {I : σ → Prop} {p : Prog Call Reply ε α} {f : α → Prog Call Reply ε β} (first : Keeps S I p)
    (second : ∀ a, Keeps S I (f a)) : Keeps S I (p >>= f) := by
  intro s holds
  have kept := first s holds
  rw [run_bind]
  cases run : p.run S s with
  | mk outcome after =>
    rw [run] at kept
    cases outcome with
    | error e => exact kept
    | ok a => exact second a after kept

/-- What every write keeps, every program keeps. -/
theorem keeps_of_writes {I : σ → Prop} (writes : ∀ s w, I s → I (S.apply s w)) (p : Prog Call Reply ε α) : Keeps S I p := by
  intro s holds
  induction p generalizing s with
  | pure a => exact holds
  | throw e => exact holds
  | call c next ih =>
    rw [run_call]
    cases S.answer c s with
    | error e => exact holds
    | ok reply =>
      have replayed : ∀ (log : List ω) (s : σ), I s → I (S.replay log s) := by
        intro log
        induction log with
        | nil => exact fun s holds => holds
        | cons w rest later => exact fun s holds => later _ (writes s w holds)
      exact ih reply.1 _ (replayed reply.2 s holds)

/-- A loop keeps what every round keeps. -/
theorem keeps_forEach {I : σ → Prop} {f : α → Prog Call Reply ε Unit} :
    ∀ (items : List α), (∀ a ∈ items, Keeps S I (f a)) → Keeps S I (Prog.forEach f items)
  | [], _ => keeps_pure I ()
  | a :: rest, rounds =>
    keeps_bind (rounds a List.mem_cons_self)
      (fun _ => keeps_forEach rest (fun b member => rounds b (List.mem_cons_of_mem _ member)))

/-- A transaction keeps what its program keeps. -/
theorem transact_keeps {I : σ → Prop} {p : Prog Call Reply ε α} (kept : Keeps S I p) (commits : ε → Bool) (s : σ)
    (holds : I s) : I (p.transact S commits s).2 := by
  simp only [Prog.transact]
  split_ifs
  · exact kept s holds
  · exact holds

/-! ### Two runs -/

/-- From related states the program has the same outcome and leaves related states. -/
def Alike (S : Store Call Reply ε σ ω) (R : σ → σ → Prop) (p : Prog Call Reply ε α) : Prop :=
  ∀ s t, R s t → (p.run S s).1 = (p.run S t).1 ∧ R (p.run S s).2 (p.run S t).2

theorem alike_pure (R : σ → σ → Prop) (a : α) : Alike S R (Prog.pure a : Prog Call Reply ε α) :=
  fun _ _ related => ⟨rfl,related⟩
theorem alike_throw (R : σ → σ → Prop) (e : ε) : Alike S R (Prog.throw e : Prog Call Reply ε α) :=
  fun _ _ related => ⟨rfl,related⟩

theorem alike_bind {R : σ → σ → Prop} {p : Prog Call Reply ε α} {f : α → Prog Call Reply ε β} (first : Alike S R p)
    (second : ∀ a, Alike S R (f a)) : Alike S R (p >>= f) := by
  intro s t related
  obtain ⟨same,after⟩ := first s t related
  rw [run_bind,run_bind]
  cases runS : p.run S s with
  | mk outcome s' =>
    cases runT : p.run S t with
    | mk outcome' t' =>
      rw [runS,runT] at same after
      obtain rfl : outcome = outcome' := same
      cases outcome with
      | error e => exact ⟨rfl,after⟩
      | ok a => exact second a s' t' after

/-- A call that related states answer alike. -/
theorem alike_call {R : σ → σ → Prop} {c : Call} {next : Reply c → Prog Call Reply ε α}
    (answers : ∀ s t, R s t → S.answer c s = S.answer c t)
    (writes : ∀ s t r log, R s t → S.answer c s = .ok (r,log) → R (S.replay log s) (S.replay log t))
    (rest : ∀ r, Alike S R (next r)) : Alike S R (Prog.call c next) := by
  intro s t related
  have same := answers s t related
  rw [run_call,run_call,← same]
  cases reply : S.answer c s with
  | error e => exact ⟨rfl,related⟩
  | ok result => exact rest result.1 _ _ (writes s t result.1 result.2 related reply)

/-- A loop whose rounds are alike. -/
theorem alike_forEach {R : σ → σ → Prop} {f : α → Prog Call Reply ε Unit} :
    ∀ (items : List α), (∀ a ∈ items, Alike S R (f a)) → Alike S R (Prog.forEach f items)
  | [], _ => alike_pure R ()
  | a :: rest, rounds =>
    alike_bind (rounds a List.mem_cons_self)
      (fun _ => alike_forEach rest (fun b member => rounds b (List.mem_cons_of_mem _ member)))

theorem transact_alike {R : σ → σ → Prop} {p : Prog Call Reply ε α} (alike : Alike S R p) (commits : ε → Bool) {s t : σ}
    (related : R s t) :
    (p.transact S commits s).1 = (p.transact S commits t).1 ∧ R (p.transact S commits s).2 (p.transact S commits t).2 := by
  obtain ⟨same,after⟩ := alike s t related
  simp only [Prog.transact,same,true_and]
  split_ifs
  · exact after
  · exact related

/-! ### Refinement -/

section
variable {A : Type}

/-- The outcome of a run against a result of the abstract operation: a state
    that stands for the result, or an exception that satisfies `Q` if there is no
    result. -/
def Meets (R : σ → A → Prop) (Q : ε → Prop) (result : Option A) : Except ε α × σ → Prop
  | (.ok _,after) => ∃ b, result = some b ∧ R after b
  | (.error e,_) => Q e ∧ result = none

/-- The program does what `f` does to the abstract value that its state stands
    for. -/
def Refines (S : Store Call Reply ε σ ω) (R : σ → A → Prop) (Q : ε → Prop) (p : Prog Call Reply ε α)
    (f : A → Option A) : Prop :=
  ∀ s a, R s a → Meets R Q (f a) (p.run S s)

variable {R : σ → A → Prop} {Q : ε → Prop}

theorem meets_imp {T : σ → A → Prop} (weaker : ∀ s a, R s a → T s a) {result : Option A} :
    ∀ {run : Except ε α × σ}, Meets R Q result run → Meets T Q result run
  | (.ok _,_), ⟨b,same,stands⟩ => ⟨b,same,weaker _ _ stands⟩
  | (.error _,_), failed => failed

theorem refines_bind {p : Prog Call Reply ε Unit} {q : Prog Call Reply ε α} {f g : A → Option A}
    (first : Refines S R Q p f) (second : Refines S R Q q g) :
    Refines S R Q (p >>= fun _ => q) (fun a => (f a).bind g) := by
  intro s a stands
  have run := first s a stands
  rw [run_bind]
  show Meets R Q ((f a).bind g) _
  cases result : p.run S s with
  | mk outcome after =>
    rw [result] at run
    cases outcome with
    | error e => exact ⟨run.1,by rw [run.2,Option.bind_none]⟩
    | ok _ =>
      obtain ⟨b,step,later⟩ := run
      rw [step,Option.bind_some]
      exact second after b later

/-- A loop refines the iteration of what its rounds refine. -/
theorem refines_forEach {body : α → Prog Call Reply ε Unit} {g : α → A → Option A} :
    ∀ items : List α, (∀ item ∈ items, Refines S R Q (body item) (g item)) →
      Refines S R Q (Prog.forEach body items) (fun a => items.foldlM (fun a item => g item a) a)
  | [], _ => fun _ a stands => ⟨a,rfl,stands⟩
  | item :: rest, rounds =>
    refines_bind (rounds item List.mem_cons_self)
      (refines_forEach rest (fun other member => rounds other (List.mem_cons_of_mem _ member)))

/-- In a transaction the state is as before wherever `f` has no result. -/
theorem transact_refines {p : Prog Call Reply ε α} {f : A → Option A} {commits : ε → Bool} (refines : Refines S R Q p f)
    (rollsBack : ∀ e, Q e → commits e = false) {s : σ} {a : A} (stands : R s a) :
    match p.transact S commits s with
    | (.ok _,after) => ∃ b, f a = some b ∧ R after b
    | (.error _,after) => after = s ∧ f a = none := by
  have run := refines s a stands
  rw [Prog.transact]
  cases result : p.run S s with
  | mk outcome after =>
    rw [result] at run
    cases outcome with
    | error e => exact ⟨by simp [lands,rollsBack e run.1],run.2⟩
    | ok _ => exact run

end

/-! ### Running among others -/

/-- A call together with the reply it got. -/
abbrev Event (Call : Type) (Reply : Call → Type) := (c : Call) × Reply c

/-- What a program may do, from the writes and the events so far to its outcome,
    when others change the store between its calls: each call is answered in
    some state that satisfies `J`, under the writes made so far. -/
inductive Among (S : Store Call Reply ε σ ω) (J : σ → Prop) : Prog Call Reply ε α → List ω →
    List (Event Call Reply) → Except ε α → List ω → List (Event Call Reply) → Prop
  | pure (a : α) (log : List ω) (trace : List (Event Call Reply)) : Among S J (.pure a) log trace (.ok a) log trace
  | throw (e : ε) (log : List ω) (trace : List (Event Call Reply)) :
      Among S J (.throw e) log trace (.error e) log trace
  | refused {c : Call} {next : Reply c → Prog Call Reply ε α} {log : List ω} {trace : List (Event Call Reply)}
      {e : ε} {v : σ} (holds : J v) (reply : S.answer c (S.replay log v) = .error e) :
      Among S J (.call c next) log trace (.error e) log trace
  | call {c : Call} {next : Reply c → Prog Call Reply ε α} {log log' : List ω} {trace trace' : List (Event Call Reply)}
      {outcome : Except ε α} {r : Reply c} {writes : List ω} {v : σ} (holds : J v)
      (reply : S.answer c (S.replay log v) = .ok (r,writes))
      (rest : Among S J (next r) (log ++ writes) (trace ++ [⟨c,r⟩]) outcome log' trace') :
      Among S J (.call c next) log trace outcome log' trace'

theorem among_call_ok {J : σ → Prop} {c : Call} {next : Reply c → Prog Call Reply ε α} {log log' : List ω}
    {trace trace' : List (Event Call Reply)} {a : α}
    (run : Among S J (.call c next) log trace (.ok a) log' trace') :
    ∃ v r writes, J v ∧ S.answer c (S.replay log v) = .ok (r,writes) ∧
      Among S J (next r) (log ++ writes) (trace ++ [⟨c,r⟩]) (.ok a) log' trace' := by
  cases run with
  | call holds reply rest => exact ⟨_,_,_,holds,reply,rest⟩

theorem among_invoke_ok {J : σ → Prop} {c : Call} {next : Reply c → Prog Call Reply ε α} {log log' : List ω}
    {trace trace' : List (Event Call Reply)} {a : α}
    (run : Among S J (Prog.invoke c >>= next) log trace (.ok a) log' trace') :
    ∃ v r writes, J v ∧ S.answer c (S.replay log v) = .ok (r,writes) ∧
      Among S J (next r) (log ++ writes) (trace ++ [⟨c,r⟩]) (.ok a) log' trace' := by
  rw [bind_invoke] at run
  exact among_call_ok run

theorem among_pure_ok {J : σ → Prop} {a b : α} {log log' : List ω} {trace trace' : List (Event Call Reply)}
    (run : Among S J (Prog.pure a : Prog Call Reply ε α) log trace (.ok b) log' trace') :
    b = a ∧ log' = log ∧ trace' = trace := by
  cases run
  exact ⟨rfl,rfl,rfl⟩

theorem among_throw_ok {J : σ → Prop} {e : ε} {b : α} {log log' : List ω} {trace trace' : List (Event Call Reply)} :
    ¬ Among S J (Prog.throw e : Prog Call Reply ε α) log trace (.ok b) log' trace' := by
  intro run
  cases run

/-- A sequence that returns has run its first part to the end. -/
theorem among_bind_ok {J : σ → Prop} {p : Prog Call Reply ε α} {f : α → Prog Call Reply ε β} {log log' : List ω}
    {trace trace' : List (Event Call Reply)} {b : β} (run : Among S J (p >>= f) log trace (.ok b) log' trace') :
    ∃ a log₁ trace₁, Among S J p log trace (.ok a) log₁ trace₁ ∧ Among S J (f a) log₁ trace₁ (.ok b) log' trace' := by
  induction p generalizing log trace with
  | pure a => exact ⟨a,log,trace,.pure a log trace,run⟩
  | throw e => exact absurd run among_throw_ok
  | call c next ih =>
    obtain ⟨v,r,writes,holds,reply,rest⟩ := among_call_ok run
    obtain ⟨a,log₁,trace₁,first,second⟩ := ih r rest
    exact ⟨a,log₁,trace₁,.call holds reply first,second⟩

/-- What every returning round of a loop keeps, the whole loop keeps. -/
theorem among_forEach {J : σ → Prop} {f : α → Prog Call Reply ε Unit}
    {P : List ω → List (Event Call Reply) → Prop} :
    ∀ (items : List α),
      (∀ a ∈ items, ∀ log trace log' trace', P log trace → Among S J (f a) log trace (.ok ()) log' trace' →
        P log' trace') →
      ∀ log trace log' trace', P log trace → Among S J (Prog.forEach f items) log trace (.ok ()) log' trace' →
        P log' trace'
  | [], _, log, trace, log', trace', holds, run => by
    obtain ⟨_,rfl,rfl⟩ := among_pure_ok run
    exact holds
  | a :: rest, rounds, log, trace, log', trace', holds, run => by
    obtain ⟨_,log₁,trace₁,first,second⟩ := among_bind_ok run
    have kept := rounds a List.mem_cons_self log trace log₁ trace₁ holds first
    exact among_forEach rest (fun b member => rounds b (List.mem_cons_of_mem _ member)) _ _ _ _ kept second

end LibraryServer.Programs
