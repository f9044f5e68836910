import LibraryServer.Interleaving

/-!
Transactions that do not concern each other. A program is in step from two states if it
makes the same writes from both. If every program is in step from states that look alike
to it, and no other program makes a difference that it sees, then whatever the schedule,
the transactions that are over have ended as they do when each of them runs alone, one
after another, and the shared state is the one that this leaves (`serializable`). Where a
step determines the shared state only up to a relation, such as which keys it handed
out, so does the whole run (`serializable_upTo`).
-/
namespace LibraryServer.Serializability
open LibraryServer.Programs LibraryServer.Runs LibraryServer.Interleaving
set_option linter.unusedSimpArgs false

variable {Call : Type} {Reply : Call → Type} {ε σ ω α β : Type}

/-! ### Programs in step -/

section
variable (S : Store Call Reply ε σ ω)

/-- Unless a call is refused in the first state, the program goes on alike from both
    states, with the same writes; where it returns, the states are related by `Q`. -/
def InStep (Q : α → σ → σ → Prop) : Prog Call Reply ε α → σ → σ → Prop
  | .pure a, s, t => Q a s t
  | .throw _, _, _ => True
  | .call c next, s, t => ∀ reply, S.answer c s = .ok reply →
      ∃ reply', S.answer c t = .ok reply' ∧ reply'.2 = reply.2 ∧ next reply'.1 = next reply.1 ∧
        InStep Q (next reply.1) (S.replay reply.2 s) (S.replay reply.2 t)

/-- The program has come from its beginning to `rest` with the writes `log`, all its
    calls being answered in one state under the writes made before. -/
inductive Came (s : σ) (p : Prog Call Reply ε α) : Prog Call Reply ε α → List ω → Prop
  | start : Came s p p []
  | call {c : Call} {next : Reply c → Prog Call Reply ε α} {log : List ω} {reply : Reply c × List ω}
      (before : Came s p (.call c next) log) (answered : S.answer c (S.replay log s) = .ok reply) :
      Came s p (next reply.1) (log ++ reply.2)

end

variable {S : Store Call Reply ε σ ω}

theorem inStep_mono {Q R : α → σ → σ → Prop} (weaker : ∀ a s t, Q a s t → R a s t) {p : Prog Call Reply ε α} {s t : σ}
    (steps : InStep S Q p s t) : InStep S R p s t := by
  induction p generalizing s t with
  | pure a => exact weaker a s t steps
  | throw e => trivial
  | call c next ih =>
    intro reply answered
    obtain ⟨reply',answered',writes,goes,later⟩ := steps reply answered
    exact ⟨reply',answered',writes,goes,ih reply.1 later⟩

theorem inStep_bind {Q : β → σ → σ → Prop} {p : Prog Call Reply ε α} {f : α → Prog Call Reply ε β} {s t : σ}
    (steps : InStep S (fun a s t => InStep S Q (f a) s t) p s t) : InStep S Q (p >>= f) s t := by
  induction p generalizing s t with
  | pure a => exact steps
  | throw e => trivial
  | call c next ih =>
    intro reply answered
    obtain ⟨reply',answered',writes,goes,later⟩ := steps reply answered
    exact ⟨reply',answered',writes,congrArg (·.bind f) goes,ih reply.1 later⟩

/-- A call that both states answer alike. -/
theorem inStep_call {Q : α → σ → σ → Prop} {c : Call} {next : Reply c → Prog Call Reply ε α} {s t : σ}
    (same : S.answer c t = S.answer c s)
    (later : ∀ reply, S.answer c s = .ok reply →
      InStep S Q (next reply.1) (S.replay reply.2 s) (S.replay reply.2 t)) :
    InStep S Q (.call c next) s t := by
  intro reply answered
  exact ⟨reply,same.trans answered,rfl,rfl,later reply answered⟩

/-- A loop whose rounds keep related states in step. -/
theorem inStep_forEach {R : σ → σ → Prop} {f : α → Prog Call Reply ε Unit} :
    ∀ items : List α, (∀ item ∈ items, ∀ s t, R s t → InStep S (fun _ => R) (f item) s t) →
      ∀ s t, R s t → InStep S (fun _ => R) (Prog.forEach f items) s t
  | [], _, _, _, related => related
  | item :: rest, rounds, s, t, related => by
    have others := inStep_forEach rest (fun other member => rounds other (List.mem_cons_of_mem _ member))
    exact inStep_bind (inStep_mono (fun _ s t => others s t) (rounds item List.mem_cons_self s t related))

/-- What is left of a program is what running it alone comes to. -/
theorem came_run {s : σ} {p rest : Prog Call Reply ε α} {log : List ω} (came : Came S s p rest log) :
    p.run S s = rest.run S (S.replay log s) := by
  induction came with
  | start => rfl
  | call before answered ih => rw [ih,run_call,answered,replay_append]

/-- A program that is in step could have come as far in the other state. -/
theorem came_moves {Q : α → σ → σ → Prop} {s t : σ} {p rest : Prog Call Reply ε α} {log : List ω}
    (steps : InStep S Q p s t) (came : Came S s p rest log) :
    Came S t p rest log ∧ InStep S Q rest (S.replay log s) (S.replay log t) := by
  induction came with
  | start => exact ⟨.start,steps⟩
  | call before answered ih =>
    obtain ⟨there,later⟩ := ih
    obtain ⟨reply',answered',writes,goes,rest⟩ := later _ answered
    rw [replay_append,replay_append,← goes,← writes]
    rw [← goes,← writes] at rest
    exact ⟨.call there answered',rest⟩

/-! ### Serial execution -/

section
variable (S : Store Call Reply ε σ ω) (programs : List (Prog Call Reply ε Unit))

/-- Some of the programs in transactions one after another, each alone, with how they
    ended and the state that they leave. -/
inductive Serial (begin_ : σ) : List (Nat × Except ε Unit) → σ → Prop
  | nothing : Serial begin_ [] begin_
  | commit {order : List (Nat × Except ε Unit)} {s after : σ} {i : Nat} {p : Prog Call Reply ε Unit}
      (before : Serial begin_ order s) (isProgram : programs[i]? = some p) (run : p.run S s = (.ok (),after)) :
      Serial begin_ (order ++ [(i,.ok ())]) after
  | rollBack {order : List (Nat × Except ε Unit)} {s after : σ} {i : Nat} {p : Prog Call Reply ε Unit} {e : ε}
      (before : Serial begin_ order s) (isProgram : programs[i]? = some p) (run : p.run S s = (.error e,after)) :
      Serial begin_ (order ++ [(i,.error e)]) s

end

/-- How a transaction with this outcome ends. -/
def ending : Except ε Unit → Txn Call Reply ε ω
  | .ok _ => .committed
  | .error _ => .rolledBack

/-- The order lists the transactions that are over, each once and with its outcome. -/
structure Ended (sys : System Call Reply ε σ ω) (order : List (Nat × Except ε Unit)) : Prop where
  distinct : (order.map Prod.fst).Nodup
  ended : ∀ done ∈ order, sys.txns[done.1]? = some (ending done.2)
  complete : ∀ (i : Nat) t, sys.txns[i]? = some t → t.over = true → i ∈ order.map Prod.fst

section
variable (S : Store Call Reply ε σ ω) (programs : List (Prog Call Reply ε Unit)) (begin_ : σ)

/-- The shared state is what the transactions that are over leave when they run one
    after another in the given order, and there each of them ends in the same way. -/
structure Serialized (sys : System Call Reply ε σ ω) (order : List (Nat × Except ε Unit)) : Prop
    extends Ended sys order where
  serial : Serial S programs begin_ order sys.shared

/-- The same, with the shared state up to a relation. -/
structure SerializedUpTo (R : σ → σ → Prop) (sys : System Call Reply ε σ ω) (order : List (Nat × Except ε Unit)) : Prop
    extends Ended sys order where
  serial : ∃ after, Serial S programs begin_ order after ∧ R after sys.shared

/-- No program makes a difference that another one sees: `alike i` suffices for the
    `i`-th to go on in step, and the runs of the others keep to it. -/
structure Apart (admits : σ → Bool) (alike : Nat → σ → σ → Prop) : Prop where
  equivalence : ∀ i, Equivalence (alike i)
  heeds : ∀ (i : Nat) p s t, programs[i]? = some p → alike i s t → InStep S (fun _ _ _ => True) p s t
  unseen : ∀ (i j : Nat) p s, i ≠ j → programs[j]? = some p → alike i s (p.run S s).2
  admitted : ∀ p ∈ programs, ∀ s after, admits s = true → p.run S s = (.ok (),after) → admits after = true

/-- Nor does a program see a difference that the relation allows, where none of the
    others has made one; and it keeps to the relation itself. -/
structure Tolerant (admits : σ → Bool) (alike : Nat → σ → σ → Prop) (R : σ → σ → Prop) : Prop where
  begins : R begin_ begin_
  symm : ∀ s t, R s t → R t s
  trans : ∀ r s t, R r s → R s t → R r t
  heeds : ∀ (i : Nat) p s t, programs[i]? = some p → alike i begin_ s → alike i begin_ t → R s t →
    InStep S (fun _ => R) p s t
  unseen : ∀ i s t, alike i begin_ s → R s t → alike i begin_ t
  admitted : ∀ s t, R s t → admits s = true → admits t = true

/-- Each of those that are not over could have come as far alone from the shared state,
    which looks to it as it did in the beginning. -/
structure Progress (admits : σ → Bool) (alike : Nat → σ → σ → Prop) (R : σ → σ → Prop) (sys : System Call Reply ε σ ω)
    (order : List (Nat × Except ε Unit)) : Prop extends SerializedUpTo S programs begin_ R sys order where
  admitted : admits sys.shared = true
  unseen : ∀ i, i ∉ order.map Prod.fst → alike i begin_ sys.shared
  came : ∀ (i : Nat) rest log trace, sys.txns[i]? = some (.running rest log trace) →
    ∃ p, programs[i]? = some p ∧ Came S sys.shared p rest log

/-- One step, after which the shared state is the given one. -/
def moved (admits : σ → Bool) (sys : System Call Reply ε σ ω) (move : Nat × σ) : System Call Reply ε σ ω :=
  ⟨move.2,(step S admits sys move.1).txns⟩

/-- A run whose steps leave their shared states up to a relation only. -/
def MovesUpTo (admits : σ → Bool) (R : σ → σ → Prop) (sys : System Call Reply ε σ ω) (moves : List (Nat × σ)) : Prop :=
  Throughout (moved S admits) (fun sys move => R (step S admits sys move.1).shared move.2) sys moves

end

instance {admits : σ → Bool} {R : σ → σ → Prop} [∀ s t, Decidable (R s t)] (sys : System Call Reply ε σ ω)
    (moves : List (Nat × σ)) : Decidable (MovesUpTo S admits R sys moves) :=
  decidableThroughout sys moves

theorem inStep_self (p : Prog Call Reply ε α) (s : σ) : InStep S (fun _ s t => s = t) p s s := by
  induction p generalizing s with
  | pure a => rfl
  | throw e => trivial
  | call c next ih => exact inStep_call rfl (fun reply _ => ih reply.1 _)

section
variable {admits : σ → Bool} {alike : Nat → σ → σ → Prop} {R : σ → σ → Prop} {programs : List (Prog Call Reply ε Unit)}
  {begin_ : σ} {sys : System Call Reply ε σ ω} {order : List (Nat × Except ε Unit)} {i : Nat}
  {rest : Prog Call Reply ε Unit} {log : List ω} {trace : List (Event Call Reply)}

/-- One after another, the others leave what a program sees as well. -/
theorem serial_unseen (apart : Apart S programs admits alike) {s : σ} (serial : Serial S programs begin_ order s)
    (outside : i ∉ order.map Prod.fst) : alike i begin_ s := by
  induction serial with
  | nothing => exact (apart.equivalence i).refl _
  | @commit _ s _ j p before isProgram run ih =>
    rw [List.map_append,List.mem_append,not_or] at outside
    have unseen := apart.unseen i j p s (fun same => outside.2 (List.mem_singleton.mpr same)) isProgram
    rw [run] at unseen
    exact (apart.equivalence i).trans (ih outside.1) unseen
  | rollBack before isProgram run ih =>
    rw [List.map_append,List.mem_append,not_or] at outside
    exact ih outside.1

/-- A transaction that is under way is none of those that are over. -/
theorem running_outside (ended : Ended sys order) (chosen : sys.txns[i]? = some (.running rest log trace)) :
    i ∉ order.map Prod.fst := by
  intro member
  obtain ⟨⟨_,outcome⟩,isDone,rfl⟩ := List.mem_map.mp member
  have isOver := ended.ended _ isDone
  rw [chosen] at isOver
  cases outcome <;> cases isOver

/-- A transaction makes a call and goes on. -/
theorem progress_call (progress : Progress S programs begin_ admits alike R sys order)
    (chosen : sys.txns[i]? = some (.running rest log trace)) {rest' : Prog Call Reply ε Unit} {log' : List ω}
    (trace' : List (Event Call Reply))
    (goes : ∀ p, Came S sys.shared p rest log → Came S sys.shared p rest' log') :
    Progress S programs begin_ admits alike R ⟨sys.shared,sys.txns.set i (.running rest' log' trace')⟩ order := by
  have inside : i < sys.txns.length := (List.getElem?_eq_some_iff.mp chosen).1
  have outside := running_outside progress.toEnded chosen
  refine ⟨⟨⟨progress.distinct,?_,?_⟩,progress.serial⟩,progress.admitted,progress.unseen,?_⟩
  · intro done member
    have other : i ≠ done.1 := fun same => outside (same ▸ List.mem_map_of_mem member)
    rw [List.getElem?_set_ne other]
    exact progress.ended done member
  · intro j t isTxn isOver
    by_cases same : i = j
    · subst same
      rw [List.getElem?_set_self inside] at isTxn
      cases isTxn
      cases isOver
    · rw [List.getElem?_set_ne same] at isTxn
      exact progress.complete j t isTxn isOver
  · intro j rest₁ log₁ trace₁ isTxn
    by_cases same : i = j
    · subst same
      rw [List.getElem?_set_self inside] at isTxn
      cases isTxn
      obtain ⟨p,isProgram,came⟩ := progress.came i rest log trace chosen
      exact ⟨p,isProgram,goes p came⟩
    · rw [List.getElem?_set_ne same] at isTxn
      exact progress.came j rest₁ log₁ trace₁ isTxn

/-- A transaction ends; it comes last in the order. -/
theorem progress_end (progress : Progress S programs begin_ admits alike R sys order)
    (chosen : sys.txns[i]? = some (.running rest log trace)) {outcome : Except ε Unit} {alone after : σ}
    (serial : Serial S programs begin_ (order ++ [(i,outcome)]) alone) (related : R alone after)
    (admitted : admits after = true) (unseen : ∀ j, i ≠ j → alike j begin_ sys.shared → alike j begin_ after)
    (others : ∀ (j : Nat) p rest log, i ≠ j → programs[j]? = some p → Came S sys.shared p rest log → Came S after p rest log) :
    Progress S programs begin_ admits alike R ⟨after,sys.txns.set i (ending outcome)⟩ (order ++ [(i,outcome)]) := by
  have inside : i < sys.txns.length := (List.getElem?_eq_some_iff.mp chosen).1
  have outside := running_outside progress.toEnded chosen
  refine ⟨⟨⟨?_,?_,?_⟩,alone,serial,related⟩,admitted,?_,?_⟩
  · rw [List.map_append]
    refine List.nodup_append.mpr ⟨progress.distinct,by simp,?_⟩
    rintro j member _ last rfl
    obtain rfl : j = i := List.mem_singleton.mp last
    exact outside member
  · intro done member
    rcases List.mem_append.mp member with old | new
    · have other : i ≠ done.1 := fun same => outside (same ▸ List.mem_map_of_mem old)
      rw [List.getElem?_set_ne other]
      exact progress.ended done old
    · obtain rfl := List.mem_singleton.mp new
      rw [List.getElem?_set_self inside]
  · intro j t isTxn isOver
    rw [List.map_append]
    by_cases same : i = j
    · subst same
      exact List.mem_append_right _ (List.mem_singleton.mpr rfl)
    · rw [List.getElem?_set_ne same] at isTxn
      exact List.mem_append_left _ (progress.complete j t isTxn isOver)
  · intro j notOver
    rw [List.map_append,List.mem_append,not_or] at notOver
    exact unseen j (fun same => notOver.2 (List.mem_singleton.mpr same.symm)) (progress.unseen j notOver.1)
  · intro j rest₁ log₁ trace₁ isTxn
    by_cases same : i = j
    · subst same
      rw [List.getElem?_set_self inside] at isTxn
      cases outcome <;> cases isTxn
    · rw [List.getElem?_set_ne same] at isTxn
      obtain ⟨p,isProgram,came⟩ := progress.came j rest₁ log₁ trace₁ isTxn
      exact ⟨p,isProgram,others j p rest₁ log₁ same isProgram came⟩

/-- A transaction that throws, or whose call is refused, would do so alone as well. -/
theorem progress_thrown (progress : Progress S programs begin_ admits alike R sys order)
    (chosen : sys.txns[i]? = some (.running rest log trace)) {p : Prog Call Reply ε Unit} (isProgram : programs[i]? = some p)
    {s : σ} (serial : Serial S programs begin_ order s) (related : R s sys.shared) (came : Came S s p rest log) {e : ε}
    {after : σ} (thrown : rest.run S (S.replay log s) = (.error e,after)) :
    ∃ order', Progress S programs begin_ admits alike R ⟨sys.shared,sys.txns.set i .rolledBack⟩ order' := by
  have run : p.run S s = (.error e,after) := (came_run came).trans thrown
  exact ⟨_,progress_end progress chosen (.rollBack serial isProgram run) related progress.admitted (fun _ _ unseen => unseen)
    (fun _ _ _ _ _ _ came => came)⟩

theorem progress_step (apart : Apart S programs admits alike) (tolerant : Tolerant S programs begin_ admits alike R)
    (progress : Progress S programs begin_ admits alike R sys order) (i : Nat) :
    ∃ order', Progress S programs begin_ admits alike R (step S admits sys i) order' := by
  rw [step]
  cases chosen : sys.txns[i]? with
  | none => exact ⟨order,progress⟩
  | some t =>
    have unchanged : sys.txns.set i t = sys.txns := by
      obtain ⟨inside,rfl⟩ := List.getElem?_eq_some_iff.mp chosen
      exact List.set_getElem_self inside
    cases t with
    | committed => exact ⟨order,by simpa only [advance,unchanged] using progress⟩
    | rolledBack => exact ⟨order,by simpa only [advance,unchanged] using progress⟩
    | running rest log trace =>
      -- After the transactions that are over, the program comes as far alone.
      obtain ⟨p,isProgram,came⟩ := progress.came i _ _ _ chosen
      obtain ⟨s,serial,related⟩ := progress.serial
      have outside := running_outside progress.toEnded chosen
      have alone := serial_unseen apart serial outside
      have shared := progress.unseen i outside
      obtain ⟨came',later⟩ := came_moves (tolerant.heeds i p _ _ isProgram shared alone (tolerant.symm _ _ related)) came
      cases rest with
      | throw e => exact progress_thrown progress chosen isProgram serial related came' (run_throw e _)
      | pure a =>
        -- It returns with the same writes, so the commit is admitted, and the others
        -- cannot tell.
        have run : p.run S sys.shared = (.ok (),S.replay log sys.shared) := came_run came
        have admitted := apart.admitted p (List.mem_of_getElem? isProgram) _ _ progress.admitted run
        have unseen : ∀ j, i ≠ j → alike j sys.shared (S.replay log sys.shared) := by
          intro j other
          have := apart.unseen j i p sys.shared (Ne.symm other) isProgram
          rwa [run] at this
        simp only [advance,admitted,if_true]
        refine ⟨_,progress_end progress chosen (.commit serial isProgram (came_run came')) (tolerant.symm _ _ later) admitted
          (fun j other before => (apart.equivalence j).trans before (unseen j other)) ?_⟩
        intro j q rest' log' other isOther came'
        exact (came_moves (apart.heeds j q _ _ isOther (unseen j other)) came').1
      | call c next =>
        cases answered : S.answer c (S.replay log sys.shared) with
        | ok reply =>
          simp only [advance,answered]
          exact ⟨order,progress_call progress chosen _ (fun p came => .call came answered)⟩
        | error e =>
          simp only [advance,answered]
          cases answered' : S.answer c (S.replay log s) with
          | error e' =>
            have thrown : (Prog.call c next).run S (S.replay log s) = (.error e',S.replay log s) := by
              rw [run_call,answered']
            exact progress_thrown progress chosen isProgram serial related came' thrown
          | ok reply =>
            obtain ⟨_,there⟩ := came_moves (tolerant.heeds i p _ _ isProgram alone shared related) came'
            obtain ⟨reply',isReply,_⟩ := there reply answered'
            rw [answered] at isReply
            cases isReply

/-- The shared state may be replaced by one that the relation allows. -/
theorem progress_varied (apart : Apart S programs admits alike) (tolerant : Tolerant S programs begin_ admits alike R)
    (progress : Progress S programs begin_ admits alike R sys order) {shared : σ} (related : R sys.shared shared) :
    Progress S programs begin_ admits alike R ⟨shared,sys.txns⟩ order := by
  obtain ⟨s,serial,before⟩ := progress.serial
  refine ⟨⟨⟨progress.distinct,progress.ended,progress.complete⟩,s,serial,tolerant.trans _ _ _ before related⟩,
    tolerant.admitted _ _ related progress.admitted,fun i outside => tolerant.unseen i _ _ (progress.unseen i outside) related,?_⟩
  intro i rest log trace isTxn
  obtain ⟨p,isProgram,came⟩ := progress.came i rest log trace isTxn
  have seen := progress.unseen i (running_outside progress.toEnded isTxn)
  have seen' := tolerant.unseen i _ _ seen related
  have alike := (apart.equivalence i).trans ((apart.equivalence i).symm seen) seen'
  exact ⟨p,isProgram,(came_moves (apart.heeds i p _ _ isProgram alike) came).1⟩

theorem progress_start (apart : Apart S programs admits alike) (tolerant : Tolerant S programs begin_ admits alike R)
    (admitted : admits begin_ = true) : Progress S programs begin_ admits alike R (start begin_ programs) [] := by
  refine ⟨⟨⟨List.nodup_nil,by simp,?_⟩,begin_,.nothing,tolerant.begins⟩,admitted,
    fun i _ => (apart.equivalence i).refl _,?_⟩
  · intro i t isTxn isOver
    obtain ⟨p,_,isStart⟩ := List.mem_map.mp (List.mem_of_getElem? isTxn)
    cases isStart
    cases isOver
  · intro i rest log trace isTxn
    simp only [start,List.getElem?_map,Option.map_eq_some_iff] at isTxn
    obtain ⟨p,isProgram,isStart⟩ := isTxn
    cases isStart
    exact ⟨rest,isProgram,.start⟩

/-- Whatever the schedule, and whatever its steps leave up to the relation, the
    transactions that are over have left what they leave one after another. -/
theorem serializable_upTo (apart : Apart S programs admits alike) (tolerant : Tolerant S programs begin_ admits alike R)
    (admitted : admits begin_ = true) {moves : List (Nat × σ)}
    (upTo : MovesUpTo S admits R (start begin_ programs) moves) :
    ∃ order, SerializedUpTo S programs begin_ R (moves.foldl (moved S admits) (start begin_ programs)) order := by
  have run := run_invariant (I := fun sys => ∃ order, Progress S programs begin_ admits alike R sys order) ?_
    ⟨[],progress_start apart tolerant admitted⟩ upTo
  · obtain ⟨order,progress⟩ := run
    exact ⟨order,progress.toSerializedUpTo⟩
  · rintro sys move ⟨order,progress⟩ related
    obtain ⟨order',progress'⟩ := progress_step apart tolerant progress move.1
    exact ⟨order',progress_varied apart tolerant progress' related⟩

theorem tolerant_eq : Tolerant S programs begin_ admits alike (fun s t => s = t) := by
  refine ⟨rfl,fun _ _ => Eq.symm,fun _ _ _ => Eq.trans,?_,?_,?_⟩
  · rintro i p s _ _ _ _ rfl
    exact inStep_self p s
  · rintro i s _ unseen rfl
    exact unseen
  · rintro s _ rfl admitted
    exact admitted

/-- Where every step leaves exactly its state, so does the run. -/
theorem serializable (apart : Apart S programs admits alike) (admitted : admits begin_ = true) (schedule : List Nat) :
    ∃ order, Serialized S programs begin_ (runSchedule S admits (start begin_ programs) schedule) order := by
  obtain ⟨order,progress⟩ := run_kept
    (I := fun sys => ∃ order, Progress S programs begin_ admits alike (fun s t => s = t) sys order)
    (fun sys i ⟨_,progress⟩ => progress_step apart tolerant_eq progress i)
    ⟨[],progress_start apart tolerant_eq admitted⟩ schedule
  obtain ⟨after,serial,rfl⟩ := progress.serial
  exact ⟨order,progress.toEnded,serial⟩

end

/-- What holds of any two elements holds of those in two places. -/
theorem pairwise_at {R : α → α → Prop} (symmetric : ∀ x y, R x y → R y x) {l : List α} (pairs : l.Pairwise R) {i j : Nat}
    (other : i ≠ j) {x y : α} (first : l[i]? = some x) (second : l[j]? = some y) : R x y := by
  obtain ⟨insideI,rfl⟩ := List.getElem?_eq_some_iff.mp first
  obtain ⟨insideJ,rfl⟩ := List.getElem?_eq_some_iff.mp second
  have ordered := List.pairwise_iff_getElem.mp pairs
  rcases Nat.lt_or_gt_of_ne other with less | more
  · exact ordered i j insideI insideJ less
  · exact symmetric _ _ (ordered j i insideJ insideI more)

end LibraryServer.Serializability
