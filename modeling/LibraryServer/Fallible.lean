import Mathlib.Data.List.Forall2
import Mathlib.Tactic.Common

/-!
Maps and filters over lists that may throw. They stop at the first element on
which the function throws; otherwise a map relates the two lists element by element
and a filter is the filter by what the function returns.
-/
namespace LibraryServer.Fallible
set_option linter.unusedSimpArgs false

variable {ε α β : Type}

@[simp] theorem ok_bind (a : α) (f : α → Except ε β) : (Except.ok a >>= f) = f a := rfl
@[simp] theorem error_bind (e : ε) (f : α → Except ε β) : (Except.error e >>= f) = .error e := rfl

/-- A sequence returns if both parts do. -/
theorem bind_eq_ok {x : Except ε α} {f : α → Except ε β} {b : β} : (x >>= f) = .ok b ↔ ∃ a, x = .ok a ∧ f a = .ok b := by
  cases x <;> simp

theorem map_eq_ok {x : Except ε α} {f : α → β} {b : β} : x.map f = .ok b ↔ ∃ a, x = .ok a ∧ f a = b := by
  cases x <;> simp [Except.map]

/-- A map returns if it does on each element. -/
theorem mapM_ok {f : α → Except ε β} {l : List α} {out : List β} :
    l.mapM f = .ok out ↔ List.Forall₂ (fun a b => f a = .ok b) l out := by
  induction l generalizing out with
  | nil => cases out <;> simp [pure,Except.pure]
  | cons a rest ih =>
    rw [List.mapM_cons,List.forall₂_cons_left_iff]
    simp only [bind_eq_ok,ih]
    constructor
    · rintro ⟨b,first,bs,later,collected⟩
      cases collected
      exact ⟨b,bs,first,later,rfl⟩
    · rintro ⟨b,bs,first,later,rfl⟩
      exact ⟨b,first,bs,later,rfl⟩

theorem mapM_returns {f : α → Except ε β} {l : List α} :
    (∃ out, l.mapM f = .ok out) ↔ ∀ a ∈ l, ∃ b, f a = .ok b := by
  simp only [mapM_ok]
  induction l with
  | nil => simp
  | cons a rest ih =>
    rw [List.forall_mem_cons,← ih]
    simp only [List.forall₂_cons_left_iff]
    constructor
    · rintro ⟨_,b,bs,first,later,rfl⟩
      exact ⟨⟨b,first⟩,bs,later⟩
    · rintro ⟨⟨b,first⟩,bs,later⟩
      exact ⟨_,b,bs,first,later,rfl⟩

/-- A map that never throws shows of each element what its result shows. -/
theorem mapM_shows {γ : Type} {f : α → Except ε β} {g : β → γ} {h : α → γ} {l : List α}
    (shows_ : ∀ a ∈ l, ∃ b, f a = .ok b ∧ g b = h a) : ∃ out, l.mapM f = .ok out ∧ out.map g = l.map h := by
  induction l with
  | nil => exact ⟨[],rfl,rfl⟩
  | cons a rest ih =>
    obtain ⟨b,isB,same⟩ := shows_ a List.mem_cons_self
    obtain ⟨out,isOut,others⟩ := ih (fun x member => shows_ x (List.mem_cons_of_mem _ member))
    refine ⟨b :: out,?_,by rw [List.map_cons,List.map_cons,same,others]⟩
    rw [List.mapM_cons,isB,ok_bind,isOut,ok_bind]
    rfl

/-- The part of a result that belongs to some of the elements. -/
def restricted (p : α → Bool) (l : List α) (out : List β) : List β := ((l.zip out).filter (fun e => p e.1)).map Prod.snd

theorem restricted_cons (p : α → Bool) (a : α) (l : List α) (b : β) (out : List β) :
    restricted p (a :: l) (b :: out) = if p a then b :: restricted p l out else restricted p l out := by
  rw [restricted,List.zip_cons_cons,List.filter_cons]
  split_ifs <;> rfl

theorem mapM_filter {f : α → Except ε β} {l : List α} {out : List β} (p : α → Bool) (all : l.mapM f = .ok out) :
    (l.filter p).mapM f = .ok (restricted p l out) := by
  rw [mapM_ok] at all ⊢
  induction all with
  | nil => exact .nil
  | @cons a b l out first _ ih =>
    rw [List.filter_cons,restricted_cons]
    split_ifs
    · exact .cons first ih
    · exact ih

/-- A filter that never throws is a filter; the library collects in reverse. -/
theorem filterM_total {f : α → Except ε Bool} {p : α → Bool} {l : List α} (total : ∀ a ∈ l, f a = .ok (p a)) :
    l.filterM f = .ok (l.filter p) := by
  have collected : ∀ acc, l.filterAuxM f acc = .ok ((l.filter p).reverse ++ acc) := by
    induction l with
    | nil => exact fun acc => rfl
    | cons a rest ih =>
      intro acc
      have later := ih (fun b member => total b (List.mem_cons_of_mem _ member))
      rw [List.filterAuxM,total a List.mem_cons_self,ok_bind,later]
      by_cases taken : p a = true <;> simp [taken]
  rw [List.filterM,collected]
  simp [pure,Except.pure]

theorem filterM_returns {f : α → Except ε Bool} {l out : List α} (run : l.filterM f = .ok out) :
    ∀ a ∈ l, ∃ taken, f a = .ok taken := by
  have through : ∀ acc kept, l.filterAuxM f acc = .ok kept → ∀ a ∈ l, ∃ taken, f a = .ok taken := by
    clear run
    induction l with
    | nil => simp
    | cons a rest ih =>
      intro acc kept run
      obtain ⟨taken,first,later⟩ := bind_eq_ok.mp run
      exact List.forall_mem_cons.mpr ⟨⟨taken,first⟩,ih _ kept later⟩
  obtain ⟨kept,collected,_⟩ := bind_eq_ok.mp run
  exact through [] kept collected

end LibraryServer.Fallible
