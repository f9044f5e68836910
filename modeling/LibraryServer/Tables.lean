import Mathlib.Data.List.Nodup
import Mathlib.Tactic.Common

/-!
Keyed tables. A table holds its rows in key order together with the key that
the next insert hands out, as an identity column does: the key of a deleted row
is never handed out again. Rows that satisfy a condition are counted, and every
operation says what it does to the rows, to a lookup and to such a count.
-/
namespace LibraryServer.Tables
set_option linter.unusedSimpArgs false

/-- Rows in increasing key order, all below the next key. -/
structure Table (α : Type) where
  rows : List (Int × α)
  next : Int
  sorted : rows.Pairwise (fun a b => a.1 < b.1)
  below : ∀ row ∈ rows, row.1 < next
deriving DecidableEq

variable {α : Type}

/-- The table of no rows. -/
def Table.empty : Table α := ⟨[],1,.nil,by simp⟩

/-- The row under a key. -/
def Table.find (t : Table α) (k : Int) : Option α :=
  (t.rows.find? (fun row => row.1 == k)).map Prod.snd

/-- A new row under the next key. -/
def Table.insert (t : Table α) (a : α) : Table α where
  rows := t.rows ++ [(t.next,a)]
  next := t.next + 1
  sorted := by
    refine List.pairwise_append.mpr ⟨t.sorted,List.pairwise_singleton _ _,?_⟩
    intro row member last isLast
    rw [List.mem_singleton] at isLast
    subst isLast
    exact t.below row member
  below := by
    intro row member
    rcases List.mem_append.mp member with old | new
    · have := t.below row old
      omega
    · rw [List.mem_singleton] at new
      subst new
      exact Int.lt_succ t.next

/-- The row under a key is replaced; without such a row nothing happens. -/
def Table.set (t : Table α) (k : Int) (a : α) : Table α where
  rows := t.rows.map (fun row => if row.1 = k then (k,a) else row)
  next := t.next
  sorted := by
    refine List.pairwise_map.mpr (t.sorted.imp ?_)
    intro x y less
    split_ifs <;> simp_all
  below := by
    intro row member
    obtain ⟨old,oldMember,rfl⟩ := List.mem_map.mp member
    have := t.below old oldMember
    split_ifs with same
    · simpa [← same] using this
    · exact this

/-- The row under a key is removed; without such a row nothing happens. -/
def Table.erase (t : Table α) (k : Int) : Table α where
  rows := t.rows.filter (fun row => row.1 ≠ k)
  next := t.next
  sorted := t.sorted.filter _
  below := fun row member => t.below row (List.mem_filter.mp member).1

/-- The rows under some keys removed, one key after another. -/
def Table.eraseAll (t : Table α) (ks : List Int) : Table α := ks.foldl Table.erase t

/-- The row under a key replaced, or a new row if there is none. -/
def Table.put (t : Table α) (k : Int) (a : α) : Table α := if (t.find k).isSome then t.set k a else t.insert a

/-- The rows that satisfy a condition, in key order. -/
def Table.select (t : Table α) (p : α → Bool) : List (Int × α) := t.rows.filter (fun row => p row.2)

/-- The rows under some of the keys changed. -/
def Table.adjust (t : Table α) (p : Int → Bool) (f : α → α) : Table α where
  rows := t.rows.map (fun row => if p row.1 then (row.1,f row.2) else row)
  next := t.next
  sorted := by
    refine List.pairwise_map.mpr (t.sorted.imp ?_)
    intro x y less
    split_ifs <;> exact less
  below := by
    intro row member
    obtain ⟨old,oldMember,rfl⟩ := List.mem_map.mp member
    have := t.below old oldMember
    split_ifs <;> exact this

/-- The rows that satisfy a condition removed. -/
def Table.discard (t : Table α) (p : α → Bool) : Table α where
  rows := t.rows.filter (fun row => !p row.2)
  next := t.next
  sorted := t.sorted.filter _
  below := fun row member => t.below row (List.mem_filter.mp member).1

/-- How many rows satisfy a condition. -/
def Table.count (t : Table α) (p : α → Bool) : Nat := (t.select p).length

theorem table_ext {t u : Table α} (rows : t.rows = u.rows) (next : t.next = u.next) : t = u := by
  cases t; cases u; simp_all

@[simp] theorem next_insert (t : Table α) (a : α) : (t.insert a).next = t.next + 1 := rfl
@[simp] theorem next_set (t : Table α) (k : Int) (a : α) : (t.set k a).next = t.next := rfl

/-! ### Keys identify rows -/

theorem keys_nodup (t : Table α) : (t.rows.map Prod.fst).Nodup :=
  List.pairwise_map.mpr (t.sorted.imp (fun less => Int.ne_of_lt less))

theorem rows_nodup (t : Table α) : t.rows.Nodup := List.Nodup.of_map _ (keys_nodup t)

theorem rows_key_inj {t : Table α} {x y : Int × α} (hx : x ∈ t.rows) (hy : y ∈ t.rows) (same : x.1 = y.1) :
    x = y :=
  List.inj_on_of_nodup_map (keys_nodup t) hx hy same

theorem find_eq_some {t : Table α} {k : Int} {a : α} : t.find k = some a ↔ (k,a) ∈ t.rows := by
  simp only [Table.find,Option.map_eq_some_iff]
  constructor
  · rintro ⟨row,found,rfl⟩
    have key : row.1 = k := by simpa using List.find?_some found
    have member := List.mem_of_find?_eq_some found
    rw [← key]
    exact member
  · intro member
    cases found : t.rows.find? (fun row => row.1 == k) with
    | none => exact absurd (List.find?_eq_none.mp found (k,a) member) (by simp)
    | some row =>
      have key : row.1 = k := by simpa using List.find?_some found
      have same := rows_key_inj (List.mem_of_find?_eq_some found) member key
      exact ⟨row,rfl,by rw [same]⟩

theorem find_eq_none {t : Table α} {k : Int} : t.find k = none ↔ ∀ a, (k,a) ∉ t.rows := by
  rw [Option.eq_none_iff_forall_ne_some]
  exact forall_congr' (fun a => not_congr find_eq_some)

/-- The next key is not in use. -/
theorem find_next (t : Table α) : t.find t.next = none := by
  rw [find_eq_none]
  intro a member
  have := t.below _ member
  omega

/-! ### What the operations do to the rows -/

theorem mem_insert {t : Table α} {a : α} {row : Int × α} :
    row ∈ (t.insert a).rows ↔ row ∈ t.rows ∨ row = (t.next,a) := by
  simp [Table.insert]

theorem mem_erase {t : Table α} {k : Int} {row : Int × α} :
    row ∈ (t.erase k).rows ↔ row ∈ t.rows ∧ row.1 ≠ k := by
  simp [Table.erase]

theorem mem_set {t : Table α} {k : Int} {a : α} {row : Int × α} :
    row ∈ (t.set k a).rows ↔ row ∈ t.rows ∧ row.1 ≠ k ∨ row = (k,a) ∧ ∃ old, (k,old) ∈ t.rows := by
  simp only [Table.set,List.mem_map]
  constructor
  · rintro ⟨old,member,rfl⟩
    by_cases same : old.1 = k
    · refine .inr ⟨by simp [same],old.2,?_⟩
      rw [← same]
      exact member
    · exact .inl ⟨by simpa [same] using member,by simp [same]⟩
  · rintro (⟨member,other⟩ | ⟨rfl,old,member⟩)
    · exact ⟨row,member,by simp [other]⟩
    · exact ⟨(k,old),member,by simp⟩

theorem find_insert (t : Table α) (a : α) (k : Int) :
    (t.insert a).find k = if k = t.next then some a else t.find k := by
  refine Option.ext (fun b => ?_)
  rw [find_eq_some,mem_insert]
  by_cases new : k = t.next
  · subst new
    have unused : (t.next,b) ∉ t.rows := find_eq_none.mp (find_next t) b
    simp [unused,eq_comm]
  · simp [new,find_eq_some]

theorem find_erase (t : Table α) (k j : Int) :
    (t.erase k).find j = if j = k then none else t.find j := by
  refine Option.ext (fun b => ?_)
  rw [find_eq_some,mem_erase]
  by_cases same : j = k
  · simp [same]
  · simp [same,find_eq_some]

theorem rows_eraseAll (t : Table α) (ks : List Int) : (t.eraseAll ks).rows = t.rows.filter (fun row => row.1 ∉ ks) := by
  induction ks generalizing t with
  | nil => simp [Table.eraseAll]
  | cons k rest ih =>
    rw [Table.eraseAll,List.foldl_cons,← Table.eraseAll,ih,Table.erase,List.filter_filter]
    exact List.filter_congr (fun row _ => by simp [Bool.and_comm])

theorem find_set (t : Table α) (k j : Int) (a : α) :
    (t.set k a).find j = if j = k then (t.find k).map (fun _ => a) else t.find j := by
  refine Option.ext (fun b => ?_)
  rw [find_eq_some,mem_set]
  by_cases same : j = k
  · subst same
    simp only [ne_eq,not_true_eq_false,and_false,false_or,if_true,Option.map_eq_some_iff,Prod.mk.injEq,
      true_and,find_eq_some]
    constructor
    · rintro ⟨rfl,old,member⟩; exact ⟨old,member,rfl⟩
    · rintro ⟨old,member,rfl⟩; exact ⟨rfl,old,member⟩
  · simp [same,find_eq_some]

/-- Replacing a row removes none. -/
theorem find_set_stays {t : Table α} {j : Int} (k : Int) (a : α) (stored : ∃ old, t.find j = some old) :
    ∃ new, (t.set k a).find j = some new := by
  obtain ⟨old,found⟩ := stored
  rw [find_set]
  by_cases same : j = k
  · exact ⟨a,by simp [← same,found]⟩
  · exact ⟨old,by simp [same,found]⟩

/-- Replacing a row by itself changes nothing. -/
theorem set_same {t : Table α} {k : Int} {a : α} (stored : t.find k = some a) : t.set k a = t := by
  refine table_ext ?_ rfl
  refine (List.map_congr_left (fun row member => ?_)).trans (List.map_id _)
  by_cases same : row.1 = k
  · obtain rfl : row = (k,a) := rows_key_inj member (find_eq_some.mp stored) same
    simp
  · simp [same]

theorem put_stored {t : Table α} {k : Int} {old : α} (stored : t.find k = some old) (a : α) : t.put k a = t.set k a := by
  simp [Table.put,stored]

theorem put_next (t : Table α) (a : α) : t.put t.next a = t.insert a := by
  simp [Table.put,find_next]

/-- The keys under which a row can be put. -/
def Table.Open (t : Table α) (k : Int) : Prop := k = t.next ∨ ∃ old, t.find k = some old

theorem find_put {t : Table α} {k : Int} (place : t.Open k) (a : α) (j : Int) :
    (t.put k a).find j = if j = k then some a else t.find j := by
  rcases place with rfl | ⟨old,stored⟩
  · rw [put_next,find_insert]
  · rw [put_stored stored,find_set,stored,Option.map_some]

theorem mem_put {t : Table α} {k : Int} (place : t.Open k) {a : α} {row : Int × α} :
    row ∈ (t.put k a).rows ↔ row = (k,a) ∨ row ∈ t.rows ∧ row.1 ≠ k := by
  obtain ⟨j,b⟩ := row
  rw [← find_eq_some,← find_eq_some,find_put place]
  by_cases same : j = k
  · subst same
    simp only [if_true,Option.some.injEq,Prod.mk.injEq,true_and,ne_eq,not_true_eq_false,and_false,or_false]
    exact eq_comm
  · simp [same]

/-- No two rows agree on a column. -/
def Table.Distinct {β : Type} (t : Table α) (column : α → β) : Prop :=
  ∀ row ∈ t.rows, ∀ other ∈ t.rows, column row.2 = column other.2 → row.1 = other.1

instance {β : Type} [DecidableEq β] (t : Table α) (column : α → β) : Decidable (t.Distinct column) := by
  unfold Table.Distinct
  infer_instance

/-- Putting a row keeps a column distinct exactly if no other row has its value. -/
theorem distinct_put {β : Type} {t : Table α} {column : α → β} (distinct : t.Distinct column) {k : Int} (place : t.Open k)
    (a : α) : (t.put k a).Distinct column ↔ ∀ other ∈ t.rows, column other.2 = column a → other.1 = k := by
  constructor
  · intro after other stored same
    by_contra different
    exact different
      (after other ((mem_put place).mpr (.inr ⟨stored,different⟩)) (k,a) ((mem_put place).mpr (.inl rfl)) same)
  · intro alone x hx y hy same
    rcases (mem_put place).mp hx with rfl | ⟨storedX,_⟩
    · rcases (mem_put place).mp hy with rfl | ⟨storedY,_⟩
      · rfl
      · exact (alone y storedY same.symm).symm
    · rcases (mem_put place).mp hy with rfl | ⟨storedY,_⟩
      · exact alone x storedX same
      · exact distinct x storedX y storedY same

/-- Rows put one after another. -/
def Table.putAll (t : Table α) (rows : List (Int × α)) : Table α := rows.foldl (fun t row => t.put row.1 row.2) t

/-- Each row finds its key open when its turn comes. -/
def Table.OpenAll : Table α → List (Int × α) → Prop
  | _, [] => True
  | t, row :: rest => t.Open row.1 ∧ Table.OpenAll (t.put row.1 row.2) rest

theorem mem_putAll {t : Table α} {rows : List (Int × α)} (places : t.OpenAll rows) (distinct : (rows.map Prod.fst).Nodup)
    {row : Int × α} : row ∈ (t.putAll rows).rows ↔ row ∈ rows ∨ row ∈ t.rows ∧ row.1 ∉ rows.map Prod.fst := by
  induction rows generalizing t with
  | nil => simp [Table.putAll]
  | cons first rest ih =>
    obtain ⟨place,places⟩ := places
    rw [List.map_cons,List.nodup_cons] at distinct
    rw [show t.putAll (first :: rest) = (t.put first.1 first.2).putAll rest from rfl,ih places distinct.2,mem_put place]
    simp only [List.mem_cons,List.map_cons]
    constructor
    · rintro (later | ⟨rfl | ⟨old,other⟩,absent⟩)
      · exact .inl (.inr later)
      · exact .inl (.inl rfl)
      · exact .inr ⟨old,fun named => named.elim other absent⟩
    · rintro ((rfl | later) | ⟨old,absent⟩)
      · exact .inr ⟨.inl rfl,distinct.1⟩
      · exact .inl later
      · exact .inr ⟨.inr ⟨old,fun same => absent (.inl same)⟩,fun named => absent (.inr named)⟩

/-- Rows under the keys that a table hands out. -/
def numbered (next : Int) : List α → List (Int × α)
  | [] => []
  | a :: rest => (next,a) :: numbered (next + 1) rest

theorem numbered_ge {next : Int} {as : List α} {row : Int × α} (member : row ∈ numbered next as) :
    next ≤ row.1 ∧ row.2 ∈ as := by
  induction as generalizing next with
  | nil => cases member
  | cons a rest ih =>
    rcases List.mem_cons.mp member with rfl | later
    · exact ⟨Int.le_refl _,List.mem_cons_self⟩
    · obtain ⟨after,value⟩ := ih later
      exact ⟨by omega,List.mem_cons_of_mem _ value⟩

theorem numbered_at {next : Int} {as : List α} {i : Nat} {a : α} (present : as[i]? = some a) :
    (next + i,a) ∈ numbered next as := by
  induction as generalizing next i with
  | nil => cases present
  | cons first rest ih =>
    cases i with
    | zero =>
      cases present
      simp [numbered]
    | succ i =>
      have later : (next + 1 + (i : Int),a) ∈ numbered (next + 1) rest := ih present
      rw [show next + 1 + (i : Int) = next + ((i + 1 : Nat) : Int) by omega] at later
      exact List.mem_cons_of_mem _ later

theorem numbered_distinct (next : Int) (as : List α) : ((numbered next as).map Prod.fst).Nodup := by
  induction as generalizing next with
  | nil => exact List.nodup_nil
  | cons a rest ih =>
    refine List.nodup_cons.mpr ⟨fun again => ?_,ih (next + 1)⟩
    obtain ⟨row,member,same⟩ := List.mem_map.mp again
    have := (numbered_ge member).1
    omega

theorem numbered_open (t : Table α) (as : List α) : t.OpenAll (numbered t.next as) := by
  induction as generalizing t with
  | nil => trivial
  | cons a rest ih =>
    refine ⟨.inl rfl,?_⟩
    rw [put_next]
    exact ih (t.insert a)

/-- A loop of inserts puts the rows under the keys that the table hands out. -/
theorem putAll_numbered (t : Table α) (as : List α) : t.putAll (numbered t.next as) = as.foldl Table.insert t := by
  induction as generalizing t with
  | nil => rfl
  | cons a rest ih =>
    rw [List.foldl_cons,← ih (t.insert a)]
    change (t.put t.next a).putAll _ = _
    rw [put_next]
    rfl

theorem find_lt_next {t : Table α} {k : Int} {a : α} (stored : t.find k = some a) : k < t.next :=
  t.below _ (find_eq_some.mp stored)

/-! ### Counting rows -/

theorem mem_select {t : Table α} {p : α → Bool} {row : Int × α} : row ∈ t.select p ↔ row ∈ t.rows ∧ p row.2 = true := by
  simp [Table.select]

/-- The first selected row is stored and satisfies the condition. -/
theorem select_head {t : Table α} {p : α → Bool} {row : Int × α} {rest : List (Int × α)}
    (selected : t.select p = row :: rest) : row ∈ t.rows ∧ p row.2 = true := by
  rw [← mem_select,selected]
  exact List.mem_cons_self

/-- Rows that all have the same key are at most one. -/
theorem select_single {t : Table α} {p : α → Bool} (same : ∀ x ∈ t.select p, ∀ y ∈ t.select p, x.1 = y.1) :
    t.select p = [] ∨ ∃ row, t.select p = [row] := by
  have ordered : (t.select p).Pairwise (fun a b => a.1 < b.1) := t.sorted.filter _
  match rows : t.select p with
  | [] => exact .inl rfl
  | [row] => exact .inr ⟨row,rfl⟩
  | x :: y :: rest =>
    rw [rows] at ordered same
    have less := List.rel_of_pairwise_cons ordered (List.mem_cons_self (a := y) (l := rest))
    have equal := same x (by simp) y (by simp)
    omega

theorem select_insert (t : Table α) (a : α) (p : α → Bool) :
    (t.insert a).select p = t.select p ++ if p a then [(t.next,a)] else [] := by
  by_cases holds : p a = true <;> simp [Table.select,Table.insert,holds]

theorem count_insert (t : Table α) (a : α) (p : α → Bool) :
    (t.insert a).count p = t.count p + if p a then 1 else 0 := by
  rw [Table.count,select_insert]
  by_cases holds : p a = true <;> simp [Table.count,holds]

theorem select_erase (t : Table α) (k : Int) (p : α → Bool) :
    (t.erase k).select p = (t.select p).filter (fun row => row.1 ≠ k) := by
  simp only [Table.select,Table.erase,List.filter_filter]
  exact List.filter_congr (fun row _ => Bool.and_comm _ _)

/-- Removing a row that does not satisfy a condition leaves those that do. -/
theorem select_erase_other {t : Table α} {k : Int} {a : α} (member : (k,a) ∈ t.rows) {p : α → Bool} (other : p a = false) :
    (t.erase k).select p = t.select p := by
  rw [select_erase,List.filter_eq_self]
  intro row selected
  obtain ⟨stored,holds⟩ := mem_select.mp selected
  rw [decide_eq_true_eq]
  intro same
  rw [rows_key_inj stored member same,other] at holds
  cases holds

/-- Replacing a row by one that satisfies a condition as the old one did. -/
theorem select_set {t : Table α} {k : Int} {a old : α} (stored : (k,old) ∈ t.rows) {p : α → Bool} (same : p a = p old) :
    (t.set k a).select p = (t.select p).map (fun row => if row.1 = k then (k,a) else row) := by
  simp only [Table.select,Table.set,List.filter_map]
  refine congrArg _ (List.filter_congr (fun row member => ?_))
  by_cases isKey : row.1 = k
  · obtain rfl : row = (k,old) := rows_key_inj member stored isKey
    simpa using same
  · simp [isKey]

/-- Replacing a row changes no selection that has neither the old nor the new one. -/
theorem select_set_other {t : Table α} {k : Int} {a old : α} (stored : (k,old) ∈ t.rows) {p : α → Bool}
    (before : p old = false) (after : p a = false) : (t.set k a).select p = t.select p := by
  rw [select_set stored (after.trans before.symm)]
  refine (List.map_congr_left (fun row selected => if_neg (fun isKey => ?_))).trans (List.map_id _)
  obtain ⟨member,holds⟩ := mem_select.mp selected
  rw [rows_key_inj member stored isKey,before] at holds
  cases holds

/-- With distinct keys, filtering out one key drops exactly one row. -/
theorem length_filter_key {rows : List (Int × α)} {k : Int} {a : α} (p : α → Bool)
    (distinct : (rows.map Prod.fst).Nodup) (member : (k,a) ∈ rows) :
    ((rows.filter (fun row => row.1 ≠ k)).filter (fun row => p row.2)).length + (if p a then 1 else 0) =
      (rows.filter (fun row => p row.2)).length := by
  induction rows with
  | nil => cases member
  | cons row rest ih =>
    simp only [List.map_cons,List.nodup_cons] at distinct
    rcases List.mem_cons.mp member with first | later
    · subst first
      -- No other row has this key, so the filter keeps the rest as it is.
      have others : rest.filter (fun row => row.1 ≠ k) = rest := by
        refine List.filter_eq_self.mpr (fun other otherMember => ?_)
        have : other.1 ≠ k := by
          rintro rfl
          exact distinct.1 (List.mem_map.mpr ⟨other,otherMember,rfl⟩)
        simpa using this
      rw [List.filter_cons_of_neg (by simp),others]
      by_cases holds : p a = true <;> simp [holds]
    · have other : row.1 ≠ k := by
        rintro rfl
        exact distinct.1 (List.mem_map.mpr ⟨_,later,rfl⟩)
      have previous := ih distinct.2 later
      rw [List.filter_cons_of_pos (by simpa using other)]
      by_cases holds : p row.2 = true
      · rw [List.filter_cons_of_pos (by simpa using holds),List.filter_cons_of_pos (by simpa using holds)]
        simp only [List.length_cons]
        omega
      · rw [List.filter_cons_of_neg (by simpa using holds),List.filter_cons_of_neg (by simpa using holds)]
        exact previous

/-- A removed row counts for the conditions it satisfies. -/
theorem count_erase {t : Table α} {k : Int} {a : α} (member : (k,a) ∈ t.rows) (p : α → Bool) :
    (t.erase k).count p + (if p a then 1 else 0) = t.count p :=
  length_filter_key p (keys_nodup t) member

theorem count_erase_le (t : Table α) (k : Int) (p : α → Bool) : (t.erase k).count p ≤ t.count p :=
  (List.filter_sublist.filter _).length_le

theorem count_pos {t : Table α} {p : α → Bool} : 0 < t.count p ↔ ∃ row ∈ t.rows, p row.2 = true := by
  simp only [Table.count,List.length_pos_iff_exists_mem,mem_select]

/-! ### Many rows at once -/

theorem find_adjust (t : Table α) (p : Int → Bool) (f : α → α) (k : Int) :
    (t.adjust p f).find k = (t.find k).map (fun a => if p k then f a else a) := by
  cases found : t.find k with
  | none =>
    rw [find_eq_none] at found
    rw [Option.map_none,find_eq_none]
    intro a member
    obtain ⟨old,oldMember,same⟩ := List.mem_map.mp member
    have key : old.1 = k := by
      have := congrArg Prod.fst same
      split_ifs at this <;> exact this
    exact found old.2 (key ▸ oldMember)
  | some a =>
    rw [Option.map_some,find_eq_some]
    refine List.mem_map.mpr ⟨(k,a),find_eq_some.mp found,?_⟩
    by_cases listed : p k = true <;> simp [listed]

theorem adjust_none (t : Table α) (f : α → α) : t.adjust (fun _ => false) f = t := by
  refine table_ext ?_ rfl
  simp [Table.adjust]

/-- One more key: its row is changed first. -/
theorem adjust_set {t : Table α} {k : Int} {a : α} (found : t.find k = some a) {p : Int → Bool} (other : p k = false)
    (f : α → α) : (t.set k (f a)).adjust p f = t.adjust (fun j => j == k || p j) f := by
  refine table_ext ?_ rfl
  simp only [Table.adjust,Table.set,List.map_map]
  refine List.map_congr_left (fun row member => ?_)
  by_cases same : row.1 = k
  · have value : row.2 = a := by rw [← same,find_eq_some.mpr member] at found; exact Option.some.inj found
    simp [same,other,value]
  · simp [same]

theorem set_eq_adjust {t : Table α} {k : Int} {a : α} (found : t.find k = some a) (f : α → α) :
    t.set k (f a) = t.adjust (fun j => j == k) f := by
  have one := adjust_set (p := fun _ => false) found rfl f
  simpa only [adjust_none,Bool.or_false] using one

/-- Two changes by the same function commute. -/
theorem adjust_comm (t : Table α) (p q : Int → Bool) (f : α → α) : (t.adjust p f).adjust q f = (t.adjust q f).adjust p f := by
  refine table_ext ?_ rfl
  simp only [Table.adjust,List.map_map]
  refine List.map_congr_left (fun row _ => ?_)
  by_cases first : p row.1 = true <;> by_cases second : q row.1 = true <;> simp [first,second]

/-- A change that a condition does not look at leaves the keys that satisfy it. -/
theorem keys_select_adjust (t : Table α) (p : Int → Bool) {f : α → α} {q : α → Bool} (blind : ∀ a, q (f a) = q a) :
    ((t.adjust p f).select q).map Prod.fst = (t.select q).map Prod.fst := by
  simp only [Table.select,Table.adjust,List.filter_map,List.map_map]
  have same : ∀ row ∈ t.rows, ((fun row : Int × α => q row.2) ∘ fun row => if p row.1 then (row.1,f row.2) else row) row =
      q row.2 := by
    intro row _
    by_cases changed : p row.1 = true <;> simp [changed,blind]
  rw [List.filter_congr same]
  refine List.map_congr_left (fun row _ => ?_)
  by_cases changed : p row.1 = true <;> simp [changed]

theorem discard_none (t : Table α) : t.discard (fun _ => false) = t := by
  refine table_ext ?_ rfl
  simp [Table.discard]

/-- One more condition, which one row satisfies: that row is removed first. -/
theorem discard_erase {t : Table α} {k : Int} {q : α → Bool} (only : ∀ row ∈ t.rows, q row.2 = true ↔ row.1 = k)
    (p : α → Bool) : (t.erase k).discard p = t.discard (fun a => q a || p a) := by
  refine table_ext ?_ rfl
  simp only [Table.discard,Table.erase,List.filter_filter]
  refine List.filter_congr (fun row member => ?_)
  by_cases same : row.1 = k
  · simp [same,(only row member).mpr same]
  · have unlike : q row.2 = false := by
      rw [Bool.eq_false_iff]
      exact fun yes => same ((only row member).mp yes)
    simp [same,unlike]

theorem erase_eq_discard {t : Table α} {k : Int} {q : α → Bool} (only : ∀ row ∈ t.rows, q row.2 = true ↔ row.1 = k) :
    t.erase k = t.discard q := by
  have one := discard_erase only (fun _ => false)
  simpa only [discard_none,Bool.or_false] using one

theorem discard_discard (t : Table α) (p q : α → Bool) : (t.discard p).discard q = t.discard (fun a => p a || q a) := by
  refine table_ext ?_ rfl
  simp only [Table.discard,List.filter_filter]
  exact List.filter_congr (fun row _ => by rw [Bool.not_or,Bool.and_comm])

theorem discard_comm (t : Table α) (p q : α → Bool) : (t.discard p).discard q = (t.discard q).discard p := by
  rw [discard_discard,discard_discard]
  simp only [Bool.or_comm]

/-- Nothing is removed where no row satisfies the condition. -/
theorem discard_unmatched {t : Table α} {p : α → Bool} (unmatched : ∀ row ∈ t.rows, p row.2 = false) : t.discard p = t := by
  refine table_ext ?_ rfl
  exact List.filter_eq_self.mpr (fun row member => by simp [unmatched row member])

theorem mem_discard {t : Table α} {p : α → Bool} {row : Int × α} :
    row ∈ (t.discard p).rows ↔ row ∈ t.rows ∧ p row.2 = false := by
  simp [Table.discard]

theorem select_discard (t : Table α) (p q : α → Bool) :
    (t.discard p).select q = (t.select q).filter (fun row => !p row.2) := by
  simp only [Table.select,Table.discard,List.filter_filter]
  exact List.filter_congr (fun row _ => Bool.and_comm _ _)

theorem count_discard_le (t : Table α) (p q : α → Bool) : (t.discard p).count q ≤ t.count q := by
  rw [Table.count,select_discard]
  exact List.length_filter_le _ _

/-- Removing the rows that satisfy a condition by their keys. -/
theorem eraseAll_select (t : Table α) (p : α → Bool) : t.eraseAll ((t.select p).map Prod.fst) = t.discard p := by
  have same : (t.eraseAll ((t.select p).map Prod.fst)).rows = (t.discard p).rows := by
    rw [rows_eraseAll]
    refine List.filter_congr (fun row stored => ?_)
    have named : row.1 ∈ (t.select p).map Prod.fst ↔ p row.2 = true := by
      constructor
      · intro listed
        obtain ⟨other,selected,isKey⟩ := List.mem_map.mp listed
        obtain ⟨isStored,satisfies⟩ := mem_select.mp selected
        rw [← rows_key_inj isStored stored isKey]
        exact satisfies
      · intro satisfies
        exact List.mem_map_of_mem (mem_select.mpr ⟨stored,satisfies⟩)
    cases isSelected : p row.2 <;> simp [named,isSelected]
  refine table_ext same ?_
  have next : ∀ (ks : List Int) (t : Table α), (t.eraseAll ks).next = t.next := by
    intro ks
    induction ks with
    | nil => exact fun _ => rfl
    | cons k rest ih => exact fun t => ih (t.erase k)
  exact next _ t

/-- Removing rows leaves those that satisfy a contrary condition. -/
theorem count_discard_other {t : Table α} {p q : α → Bool} (other : ∀ a, q a = true → p a = false) :
    (t.discard p).count q = t.count q := by
  have all : ∀ row ∈ t.select q, (!p row.2) = true := by
    intro row selected
    rw [other row.2 (mem_select.mp selected).2]
    rfl
  rw [Table.count,select_discard,List.filter_eq_self.mpr all]
  rfl

/-- Rows that are inserted one after another come after the old ones. -/
theorem rows_insertAll (t : Table α) (as : List α) :
    (as.foldl Table.insert t).rows = t.rows ++ numbered t.next as := by
  induction as generalizing t with
  | nil => simp [numbered]
  | cons a rest ih => simp [ih,numbered,Table.insert]

theorem numbered_values (next : Int) (as : List α) : (numbered next as).map Prod.snd = as := by
  induction as generalizing next with
  | nil => rfl
  | cons a rest ih => simp [numbered,ih]

/-! ### Later states of a table -/

/-- What a table may have become: a key that was handed out is not handed out
    again, and a row that is still there is related to what it was. -/
def Table.Becomes (R : α → α → Prop) (t u : Table α) : Prop :=
  t.next ≤ u.next ∧ ∀ k b, k < t.next → u.find k = some b → ∃ a, t.find k = some a ∧ R a b

section
variable {R : α → α → Prop}

theorem becomes_refl (refl : ∀ a, R a a) (t : Table α) : t.Becomes R t :=
  ⟨Int.le_refl _,fun _ b _ found => ⟨b,found,refl b⟩⟩

theorem becomes_trans (trans : ∀ a b c, R a b → R b c → R a c) {t u v : Table α} (first : t.Becomes R u)
    (second : u.Becomes R v) : t.Becomes R v := by
  refine ⟨Int.le_trans first.1 second.1,?_⟩
  intro k c known found
  obtain ⟨b,between,later⟩ := second.2 k c (Int.lt_of_lt_of_le known first.1) found
  obtain ⟨a,before,earlier⟩ := first.2 k b known between
  exact ⟨a,before,trans a b c earlier later⟩

theorem becomes_insert (refl : ∀ a, R a a) (t : Table α) (a : α) : t.Becomes R (t.insert a) := by
  refine ⟨by rw [next_insert]; omega,?_⟩
  intro k b known found
  rw [find_insert,if_neg (Int.ne_of_lt known)] at found
  exact ⟨b,found,refl b⟩

theorem becomes_set (refl : ∀ a, R a a) {t : Table α} {k : Int} {a : α} (changed : ∀ old, t.find k = some old → R old a) :
    t.Becomes R (t.set k a) := by
  refine ⟨Int.le_refl _,?_⟩
  intro j b _ found
  rw [find_set] at found
  split_ifs at found with same
  · subst same
    obtain ⟨old,stored,rfl⟩ := Option.map_eq_some_iff.mp found
    exact ⟨old,stored,changed old stored⟩
  · exact ⟨b,found,refl b⟩

theorem becomes_put (refl : ∀ a, R a a) {t : Table α} {k : Int} {a : α} (changed : ∀ old, t.find k = some old → R old a) :
    t.Becomes R (t.put k a) := by
  unfold Table.put
  split_ifs
  · exact becomes_set refl changed
  · exact becomes_insert refl t a

theorem becomes_erase (refl : ∀ a, R a a) (t : Table α) (k : Int) : t.Becomes R (t.erase k) := by
  refine ⟨Int.le_refl _,?_⟩
  intro j b _ found
  rw [find_erase] at found
  split_ifs at found
  exact ⟨b,found,refl b⟩

end

end LibraryServer.Tables
