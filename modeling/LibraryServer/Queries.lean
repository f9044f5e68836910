import Mathlib.Algebra.GroupWithZero.Nat
import Mathlib.Data.List.Count
import Mathlib.Data.List.Dedup
import Mathlib.Tactic.Common

/-!
Joins and grouping over lists of rows. A left join keeps every row of its left
side; a grouping has one group for each key that occurs. Counting the partners in
a join is counting the right side once for every row of the left.
-/
namespace LibraryServer.Queries
set_option linter.unusedSimpArgs false

variable {α β κ : Type}

/-- The partners of a row, or the one null partner if there are none. -/
def partners (on : α → β → Bool) (ys : List β) (x : α) : List (Option β) :=
  match ys.filter (on x) with
  | [] => [none]
  | y :: rest => some y :: rest.map some

/-- Every row of the left side with each of its partners. -/
def leftJoin (on : α → β → Bool) (xs : List α) (ys : List β) : List (α × Option β) :=
  xs.flatMap (fun x => (partners on ys x).map (fun y => (x,y)))

/-- The keys that occur, each with the rows that have it. -/
def groupBy [DecidableEq κ] (key : α → κ) (rows : List α) : List (κ × List α) :=
  (rows.map key).dedup.map (fun k => (k,rows.filter (fun row => key row = k)))

/-- No row of the left side is lost. -/
theorem leftJoin_keeps (on : α → β → Bool) {xs : List α} (ys : List β) {x : α} (member : x ∈ xs) :
    ∃ y, (x,y) ∈ leftJoin on xs ys := by
  have some_partner : ∃ y, y ∈ partners on ys x := by
    rw [partners]
    split
    · exact ⟨none,List.mem_singleton_self _⟩
    · exact ⟨_,List.mem_cons_self⟩
  obtain ⟨y,partner⟩ := some_partner
  exact ⟨y,List.mem_flatMap.mpr ⟨x,member,List.mem_map.mpr ⟨y,partner,rfl⟩⟩⟩

/-- A condition on the left side may be checked before the join. -/
theorem filter_leftJoin (on : α → β → Bool) (xs : List α) (ys : List β) (p : α → Bool) :
    (leftJoin on xs ys).filter (fun row => p row.1) = leftJoin on (xs.filter p) ys := by
  induction xs with
  | nil => rfl
  | cons x rest ih =>
    have first : leftJoin on (x :: rest) ys = (partners on ys x).map (fun y => (x,y)) ++ leftJoin on rest ys := rfl
    rw [first,List.filter_append,ih,List.filter_map]
    by_cases holds : p x = true
    · have all : (partners on ys x).filter ((fun row => p row.1) ∘ fun y => (x,y)) = partners on ys x :=
        List.filter_eq_self.mpr (fun _ _ => holds)
      rw [all,List.filter_cons_of_pos holds]
      rfl
    · have nothing : (partners on ys x).filter ((fun row => p row.1) ∘ fun y => (x,y)) = [] :=
        List.filter_eq_nil_iff.mpr (fun _ _ => holds)
      rw [nothing,List.filter_cons_of_neg holds]
      rfl

theorem countP_partners (on : α → β → Bool) (ys : List β) (x : α) (p : β → Bool) :
    (partners on ys x).countP (fun y => y.any p) = ys.countP (fun y => on x y && p y) := by
  have both : ys.countP (fun y => on x y && p y) = (ys.filter (on x)).countP p := by
    rw [List.countP_filter]
    exact List.countP_congr (fun y _ => by rw [Bool.and_comm])
  rw [both,partners]
  cases ys.filter (on x) with
  | nil => rfl
  | cons y rest => simp [List.countP_cons,List.countP_map,Function.comp_def]

/-- Null partners do not count. -/
theorem countP_leftJoin (on : α → β → Bool) (xs : List α) (ys : List β) (p : β → Bool) :
    (leftJoin on xs ys).countP (fun row => row.2.any p) = (xs.map (fun x => ys.countP (fun y => on x y && p y))).sum := by
  rw [leftJoin,List.countP_flatMap]
  refine congrArg List.sum (List.map_congr_left (fun x _ => ?_))
  rw [Function.comp_apply,List.countP_map,← countP_partners]
  rfl

/-- A key that occurs has one group. -/
theorem groupBy_single [DecidableEq κ] (key : α → κ) {rows : List α} {row : α} (member : row ∈ rows) :
    (groupBy key rows).filter (fun group => group.1 = key row) =
      [(key row,rows.filter (fun other => key other = key row))] := by
  have occurs : key row ∈ (rows.map key).dedup := List.mem_dedup.mpr (List.mem_map_of_mem member)
  have once : (rows.map key).dedup.filter (fun k => k = key row) = [key row] := by
    rw [List.filter_eq,List.count_eq_one_of_mem (List.nodup_dedup _) occurs]
    rfl
  rw [groupBy,List.filter_map]
  exact congrArg (List.map _) once

end LibraryServer.Queries
