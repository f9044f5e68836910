import Mathlib.Data.List.Basic
import Mathlib.Tactic.Common

/-!
Paths in a tree of directories. A place is the list of the names that lead to it
from the root. A path is a text that is cut at its slashes and read from the root
or from the working directory: an empty component and `.` stay where they are,
`..` goes up, which at the root stays there, and every other name goes down.
-/
namespace LibraryServer.Paths
set_option linter.unusedSimpArgs false

abbrev Name := List Char

abbrev Place := List Name

def goUp : Name := ['.','.']

/-- The place that a component leads to. -/
def resolve (here : Place) (name : Name) : Place :=
  if name = [] ∨ name = ['.'] then here else if name = goUp then here.dropLast else here ++ [name]

/-- The place that a path leads to. -/
def place (working : Place) (path : List Char) : Place :=
  (path.splitOn '/').foldl resolve (if path.head? = some '/' then [] else working)

/-- The directory in which a place is; the root is in none. -/
def parent (here : Place) : Option Place := if here = [] then none else some here.dropLast

/-- A last component is read at the place of the directory. -/
theorem place_append (working : Place) {directory name : List Char} (nonempty : directory ≠ []) (plain : '/' ∉ name) :
    place working (directory ++ '/' :: name) = resolve (place working directory) name := by
  have start : (directory ++ '/' :: name).head? = directory.head? := by
    cases directory with
    | nil => exact absurd rfl nonempty
    | cons c rest => rfl
  rw [place,place,start,List.splitOn_append_cons_self,List.splitOn_eq_singleton plain,List.foldl_append]
  rfl

theorem parent_shorter {here up : Place} (isParent : parent here = some up) : up.length < here.length := by
  rw [parent] at isParent
  split_ifs at isParent with root
  cases isParent
  have := List.length_pos_iff.mpr root
  rw [List.length_dropLast]
  omega

/-- A component leads to a place in the directory exactly if it is a proper name. -/
theorem parent_resolve {here : Place} {name : Name} :
    parent (resolve here name) = some here ↔ name ≠ [] ∧ name ≠ ['.'] ∧ name ≠ goUp := by
  rw [resolve]
  by_cases stays : name = [] ∨ name = ['.']
  · rw [if_pos stays]
    refine iff_of_false (fun isParent => absurd (parent_shorter isParent) (Nat.lt_irrefl _)) ?_
    rintro ⟨filled,noDot,_⟩
    exact stays.elim filled noDot
  · rw [if_neg stays]
    obtain ⟨filled,noDot⟩ := not_or.mp stays
    by_cases up : name = goUp
    · rw [if_pos up]
      refine iff_of_false (fun isParent => ?_) (fun proper => proper.2.2 up)
      have := parent_shorter isParent
      rw [List.length_dropLast] at this
      omega
    · rw [if_neg up]
      refine iff_of_true ?_ ⟨filled,noDot,up⟩
      rw [parent,if_neg (by simp),List.dropLast_concat]

end LibraryServer.Paths
