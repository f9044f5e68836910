import Mathlib.Data.Finset.Card
import Mathlib.Data.Set.Basic
import Mathlib.Tactic.Common

/-!
What lending is for. A ledger knows the items with their numbers of copies, the
members, and which member has which item out. No more copies are out than there
are, and only known items are out with members; a move that would break this
cannot be made.
-/
namespace LibraryServer.Ledgers
set_option linter.unusedSimpArgs false

variable {B U : Type} [DecidableEq B]

/-- How many copies of an item are out. -/
def copiesOut (out : Finset (B × U)) (b : B) : Nat := (out.filter (fun p => p.1 = b)).card

theorem copiesOut_mono {out more : Finset (B × U)} (sub : out ⊆ more) (b : B) : copiesOut out b ≤ copiesOut more b :=
  Finset.card_le_card (Finset.filter_subset_filter _ sub)

variable [DecidableEq U]

theorem copiesOut_insert {out : Finset (B × U)} {p : B × U} (new : p ∉ out) (b : B) :
    copiesOut (insert p out) b = copiesOut out b + if p.1 = b then 1 else 0 := by
  rw [copiesOut,Finset.filter_insert]
  split_ifs with same
  · exact Finset.card_insert_of_notMem (fun member => new (Finset.mem_filter.mp member).1)
  · rfl

@[ext] structure Ledger (B U : Type) [DecidableEq B] where
  copies : B → Option Nat
  members : Set U
  out : Finset (B × U)
  known : ∀ p ∈ out, (∃ n, copies p.1 = some n) ∧ p.2 ∈ members
  enough : ∀ b n, copies b = some n → copiesOut out b ≤ n

/-- A member who does not have the item yet can have it while a copy is left. -/
def Ledger.CanLend (L : Ledger B U) (b : B) (u : U) : Prop :=
  u ∈ L.members ∧ (b,u) ∉ L.out ∧ ∃ n, L.copies b = some n ∧ copiesOut L.out b < n

def Ledger.lend (L : Ledger B U) (b : B) (u : U) (can : L.CanLend b u) : Ledger B U where
  copies := L.copies
  members := L.members
  out := insert (b,u) L.out
  known := by
    intro p member
    obtain ⟨isMember,_,n,kept,_⟩ := can
    rcases Finset.mem_insert.mp member with rfl | old
    · exact ⟨⟨n,kept⟩,isMember⟩
    · exact L.known p old
  enough := by
    intro c n kept
    obtain ⟨_,new,m,known,left⟩ := can
    rw [copiesOut_insert new]
    have before := L.enough c n kept
    split_ifs with same
    · obtain rfl : b = c := same
      rw [known] at kept
      cases kept
      omega
    · exact before

def Ledger.giveBack (L : Ledger B U) (b : B) (u : U) : Ledger B U where
  copies := L.copies
  members := L.members
  out := L.out.erase (b,u)
  known := fun p member => L.known p (Finset.mem_of_mem_erase member)
  enough := fun c n kept => Nat.le_trans (copiesOut_mono (Finset.erase_subset _ _) c) (L.enough c n kept)

open Classical in
/-- Lending, if it is possible. -/
noncomputable def Ledger.tryLend (L : Ledger B U) (b : B) (u : U) : Option (Ledger B U) :=
  if can : L.CanLend b u then some (L.lend b u can) else none

/-- Giving back what is out. -/
def Ledger.tryGiveBack (L : Ledger B U) (b : B) (u : U) : Option (Ledger B U) :=
  if (b,u) ∈ L.out then some (L.giveBack b u) else none

theorem tryLend_can {L : Ledger B U} {b : B} {u : U} (can : L.CanLend b u) : L.tryLend b u = some (L.lend b u can) :=
  dif_pos can

theorem tryLend_cannot {L : Ledger B U} {b : B} {u : U} (cannot : ¬ L.CanLend b u) : L.tryLend b u = none :=
  dif_neg cannot

/-- Giving back what is not out changes nothing. -/
theorem giveBack_absent {L : Ledger B U} {b : B} {u : U} (absent : (b,u) ∉ L.out) : L.giveBack b u = L :=
  Ledger.ext rfl rfl (Finset.erase_eq_of_notMem absent)

end LibraryServer.Ledgers
