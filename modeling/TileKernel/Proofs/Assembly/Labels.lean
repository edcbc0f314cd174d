import Mathlib.Data.List.Induction
import TileKernel.Assembly.Listing
import TileKernel.Proofs.Steps

/-! # Labels of listings

Labels stand for the targets of branches, in the order in which these are mentioned.
-/

namespace TileKernel.Assembly

open List Steps

theorem labels_nodup_mem (is : List Instruction) :
    (labels is).Nodup ∧ ∀ a, a ∈ labels is ↔ ∃ i ∈ is, i.target = some a := by
  induction is using reverseRecOn with
  | nil => simp [labels]
  | append_singleton is i ih =>
    have hlast : labels (is ++ [i]) = i.target.elim (labels is) (labels is).add := by simp [labels]
    rw [hlast]
    cases hi : i.target <;> grind [Labels.add]

theorem Labels.number?_eq_some {ls : Labels} (h : ls.Nodup) {a k : Nat} : ls.number? a = some k ↔ ls[k]? = some a := by
  rw [Labels.number?, findIdx?_eq_some_iff_getElem]
  grind [List.Nodup, pairwise_iff_getElem]

end TileKernel.Assembly
