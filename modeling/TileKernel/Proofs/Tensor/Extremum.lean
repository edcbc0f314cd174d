import TileKernel.Proofs.Meaning.Run

/-! # Extrema with their places

A reduction that looks for the place of an extremum combines pairs of a value and its index, in whatever order the machine
likes. The library's functions that combine two pairs prefer the better value and, of equal values, the lesser index. So each
tree of combinations gives the same pair.
-/

namespace TileKernel.Extremum

open Meaning Meaning.Code Meaning.Procedure

inductive Goal where
  | largest | smallest

variable (g : Goal) (p q : Int × Int)

namespace Goal

def name : Goal → String
  | largest => "_argmax_combine_tie_break_left"
  | smallest => "_argmin_combine_tie_break_left"

def beats : Goal → Int → Int → Bool
  | largest, a, b => b < a
  | smallest, a, b => a < b

/-- A pair is before another one: its value is better, or as good with an index that is not greater. -/
def Leads : Prop := g.beats p.1 q.1 ∨ p.1 = q.1 ∧ p.2 ≤ q.2

def pick : Int × Int := if g.beats p.1 q.1 || (p.1 = q.1 && p.2 < q.2) then p else q

theorem Leads.trans {g : Goal} {p q r : Int × Int} (h : g.Leads p q) (h' : g.Leads q r) : g.Leads p r := by
  cases g <;> simp only [Leads, beats, decide_eq_true_eq] at * <;> omega

theorem pick_eq : g.pick p q = p ∨ g.pick p q = q := ite_eq_or_eq ..

theorem pick_leads : g.Leads (g.pick p q) p ∧ g.Leads (g.pick p q) q := by
  unfold pick
  split
  all_goals
    rename_i h
    cases g <;> simp only [Leads, beats, Bool.or_eq_true, Bool.and_eq_true, decide_eq_true_eq, true_and] at h ⊢ <;>
      omega

end Goal

/-! ## The functions of the library -/

/-- Combine two pairs, by the names that a function uses. -/
def combine (op : Source.CompareOp) (test value index : String) : Procedure where
  params := ["value1", "index1", "value2", "index2", "tie_break_left"]
  body := .block [
    .cond "tie_break_left"
      (.block [.assign "tie" (.binary .bitAnd (.compare .eq "value1" "value2") (.compare .lt "index1" "index2"))])
      (.block [.assign "tie" (.literal (.bool false))]),
    .assign test (.binary .bitOr (.compare op "value1" "value2") "tie"),
    .assign value (apply "where" [test, "value1", "value2"]), .assign index (apply "where" [test, "index1", "index2"])]
  result := several [value, index]

def withTies (f : String) : Procedure where
  params := ["value1", "index1", "value2", "index2"]
  body := .block []
  result := apply f ["value1", "index1", "value2", "index2", .literal (.bool true)]

def library : Call :=
  (Setting.call {}).defineLines .empty "_argmax_combine" (between 130 138 Lowering.Library.standardLines)
    |>.defineLines .empty "_argmax_combine_tie_break_left" (between 142 143 Lowering.Library.standardLines)
    |>.defineLines .empty "_argmin_combine" (between 182 190 Lowering.Library.standardLines)
    |>.defineLines .empty "_argmin_combine_tie_break_left" (between 194 195 Lowering.Library.standardLines)

section

set_option maxRecDepth 4000

theorem ofLines_largest : Procedure.ofLines (between 130 138 Lowering.Library.standardLines) =
    some (combine .gt "gt" "v_ret" "i_ret") := by
  rw [Procedure.ofLines_eq (by repeat' constructor)]
  decide +kernel

theorem ofLines_smallest : Procedure.ofLines (between 182 190 Lowering.Library.standardLines) =
    some (combine .lt "lt" "value_ret" "index_ret") := by
  rw [Procedure.ofLines_eq (by repeat' constructor)]
  decide +kernel

theorem ofLines_largest_ties : Procedure.ofLines (between 142 143 Lowering.Library.standardLines) =
    some (withTies "_argmax_combine") := by
  rw [Procedure.ofLines_eq (by repeat' constructor)]
  decide +kernel

theorem ofLines_smallest_ties : Procedure.ofLines (between 194 195 Lowering.Library.standardLines) =
    some (withTies "_argmin_combine") := by
  rw [Procedure.ofLines_eq (by repeat' constructor)]
  decide +kernel

end

def cells (p : Int × Int) : List Meaning.Value := [.int p.1, .int p.2]

theorem library_picks : library g.name (cells p ++ cells q) [] = some (.tuple (cells (g.pick p q))) := by
  rw [library, Call.defineLines_eq ofLines_largest, Call.defineLines_eq ofLines_largest_ties,
    Call.defineLines_eq ofLines_smallest, Call.defineLines_eq ofLines_smallest_ties]
  cases g
  all_goals
    simp only [Goal.name, cells, Goal.pick, Goal.beats]
    simp [combine, withTies]
    split <;> exact ⟨rfl, rfl⟩

/-! ## Trees of combinations -/

inductive Tree where
  | leaf (p : Int × Int)
  | node (l r : Tree)

namespace Tree

def leaves : Tree → List (Int × Int)
  | leaf p => [p]
  | node l r => l.leaves ++ r.leaves

/-- Reduce the leaves by a function of the library. -/
def reduce (f : String) : Tree → Option (List Meaning.Value)
  | leaf p => some (cells p)
  | node l r => do (← library f ((← l.reduce f) ++ (← r.reduce f)) []).items

theorem reduce_leads (t : Tree) : ∃ p ∈ t.leaves, t.reduce g.name = some (cells p) ∧ ∀ q ∈ t.leaves, g.Leads p q := by
  induction t with
  | leaf p =>
    refine ⟨p, .head _, rfl, fun q hq => ?_⟩
    rw [List.mem_singleton.1 hq]
    exact .inr ⟨rfl, le_rfl⟩
  | node l r ihl ihr =>
    obtain ⟨p, hp, hl, hpl⟩ := ihl
    obtain ⟨q, hq, hr, hqr⟩ := ihr
    have hreduce : (node l r).reduce g.name = some (cells (g.pick p q)) := by
      simp only [reduce, hl, hr, Option.bind_eq_bind, Option.bind_some, library_picks, Value.items]
    obtain ⟨hfirst, hsecond⟩ := g.pick_leads p q
    refine ⟨g.pick p q, ?_, hreduce, fun x hx => ?_⟩
    · rcases g.pick_eq p q with h | h
      · rw [h]
        exact List.mem_append_left _ hp
      · rw [h]
        exact List.mem_append_right _ hq
    · rcases List.mem_append.1 hx with hx | hx
      · exact hfirst.trans (hpl x hx)
      · exact hsecond.trans (hqr x hx)

end Tree

/-- In whatever order pairs are combined, the result is the extreme value with the least index at which it occurs. -/
theorem extremum_leftmost {ps : List (Int × Int)} (t : Tree) (h : t.leaves.Perm ps) :
    (∃ p ∈ ps, t.reduce "_argmax_combine_tie_break_left" = some [.int p.1, .int p.2] ∧
      ∀ q ∈ ps, q.1 ≤ p.1 ∧ (q.1 = p.1 → p.2 ≤ q.2)) ∧
    ∃ p ∈ ps, t.reduce "_argmin_combine_tie_break_left" = some [.int p.1, .int p.2] ∧
      ∀ q ∈ ps, p.1 ≤ q.1 ∧ (q.1 = p.1 → p.2 ≤ q.2) := by
  constructor
  · obtain ⟨p, hp, hrun, hleads⟩ := t.reduce_leads .largest
    refine ⟨p, h.mem_iff.1 hp, hrun, fun q hq => ?_⟩
    have hlead := hleads q (h.mem_iff.2 hq)
    simp only [Goal.Leads, Goal.beats, decide_eq_true_eq] at hlead
    omega
  · obtain ⟨p, hp, hrun, hleads⟩ := t.reduce_leads .smallest
    refine ⟨p, h.mem_iff.1 hp, hrun, fun q hq => ?_⟩
    have hlead := hleads q (h.mem_iff.2 hq)
    simp only [Goal.Leads, Goal.beats, decide_eq_true_eq] at hlead
    omega

/-- Three pairs with two equal values, combined from the right and out of order. -/
theorem leftmost_of_three : ∃ p ∈ [((7 : Int), (0 : Int)), (9, 1), (9, 2)],
    (Tree.node (.leaf (9, 2)) (.node (.leaf (7, 0)) (.leaf (9, 1)))).reduce "_argmax_combine_tie_break_left" =
      some [.int p.1, .int p.2] ∧ ∀ q ∈ [((7 : Int), (0 : Int)), (9, 1), (9, 2)], q.1 ≤ p.1 ∧ (q.1 = p.1 → p.2 ≤ q.2) :=
  (extremum_leftmost _ (by decide)).1

end TileKernel.Extremum
