import TileKernel.Proofs.Lowering.ParameterDefaults

/-! # Assignments

Targets and values are paired in order, and the longer list is cut off. An assignment is never refused for their numbers.
-/

namespace TileKernel.Lowering

open IR Source List

variable {s t u : LowerState}

namespace Statement

/-- The pairs are stored one by one; a name that comes again keeps the last value. -/
theorem forM_assignOne (pairs : List (Value × Value)) (s : LowerState) :
    Does (pairs.forM fun p => assignOne p.1 p.2) s (∀ p ∈ pairs, Storable p.2 ∧ Calls.isHashable p.1 = true) fun _ t =>
      Later s (pairs.map (place ·.1)) t ∧ ∀ before p later, pairs = before ++ p :: later → place p.1 ∉ later.map (place ·.1) →
        ∃ w, StoredAs p.2 w ∧ t.frame.scope.find? (place p.1) = some w := by
  induction pairs generalizing s with
  | nil => exact .inl ⟨by simp, (), s, rfl, .refl s [], by simp⟩
  | cons p pairs ih =>
    refine Does.iff ((assignOne_binds p.1 p.2 s).bind (q := ∀ p ∈ pairs, Storable p.2 ∧ Calls.isHashable p.1) fun _ t ht => ?_)
      forall_mem_cons
    refine (ih t).imp fun _ u hu => ⟨(ht.1.trans hu.1).mono (by simp), ?_⟩
    rintro (_ | ⟨p', before⟩) q later heq hq <;> obtain ⟨rfl, rfl⟩ := cons.inj heq
    · rw [hu.1.scope _ hq]
      exact ht.2
    · exact hu.2 before q later rfl hq

/-- An assignment evaluates the targets, then the values, and binds only then. It is accepted exactly if, of the pairs in order, every
value can be stored and every target can be bound, whatever the numbers of targets and values are. Each target is bound to its value,
unless it comes again. Any other name stands for what it stood for after the evaluation. -/
theorem assignment_binds_pairs {r : Visitors} {target e : Expr} {n v : Value} (pos : SourcePos)
    (htarget : (r.expr target).run s = .ok n t) (hvalue : (r.expr e).run t = .ok v u) :
    let pairs := (targetNames n).zip (targetNames v)
    let assignment := step r (.assign pos [target] e)
    ((∃ s', assignment.run s = .ok () s') ↔ ∀ p ∈ pairs, Storable p.2 ∧ Calls.isHashable p.1 = true) ∧
    ∀ s', assignment.run s = .ok () s' →
      (∀ before p later, pairs = before ++ p :: later → place p.1 ∉ later.map (place ·.1) →
        ∃ w, StoredAs p.2 w ∧ s'.frame.scope.find? (place p.1) = some w) ∧
      ∀ name ∉ pairs.map (place ·.1), s'.frame.scope.find? name = u.frame.scope.find? name := by
  intro pairs assignment
  have hrun : assignment.run s = (pairs.forM fun p => assignOne p.1 p.2).run u := by
    have hnames : ([target].mapM r.expr).run s = .ok [n] t := by
      rw [mapM_cons, Within.bind_run htarget]
      rfl
    exact (Within.bind_run hnames _).trans (Within.bind_run hvalue _)
  rw [hrun]
  obtain ⟨hp, _, w, hw, hlater, hbound⟩ | ⟨hp, f, w, hw⟩ := forM_assignOne pairs u
  · rw [hw]
    refine ⟨⟨fun _ => hp, fun _ => ⟨w, rfl⟩⟩, fun s' h => ?_⟩
    cases h
    exact ⟨hbound, hlater.scope⟩
  · rw [hw]
    exact ⟨⟨fun h => by simp at h, fun h => absurd h hp⟩, fun _ h => by simp at h⟩

/-- Two names. -/
def twoNames : Expr := .tuple ⟨1, 0⟩ [.name ⟨1, 0⟩ "a" .store, .name ⟨1, 4⟩ "b" .store] .store

/-- The number one, at a place. -/
def oneAt (column : Nat) : Expr := .literal ⟨1, column⟩ (.int 1)

theorem equal_numbers_accepted :
    ∃ s', (step visitors (.assign ⟨1, 0⟩ [twoNames] (.tuple ⟨1, 8⟩ [oneAt 8, oneAt 11] .load))).run default = .ok () s' := by
  have hone : Storable (.const (.int 1)) := ⟨_, rfl⟩
  exact (assignment_binds_pairs ⟨1, 0⟩ rfl rfl).1.2 (forall_mem_cons.2 ⟨⟨hone, rfl⟩, forall_mem_singleton.2 ⟨hone, rfl⟩⟩)

/-- Two names and one value leave the second name without a value; one name takes the first of two values. -/
theorem unequal_numbers_accepted :
    (∃ s', (step visitors (.assign ⟨1, 0⟩ [twoNames] (oneAt 8))).run default = .ok () s' ∧ s'.frame.scope.find? "b" = none) ∧
      ∃ s', (step visitors (.assign ⟨1, 0⟩ [.name ⟨1, 0⟩ "a" .store] (.tuple ⟨1, 4⟩ [oneAt 4, oneAt 7] .load))).run default = .ok () s' :=
  ⟨⟨_, rfl, rfl⟩, _, rfl⟩

end Statement
end TileKernel.Lowering
