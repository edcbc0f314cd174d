import TileKernel.Lowering.Calls
import TileKernel.Proofs.Tensor.Broadcasting

/-! # Constants beside tensors

An operator with a constant on its left is a method of the tensor on its right. For most operators this is the operator itself,
applied to the constant as a tensor; sums, products and logical connectives take the operands in the other order, and are
accepted in both orders or in none. A shift to the right goes by the sign of the tensor on its right, not of the constant that
is shifted, and two operators have no such method.
-/

namespace TileKernel

open IR

namespace Within

variable {σ α β : Type} {R : σ → σ → Prop} {x y : Within R α}

/-- Two steps are accepted in the same states. -/
def Alike (x y : Within R α) : Prop := ∀ s, (∃ a s', x.run s = .ok a s') ↔ ∃ a s', y.run s = .ok a s'

theorem Alike.of_eq (h : x = y) : Alike x y := fun _ => h ▸ Iff.rfl

theorem Alike.of_refused (hx : ∀ s a s', x.run s ≠ .ok a s') (hy : ∀ s a s', y.run s ≠ .ok a s') : Alike x y := by
  intro s
  refine iff_of_false ?_ ?_
  · rintro ⟨a, s', h⟩
    exact hx s a s' h
  · rintro ⟨a, s', h⟩
    exact hy s a s' h

theorem Alike.bind [Composes R] {f g : α → Within R β} (h : ∀ a s s', x.run s = .ok a s' → Alike (f a) (g a)) :
    Alike (x >>= f) (x >>= g) := by
  intro s
  cases hx : x.run s with
  | ok a t => simpa only [bind_run hx] using h a s t hx t
  | error f t => simp only [bind_run_error hx]

end Within

namespace Tensor

open IR.Emit Within

variable {t u v l r : Tensor} {x y z : Tile} {e : Scalar}

/-! ## A number beside a tensor -/

/-- Spread a number over the block of a tensor. -/
def spread (u t : Tensor) : Emit Tensor :=
  match t.type with
  | .block _ shape => splat u shape
  | _ => pure u

theorem broadcastPair_number (hu : u.type = .scalar e) (t : Tensor) :
    broadcastPair t u = (do return (t, ← spread u t)) ∧ broadcastPair u t = (do return (← spread u t, t)) := by
  unfold broadcastPair spread
  rw [hu]
  cases t.type <;> simp

theorem dtype_spread (hu : u.type = .scalar e) {b b' : Builder} (h : (spread u t).run b = .ok v b') : v.dtype = .scalar e := by
  have hnumber : u.Is ⟨e, [], by decide⟩ := hu
  unfold spread at h
  split at h
  · rename_i shape _
    rcases eq_or_ne shape [] with rfl | hne
    · cases h
    · obtain ⟨z, ⟨rfl, -⟩, hv⟩ := (splat_gives hnumber hne b rfl).2 v b' h
      exact element_eq hv
  · obtain ⟨rfl, -⟩ := pure_eq_ok.1 h
    exact element_eq hnumber

theorem checkPointerOperand_number (e : Scalar) (ty : Ty) (allowed : Bool) :
    Types.checkPointerOperand (.scalar e) ty allowed = .ok () := rfl

theorem cast_self {ty : Ty} (h : t.retyped ty = t.type) : cast t ty = pure t := by
  simp [cast, throughSingle, castElement, h]

theorem retyped_dtype (h : t.dtype = .scalar e) : t.retyped (.scalar e) = t.type := by
  unfold dtype at h
  unfold retyped
  cases ht : t.type <;> simp_all [Ty.element]

theorem binary_alike (o o' : Opcode.Plain) : Alike (binary o l r) (binary o' u v) :=
  fun _ => iff_of_true ⟨_, _, rfl⟩ ⟨_, _, rfl⟩

/-! ## Logical connectives -/

theorem integerPromote_bool : ∀ a : Scalar, a.isInt →
    Types.integerPromote (.scalar a) (.scalar .int1) = .ok (.scalar a) ∧ Types.integerPromote (.scalar .int1) (.scalar a) = .ok (.scalar a) := by
  decide +kernel

theorem bitwise_alike (o : Opcode.Plain) (hu : u.type = .int1) (t : Tensor) : Alike (bitwise o t u) (bitwise o u t) := by
  obtain ⟨hleft, hright⟩ := broadcastPair_number hu t
  unfold bitwise bitOperands operands
  simp only [hleft, hright, bind_assoc, pure_bind, Bool.false_and, Bool.false_eq_true, if_false]
  refine .bind fun v b b' hv => ?_
  have hv : v.dtype = .scalar .int1 := dtype_spread hu hv
  by_cases hint : t.dtype.isInt
  · obtain ⟨a, ht, ha⟩ : ∃ a : Scalar, t.dtype = .scalar a ∧ (Ty.scalar a).isInt := by
      cases h : t.dtype with
      | scalar a => exact ⟨a, rfl, h ▸ hint⟩
      | pointer _ _ | block _ _ =>
        rw [h] at hint
        cases hint
    obtain ⟨hleft, hright⟩ := integerPromote_bool a ha
    have hbool : (Ty.scalar .int1).isInt := rfl
    simp only [hv, ht, checkPointerOperand_number, ha, hbool, hleft, hright, liftExcept, cast_self (retyped_dtype ht), pure_bind,
      bind_assoc, Bool.not_true, Bool.or_self, Bool.false_eq_true, if_false]
    exact .bind fun _ _ _ _ => binary_alike o o
  · refine .of_refused ?_ ?_ <;>
    · intro s a s' h
      obtain ⟨_, _, -, h⟩ := bind_eq_ok.1 h
      obtain ⟨_, _, -, h⟩ := bind_eq_ok.1 h
      simp [hint] at h
      cases h

theorem asBool_refused (hu : u.type = .scalar e) (he : e ≠ .int1) : asBool u = throw (.bitcastSize e.bits 1) := by
  have hbits : ∀ e : Scalar, e ≠ .int1 → e.bits ≠ 1 := by decide
  have htype : u.type ≠ .int1 := fun h => he (Ty.scalar.inj (hu.symm.trans h))
  have hretyped : u.retyped .int1 = .int1 := by rw [retyped, hu]
  rw [asBool, if_neg htype, bitcast, hretyped, if_neg htype, hu]
  exact if_pos (hbits e he)

theorem logical_alike (o : Opcode.Plain) (hu : u.type = .scalar e) (t : Tensor) :
    Alike (do bitwise o (← asBool t) (← asBool u)) (do bitwise o (← asBool u) (← asBool t)) := by
  by_cases he : e = .int1
  · subst he
    have hbool : asBool u = pure u := if_pos hu
    simp only [hbool, pure_bind]
    exact .bind fun t _ _ _ => bitwise_alike o hu t
  · rw [asBool_refused hu he]
    refine .of_refused ?_ ?_
    · intro s a s' h
      obtain ⟨_, _, -, h⟩ := bind_eq_ok.1 h
      cases h
    · intro s a s' h
      cases h

/-! ## Sums and products -/

theorem add_pointer (ht : t.dtype.isPtr) (hu : u.type = .scalar e) : Alike (add t u) (add u t) := by
  obtain ⟨hleft, hright⟩ := broadcastPair_number hu t
  unfold add operands
  simp only [hleft, hright, bind_assoc, pure_bind]
  refine .bind fun v b b' hv => .of_eq ?_
  have hv := dtype_spread hu hv
  have hscalar : (Ty.scalar e).isPtr = false := rfl
  simp [hv, ht, checkPointerOperand_number, hscalar, liftExcept]

theorem mul_pointer (ht : t.dtype.isPtr) (hu : u.type = .scalar e) : Alike (mul t u) (mul u t) := by
  obtain ⟨hleft, hright⟩ := broadcastPair_number hu t
  unfold mul operands
  simp only [hleft, hright, bind_assoc, pure_bind]
  refine .bind fun v b b' hv => ?_
  have hv := dtype_spread hu hv
  have hpointer (ty : Ty) : Types.checkPointerOperand t.dtype ty false = .error (.incompatibleOperands t.dtype ty) := by
    simp [Types.checkPointerOperand, ht]
  refine .of_refused ?_ ?_ <;>
  · intro s a s' h
    simp only [hpointer, hv, checkPointerOperand_number] at h
    cases h

theorem operands_exchanged {rule : OperandRule} (hrule : rule.promote) (hl : l.Is x) (hr : r.Is y)
    {f : Tensor × Tensor → Emit Tensor}
    (hf : ∀ (target : Target) p (z : Tile), z.element.isPlain → p.1.Is z → p.2.Is z → Gives (f p) target (· = z) Is) :
    Alike (operands rule l r >>= f) (operands rule r l >>= f) := by
  have hgives {l r : Tensor} {x y : Tile} (target : Target) (hl : l.Is x) (hr : r.Is y) :
      Gives (operands rule l r >>= f) target (Tile.Meets target rule.division x y) Is := by
    refine ((operands_gives hrule hl hr).bind fun p z hz hp =>
      hf target p z (Types.isPlain_of_promote? hz.element) hp.1 hp.2).congr fun z => ?_
    simp
  intro b
  rw [(hgives b.target hl hr).ok_iff rfl, (hgives b.target hr hl).ok_iff rfl]
  exact exists_congr fun z => ⟨.symm, .symm⟩

theorem byClass_gives {target : Target} (hz : z.element.isPlain) (hl : l.Is z) (float int : Opcode.Plain) :
    Gives (do binary (← byClass l.dtype float int) l r) target (· = z) Is := by
  have hdtype : l.dtype = .scalar z.element := element_eq hl
  have hclass : ∀ e : Scalar, e.isPlain → (Ty.scalar e).isFloating ∨ (Ty.scalar e).isInt := by decide
  unfold byClass
  split_ifs with hf hi
  · exact build_gives _ _ float.2 hl
  · exact build_gives _ _ int.2 hl
  · exact absurd (hclass _ hz) (by rw [← hdtype]; simp [hf, hi])

theorem add_number (ht : (∃ x : Tile, t.Is x) ∨ t.dtype.isPtr) (hu : u.type = .scalar e) : Alike (add t u) (add u t) := by
  rcases ht with ⟨x, hx⟩ | ht
  · refine operands_exchanged rfl hx (show u.Is ⟨e, [], by decide⟩ from hu) fun target p z hz hl hr => ?_
    have hdtype {t : Tensor} (ht : t.Is z) : t.dtype.isPtr = false := by rw [dtype, element_eq ht]; rfl
    simp only [hdtype hl, hdtype hr, Bool.false_and, Bool.false_eq_true, if_false]
    exact byClass_gives hz hl _ _
  · exact add_pointer ht hu

theorem mul_number (ht : (∃ x : Tile, t.Is x) ∨ t.dtype.isPtr) (hu : u.type = .scalar e) : Alike (mul t u) (mul u t) := by
  rcases ht with ⟨x, hx⟩ | ht
  · exact operands_exchanged rfl hx (show u.Is ⟨e, [], by decide⟩ from hu) fun target p z hz hl hr => byClass_gives hz hl _ _
  · exact mul_pointer ht hu

theorem shiftRight_alike (s s' : Tensor) : Alike (shiftRight s l r) (shiftRight s' l r) := by
  have hbitwise (o o' : Opcode.Plain) : Alike (bitwise o l r) (bitwise o' l r) := .bind fun _ _ _ _ => binary_alike o o'
  unfold shiftRight
  split_ifs <;> exact hbitwise _ _

end Tensor

namespace Lowering.Expression

open Source Within

variable {c : Value} {t u : Tensor} {name : String}

theorem result_alike {x y : Emit Tensor} (h : Alike x y) : Alike (liftM (Rule.result x) : Lower Value) (liftM (Rule.result y)) := by
  intro s
  have hresult (x : Emit Tensor) :
      (∃ v s', (liftM (Rule.result x) : Lower Value).run s = .ok v s') ↔ ∃ a b, x.run s.builder = .ok a b := by
    constructor
    · rintro ⟨v, s', h⟩
      obtain ⟨a, _, hemit, -⟩ := bind_eq_ok.1 (show (Rule.result x).run s = .ok v s' from h)
      obtain ⟨b, hx, -⟩ := Lower.ofBuild_eq_ok hemit
      exact ⟨a, b, hx⟩
    · rintro ⟨a, b, hx⟩
      exact ⟨_, _, bind_run (Rule.emit_run hx) _⟩
  rw [hresult, hresult]
  exact h s.builder

theorem type_toTensor (hc : ∀ u, c.unwrap ≠ .tensor u) {s s' : LowerState}
    (h : (liftM (Rule.toTensor c) : Lower Tensor).run s = .ok u s') : ∃ e, u.type = .scalar e := by
  change (Rule.toTensor c).run s = .ok u s' at h
  unfold Rule.toTensor at h
  split at h
  · cases h
    exact ⟨_, rfl⟩
  · obtain ⟨ty, _, hty, hbuild⟩ := bind_eq_ok.1 h
    cases hbuild
    unfold Rule.intType at hty
    split_ifs at hty <;> cases hty <;> exact ⟨_, rfl⟩
  · cases h
    unfold Rule.floatType
    split_ifs <;> exact ⟨_, rfl⟩
  · exact absurd ‹_› (hc _)
  · cases h

theorem applyMethod_right (hc : ∀ u, c.unwrap ≠ .tensor u) (t : Tensor) : applyMethod name c (.tensor t) =
    match Operators.method? (Methods.reflected name) with
    | some p => p.call .none true [.tensor t, c] []
    | none => Lower.refuse .missingAttribute := by
  unfold applyMethod
  split
  · exact absurd rfl (hc _)
  · rename_i heq
    cases heq
    rfl
  · rename_i heq
    exact absurd rfl (heq t)

/-- What an operator does with a constant on its left, once that is the tensor `u`. -/
def withLeft (name : String) (u t : Tensor) : Lower Value :=
  match name with
  | "__rshift__" => Rule.result (Tensor.shiftRight t u t)
  | "__add__" | "__mul__" | "logical_and" | "logical_or" => applyMethod name (.tensor t) (.tensor u)
  | _ => applyMethod name (.tensor u) (.tensor t)

def IsOperator (name : String) : Prop :=
  (∃ op, op ≠ BinaryOp.pow ∧ Methods.ofBinary op = some name) ∨ (∃ op, Methods.ofCompare op = some name) ∨
    name ∈ ["logical_and", "logical_or"]

theorem of_methods {f f' : Tensor → Tensor → Emit Tensor} {n : String} {g : Bool} (hc : ∀ u, c.unwrap ≠ .tensor u)
    (hright : Operators.method? (Methods.reflected name) = some (Operators.binary n g f))
    (hdirect : ∀ u, applyMethod name (.tensor u) (.tensor t) = liftM (Rule.result (f' u t)))
    (hleft : ∀ u, withLeft name u t = liftM (Rule.result (f t u))) (halike : ∀ u e, u.type = .scalar e → Alike (f t u) (f' u t)) :
    applyMethod name c (.tensor t) = (do withLeft name (← Rule.toTensor c) t) ∧
      Alike (applyMethod name c (.tensor t)) (do applyMethod name (.tensor (← Rule.toTensor c)) (.tensor t)) := by
  have hmethod : applyMethod name c (.tensor t) = (do withLeft name (← Rule.toTensor c) t) := by
    rw [applyMethod_right hc, hright]
    simp only [hleft]
    cases g <;> rfl
  refine ⟨hmethod, ?_⟩
  rw [hmethod]
  refine .bind fun u _ _ hu => ?_
  obtain ⟨e, he⟩ := type_toTensor hc hu
  rw [hleft, hdirect]
  exact result_alike (halike u e he)

theorem constant_on_left (hc : ∀ u, c.unwrap ≠ .tensor u) (ht : (∃ x : Tile, t.Is x) ∨ t.dtype.isPtr = true)
    (hname : IsOperator name) :
    (name ∈ ["__eq__", "__ne__"] → applyMethod name c (.tensor t) = Lower.refuse .missingAttribute) ∧
    (name ∉ ["__eq__", "__ne__"] → applyMethod name c (.tensor t) = (do withLeft name (← Rule.toTensor c) t) ∧
      Alike (applyMethod name c (.tensor t)) (do applyMethod name (.tensor (← Rule.toTensor c)) (.tensor t))) := by
  by_cases hmissing : name ∈ ["__eq__", "__ne__"]
  · refine ⟨fun _ => ?_, fun h => absurd hmissing h⟩
    rcases List.mem_pair.1 hmissing with rfl | rfl <;> exact applyMethod_right hc t
  refine ⟨fun h => absurd h hmissing, fun _ => ?_⟩
  rcases hname with ⟨op, hop, h⟩ | ⟨op, h⟩ | h
  · cases op with
    | pow => exact absurd rfl hop
    | add =>
      cases h
      exact of_methods hc rfl (fun _ => rfl) (fun _ => rfl) fun _ _ hu => Tensor.add_number ht hu
    | mult =>
      cases h
      exact of_methods hc rfl (fun _ => rfl) (fun _ => rfl) fun _ _ hu => Tensor.mul_number ht hu
    | rShift =>
      cases h
      exact of_methods hc rfl (fun _ => rfl) (fun _ => rfl) fun _ _ _ => Tensor.shiftRight_alike _ _
    | _ => cases h <;> exact of_methods hc rfl (fun _ => rfl) (fun _ => rfl) fun _ _ _ => .of_eq rfl
  · cases op with
    | eq | notEq =>
      cases h
      exact absurd (by decide) hmissing
    | _ => cases h <;> exact of_methods hc rfl (fun _ => rfl) (fun _ => rfl) fun _ _ _ => .of_eq rfl
  · rcases List.mem_pair.1 h with rfl | rfl <;>
      exact of_methods hc rfl (fun _ => rfl) (fun _ => rfl) fun _ _ hu => Tensor.logical_alike _ hu t

theorem shift_of_constant : applyMethod "__rshift__" (.const (.int (-8))) (.tensor ⟨some 0, .uint32⟩) =
      (do withLeft "__rshift__" (← Rule.toTensor (.const (.int (-8)))) ⟨some 0, .uint32⟩) :=
  have ht : (⟨some 0, .uint32⟩ : Tensor).Is ⟨.uint32, [], by decide⟩ := rfl
  ((constant_on_left (fun _ h => Value.noConfusion h) (.inl ⟨_, ht⟩) (.inl ⟨.rShift, by decide, rfl⟩)).2 (by decide)).1

/-- A constant is not compared for equality with a tensor on its right, although it could be as a tensor. -/
theorem equality_refused_on_left :
    (∃ f s', (applyMethod "__eq__" (.const (.int 0)) (.tensor ⟨some 0, .int32⟩)).run default = .error f s') ∧
    ∃ v s', (do applyMethod "__eq__" (.tensor (← Rule.toTensor (.const (.int 0)))) (.tensor ⟨some 0, .int32⟩) : Lower Value).run
      default = .ok v s' :=
  ⟨⟨_, _, rfl⟩, ⟨_, _, rfl⟩⟩

end Lowering.Expression

end TileKernel
