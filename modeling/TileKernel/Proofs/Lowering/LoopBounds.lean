import TileKernel.Lowering.Branch
import Mathlib.Data.BitVec
import Mathlib.Tactic.Linarith

/-! # Bounds of counted loops

The bounds and the step of a counted loop are integers of any types: tensors, or constants of the type that they need. They are
converted to the type that they promote to. The conversion fills up a word by the sign of the type that it converts to, not of
the type that the word is of, so the numbers in the upper half of an unsigned type change on the way to a wider signed one.
-/

namespace TileKernel

namespace Scalar

def least (s : Scalar) : Int := if s.isSignedInt then -2 ^ (s.bits - 1) else 0

def Holds (s : Scalar) (n : Int) : Prop := s.least ≤ n ∧ n < s.least + 2 ^ s.bits

instance (s : Scalar) (n : Int) : Decidable (s.Holds n) := inferInstanceAs (Decidable (_ ∧ _))

def word (s : Scalar) (n : Int) : BitVec s.bits := .ofInt s.bits n

/-- The number that a word of an integer type stands for. -/
def number (s : Scalar) (x : BitVec s.bits) : Int := if s.isSignedInt then x.toInt else x.toNat

/-- A word as the conversion to an integer type makes it: what is missing is filled with the highest bit if this type, not
the one that the word is of, has a sign. -/
def convert (p : Scalar) {w : Nat} (x : BitVec w) : BitVec p.bits :=
  if p.isSignedInt then x.signExtend p.bits else x.setWidth p.bits

variable {s : Scalar} {n : Int}

theorem bits_pos (h : s.isInt) : 0 < s.bits := by
  cases s with
  | void => cases h
  | _ => decide

theorem two_pow_eq {k : Nat} (hk : 0 < k) : (2 : Int) ^ k = 2 * 2 ^ (k - 1) := by
  rw [← Int.pow_succ', Nat.sub_one_add_one (Nat.ne_of_gt hk)]

theorem bmod_two_pow_iff {k : Nat} (hk : 0 < k) : n.bmod (2 ^ k) = n ↔ -2 ^ (k - 1) ≤ n ∧ n < 2 ^ (k - 1) := by
  rw [← BitVec.toInt_ofInt]
  refine ⟨fun h => ?_, fun h => BitVec.toInt_ofInt_eq_self hk h.1 h.2⟩
  rw [← h]
  exact ⟨BitVec.le_toInt _, BitVec.toInt_lt⟩

theorem toNat_word (hle : 0 ≤ n) (hlt : n < 2 ^ s.bits) : ((s.word n).toNat : Int) = n := by
  rw [word, BitVec.toNat_ofInt, Int.toNat_of_nonneg (Int.emod_nonneg _ (by positivity))]
  exact Int.emod_eq_of_lt hle (by exact_mod_cast hlt)

theorem number_word (hs : s.isInt) (hn : s.Holds n) : s.number (s.word n) = n := by
  obtain ⟨hleast, hgreatest⟩ := hn
  unfold number
  split
  · rename_i hsigned
    have hhalf := two_pow_eq (bits_pos hs)
    simp only [least, hsigned, if_true] at hleast hgreatest
    exact BitVec.toInt_ofInt_eq_self (bits_pos hs) hleast (by omega)
  · rename_i hsigned
    simp only [least, hsigned] at hleast hgreatest
    exact toNat_word hleast (by simpa using hgreatest)

theorem lt_two_pow (hs : s.isInt) (hn : s.Holds n) : n < 2 ^ s.bits := by
  obtain ⟨-, hgreatest⟩ := hn
  have hhalf := two_pow_eq (bits_pos hs)
  have hpos : (0 : Int) < 2 ^ (s.bits - 1) := by positivity
  unfold least at hgreatest
  split at hgreatest <;> omega

theorem toInt_signExtend_iff {p : Scalar} (hs : s.isInt) (hp : p.isInt) (hn : s.Holds n)
    (hle : -2 ^ (p.bits - 1) ≤ n) (hlt : n < 2 ^ (p.bits - 1)) :
    ((s.word n).signExtend p.bits).toInt = n ↔ (s.isSignedInt = false → n < 2 ^ (s.bits - 1)) := by
  rw [BitVec.toInt_signExtend, word, BitVec.toInt_ofInt, Int.bmod_bmod_of_dvd (Nat.pow_dvd_pow 2 (Nat.min_le_right _ _)),
    bmod_two_pow_iff (Nat.lt_min.2 ⟨bits_pos hp, bits_pos hs⟩)]
  rcases Nat.le_total p.bits s.bits with hbits | hbits
  · rw [Nat.min_eq_left hbits]
    have hwider : (2 : Int) ^ (p.bits - 1) ≤ 2 ^ (s.bits - 1) :=
      pow_le_pow_right₀ (by decide) (Nat.sub_le_sub_right hbits 1)
    exact ⟨fun _ _ => Int.lt_of_lt_of_le hlt hwider, fun _ => ⟨hle, hlt⟩⟩
  · rw [Nat.min_eq_right hbits]
    obtain ⟨hleast, hgreatest⟩ := hn
    have hhalf := two_pow_eq (bits_pos hs)
    cases hsigned : s.isSignedInt with
    | true =>
      simp only [least, hsigned, if_true] at hleast hgreatest
      exact ⟨fun _ h => Bool.noConfusion h, fun _ => ⟨hleast, by omega⟩⟩
    | false =>
      replace hleast : 0 ≤ n := by simpa [least, hsigned] using hleast
      have hneg : -2 ^ (s.bits - 1) ≤ n := Int.le_trans (Int.neg_nonpos_of_nonneg (by positivity)) hleast
      exact ⟨fun h _ => h.2, fun h => ⟨hneg, h rfl⟩⟩

/-- The conversion to an integer type keeps the numbers that both types hold, except for the upper half of an unsigned type
on the way to a signed one. -/
theorem number_convert_iff {p : Scalar} (hs : s.isInt) (hp : p.isInt) (hn : s.Holds n)
    (hheld : p.Holds n) : p.number (p.convert (s.word n)) = n ↔
      (s.isSignedInt = false → p.isSignedInt → n < 2 ^ (s.bits - 1)) := by
  obtain ⟨hleast, hgreatest⟩ := hheld
  cases hsigned : p.isSignedInt with
  | true =>
    have hhalf := two_pow_eq (bits_pos hp)
    simp only [least, hsigned, if_true] at hleast hgreatest
    simp only [number, convert, hsigned, if_true, forall_const]
    exact toInt_signExtend_iff hs hp hn hleast (by omega)
  | false =>
    simp only [least, hsigned] at hleast hgreatest
    have hword : n < 2 ^ s.bits := lt_two_pow hs hn
    refine ⟨fun _ _ h => Bool.noConfusion h, fun _ => ?_⟩
    simp only [number, convert, hsigned]
    show (((s.word n).setWidth p.bits).toNat : Int) = n
    rw [BitVec.toNat_setWidth, Int.natCast_emod, toNat_word hleast hword]
    exact Int.emod_eq_of_lt hleast (by simpa using hgreatest)

theorem intBits?_eq (h : s.isInt) : s.intBits? = some s.bits := by
  revert h
  cases s <;> decide

end Scalar

theorem Types.integerPromote_scalar {a b : Scalar} (ha : a.isInt) (hb : b.isInt) :
    ∃ p, p.isInt ∧ integerPromote (.scalar a) (.scalar b) = .ok (.scalar p) := by
  obtain ⟨sa, hsa⟩ := Option.isSome_iff_exists.1 ha
  obtain ⟨sb, hsb⟩ := Option.isSome_iff_exists.1 hb
  have hinfo (s : Scalar) (sign : Signedness) (hs : s.isInt) (hsign : s.signedness? = some sign) :
      intInfo? (.scalar s) = some (s.bits, sign) := by
    simp [intInfo?, Ty.scalar?, Scalar.intBits?_eq hs, hsign]
  simp only [integerPromote, hinfo a sa ha hsa, hinfo b sb hb hsb]
  split
  · split
    · exact ⟨a, ha, rfl⟩
    · exact ⟨b, hb, rfl⟩
  · split
    · split
      · exact ⟨a, ha, rfl⟩
      · exact ⟨b, hb, rfl⟩
    · split
      · exact ⟨b, hb, rfl⟩
      · exact ⟨a, ha, rfl⟩

namespace IR.Graph

variable {σ : List (ValueId × ValueId)} {g g' : Graph} {opcode : Opcode} {args : List Operand} {v : ValueId}

def Makes (g : Graph) (opcode : Opcode) (args : List Operand) (v : ValueId) : Prop :=
  ∃ i o, g.values[v]? = some (.result i) ∧ g.ops[i]? = some o ∧ o.opcode = opcode ∧ o.args = args ∧ o.results = [v]

theorem Makes.later (h : g.Makes opcode args v) (hlater : g.Later σ g') (hshape : opcode.takesShape = false) :
    g'.Makes opcode (renamedOperands σ args) v := by
  obtain ⟨i, o, hv, ho, rfl, rfl, hresults⟩ := h
  obtain ⟨o', ho', hop⟩ := hlater.ops ho
  exact ⟨i, o', hlater.values hv, ho', hop.opcode, hop.args hshape, hop.results.trans hresults⟩

end IR.Graph

open IR
open Within (bind_eq_ok bind_run within)

theorem IR.Builder.append_value (b : Builder) (opcode : Opcode) (args : List Operand) {count k : Nat} (hk : k < count) :
    (b.append opcode args count).2.graph.values[b.graph.values.size + k]? = some (.result b.graph.ops.size) := by
  unfold append
  cases b.cursor <;> simp [Graph.newOp, Graph.place, hk]

theorem IR.Builder.append_makes (b : Builder) (opcode : Opcode) (args : List Operand) :
    (b.append opcode args 1).2.graph.Makes opcode args b.graph.values.size :=
  ⟨_, _, b.append_value opcode args Nat.one_pos, b.append_op opcode args 1, rfl, rfl, rfl⟩

theorem IR.Emit.op_run (opcode : Opcode) (args : List Operand) (plain : opcode.isTerminator = false) (b : Builder) :
    (Emit.op opcode args plain).run b = .ok b.graph.values.size (b.append opcode args 1).2 := by
  have hresult : ((b.append opcode args 1).2.graph.op b.graph.ops.size).results.headD 0 = b.graph.values.size := by
    simp [Graph.op, b.append_op opcode args 1]
  exact congrArg (EStateM.Result.ok · (b.append opcode args 1).2) hresult

theorem Tensor.build_run {opcode : Opcode} {plain : opcode.isTerminator = false} (args : List Operand) (type : Ty) (b : Builder) :
    (build opcode args type plain).run b = .ok ⟨some b.graph.values.size, type⟩ (b.append opcode args 1).2 :=
  bind_run (Emit.op_run opcode args plain b) _

namespace Lowering

variable {s s' : LowerState}

theorem Quiet.later (h : Quiet s s') : s.builder.graph.Later [] s'.builder.graph := by
  obtain ⟨_, -, -, hlater⟩ := h.builder.later
  exact hlater

theorem Rule.op_run (opcode : Opcode) (args : List Operand) (plain : opcode.isTerminator = false) (s : LowerState) :
    ∃ v s', (Rule.emit (Emit.op opcode args plain)).run s = .ok v s' ∧ s'.builder.graph.Makes opcode args v :=
  ⟨_, _, emit_run (Emit.op_run opcode args plain s.builder), s.builder.append_makes opcode args⟩

theorem Rule.op_makes {opcode : Opcode} {args : List Operand} {plain : opcode.isTerminator = false} {v : ValueId}
    (h : (Rule.emit (Emit.op opcode args plain)).run s = .ok v s') : s'.builder.graph.Makes opcode args v := by
  obtain ⟨w, t, hrun, hmakes⟩ := Rule.op_run opcode args plain s
  cases h.symm.trans hrun
  exact hmakes

namespace Value

/-- Integers, with the type that they have as a bound: a constant has the type that it needs. -/
inductive IsInteger : Value → Scalar → Prop
  | bool (b : Bool) : IsInteger (.bool b) .int1
  | int {n : Int} {type : Scalar} (h : Rule.intType n = .ok (.scalar type)) : IsInteger (.int n) type
  | tensor {t : Tensor} {type : Scalar} (h : t.dtype = .scalar type) (integer : type.isInt = true) : IsInteger (.tensor t) type

def MayBe (v : Value) (type : Scalar) (n : Int) : Prop :=
  match v with
  | .bool b => n = b.toInt
  | .int m => n = m
  | .tensor _ => type.Holds n
  | _ => False

/-- The operand for a bound of a type: of a tensor the tensor itself, and of a constant the operation that makes it. -/
def Stands (v : Value) (type : Scalar) (g : Graph) (x : Operand) : Prop :=
  match v with
  | .bool b => ∃ c, x = .value c ∧ g.Makes .getInt1 [.bool b] c
  | .int n => ∃ c, x = .value c ∧ g.Makes (if type.bits = 32 then .getInt32 else .getInt64) [.int n] c
  | .tensor t => x = t.operand
  | _ => False

theorem Stands.later {v : Value} {type : Scalar} {g g' : Graph} {x : Operand} (h : v.Stands type g x)
    (hlater : g.Later [] g') : v.Stands type g' x := by
  unfold Stands at *
  split at h
  · obtain ⟨c, hx, hmakes⟩ := h
    exact ⟨c, hx, hmakes.later hlater rfl⟩
  · obtain ⟨c, hx, hmakes⟩ := h
    exact ⟨c, hx, hmakes.later hlater (by split <;> rfl)⟩
  · exact h
  · exact h

end Value

theorem Rule.intType_eq_ok {n : Int} {ty : Ty} (h : Rule.intType n = .ok ty) :
    ∃ s : Scalar, ty = .scalar s ∧ s.isInt ∧ s.Holds n ∧ (ty == .int32 || ty == .uint32) = decide (s.bits = 32) := by
  have hpow (k : Nat) : (0 : Int) ≤ Int.pow 2 k := Int.pow_nonneg (by decide)
  unfold Rule.intType at h
  split at h
  · cases h
    exact ⟨.int32, rfl, rfl, ‹_›, rfl⟩
  split at h
  · rename_i hn
    cases h
    exact ⟨.uint32, rfl, rfl, ⟨Int.le_trans (hpow 31) hn.1, hn.2⟩, rfl⟩
  split at h
  · cases h
    exact ⟨.int64, rfl, rfl, ‹_›, rfl⟩
  split at h
  · rename_i hn
    cases h
    exact ⟨.uint64, rfl, rfl, ⟨Int.le_trans (hpow 63) hn.1, hn.2⟩, rfl⟩
  · cases h

variable {v : Value} {type : Scalar} {n : Int} {lower upper step : Value}

theorem Value.IsInteger.isInt (h : v.IsInteger type) : type.isInt := by
  cases h with
  | bool b => rfl
  | int h =>
    obtain ⟨s, heq, hs, -⟩ := Rule.intType_eq_ok h
    exact Ty.scalar.inj heq ▸ hs
  | tensor _ integer => exact integer

theorem Value.IsInteger.holds (h : v.IsInteger type) (hn : v.MayBe type n) : type.Holds n := by
  cases h with
  | bool b =>
    cases hn
    cases b <;> decide
  | int h =>
    obtain ⟨s, heq, -, hs, -⟩ := Rule.intType_eq_ok h
    cases hn
    exact Ty.scalar.inj heq ▸ hs
  | tensor _ _ => exact hn

theorem Rule.build_run (opcode : Opcode) (args : List Operand) (type : Ty) (plain : opcode.isTerminator = false)
    (s : LowerState) : ∃ c s', (Rule.emit (Tensor.build opcode args type plain)).run s = .ok ⟨some c, type⟩ s' ∧
      s'.builder.graph.Makes opcode args c :=
  ⟨_, _, emit_run (Tensor.build_run args type s.builder), s.builder.append_makes opcode args⟩

theorem Rule.toTensor_run (h : v.unwrap.IsInteger type) (s : LowerState) :
    ∃ x s', (Rule.toTensor v).run s = .ok x s' ∧ x.dtype = .scalar type ∧
      v.unwrap.Stands type s'.builder.graph x.operand := by
  unfold Rule.toTensor
  generalize v.unwrap = w at h ⊢
  cases h with
  | bool b =>
    obtain ⟨c, s', hrun, hmakes⟩ := build_run .getInt1 [.bool b] (.scalar .int1) (.refl false) s
    exact ⟨_, s', hrun, rfl, c, rfl, hmakes⟩
  | @int n _ h =>
    obtain ⟨_, heq, -, -, hbits⟩ := Rule.intType_eq_ok h
    cases heq
    obtain ⟨c, s', hrun, hmakes⟩ := build_run
      (if Ty.scalar type == .int32 || Ty.scalar type == .uint32 then .getInt32 else .getInt64) [.int n] (.scalar type)
      (by split <;> rfl) s
    refine ⟨_, s', bind_eq_ok.2 ⟨.scalar type, s, by rw [h]; rfl, hrun⟩, rfl, c, rfl, ?_⟩
    simpa only [hbits, decide_eq_true_eq] using hmakes
  | tensor h _ => exact ⟨_, s, rfl, h, rfl⟩

theorem Rule.isInteger_of_toTensor {x : Tensor} (h : (Rule.toTensor v).run s = .ok x s')
    (hx : x.dtype.isInt) : ∃ type, v.unwrap.IsInteger type := by
  unfold Rule.toTensor at h
  split at h
  · rename_i b hv
    exact ⟨.int1, hv ▸ .bool b⟩
  · rename_i n hv
    obtain ⟨ty, t, hty, -⟩ := bind_eq_ok.1 h
    cases hn : Rule.intType n with
    | ok ty =>
      obtain ⟨type, rfl, -⟩ := Rule.intType_eq_ok hn
      exact ⟨type, hv ▸ .int hn⟩
    | error f =>
      rw [hn] at hty
      cases hty
  · rename_i y hv
    obtain ⟨c, t, hrun, -⟩ := build_run (if floatType y == .fp32 then .getFp32 else .getFp64) [.float y] (floatType y)
      (by split <;> rfl) s
    cases h.symm.trans hrun
    have hfloat : (floatType y).element.isInt = false := by
      unfold floatType
      split <;> rfl
    cases hfloat.symm.trans hx
  · rename_i t hv
    obtain ⟨rfl, -⟩ := Within.pure_eq_ok.1 h
    cases htype : t.dtype with
    | scalar type =>
      rw [htype] at hx
      exact ⟨type, hv ▸ .tensor htype hx⟩
    | _ =>
      rw [htype] at hx
      cases hx
  · cases h

namespace Loop

def Converts (v : Value) (type p : Scalar) (g : Graph) (c : ValueId) : Prop :=
  ∃ x, v.Stands type g x ∧ g.Makes .intCast [x, .ofTy (.scalar p), .bool p.isSignedInt] c

theorem castBounds_run {a b d : Scalar} (hlower : lower.unwrap.IsInteger a)
    (hupper : upper.unwrap.IsInteger b) (hstep : step.unwrap.IsInteger d) (s : LowerState) :
    ∃ l u k p s', (castBounds lower upper step).run s = .ok (l, u, k, .scalar p) s' ∧ p.isInt ∧
      (do Types.integerPromote (← Types.integerPromote (.scalar a) (.scalar b)) (.scalar d)) = .ok (.scalar p) ∧
      Converts lower.unwrap a p s'.builder.graph l ∧ Converts upper.unwrap b p s'.builder.graph u ∧
      Converts step.unwrap d p s'.builder.graph k := by
  obtain ⟨x, s₁, hx, hxtype, hxstands⟩ := Rule.toTensor_run hlower s
  obtain ⟨y, s₂, hy, hytype, hystands⟩ := Rule.toTensor_run hupper s₁
  obtain ⟨z, s₃, hz, hztype, hzstands⟩ := Rule.toTensor_run hstep s₂
  obtain ⟨q, hq, hpromote⟩ := Types.integerPromote_scalar hlower.isInt hupper.isInt
  obtain ⟨p, hp, hpromote'⟩ := Types.integerPromote_scalar hq hstep.isInt
  let cast (x : Operand) : List Operand := [x, .ofTy (.scalar p), .bool p.isSignedInt]
  obtain ⟨l, t₁, hl, hlmakes⟩ := Rule.op_run .intCast (cast x.operand) (.refl false) s₃
  obtain ⟨u, t₂, hu, humakes⟩ := Rule.op_run .intCast (cast y.operand) (.refl false) t₁
  obtain ⟨k, t₃, hk, hkmakes⟩ := Rule.op_run .intCast (cast z.operand) (.refl false) t₂
  -- what was made stays made
  have hlater₂ := (within _ hy).later
  have hlater₃ := (within _ hz).later
  have hlater := ((within _ hu).later.trans (within _ hk).later)
  have htail := (within _ hl).later.trans hlater
  refine ⟨l, u, k, p, t₃, ?_, hp, by rw [hpromote]; exact hpromote', ⟨x.operand, hxstands.later (hlater₂.trans (hlater₃.trans htail)), hlmakes.later hlater rfl⟩,
    ⟨y.operand, hystands.later (hlater₃.trans htail), humakes.later (within _ hk).later rfl⟩,
    ⟨z.operand, hzstands.later htail, hkmakes⟩⟩
  refine bind_eq_ok.2 ⟨x, s₁, hx, bind_eq_ok.2 ⟨y, s₂, hy, bind_eq_ok.2 ⟨z, s₃, hz, ?_⟩⟩⟩
  have hint (q : Scalar) : (Ty.scalar q).isInt = q.isInt := rfl
  simp only [hxtype, hytype, hztype, hint, hlower.isInt, hupper.isInt, hstep.isInt]
  refine bind_eq_ok.2 ⟨.scalar q, s₃, by rw [hpromote]; rfl, ?_⟩
  refine bind_eq_ok.2 ⟨.scalar p, s₃, by rw [hpromote']; rfl, ?_⟩
  exact bind_eq_ok.2 ⟨l, t₁, hl, bind_eq_ok.2 ⟨u, t₂, hu, bind_eq_ok.2 ⟨k, t₃, hk, rfl⟩⟩⟩

theorem isInteger_of_castBounds {a : ValueId × ValueId × ValueId × Ty} (h : (castBounds lower upper step).run s = .ok a s') :
    ∃ a b d, lower.unwrap.IsInteger a ∧ upper.unwrap.IsInteger b ∧ step.unwrap.IsInteger d := by
  obtain ⟨x, s₁, hx, h⟩ := bind_eq_ok.1 h
  obtain ⟨y, s₂, hy, h⟩ := bind_eq_ok.1 h
  obtain ⟨z, s₃, hz, h⟩ := bind_eq_ok.1 h
  split at h
  · cases h
  · rename_i hint
    simp only [Bool.or_eq_true, Bool.not_eq_true', not_or, Bool.not_eq_false] at hint
    obtain ⟨a, ha⟩ := Rule.isInteger_of_toTensor hx hint.1.1
    obtain ⟨b, hb⟩ := Rule.isInteger_of_toTensor hy hint.1.2
    obtain ⟨d, hd⟩ := Rule.isInteger_of_toTensor hz hint.2
    exact ⟨a, b, d, ha, hb, hd⟩

/-- A bound of eight bits without a sign. -/
def byteBound : Value := .tensor ⟨some 1, .scalar .uint8⟩

end Loop

end Lowering

end TileKernel
