import TileKernel.Proofs.Lowering.LoopBounds
import TileKernel.Proofs.Tensor.Axes
import TileKernel.Proofs.Tensor.Broadcasting

/-! # Operands that are passed on

Which dimensions of a block are checked against the bounds of its array, which words its shape, strides and offsets are passed
as, and which operands inline assembly gets. A lone dimension counts as no check at all if it is zero. Shapes and strides are
words of 64 bits, except that a tensor which has 64 bits already is cut down to 32. Inline assembly gets its arguments as they
are given, while its result has the shape that they have together.
-/

namespace TileKernel

open List

theorem Within.passed {σ α β : Type} {R : σ → σ → Prop} [Composes R] {c : Prop} [Decidable c] {f : Fault} {k : β → Within R α}
    {x : Within R α} {s s' : σ} {a : α} (h : (if c then throw f >>= k else x).run s = .ok a s') : ¬ c ∧ x.run s = .ok a s' := by
  split at h
  · cases h
  · exact ⟨‹_›, h⟩

namespace Scalar

/-- A word cut off or filled up to the width of a type; what is missing is filled with the highest bit if the sign is kept. -/
def resize (p : Scalar) (signed : Bool) {w : Nat} (x : BitVec w) : BitVec p.bits :=
  if signed then x.signExtend p.bits else x.setWidth p.bits

theorem resize_word {s : Scalar} {n : Int} (p : Scalar) (hs : s.isInt) (hn : s.Holds n) :
    p.resize s.isSignedInt (s.word n) = p.word n := by
  have hnumber := number_word hs hn
  unfold number at hnumber
  unfold resize
  split at hnumber
  · rw [if_pos ‹_›, BitVec.signExtend, hnumber, word]
  · rw [if_neg ‹_›, ← BitVec.ofNat_toNat, ← BitVec.ofInt_natCast, hnumber, word]

theorem holds_number {p : Scalar} (hp : p.isInt) (x : BitVec p.bits) : p.Holds (p.number x) := by
  have hhalf := two_pow_eq (bits_pos hp)
  unfold Holds least number
  split
  · have hle := BitVec.le_toInt x
    have hlt := BitVec.toInt_lt (x := x)
    exact ⟨hle, by omega⟩
  · have hlt : (x.toNat : Int) < 2 ^ p.bits := by exact_mod_cast x.isLt
    omega

theorem number_resize_iff {s p : Scalar} {n : Int} (hs : s.isInt) (hp : p.isInt) (hn : s.Holds n) :
    p.number (p.resize s.isSignedInt (s.word n)) = n ↔ p.Holds n := by
  rw [resize_word p hs hn]
  exact ⟨fun h => h ▸ holds_number hp _, number_word hp⟩

end Scalar

open IR
open Within (bind_eq_ok pure_eq_ok within)

/-- The operation that was built last. -/
def IR.Graph.Last (g : Graph) (opcode : Opcode) (args : List Operand) : Prop :=
  ∃ o, g.ops.back? = some o ∧ o.opcode = opcode ∧ o.args = args

theorem IR.Builder.append_last (b : Builder) (opcode : Opcode) (args : List Operand) (count : Nat) :
    (b.append opcode args count).2.graph.Last opcode args := by
  unfold Builder.append Graph.Last
  cases b.cursor <;> simp [Graph.newOp, Graph.place]

variable {t : Tensor} {args : List Operand} {opcode : Opcode}

theorem Tensor.build_last {type : Ty} {plain : opcode.isTerminator = false}
    {b b' : Builder} (h : (build opcode args type plain).run b = .ok t b') : t.type = type ∧ b'.graph.Last opcode args := by
  cases (build_run args type b).symm.trans h
  exact ⟨rfl, b.append_last opcode args 1⟩

theorem Tensor.effect_last {plain : opcode.isTerminator = false}
    {b b' : Builder} (h : (effect opcode args plain).run b = .ok t b') : b'.graph.Last opcode args := by
  obtain ⟨v, b₁, hop, h⟩ := bind_eq_ok.1 h
  obtain ⟨-, rfl⟩ := pure_eq_ok.1 h
  cases hop
  exact b.append_last opcode args 0

theorem Tensor.blockTy_eq_ok {element ty : Ty} {shape : List Int} {b b' : Builder}
    (h : (blockTy element shape).run b = .ok ty b') : ty = .block element shape ∧ b = b' := by
  unfold blockTy at h
  split at h
  · rename_i ty' hty
    obtain ⟨rfl, rfl⟩ := pure_eq_ok.1 h
    unfold Ty.makeBlock at hty
    refine ⟨?_, rfl⟩
    split at hty
    · cases hty
    · dsimp only at hty
      split at hty <;> cases hty
      rfl
  · cases h

theorem Tensor.makeBlockPtr_last {base t : Tensor} {shape strides offsets : List Operand} {block order : List Int} {b b' : Builder}
    (h : (makeBlockPtr base shape strides offsets block order).run b = .ok t b') : b'.graph.Last .makeBlockPtr
      [base.operand, .list shape, .list strides, .list offsets, .ofShape block, .ofShape order] := by
  obtain ⟨v, b₁, hop, h⟩ := bind_eq_ok.1 h
  obtain ⟨ty, b₂, hty, h⟩ := bind_eq_ok.1 h
  obtain ⟨-, rfl⟩ := pure_eq_ok.1 h
  obtain ⟨-, rfl⟩ := blockTy_eq_ok hty
  cases (Emit.op_run _ _ _ b).symm.trans hop
  exact b.append_last _ _ 1

theorem Tensor.liftExcept_eq_ok {α : Type} {x : Result α} {a : α} {b b' : Builder} (h : (liftExcept x).run b = .ok a b') :
    x = .ok a := by
  cases x with
  | ok c => exact congrArg Except.ok (pure_eq_ok.1 h).1
  | error f => cases h

variable {s s' : LowerState}

namespace Lowering

theorem Rule.result_eq_ok {x : Emit Tensor} {v : Value} (h : (Rule.result x).run s = .ok v s') :
    ∃ t, v = .tensor t ∧ x.run s.builder = .ok t s'.builder := by
  obtain ⟨t, s₁, hemit, h⟩ := bind_eq_ok.1 h
  obtain ⟨rfl, rfl⟩ := pure_eq_ok.1 h
  obtain ⟨b, hrun, rfl⟩ := Lower.ofBuild_eq_ok hemit
  exact ⟨t, rfl, hrun⟩

namespace Memory

open Rule
open Tensor (makeBlockPtr_last)

/-! ## Checked dimensions -/

/-- The dimensions that a check names, in increasing order: the items are dimensions of the block, and no two are the same. -/
def Names (v : Value) (shape dims : List Int) : Prop :=
  ∃ given, List.Forall₂ (fun (item : Value) (d : Int) => item.unwrap.int? = some d ∧ 0 ≤ d ∧ d < shape.length) (itemsOf v)
    given ∧ given.Nodup ∧ dims.Pairwise (· < ·) ∧ ∀ d, d ∈ dims ↔ d ∈ given

variable {v : Value} {shape dims : List Int} {space : Int} {e : Ty}

theorem ne_nil_of_truth (hv : v.truth) : itemsOf v ≠ [] := by
  unfold itemsOf
  split <;> simp_all [Value.truth]

theorem boundary_eq_ok_iff (hv : v.truth) : boundary v shape = .ok dims ↔ Names v shape dims := by
  have hsorted (l : List Int) := mergeSort_perm l (· ≤ ·)
  rw [boundary, hv, Bool.not_true, if_neg Bool.false_ne_true, Steps.bind_eq_ok]
  simp only [Steps.mapM_eq_ok]
  constructor
  · rintro ⟨given, hgiven, h⟩
    split at h
    · cases h
    split at h
    · cases h
    rename_i hdistinct
    rw [not_not] at hdistinct
    cases h
    refine ⟨given, hgiven.imp fun item d h => ?_, hdistinct, Shape.pairwise_lt_mergeSort hdistinct, fun d => (hsorted _).mem_iff⟩
    split at h
    · split at h <;> cases h
      exact ⟨‹_›, ‹_›⟩
    · cases h
  · rintro ⟨given, hgiven, hdistinct, hpairwise, hmem⟩
    have hne : given ≠ [] := by
      rintro rfl
      exact ne_nil_of_truth hv (forall₂_nil_right_iff.1 hgiven)
    refine ⟨given, hgiven.imp fun item d h => by simp [h.1, h.2], ?_⟩
    rw [if_neg (by simpa using hne), if_neg (not_not_intro hdistinct)]
    refine congrArg Except.ok (Perm.eq_of_pairwise' (Shape.pairwise_lt_mergeSort hdistinct) hpairwise ?_)
    exact (hsorted given).trans ((perm_ext_iff_of_nodup hdistinct (hpairwise.imp Int.ne_of_lt)).2 fun d => (hmem d).symm)

theorem blockPointee?_eq (ht : t.type = .pointer (.block e shape) space) : blockPointee? t = some (.block e shape) := by
  rw [blockPointee?, ht]

theorem load_last (ht : t.type = .pointer (.block e shape) space) {mask other : Option Tensor}
    {pad cache evict isVolatile out : Value} (h : (load (.tensor t) mask other v pad cache evict isVolatile).run s = .ok out s') :
    ∃ dims rest, boundary v shape = .ok dims ∧ s'.builder.graph.Last .tensorPointerLoad (t.operand :: .ofShape dims :: rest) := by
  obtain ⟨_, s₁, -, h⟩ := bind_eq_ok.1 h
  obtain ⟨_, s₂, -, h⟩ := bind_eq_ok.1 h
  obtain ⟨_, s₃, -, h⟩ := bind_eq_ok.1 h
  obtain ⟨_, s₄, hptr, h⟩ := bind_eq_ok.1 h
  obtain ⟨rfl, rfl⟩ := pure_eq_ok.1 hptr
  simp only [blockPointee?_eq ht] at h
  obtain ⟨u, -, h⟩ := result_eq_ok h
  dsimp only [Tensor.loadBlockPointer] at h
  obtain ⟨dims, b, hdims, h⟩ := bind_eq_ok.1 (Within.passed (Within.passed (Within.passed h).2).2).2
  exact ⟨dims, _, Tensor.liftExcept_eq_ok hdims, (Tensor.build_last h).2⟩

theorem store_last {t value : Tensor} (ht : t.type = .pointer (.block e shape) space) {mask : Option Tensor}
    {cache evict out : Value} (h : (store (.tensor t) value mask v cache evict).run s = .ok out s') :
    ∃ dims x rest, boundary v shape = .ok dims ∧
      s'.builder.graph.Last .tensorPointerStore (t.operand :: x :: .ofShape dims :: rest) := by
  obtain ⟨_, s₁, -, h⟩ := bind_eq_ok.1 h
  obtain ⟨_, s₂, -, h⟩ := bind_eq_ok.1 h
  obtain ⟨_, s₃, hptr, h⟩ := bind_eq_ok.1 h
  obtain ⟨rfl, rfl⟩ := pure_eq_ok.1 hptr
  simp only [blockPointee?_eq ht] at h
  obtain ⟨u, -, h⟩ := result_eq_ok h
  dsimp only [Tensor.storeBlockPointer] at h
  replace h := (Within.passed h).2
  split at h
  all_goals
    obtain ⟨x, b₁, -, h⟩ := bind_eq_ok.1 h
    obtain ⟨dims, b₂, hdims, h⟩ := bind_eq_ok.1 (Within.passed (Within.passed (Within.passed h).2).2).2
    exact ⟨dims, _, _, Tensor.liftExcept_eq_ok hdims, Tensor.effect_last h⟩

/-- A block pointer to a tile of a matrix. -/
def tilePointer : Tensor := ⟨some 0, .pointer (.block .fp32 [16, 32]) 1⟩

/-- The type of the word that a position is passed as. -/
def passedAs (wide : Bool) (v : Value) : Scalar :=
  if wide = true ∧ v.tensor?.map (·.dtype) ≠ some .int64 then .int64 else .int32

/-- The operand that is passed for a position: the operation that makes a constant or that resizes a tensor, or the tensor. -/
inductive Placed (wide : Bool) (g : Graph) : Value → Operand → Prop
  | constant {c : Value} {x : ValueId} (made : g.Makes (if wide then .getInt64 else .getInt32) [c.operand] x) :
      Placed wide g (.const c) (.value x)
  | resized {t : Tensor} {s : Scalar} {x : ValueId} (type : t.dtype = .scalar s) (integer : s.isInt = true)
      (made : g.Makes .intCast [t.operand, .ofTy (.scalar (passedAs wide (.tensor t))), .bool s.isSignedInt] x) :
      Placed wide g (.tensor t) (.value x)
  | kept {t : Tensor} (type : t.dtype = .scalar (passedAs wide (.tensor t))) : Placed wide g (.tensor t) t.operand

variable {wide : Bool} {x : Operand}

theorem Placed.later {g g' : Graph} (h : Placed wide g v x) (hlater : g.Later [] g') : Placed wide g' v x := by
  cases h with
  | constant made => exact .constant (made.later hlater (by split <;> rfl))
  | resized type integer made => exact .resized type integer (made.later hlater rfl)
  | kept type => exact .kept type

theorem operand_makes {plain : opcode.isTerminator = false}
    (h : (do return .value (← Emit.op opcode args plain) : Rule Operand).run s = .ok x s') :
    ∃ c, x = .value c ∧ s'.builder.graph.Makes opcode args c := by
  obtain ⟨c, s₁, hop, h⟩ := bind_eq_ok.1 h
  obtain ⟨rfl, rfl⟩ := pure_eq_ok.1 h
  exact ⟨c, rfl, op_makes hop⟩

theorem position_placed (h : (position wide v).run s = .ok x s') : Placed wide s'.builder.graph v x := by
  unfold position at h
  split at h
  · obtain ⟨c, rfl, hmakes⟩ := operand_makes h
    exact .constant hmakes
  · rename_i t
    obtain ⟨hint, h⟩ := Within.passed (Within.passed h).2
    dsimp only at h
    obtain ⟨p, htype⟩ : ∃ p, t.dtype = .scalar p := by
      cases htype : t.dtype with
      | scalar p => exact ⟨p, rfl⟩
      | _ => exact absurd (htype ▸ rfl) hint
    have hint : (Ty.scalar p).isInt := by simpa [htype] using hint
    split at h
    · rename_i hwide
      have hpassed : passedAs wide (.tensor t) = .int64 := if_pos (by simpa [Value.tensor?, and_comm] using hwide)
      obtain ⟨c, rfl, hmakes⟩ := operand_makes h
      rw [htype] at hmakes
      exact .resized htype hint (hpassed ▸ hmakes)
    · rename_i hwide
      have hpassed : passedAs wide (.tensor t) = .int32 := if_neg (by simpa [Value.tensor?, and_comm] using hwide)
      split at h
      · obtain ⟨c, rfl, hmakes⟩ := operand_makes h
        rw [htype] at hmakes
        exact .resized htype hint (hpassed ▸ hmakes)
      · rename_i hkept
        obtain ⟨rfl, rfl⟩ := pure_eq_ok.1 h
        exact .kept (hpassed ▸ not_not.1 hkept)
  · cases h

theorem positions_placed {vs : List Value} {xs : List Operand}
    (h : (vs.mapM (position wide)).run s = .ok xs s') : List.Forall₂ (Placed wide s'.builder.graph) vs xs := by
  induction vs generalizing s xs with
  | nil =>
    obtain ⟨rfl, -⟩ := pure_eq_ok.1 h
    exact .nil
  | cons v vs ih =>
    rw [mapM_cons] at h
    obtain ⟨x, s₁, hx, h⟩ := bind_eq_ok.1 h
    obtain ⟨xs, s₂, hxs, h⟩ := bind_eq_ok.1 h
    obtain ⟨rfl, rfl⟩ := pure_eq_ok.1 h
    exact .cons ((position_placed hx).later (within _ hxs).later) (ih hxs)

/-- The start of a row, and its length as a word of 32 bits without a sign. -/
def rowStart : Value := .tensor ⟨some 0, .pointer .fp32 1⟩

def rowLength : Tensor := ⟨some 1, .scalar .uint32⟩

end Memory

end Lowering

/-! ## Inline assembly -/

namespace Tensor

open Shape (Joins)

variable {tile : Tensor → Tile} {b b' : Builder} {ts : List Tensor}

theorem operands_joins {l r : Tensor} {x y : Tile} (hl : l.Is x) (hr : r.Is y) {p : Tensor × Tensor}
    (h : (operands { promote := false } l r).run b = .ok p b') : ∃ z : Tile, Joins [x.shape, y.shape] z.shape ∧ p.2.Is z := by
  obtain ⟨q, b₁, hpair, h⟩ := bind_eq_ok.1 h
  obtain ⟨z, ⟨-, hz⟩, -, hr'⟩ := (broadcastPair_gives hl hr b rfl).2 q b₁ hpair
  obtain ⟨-, b₂, -, h⟩ := bind_eq_ok.1 h
  obtain ⟨-, b₃, -, h⟩ := bind_eq_ok.1 h
  obtain ⟨rfl, -⟩ := pure_eq_ok.1 h
  exact ⟨z.as y.element, hz, hr'⟩

-- `done` are the shapes that the common operand has met already
theorem commonOperand_joins (hts : ∀ t ∈ ts, t.Is (tile t)) {common u : Tensor} {c : Tile} (hc : common.Is c)
    {done : List (List Int)} (hdone : Joins done c.shape) (h : (commonOperand { promote := false } ts common).run b = .ok u b') :
    ∃ z : Tile, Joins ((ts.map fun t => (tile t).shape).reverse ++ done) z.shape ∧ u.Is z := by
  induction ts generalizing b common c done with
  | nil =>
    obtain ⟨rfl, -⟩ := pure_eq_ok.1 h
    exact ⟨c, hdone, hc⟩
  | cons t ts ih =>
    obtain ⟨p, b₁, hmeet, h⟩ := bind_eq_ok.1 h
    obtain ⟨w, hw, hp⟩ := operands_joins (hts t (.head _)) hc hmeet
    simpa using ih (fun t ht => hts t (.tail _ ht)) hp ((Joins.cons_iff_of_joins hdone).2 hw) h

theorem shape?_type {x : Tile} (h : t.Is x) : t.type.shape? = if x.shape = [] then none else some x.shape := by
  rw [h]
  split
  · rw [Tile.type_of_nil ‹_›]
    rfl
  · rw [Tile.type_of_ne_nil ‹_›]
    rfl

theorem shape_of_is {x : Tile} (h : t.Is x) : t.shape = if x.shape = [] then [1] else x.shape := by
  rw [shape, shape?_type h]
  split <;> rfl

theorem commonShapeOf_joins (hts : ∀ t ∈ ts, t.Is (tile t)) (hne : ts ≠ []) {shape : Option (List Int)}
    (h : (commonShapeOf ts).run b = .ok shape b') :
    ∃ joint, Joins (ts.map fun t => (tile t).shape) joint ∧ shape = some (if joint = [] then [1] else joint) := by
  obtain ⟨first, rest, rfl⟩ := exists_cons_of_ne_nil hne
  obtain ⟨p, b₁, huniform, h⟩ := bind_eq_ok.1 h
  obtain ⟨rfl, -⟩ := pure_eq_ok.1 h
  obtain ⟨u, b₂, hcommon, h⟩ := bind_eq_ok.1 huniform
  obtain ⟨us, b₃, -, h⟩ := bind_eq_ok.1 h
  obtain ⟨rfl, -⟩ := pure_eq_ok.1 h
  obtain ⟨z, hz, hu⟩ := commonOperand_joins hts (hts first (.head _)) (.singleton _) hcommon
  exact ⟨z.shape, hz.congr (by simp [or_comm]), congrArg some (shape_of_is hu)⟩

end Tensor

namespace Lowering.Blocks

open Rule
open Shape (Joins)

theorem tensors_of_asTensor {items : List Value} {handles : List Operand}
    (h : (items.mapM fun v => do return (← asTensor v).operand : Rule _).run s = .ok handles s') :
    ∃ ts : List Tensor, items = ts.map .tensor ∧ handles = ts.map (·.operand) ∧ s = s' := by
  induction items generalizing s handles with
  | nil =>
    obtain ⟨rfl, rfl⟩ := pure_eq_ok.1 h
    exact ⟨[], rfl, rfl, rfl⟩
  | cons v items ih =>
    rw [mapM_cons] at h
    obtain ⟨x, s₁, hx, h⟩ := bind_eq_ok.1 h
    obtain ⟨xs, s₂, hxs, h⟩ := bind_eq_ok.1 h
    obtain ⟨rfl, rfl⟩ := pure_eq_ok.1 h
    obtain ⟨ts, rfl, rfl, rfl⟩ := ih hxs
    obtain ⟨t, s₃, ht, hx⟩ := bind_eq_ok.1 hx
    obtain ⟨rfl, rfl⟩ := pure_eq_ok.1 hx
    cases v with
    | tensor u =>
      obtain ⟨rfl, rfl⟩ := pure_eq_ok.1 ht
      exact ⟨u :: ts, rfl, rfl, rfl⟩
    | _ => cases ht

theorem toTensors_run (ts : List Tensor) (s : LowerState) : (toTensors (ts.map .tensor)).run s = .ok ts s := by
  unfold toTensors
  induction ts with
  | nil => rfl
  | cons t ts ih =>
    rw [map_cons, mapM_cons]
    exact bind_eq_ok.2 ⟨t, s, rfl, bind_eq_ok.2 ⟨ts, s, ih, rfl⟩⟩

/-- Two vectors of the same length. -/
def vectors : List Tensor := [⟨some 0, .block .int32 [16]⟩, ⟨some 1, .block .fp32 [16]⟩]

end Lowering.Blocks

end TileKernel
