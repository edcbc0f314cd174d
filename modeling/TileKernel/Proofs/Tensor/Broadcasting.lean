import TileKernel.Tensor.Math
import TileKernel.Proofs.Tensor.Shapes

/-! # Operands of one shape and type

The steps that prepare operands are described by what they do to the types of tensors: `Tile` is what the type of a tensor of
numbers says, and `Gives` tells on which tiles a step succeeds, and with which result. From this follows for two operands, and
for the three of a selection, when they are accepted and what they become. -/

namespace TileKernel

namespace Scalar

theorem mem_all (s : Scalar) : s ∈ all := by cases s <;> decide

instance (p : Scalar → Prop) [DecidablePred p] : Decidable (∀ s, p s) :=
  decidable_of_iff (∀ s ∈ all, p s) ⟨fun h s => h s (mem_all s), fun h s _ => h s⟩

/-- Integers, and floating-point numbers of the standard formats. -/
def isPlain (s : Scalar) : Bool := s.isInt || s.isStandardFloating

/-- The place of a type among those that numbers are promoted to. -/
def rank : Scalar → Nat
  | int1 => 0 | int8 => 1 | uint8 => 2 | int16 => 3 | uint16 => 4 | int32 => 5 | uint32 => 6 | int64 => 7 | uint64 => 8
  | bf16 => 10 | fp16 => 11 | fp32 => 12 | fp64 => 13
  | _ => 9

end Scalar

/-- What a tensor of numbers can be: a number, whose shape is empty, or a block that is not too large. -/
@[ext] structure Tile where
  element : Scalar
  shape : List Int
  small : Ty.elements shape ≤ Ty.maxElements

variable {shape : List Int} {p : Scalar}

namespace Tile

def type (x : Tile) : Ty :=
  match x.shape with
  | [] => .scalar x.element
  | shape => .block (.scalar x.element) shape

def as (x : Tile) (e : Scalar) : Tile := { x with element := e }

@[simp] theorem element_as (x : Tile) (e : Scalar) : (x.as e).element = e := rfl

def raise (x : Tile) (n : Nat) : Tile :=
  ⟨x.element, List.replicate n 1 ++ x.shape, (Shape.elements_ones_append n x.shape).symm ▸ x.small⟩

variable {x y z : Tile}

theorem element_type (x : Tile) : x.type.element = .scalar x.element := by
  unfold type
  split <;> rfl

theorem type_of_ne_nil (h : x.shape ≠ []) : x.type = .block (.scalar x.element) x.shape := by
  unfold type
  split
  · contradiction
  · rfl

theorem type_of_nil (h : x.shape = []) : x.type = .scalar x.element := by
  rw [type, h]

theorem makeBlock_eq_ok {e : Scalar} {ty : Ty} (hne : shape ≠ []) :
    Ty.makeBlock (.scalar e) shape = .ok ty ↔ ∃ x : Tile, x.element = e ∧ x.shape = shape ∧ ty = x.type := by
  unfold Ty.makeBlock
  rw [if_neg (by simpa using hne)]
  dsimp only
  split
  · rename_i hlarge
    simp only [reduceCtorEq, false_iff]
    rintro ⟨x, -, rfl, -⟩
    exact absurd x.small (Int.not_le.2 hlarge)
  · rename_i hsmall
    constructor
    · rintro ⟨⟩
      exact ⟨⟨e, shape, Int.not_lt.1 hsmall⟩, rfl, rfl, (type_of_ne_nil (x := ⟨e, shape, _⟩) hne).symm⟩
    · rintro ⟨x, rfl, rfl, rfl⟩
      rw [type_of_ne_nil hne]

end Tile

open IR

theorem IR.Acts.target {b b' : Builder} (h : Acts b b') : b'.target = b.target := by
  induction h with
  | refl => rfl
  | tail _ last ih =>
    cases last with
    | emitted _ built =>
      cases built
      exact ih
    | hinted => exact ih
    | respelled => exact ih

namespace IR.Emit

variable {α β γ δ : Type} {x : Emit α} {f : α → Emit β} {target : Target} {V : γ → Prop} {R : α → γ → Prop}

/-- The step succeeds on a device exactly if some `v` satisfies `V`, and its result is then related to such a `v`. -/
def Gives (x : Emit α) (target : Target) (V : γ → Prop) (R : α → γ → Prop) : Prop :=
  ∀ b : Builder, b.target = target →
    (∀ v, V v → ∃ a b', x.run b = .ok a b' ∧ R a v) ∧ ∀ a b', x.run b = .ok a b' → ∃ v, V v ∧ R a v

theorem Gives.pure {a : α} {v : γ} (h : R a v) : Gives (Pure.pure a) target (· = v) R := by
  intro b _
  refine ⟨fun w hw => ⟨a, b, rfl, hw ▸ h⟩, fun a' b' hrun => ⟨v, rfl, ?_⟩⟩
  obtain ⟨rfl, -⟩ := Within.pure_eq_ok.1 hrun
  exact h

theorem Gives.bind {W : γ → δ → Prop} {S : β → δ → Prop} (hx : Gives x target V R)
    (hf : ∀ a v, V v → R a v → Gives (f a) target (W v) S) : Gives (x >>= f) target (fun w => ∃ v, V v ∧ W v w) S := by
  intro b hb
  obtain ⟨hok, hback⟩ := hx b hb
  constructor
  · rintro w ⟨v, hv, hw⟩
    obtain ⟨a, b₁, hrun, hr⟩ := hok v hv
    rw [Within.bind_run hrun]
    exact (hf a v hv hr b₁ ((x.within hrun).target.trans hb)).1 w hw
  · intro c b' hrun
    obtain ⟨a, b₁, hrun₁, hrun₂⟩ := Within.bind_eq_ok.1 hrun
    obtain ⟨v, hv, hr⟩ := hback a b₁ hrun₁
    obtain ⟨w, hw, hs⟩ := (hf a v hv hr b₁ ((x.within hrun₁).target.trans hb)).2 c b' hrun₂
    exact ⟨w, ⟨v, hv, hw⟩, hs⟩

theorem Gives.congr {W : γ → Prop} (hx : Gives x target V R) (h : ∀ v, W v ↔ V v) : Gives x target W R := by
  have hVW : W = V := funext fun v => propext (h v)
  exact hVW ▸ hx

theorem Gives.ok_iff (hx : Gives x target V R) {b : Builder} (hb : b.target = target) :
    (∃ a b', x.run b = .ok a b') ↔ ∃ v, V v := by
  constructor
  · rintro ⟨a, b', hrun⟩
    obtain ⟨v, hv, -⟩ := (hx b hb).2 a b' hrun
    exact ⟨v, hv⟩
  · rintro ⟨v, hv⟩
    obtain ⟨a, b', hrun, -⟩ := (hx b hb).1 v hv
    exact ⟨a, b', hrun⟩

theorem Gives.throw {fault : Fault} (h : ∀ v, ¬ V v) : Gives (MonadExcept.throw fault : Emit α) target V R := by
  intro b _
  refine ⟨fun v hv => absurd hv (h v), ?_⟩
  rintro _ _ ⟨⟩

theorem Gives.on {f : Target → Emit β} {S : β → γ → Prop} (h : Gives (f target) target V S) :
    Gives (Emit.target >>= f) target V S := by
  rintro b rfl
  exact h b rfl

theorem Gives.lift {o : Except Fault α} : Gives (liftExcept o) target (o = .ok ·) Eq := by
  cases o with
  | ok a => exact (Gives.pure rfl).congr fun v => by rw [Except.ok.injEq, eq_comm]
  | error f => exact .throw (by simp)

theorem Gives.mapM {as : List α} {v : δ} {S : β → δ → Prop} (h : ∀ a ∈ as, Gives (f a) target (· = v) S) :
    Gives (as.mapM f) target (· = v) (fun bs w => bs.length = as.length ∧ ∀ b ∈ bs, S b w) := by
  induction as with
  | nil => exact .pure (by simp)
  | cons a as ih =>
    rw [List.mapM_cons]
    refine ((h a (.head _)).bind fun b w hw hb => (ih fun a ha => h a (.tail _ ha)).bind fun bs u hu hbs =>
      Gives.pure (v := v) ?_).congr fun w => by simp
    subst hw hu
    exact ⟨by simp [hbs.1], by simpa using ⟨hb, hbs.2⟩⟩

end IR.Emit

namespace Tensor

open IR.Emit Shape

variable {target : Target} {x y z : Tile} {t l r : Tensor}

def Is (t : Tensor) (x : Tile) : Prop := t.type = x.type

theorem build_gives (opcode : Opcode) (args : List Operand) {type : Ty} (plain : opcode.isTerminator = false)
    (h : type = x.type) : Gives (build opcode args type plain) target (· = x) Is := by
  intro b _
  refine ⟨fun z hz => ⟨_, _, rfl, hz ▸ h⟩, ?_⟩
  rintro _ _ ⟨⟩
  exact ⟨x, rfl, h⟩

theorem blockTy_gives {e : Scalar} (hne : shape ≠ []) :
    Gives (blockTy (.scalar e) shape) target (fun z : Tile => z.element = e ∧ z.shape = shape)
      (fun ty z => ty = z.type) := by
  have h (ty : Ty) : Ty.makeBlock (.scalar e) shape = .ok ty ↔ _ := Tile.makeBlock_eq_ok hne
  unfold blockTy
  split
  · rename_i ty hty
    obtain ⟨x, rfl, rfl, rfl⟩ := (h ty).1 hty
    exact (Gives.pure (R := fun ty z => ty = Tile.type z) rfl).congr fun z => Tile.ext_iff.symm
  · rename_i f hf
    refine .throw fun z hz => ?_
    cases hf.symm.trans ((h z.type).2 ⟨z, hz.1, hz.2, rfl⟩)

theorem reshape_gives (opcode : Opcode) (plain : opcode.isTerminator = false) (args : List Operand) (e : Scalar)
    (hne : shape ≠ []) : Gives (do build opcode args (← blockTy (.scalar e) shape) plain) target
      (fun z : Tile => z.element = e ∧ z.shape = shape) Is := by
  refine ((blockTy_gives hne).bind fun ty v _ hty => build_gives opcode args plain hty).congr fun z => ?_
  simp

theorem shape_eq (h : t.Is x) (hne : x.shape ≠ []) : t.shape = x.shape := by
  unfold shape
  rw [h, Tile.type_of_ne_nil hne]
  rfl

theorem element_eq (h : t.Is x) : t.type.element = .scalar x.element := h ▸ x.element_type

theorem raiseRank_gives (n : Nat) (h : t.Is x) (hne : x.shape ≠ []) : Gives (raiseRank n t) target (· = x.raise n) Is := by
  induction n generalizing t x with
  | zero => exact .pure h
  | succ n ih =>
    unfold raiseRank
    rw [element_eq h, shape_eq h hne]
    refine ((build_gives (x := x.raise 1) _ _ _ rfl).bind fun u v hv hu =>
      ih (hv ▸ hu) (by simp [Tile.raise])).congr fun z => ?_
    have hraise : (x.raise 1).raise n = x.raise (n + 1) := Tile.ext rfl (by simp [Tile.raise, List.replicate_succ'])
    simp [hraise]

theorem stretch_gives (h : t.Is x) (hne : x.shape ≠ []) (hne' : shape ≠ []) :
    Gives (stretch t shape) target (fun z => z.element = x.element ∧ z.shape = shape) Is := by
  unfold stretch
  rw [element_eq h, shape_eq h hne]
  split
  · rename_i hshape
    exact (Gives.pure h).congr fun z => by rw [Tile.ext_iff, hshape]
  · exact reshape_gives _ _ _ _ hne'

theorem splat_gives (h : t.Is x) (hne : shape ≠ []) :
    Gives (splat t shape) target (fun z => z.element = x.element ∧ z.shape = shape) Is := by
  unfold splat
  rw [element_eq h]
  exact reshape_gives _ _ _ _ hne

theorem stretchBoth_gives (hl : l.Is x) (hr : r.Is y) (hne : x.shape ≠ []) (hlength : x.shape.length = y.shape.length) :
    Gives (stretchBoth l r) target (fun z => z.element = x.element ∧ Joins [x.shape, y.shape] z.shape)
      (fun p z => p.1.Is z ∧ p.2.Is (z.as y.element)) := by
  have hne' : y.shape ≠ [] := fun h => hne (List.eq_nil_of_length_eq_zero (by simpa [h] using hlength))
  unfold stretchBoth
  rw [shape_eq hl hne, shape_eq hr hne']
  simp only [← commonShape_eq_ok_iff 0 hlength]
  cases h : commonShape 0 x.shape y.shape with
  | error f => exact .throw (by simp)
  | ok common =>
    have hjoins : Joins [x.shape, y.shape] common := (commonShape_eq_ok_iff 0 hlength).1 h
    have hcommon : common ≠ [] := by
      have hle := hjoins.length_le x.shape (.head _)
      rintro rfl
      exact hne (List.eq_nil_of_length_eq_zero (Nat.le_zero.1 hle))
    refine ((stretch_gives hl hne hcommon).bind fun l' z hz hl' => (stretch_gives hr hne' hcommon).bind fun r' w hw hr' =>
      Gives.pure (v := z) ⟨hl', ?_⟩).congr fun z => ⟨?_, ?_⟩
    · rintro ⟨hz, ⟨⟩⟩
      exact ⟨z, ⟨hz, rfl⟩, z.as y.element, ⟨rfl, rfl⟩, rfl⟩
    · rintro ⟨_, ⟨hz, rfl⟩, _, -, rfl⟩
      exact ⟨hz, rfl⟩
    · rwa [show z.as y.element = w from Tile.ext hw.1.symm (hz.2.trans hw.2.symm)]

theorem broadcastPair_gives (hl : l.Is x) (hr : r.Is y) : Gives (broadcastPair l r) target
    (fun z => z.element = x.element ∧ Joins [x.shape, y.shape] z.shape) (fun p z => p.1.Is z ∧ p.2.Is (z.as y.element)) := by
  unfold broadcastPair
  rw [hl, hr]
  by_cases hx : x.shape = [] <;> by_cases hy : y.shape = []
  · rw [Tile.type_of_nil hx, Tile.type_of_nil hy]
    refine (Gives.pure (v := x) ⟨hl, ?_⟩).congr fun z => ?_
    · rw [hx, hy, Joins.nil_right_iff, Tile.ext_iff, hx]
    · rwa [show x.as y.element = y from Tile.ext rfl (hx.trans hy.symm)]
  · rw [Tile.type_of_nil hx, Tile.type_of_ne_nil hy]
    refine ((splat_gives hl hy).bind fun l' z hz hl' => Gives.pure (v := z) ⟨hl', ?_⟩).congr fun z => ?_
    · simp [hx, Joins.nil_left_iff]
    · rwa [show z.as y.element = y from Tile.ext rfl hz.2]
  · rw [Tile.type_of_ne_nil hx, Tile.type_of_nil hy]
    refine ((splat_gives hr hx).bind fun r' w hw hr' => Gives.pure (v := x) ⟨hl, ?_⟩).congr fun z => ?_
    · rw [hy, Joins.nil_right_iff, ← Tile.ext_iff]
      constructor
      · intro h
        exact ⟨x.as y.element, ⟨rfl, rfl⟩, h⟩
      · rintro ⟨-, -, h⟩
        exact h
    · rwa [show x.as y.element = w from Tile.ext hw.1.symm hw.2.symm]
  · rw [Tile.type_of_ne_nil hx, Tile.type_of_ne_nil hy]
    refine ((raiseRank_gives _ hl hx).bind fun l' x' hx' hl' => (raiseRank_gives _ hr hy).bind fun r' y' hy' hr' =>
      stretchBoth_gives (y := y.raise _) (hx' ▸ hl') (hy' ▸ hr') (by simp [Tile.raise, hx])
        (by simp [Tile.raise]; omega)).congr fun z => ?_
    simp only [exists_eq_left, Tile.raise]
    rw [Joins.ones_iff _ _ (by omega)]

/-- Whether numbers of a type can be converted to a plain type on a device. -/
def Converts (target : Target) (a p : Scalar) : Prop :=
  a.isPlain = true ∨ a.isFp8 = true ∧ p.isStandardFloating = true ∧ needsNewerDevice target (.scalar a) = false

theorem retyped_eq (h : t.Is x) (p : Scalar) : t.retyped (.scalar p) = (x.as p).type := by
  unfold retyped
  rw [h]
  by_cases hx : x.shape = []
  · rw [Tile.type_of_nil hx, Tile.type_of_nil (x := x.as p) hx]
    rfl
  · rw [Tile.type_of_ne_nil hx, Tile.type_of_ne_nil (x := x.as p) hx]
    rfl

theorem type_eq_iff (h : t.Is x) (p : Scalar) : t.type = (x.as p).type ↔ x.element = p := by
  constructor
  · intro heq
    have helement := congrArg Ty.element (h.symm.trans heq)
    rw [Tile.element_type, Tile.element_type] at helement
    exact Ty.scalar.inj helement
  · rintro rfl
    exact h

theorem nonZero_gives (h : t.Is x) {zero : Tensor} (hzero : zero.type = .scalar x.element) :
    Gives (nonZero t zero) target (· = x.as .int1) Is := by
  have hnumber : zero.Is ⟨x.element, [], by decide⟩ := hzero
  refine ((broadcastPair_gives h hnumber).bind fun p v hv hp =>
    build_gives (x := v.as .int1) _ _ _ (retyped_eq hp.1 _)).congr fun z => ?_
  simp only [Joins.nil_right_iff, ← Tile.ext_iff, exists_eq_left]

theorem conversion?_suits : ∀ a p : Scalar, (conversion? (.scalar a) (.scalar p)).all (fun
    | .op _ _ => true
    | .truth => p == .int1
    | .addressTruth => false) := by
  decide +kernel

theorem castElement_gives (h : t.Is x) (p : Scalar) : Gives (castElement t (.scalar p)) target
    (fun z => z = x.as p ∧ (x.element = p ∨ needsNewerDevice target (.scalar x.element) = false ∧
      needsNewerDevice target (.scalar p) = false ∧ (conversion? (.scalar x.element) (.scalar p)).isSome)) Is := by
  unfold castElement
  simp only [retyped_eq h, type_eq_iff h, element_eq h, Tile.element_type, Tile.element_as]
  split
  · rename_i hp
    exact (Gives.pure h).congr fun z => by subst hp; simp [Tile.as]
  rename_i hp
  refine Gives.on ?_
  split
  · rename_i hold
    refine .throw fun z hz => ?_
    simp_all
  rename_i hnew
  simp only [Bool.or_eq_true, not_or, Bool.not_eq_true] at hnew
  have hsuits := conversion?_suits x.element p
  split
  · rename_i opcode more hconversion
    exact (build_gives opcode.1 _ opcode.2 rfl).congr fun z => by simp [hp, hnew, hconversion, Tile.as]
  · rename_i hconversion
    obtain rfl : p = .int1 := by simpa [hconversion] using hsuits
    refine ((build_gives (x := ⟨x.element, [], by decide⟩) .getNullValue _ _ rfl).bind fun zero v hv hzero =>
      nonZero_gives h (hzero.trans (hv ▸ rfl))).congr fun z => ?_
    simp [hnew, hconversion]
  · rename_i hconversion
    simp [hconversion] at hsuits
  · rename_i hconversion
    exact .throw (by simp [hp, hconversion])

theorem isSome_conversion?_iff : ∀ a p : Scalar, p.isPlain → (a ∈ [.fp16, .bf16] → p ∈ [a, .fp32]) →
    (a = p ∨ (conversion? (.scalar a) (.scalar p)).isSome ↔
      a.isPlain ∨ a.isFp8 ∧ p.isStandardFloating) := by
  decide +kernel

theorem needsNewerDevice_of_isPlain {a : Scalar} (h : a.isPlain) : needsNewerDevice target (.scalar a) = false := by
  have hne : ∀ a : Scalar, a.isPlain → (Ty.scalar a == .scalar .fp8e4nv) = false := by decide
  unfold needsNewerDevice
  split
  · rw [hne a h, Bool.and_false]
  · rfl

theorem castElement_gives_of_isPlain (h : t.Is x) (hp : p.isPlain)
    (hhalf : x.element ∈ [.fp16, .bf16] → p ∈ [x.element, .fp32]) :
    Gives (castElement t (.scalar p)) target (fun z => z = x.as p ∧ Converts target x.element p) Is := by
  refine (castElement_gives h p).congr fun z => and_congr_right fun _ => ?_
  have hiff := isSome_conversion?_iff x.element p hp hhalf
  have hplain (hx : x.element.isPlain) : needsNewerDevice target _ = false := needsNewerDevice_of_isPlain hx
  simp only [Converts, needsNewerDevice_of_isPlain hp, true_and]
  grind

theorem cast_gives (h : t.Is x) (hp : p.isPlain) : Gives (cast t (.scalar p)) target
    (fun z => z = x.as p ∧ Converts target x.element p) Is := by
  have hfp8 : p.isFp8 = false := by
    revert p
    decide
  have hthrough : throughSingle t (.scalar p) ↔ x.element ∈ [.fp16, .bf16] ∧ p ∉ [x.element, .fp32] := by
    have hfp8 : (Ty.scalar p).mentionsFp8 = false := hfp8
    have helement : (Ty.scalar p).element = .scalar p := rfl
    simp only [throughSingle, retyped_eq h, element_eq h, helement, hfp8]
    simp [type_eq_iff h, Ty.fp16, Ty.bf16, Ty.fp32, eq_comm (a := p)]
    tauto
  unfold cast
  split
  · rename_i hsingle
    obtain ⟨hx, hne⟩ := hthrough.1 hsingle
    refine ((castElement_gives_of_isPlain h (p := .fp32) rfl fun _ => by simp).bind fun u v hv hu =>
      castElement_gives_of_isPlain (hv.1 ▸ hu) hp (by simp)).congr fun z => ?_
    have hplain : x.element.isPlain := by
      revert hx
      cases x.element <;> decide
    simp [Converts, hplain, Tile.as, show Scalar.fp32.isPlain from rfl]
  · rename_i hsingle
    exact castElement_gives_of_isPlain h hp (by tauto)

end Tensor

namespace Types

/-- The type that numbers of two types are promoted to. -/
def promote? (a b : Scalar) (division : Bool) : Option Scalar :=
  (computationType (.scalar a) (.scalar b) division).toOption.bind Ty.scalar?

variable {a b : Scalar} {division : Bool}

theorem computationType_eq_ok {ty : Ty} :
    computationType (.scalar a) (.scalar b) division = .ok ty ↔ ∃ p, promote? a b division = some p ∧ .scalar p = ty := by
  have hall : ∀ (a b : Scalar) (division : Bool),
      (computationType (.scalar a) (.scalar b) division).toOption = (promote? a b division).map .scalar := by
    decide +kernel
  rw [← Option.map_eq_some_iff, ← hall]
  cases computationType (.scalar a) (.scalar b) division <;> simp [Except.toOption]

theorem isPlain_of_promote? (h : promote? a b division = some p) : p.isPlain := by
  have hall : ∀ (a b : Scalar) (division : Bool), (promote? a b division).all Scalar.isPlain := by decide +kernel
  simpa [h] using hall a b division

/-- Plain types are promoted to the higher of the two, except that brain floats and integers meet in single precision. -/
theorem promote?_plain : ∀ a b : Scalar, a.isPlain → b.isPlain → promote? a b false = some
    (if a = .bf16 ∧ b.isInt ∨ b = .bf16 ∧ a.isInt then .fp32 else if a.rank ≤ b.rank then b else a) := by
  decide +kernel

theorem promote?_comm : ∀ (a b : Scalar) (division : Bool), promote? a b division = promote? b a division := by
  decide +kernel

end Types

namespace Tile

/-- The tile to which two tiles are brought as the operands of an operation that promotes its operands. -/
structure Meets (target : Target) (division : Bool) (x y z : Tile) : Prop where
  shape : Shape.Joins [x.shape, y.shape] z.shape
  element : Types.promote? x.element y.element division = some z.element
  left : Tensor.Converts target x.element z.element
  right : Tensor.Converts target y.element z.element

theorem Meets.symm {target : Target} {division : Bool} (h : Meets target division x y z) : Meets target division y x z :=
  ⟨h.shape.perm (.swap _ _ _), Types.promote?_comm x.element y.element _ ▸ h.element, h.right, h.left⟩

theorem Meets.unique {target : Target} {division : Bool} {w : Tile} (h : Meets target division x y z)
    (h' : Meets target division x y w) : z = w :=
  Tile.ext (Option.some.inj (h.element.symm.trans h'.element)) (h.shape.unique h'.shape)

end Tile

namespace Tensor

open IR.Emit Shape

variable {target : Target} {x y z : Tile} {t l r : Tensor}

theorem castBoth_gives (hl : l.Is x) (hr : r.Is y) (hshape : y.shape = x.shape) (hp : p.isPlain) :
    Gives (do return (← cast l (.scalar p), ← cast r (.scalar p))) target
      (fun z => z = x.as p ∧ Converts target x.element p ∧ Converts target y.element p)
      (fun p z => p.1.Is z ∧ p.2.Is z) := by
  refine ((cast_gives hl hp).bind fun l' v hv hl' => (cast_gives hr hp).bind fun r' w hw hr' =>
    Gives.pure (v := v) ⟨hl', ?_⟩).congr fun z => ?_
  · constructor
    · rintro ⟨rfl, hleft, hright⟩
      exact ⟨_, ⟨rfl, hleft⟩, _, ⟨rfl, hright⟩, rfl⟩
    · rintro ⟨_, ⟨rfl, hleft⟩, _, ⟨rfl, hright⟩, rfl⟩
      exact ⟨rfl, hleft, hright⟩
  · rwa [hv.1, show x.as p = w from hw.1 ▸ Tile.ext rfl hshape.symm]

theorem operands_gives {rule : OperandRule} (hrule : rule.promote) (hl : l.Is x) (hr : r.Is y) :
    Gives (operands rule l r) target (Tile.Meets target rule.division x y) (fun p z => p.1.Is z ∧ p.2.Is z) := by
  let Fits (z : Tile) : Prop := Converts target x.element z.element ∧ Converts target y.element z.element
  refine ((broadcastPair_gives hl hr).bind (W := fun v z => z.shape = v.shape ∧ Fits z ∧
    Types.promote? x.element y.element rule.division = some z.element) fun p v hv hp => ?_).congr fun z => ?_
  · obtain ⟨l', r'⟩ := p
    have hlt : l'.dtype = .scalar x.element := hv.1 ▸ element_eq hp.1
    have hrt : r'.dtype = .scalar y.element := element_eq (x := v.as y.element) hp.2
    have hnumber (e : Scalar) : (Ty.scalar e).isPtr = false := rfl
    have hcheck (a b : Scalar) (allowed : Bool) : Types.checkPointerOperand (.scalar a) (.scalar b) allowed = .ok () := rfl
    simp only [hlt, hrt, hcheck, hnumber, hrule, liftExcept, pure_bind]
    refine (Gives.lift.bind (W := fun ty z => ty = .scalar z.element ∧ z.shape = v.shape ∧ Fits z)
      fun ty _ hty heq => ?_).congr fun z => ?_
    · subst heq
      obtain ⟨p, hp', rfl⟩ := Types.computationType_eq_ok.1 hty
      refine (castBoth_gives hp.1 hp.2 rfl (Types.isPlain_of_promote? hp')).congr fun z => ?_
      rw [hv.1, Tile.ext_iff]
      constructor
      · rintro ⟨heq, hshape, hfits⟩
        obtain rfl := Ty.scalar.inj heq
        exact ⟨⟨rfl, hshape⟩, hfits⟩
      · rintro ⟨⟨helement, hshape⟩, hfits⟩
        obtain rfl : z.element = p := helement
        exact ⟨rfl, hshape, hfits⟩
    · constructor
      · rintro ⟨hshape, hfits, hp⟩
        exact ⟨_, Types.computationType_eq_ok.2 ⟨_, hp, rfl⟩, rfl, hshape, hfits⟩
      · rintro ⟨_, hty, rfl, hshape, hfits⟩
        obtain ⟨p, hp, heq⟩ := Types.computationType_eq_ok.1 hty
        exact ⟨hshape, hfits, Ty.scalar.inj heq ▸ hp⟩
  · constructor
    · rintro ⟨hshape, hty, hleft, hright⟩
      exact ⟨z.as x.element, ⟨rfl, hshape⟩, rfl, ⟨hleft, hright⟩, hty⟩
    · rintro ⟨v, ⟨-, hjoins⟩, hshape, ⟨hleft, hright⟩, hty⟩
      exact ⟨hshape ▸ hjoins, hty, hleft, hright⟩

/-- Two tensors of numbers are brought to one shape like arrays. This succeeds exactly if along each axis, counted from the
right, their sizes agree or one of them is 1, and the block that comes out is not too large; both then have its shape, and their
own element types. Converted to the promoted type as well, they are accepted in both orders or in none, and get the same type. -/
theorem operands_harmonised (hl : l.Is x) (hr : r.Is y) (b : Builder) :
    ((∃ p b', (broadcastPair l r).run b = .ok p b') ↔
      (∀ i, size x.shape i = size y.shape i ∨ size x.shape i = 1 ∨ size y.shape i = 1) ∧
        ∀ shape, Joins [x.shape, y.shape] shape → Ty.elements shape ≤ Ty.maxElements) ∧
    (∀ p b', (broadcastPair l r).run b = .ok p b' →
      ∃ z : Tile, Joins [x.shape, y.shape] z.shape ∧ p.1.Is (z.as x.element) ∧ p.2.Is (z.as y.element)) ∧
    ∀ rule : OperandRule, rule.promote = true → ∀ c : Builder, c.target = b.target →
      ((∃ p b', (operands rule l r).run b = .ok p b') ↔ ∃ q c', (operands rule r l).run c = .ok q c') ∧
      ∀ p b' q c', (operands rule l r).run b = .ok p b' → (operands rule r l).run c = .ok q c' →
        ∃ z : Tile, Joins [x.shape, y.shape] z.shape ∧ ∀ t ∈ [p.1, p.2, q.1, q.2], t.Is z := by
  have hpair : Gives (broadcastPair l r) b.target _ _ := broadcastPair_gives hl hr
  refine ⟨(hpair.ok_iff rfl).trans ⟨?_, ?_⟩, fun p b' hrun => ?_, fun rule hrule c hc => ?_⟩
  · rintro ⟨z, -, hz⟩
    refine ⟨fun i => ?_, fun shape hshape => hshape.unique hz ▸ z.small⟩
    have hi := (Joins.pair_iff.1 hz).2 i
    omega
  · rintro ⟨hsize, hsmall⟩
    obtain ⟨shape, hshape⟩ := exists_joins_pair hsize
    exact ⟨⟨x.element, shape, hsmall shape hshape⟩, rfl, hshape⟩
  · obtain ⟨z, ⟨helement, hz⟩, hp⟩ := (hpair b rfl).2 p b' hrun
    exact ⟨z, hz, helement ▸ hp.1, hp.2⟩
  · have hleft : Gives (operands rule l r) b.target _ _ := operands_gives hrule hl hr
    have hright : Gives (operands rule r l) b.target _ _ := operands_gives hrule hr hl
    refine ⟨?_, fun p b' q c' hrun hrun' => ?_⟩
    · rw [hleft.ok_iff rfl, hright.ok_iff hc]
      exact exists_congr fun z => ⟨.symm, .symm⟩
    · obtain ⟨z, hz, hp⟩ := (hleft b rfl).2 p b' hrun
      obtain ⟨w, hw, hq⟩ := (hright c hc).2 q c' hrun'
      obtain rfl := hz.unique hw.symm
      exact ⟨z, hz.shape, by simpa using ⟨hp.1, hp.2, hq.1, hq.2⟩⟩

def column : Tile := ⟨.fp16, [4, 1], by decide⟩

def row : Tile := ⟨.int32, [2], by decide⟩

theorem column_joins_row : Joins [column.shape, row.shape] [4, 2] :=
  (Joins.ones_iff 0 1 rfl).1 ((commonShape_eq_ok_iff 0 (by rfl)).1 rfl)

theorem column_meets_row : ∃ p b', (broadcastPair ⟨some 0, column.type⟩ ⟨some 1, row.type⟩).run default = .ok p b' ∧
    p.1.type = .block .fp16 [4, 2] ∧ p.2.type = .block .int32 [4, 2] := by
  have hjoins := column_joins_row
  obtain ⟨hiff, htypes, -⟩ := operands_harmonised (l := ⟨some 0, column.type⟩) (r := ⟨some 1, row.type⟩)
    (x := column) (y := row) rfl rfl default
  obtain ⟨p, b', hrun⟩ := hiff.2 ⟨fun i => by have hi := (Joins.pair_iff.1 hjoins).2 i; omega,
    fun shape h => h.unique hjoins ▸ by decide⟩
  obtain ⟨⟨e, shape, hsmall⟩, hz, hl, hr⟩ := htypes p b' hrun
  obtain rfl : shape = [4, 2] := hz.unique hjoins
  exact ⟨p, b', hrun, hl, hr⟩

/-- What the operands of a selection come out as. -/
def Selects (c x y z : Tile) : Prop :=
  Types.promote? x.element y.element false = some z.element ∧
    Fits [c.shape, x.shape] ∧ Joins [c.shape, x.shape, y.shape] z.shape

theorem isBlock_iff (h : t.Is x) : t.type.isBlock ↔ x.shape ≠ [] := by
  rw [h]
  by_cases hx : x.shape = []
  · simp [Tile.type_of_nil hx, hx, Ty.isBlock]
  · simp [Tile.type_of_ne_nil hx, hx, Ty.isBlock]

theorem selectOperands_gives {condition : Tensor} {c : Tile} (hcondition : condition.Is c) (hl : l.Is x) (hr : r.Is y)
    (hc : c.element.isInt) (hx : x.element.isPlain) (hy : y.element.isPlain) :
    Gives (selectOperands condition l r) target (Selects c x y)
      (fun p z => p.1.Is (z.as .int1) ∧ p.2.1.Is z ∧ p.2.2.Is z) := by
  unfold selectOperands
  refine ((cast_gives hcondition (p := .int1) rfl).bind (W := fun _ => Selects c x y)
    fun condition' c' hc' hcondition' => ?_).congr fun z => ?_
  · obtain ⟨rfl, -⟩ := hc'
    split
    · rename_i hblock
      refine ((broadcastPair_gives hcondition' hl).bind fun p₁ v₁ hv₁ hp₁ =>
        (broadcastPair_gives (x := v₁.as x.element) hp₁.2 hr).bind fun p₂ v₂ hv₂ hp₂ =>
        (broadcastPair_gives hp₁.1 hp₂.1).bind fun p₃ v₃ hv₃ hp₃ =>
        (operands_gives rfl hp₃.2 hp₂.2).bind fun p₄ z hz hp₄ => Gives.pure (v := z) ⟨?_, hp₄⟩).congr fun z => ?_
      · constructor
        · rintro ⟨hty, ⟨first, hfirst, hsmall⟩, hjoins⟩
          have hsecond : Joins [first, y.shape] z.shape := hfirst.triple_iff.1 hjoins
          have hself : Joins [z.shape, z.shape] z.shape := ((Joins.singleton _).absorb (.head _)).2 rfl
          exact ⟨⟨.int1, first, hsmall⟩, ⟨rfl, hfirst⟩, z.as x.element, ⟨rfl, hsecond⟩, z.as .int1,
            ⟨rfl, (hsecond.absorb (.head _)).2 rfl⟩, z, ⟨hself, hty, .inl hx, .inl hy⟩, rfl⟩
        · rintro ⟨v₁, ⟨-, hfirst⟩, v₂, ⟨helement, hsecond⟩, v₃, ⟨-, hthird⟩, z, hmeets, rfl⟩
          obtain ⟨-, hshape⟩ := hsecond.settle hthird hmeets.shape
          have helement : v₂.element = x.element := helement
          exact ⟨helement ▸ hmeets.element, ⟨v₁.shape, hfirst, v₁.small⟩, hshape ▸ hfirst.triple_iff.2 hsecond⟩
      · obtain ⟨hshape, hshape'⟩ := hv₂.2.settle hv₃.2 hz.shape
        rw [← show v₃ = z.as .int1 from Tile.ext (hv₃.1.trans hv₁.1) (hshape.trans hshape'.symm)]
        exact hp₃.1
    · rename_i hnumber
      have hnil : c.shape = [] := by simpa [isBlock_iff hcondition', Tile.as] using hnumber
      refine ((operands_gives rfl hl hr).bind fun p z hz hp =>
        (broadcastPair_gives hcondition' hp.1).bind fun q v hv hq => Gives.pure (v := z) ⟨?_, hp⟩).congr fun z => ?_
      · constructor
        · rintro ⟨hty, -, hjoins⟩
          obtain ⟨u, hu, hz⟩ := hjoins.exists_tail (by simp)
          obtain rfl := Joins.nil_left_iff.1 (hnil ▸ hz)
          exact ⟨z, ⟨hu, hty, .inl hx, .inl hy⟩, z.as .int1, ⟨rfl, hz⟩, rfl⟩
        · rintro ⟨z, hmeets, v, ⟨-, hv⟩, rfl⟩
          refine ⟨hmeets.element, ⟨x.shape, hnil ▸ Joins.nil_left_iff.2 rfl, x.small⟩, ?_⟩
          exact (Joins.cons_iff_of_joins hmeets.shape).2 (hnil ▸ Joins.nil_left_iff.2 rfl)
      · have hshape : v.shape = z.shape := Joins.nil_left_iff.1 (hnil ▸ hv.2)
        rw [← show v = z.as .int1 from Tile.ext hv.1 hshape]
        exact hq.1
  · have hplain : c.element.isPlain := by simp [Scalar.isPlain, hc]
    simp [Converts, hplain]

/-- A selection by integers succeeds exactly if all three shapes can be broadcast together to a block that is not too large,
and those of the condition and of the first alternative too; if no axis is empty, this follows. The operation then gets three
operands of the joint shape: truth values, and alternatives of one type, which is the type of the result. -/
theorem select_harmonises {condition : Tensor} {c : Tile} (hcondition : condition.Is c) (hl : l.Is x) (hr : r.Is y)
    (hc : c.element.isInt = true) (hx : x.element.isPlain = true) (hy : y.element.isPlain = true) (b : Builder) :
    ((∃ t b', (select condition l r).run b = .ok t b') ↔
      Fits [c.shape, x.shape] ∧ Fits [c.shape, x.shape, y.shape]) ∧
    ((∀ s ∈ [c.shape, x.shape, y.shape], ∀ d ∈ s, 0 < d) → Fits [c.shape, x.shape, y.shape] → Fits [c.shape, x.shape]) ∧
    ∀ t b', (select condition l r).run b = .ok t b' → ∃ p b₁, (selectOperands condition l r).run b = .ok p b₁ ∧
      (build .select [p.1.operand, p.2.1.operand, p.2.2.operand] p.2.1.type).run b₁ = .ok t b' ∧
      ∃ z : Tile, Joins [c.shape, x.shape, y.shape] z.shape ∧ p.1.Is (z.as .int1) ∧ p.2.1.Is z ∧ p.2.2.Is z ∧ t.Is z := by
  have hgives : Gives (selectOperands condition l r) b.target _ _ := selectOperands_gives hcondition hl hr hc hx hy
  refine ⟨?_, fun hpos hfits => ?_, fun t b' hrun => ?_⟩
  · have hselect : Gives (select condition l r) b.target (fun w => ∃ z, Selects c x y z ∧ w = z) Is :=
      hgives.bind fun p z hz hp => build_gives _ _ _ hp.2.1
    rw [hselect.ok_iff rfl]
    constructor
    · rintro ⟨z, _, ⟨-, hfirst, hz⟩, rfl⟩
      exact ⟨hfirst, z.shape, hz, z.small⟩
    · rintro ⟨hfirst, joint, hjoint, hsmall⟩
      exact ⟨_, ⟨_, joint, hsmall⟩, ⟨Types.promote?_plain _ _ hx hy, hfirst, hjoint⟩, rfl⟩
  · have hperm : [c.shape, x.shape, y.shape].Perm [y.shape, c.shape, x.shape] := @List.perm_append_comm _ [_, _] [_]
    exact (hfits.congr fun _ => hperm.mem_iff).tail (by simp) fun s hs => hpos s (hperm.mem_iff.2 hs)
  · obtain ⟨p, b₁, hrun₁, hrun₂⟩ := Within.bind_eq_ok.1 hrun
    obtain ⟨z, hz, hp⟩ := (hgives b rfl).2 p b₁ hrun₁
    refine ⟨p, b₁, hrun₁, hrun₂, z, hz.2.2, hp.1, hp.2.1, hp.2.2, ?_⟩
    cases hrun₂
    exact hp.2.1

/-- A row of conditions chooses between a number and a column. -/
theorem row_selects_from_column :
    ∃ t b', (select ⟨some 0, row.type⟩ ⟨some 1, .int8⟩ ⟨some 2, column.type⟩).run default = .ok t b' := by
  have hfirst : Joins [row.shape, []] row.shape := Joins.nil_right_iff.2 rfl
  have hjoins : Joins [row.shape, column.shape] [4, 2] := column_joins_row.perm (.swap _ _ _)
  have hcondition : Is ⟨some 0, row.type⟩ row := rfl
  obtain ⟨hiff, -⟩ := select_harmonises (l := ⟨some 1, .int8⟩) (r := ⟨some 2, column.type⟩) (x := ⟨.int8, [], by decide⟩)
    (y := column) hcondition rfl rfl rfl rfl rfl default
  exact hiff.2 ⟨⟨_, hfirst, row.small⟩, [4, 2], hfirst.triple_iff.2 hjoins, by decide⟩

/-- Three blocks whose joint shape is empty are refused if two of them make a block that is too large. -/
theorem select_refuses_empty_block : Fits [[131072, 1, 1], [1, 2, 1], [1, 1, 0]] ∧
    ∃ b', (select ⟨some 0, .block .int1 [131072, 1, 1]⟩ ⟨some 1, .block .fp32 [1, 2, 1]⟩
      ⟨some 2, .block .fp32 [1, 1, 0]⟩).run default = .error (.tooManyElements 262144) b' := by
  have hfirst : Joins [[131072, 1, 1], [1, 2, 1]] [131072, 2, 1] := (commonShape_eq_ok_iff 0 (by rfl)).1 rfl
  exact ⟨⟨[131072, 2, 0], hfirst.triple_iff.2 ((commonShape_eq_ok_iff 0 (by rfl)).1 rfl), by decide⟩, _, rfl⟩

end Tensor
end TileKernel
