import TileKernel.IR.Build
import TileKernel.Types.Promotion

/-! # Tensors

A tensor of a kernel is a value of the intermediate representation together with its type: a scalar, a pointer or a block.
Operations without a result give a tensor of type `void` that stands for no value. Operands are brought to one shape, or
stretched to a given one.
-/

namespace TileKernel

open IR

structure Tensor where
  handle : Option ValueId
  type : Ty
deriving DecidableEq, Inhabited

def Ty.makeBlock (element : Ty) (shape : List Int) : Result Ty :=
  if shape.isEmpty then .error .emptyShape
  else
    let n := Ty.elements shape
    if n > Ty.maxElements then .error (.tooManyElements n) else .ok (.block element shape)

namespace Tensor

variable (t l r : Tensor)

def noResult : Tensor := ⟨none, .void⟩

def dtype : Ty := t.type.element

def shape : List Int := t.type.shape?.getD [1]

def numel : Int := Ty.elements t.shape

def text : String :=
  t.dtype.text ++ "[" ++ ",".intercalate (t.shape.map fun d => s!"constexpr[{d}]") ++ "]"

def operand : Operand :=
  match t.handle with
  | some v => .value v
  | none => .absent

end Tensor

def IR.Operand.ofShape (shape : List Int) : Operand := .list (shape.map .int)

def IR.Operand.ofTy (t : Ty) : Operand := .type (.known t)

namespace Tensor

variable (t l r : Tensor)

def build (opcode : Opcode) (args : List Operand) (type : Ty) (plain : opcode.isTerminator = false := by exact .refl false) :
    Emit Tensor := do
  return ⟨some (← Emit.op opcode args plain), type⟩

def effect (opcode : Opcode) (args : List Operand) (plain : opcode.isTerminator = false := by exact .refl false) : Emit Tensor := do
  Emit.effect opcode args plain
  return noResult

def blockTy (element : Ty) (shape : List Int) : Emit Ty :=
  match Ty.makeBlock element shape with
  | .ok t => pure t
  | .error f => throw f

def splat (shape : List Int) : Emit Tensor := do
  let ty ← blockTy t.type.element shape
  build .splat [t.operand, .ofShape shape] ty

def raiseRank : Nat → Tensor → Emit Tensor
  | 0, t => pure t
  | n + 1, t => do
    let u ← build .expandDims [t.operand, .int 0] (.block t.type.element (1 :: t.shape))
    raiseRank n u

def commonShape : Nat → List Int → List Int → Result (List Int)
  | i, l :: ls, r :: rs =>
    if l = 1 then (commonShape (i + 1) ls rs).map (r :: ·)
    else if r = 1 ∨ l = r then (commonShape (i + 1) ls rs).map (l :: ·)
    else .error (.incompatibleDims i l r)
  | _, _, _ => .ok []

def stretch (shape : List Int) : Emit Tensor :=
  if t.shape = shape then pure t
  else do
    let ty ← blockTy t.type.element shape
    build .broadcast [t.operand, .ofShape shape] ty

def stretchBoth : Emit (Tensor × Tensor) :=
  match commonShape 0 l.shape r.shape with
  | .error f => throw f
  | .ok common => do return (← stretch l common, ← stretch r common)

/-- Bring two operands to one shape. A scalar is spread over the other's block; of two blocks the one of lower rank gets
dimensions in front, then dimensions of size one are stretched. Two scalars stay as they are. -/
def broadcastPair : Emit (Tensor × Tensor) :=
  match l.type, r.type with
  | .block _ shape, .block _ shape' => do
    let l ← raiseRank (shape'.length - shape.length) l
    let r ← raiseRank (shape.length - shape'.length) r
    stretchBoth l r
  | .block _ shape, _ => do return (l, ← splat r shape)
  | _, .block _ shape => do return (← splat l shape, r)
  | _, _ => pure (l, r)

def badDimension : Nat → List Int → List Int → Option (Nat × Int × Int)
  | i, have_ :: hs, wanted :: ws =>
    if wanted ≠ have_ ∧ have_ ≠ 1 then some (i, wanted, have_) else badDimension (i + 1) hs ws
  | _, _, _ => none

def broadcastTo (shape : List Int) : Emit Tensor :=
  match t.type with
  | .block e source =>
    if source.length ≠ shape.length then throw (.broadcastRank source shape)
    else if shape = source then pure t
    else match badDimension 0 source shape with
      | some (i, wanted, have_) => throw (.broadcastSize wanted have_ i source shape)
      | none => do
        let ty ← blockTy e shape
        build .broadcast [t.operand, .ofShape shape] ty
  | ty => do
    let ty ← blockTy ty shape
    build .splat [t.operand, .ofShape shape] ty

end Tensor

/-! ## Conversions and arithmetic

Half precision is converted through single precision, integers are resized, and a truth value is the comparison with zero.
Binary operations bring their operands to one shape and to the promoted type, and append one operation.
-/

namespace Tensor

variable (t l r : Tensor) (target : Ty)

/-- The type with the element type of `target` and the shape of `t`; a scalar takes `target` as it is. -/
def retyped : Ty :=
  match t.type with
  | .block _ shape => .block target.element shape
  | _ => target

def nonZero (zero : Tensor) : Emit Tensor := do
  let (l, r) ← broadcastPair t zero
  build (if l.dtype.isFloating then .fcmpUNE else .icmpNE) [l.operand, r.operand] (l.retyped .int1) (by split <;> rfl)

def zeroOf (ty : Ty) : Emit Tensor := build .getNullValue [.ofTy ty] ty

def needsNewerDevice (target : Target) (ty : Ty) : Bool :=
  match target.arch with
  | .capability n => n < 89 && ty == .scalar .fp8e4nv
  | .named => false

inductive Conversion where
  | op (opcode : Opcode.Plain) (more : List Operand)
  | truth
  | addressTruth

/-- How an element type is converted into another one, without the detour of half-precision types. -/
def conversion? (src dst : Ty) : Option Conversion :=
  let width (x : Ty) : Nat := (x.scalar?.map Scalar.bits).getD 0
  let floats := src.isFloating && dst.isFloating
  if (src.mentionsFp8 && dst.isFloating) || (src.isFloating && dst.mentionsFp8) then some (.op (.mk .fpToFp) [])
  else if floats && width src > width dst then some (.op (.mk .fpTrunc) [])
  else if floats && width src < width dst then some (.op (.mk .fpExt) [])
  else if src.isInt && dst.isInt && src != dst then
    some (if dst.isBool then .truth else .op (.mk .intCast) [.bool (src.isSignedInt && !src.isBool)])
  else if src.isStandardFloating && dst.isInt then
    some (if dst.isBool then .truth else .op (if dst.isSignedInt then .mk .fpToSi else .mk .fpToUi) [])
  else if src.isInt && dst.isStandardFloating then
    some (.op (if src.isBool || !src.isSignedInt then .mk .uiToFp else .mk .siToFp) [])
  else if src.isPtr && dst.isInt && width dst == 64 then some (.op (.mk .ptrToInt) [])
  else if src.isPtr && dst.isInt && width dst == 1 then some .addressTruth
  else if src.isInt && dst.isPtr then some (.op (.mk .intToPtr) [])
  else if src.isPtr && dst.isPtr then some (.op (.mk .bitcast) [])
  else none

def castElement : Emit Tensor := do
  let ty := t.retyped target
  if t.type = ty then return t
  let src := t.type.element
  let dst := ty.element
  let device ← Emit.target
  if needsNewerDevice device src || needsNewerDevice device dst then throw .fp8OnOldDevice
  match conversion? src dst with
  | some (.op opcode more) => build opcode.1 (t.operand :: .ofTy ty :: more) ty opcode.2
  | some .truth => nonZero t (← zeroOf src)
  | some .addressTruth =>
    let wide := t.retyped .int64
    let word ← build .ptrToInt [t.operand, .ofTy wide] wide
    nonZero word (← build .getInt64 [.int 0] .int64)
  | none => throw (.cannotCast t.text ty.text)

def throughSingle : Bool :=
  let src := t.type.element
  let dst := target.element
  t.type != t.retyped target && (src == .fp16 || src == .bf16) && dst != .fp32 &&
    !(dst.mentionsFp8 && src.isFloating)

def cast : Emit Tensor := do
  if throughSingle t target then
    let single ← castElement t .fp32
    castElement single target.element
  else castElement t target

def bitcast : Emit Tensor := do
  let ty := t.retyped target
  if t.type = ty then return t
  let src := t.type.element
  let dst := ty.element
  if src.isPtr || dst.isPtr then cast t ty
  else
    match src, dst with
    | .scalar s, .scalar d =>
      if s.bits ≠ d.bits then throw (.bitcastSize s.bits d.bits)
      else build .bitcast [t.operand, .ofTy ty] ty
    | _, _ => throw (.implicit .missingAttribute)

end Tensor

/-! ### Arithmetic, comparison and bit operations -/

def liftExcept {α : Type} : Result α → Emit α
  | .ok a => pure a
  | .error f => throw f

namespace Tensor

variable (t l r : Tensor)

structure OperandRule where
  leftPointer : Bool := false
  rightPointer : Bool := false
  promote : Bool := true
  division : Bool := false

def operands (rule : OperandRule) (l r : Tensor) : Emit (Tensor × Tensor) := do
  let (l, r) ← broadcastPair l r
  let lt := l.dtype
  let rt := r.dtype
  liftExcept (Types.checkPointerOperand lt rt rule.leftPointer)
  liftExcept (Types.checkPointerOperand rt lt rule.rightPointer)
  if rule.promote && !lt.isPtr && !rt.isPtr then
    let ty ← liftExcept (Types.computationType lt rt rule.division)
    let l ← cast l ty
    let r ← cast r ty
    return (l, r)
  else return (l, r)

def binary (opcode : Opcode.Plain) (l r : Tensor) : Emit Tensor :=
  build opcode.1 [l.operand, r.operand] l.type opcode.2

def byClass (ty : Ty) (float int : Opcode.Plain) : Emit Opcode.Plain :=
  if ty.isFloating then pure float else if ty.isInt then pure int else throw .assertion

def bySign (ty : Ty) (float signed unsigned : Opcode.Plain) : Emit Opcode.Plain :=
  if ty.isFloating then pure float
  else if ty.isInt then pure (if ty.isSignedInt then signed else unsigned)
  else throw .assertion

def add : Emit Tensor := do
  let (l, r) ← operands { leftPointer := true, rightPointer := true } l r
  let (l, r) := if r.dtype.isPtr && !l.dtype.isPtr then (r, l) else (l, r)
  if l.dtype.isPtr then binary (.mk .addptr) l r
  else binary (← byClass l.dtype (.mk .fadd) (.mk .add)) l r

def subNumbers : Emit Tensor := do binary (← byClass l.dtype (.mk .fsub) (.mk .sub)) l r

def minus : Emit Tensor := do
  if t.dtype.isPtr then throw (.unaryMinus t.dtype)
  let zero ← zeroOf t.dtype
  let (l, r) ← operands { leftPointer := true } zero t
  subNumbers l r

def sub : Emit Tensor := do
  let (l, r) ← operands { leftPointer := true } l r
  if l.dtype.isPtr then binary (.mk .addptr) l (← minus r) else subNumbers l r

def mul : Emit Tensor := do
  let (l, r) ← operands {} l r
  binary (← byClass l.dtype (.mk .fmul) (.mk .mul)) l r

def truediv : Emit Tensor := do
  let (l, r) ← operands { division := true } l r
  if l.dtype.isInt then
    let l ← cast l .fp32
    let r ← cast r .fp32
    binary (.mk .fdiv) l r
  else binary (.mk .fdiv) l r

def floordiv : Emit Tensor := do
  let (l, r) ← operands { division := true } l r
  if l.dtype.isInt && r.dtype.isInt then binary (if l.dtype.isSignedInt then .mk .sdiv else .mk .udiv) l r
  else throw .assertion

def fdiv : Emit Tensor := do
  if !l.dtype.isFloating || !r.dtype.isFloating then throw .fdivNeedsFloats
  let (l, r) ← operands { promote := false, division := true } l r
  binary (.mk .fdiv) l r

def bitOperands : Emit (Tensor × Tensor) := do
  let (l, r) ← operands { promote := false } l r
  if !l.dtype.isInt || !r.dtype.isInt then throw (.incompatibleOperands l.dtype r.dtype)
  let ty ← liftExcept (Types.integerPromote l.dtype r.dtype)
  let l ← cast l ty
  let r ← cast r ty
  return (l, r)

def bitwise (opcode : Opcode.Plain) (l r : Tensor) : Emit Tensor := do
  let (l, r) ← bitOperands l r
  binary opcode l r

def and : Emit Tensor := bitwise (.mk .and) l r
def or : Emit Tensor := bitwise (.mk .or) l r
def xor : Emit Tensor := bitwise (.mk .xor) l r
def shl : Emit Tensor := bitwise (.mk .shl) l r
def lshr : Emit Tensor := bitwise (.mk .lshr) l r
def ashr : Emit Tensor := bitwise (.mk .ashr) l r

def shiftRight (sign l r : Tensor) : Emit Tensor := if sign.dtype.isSignedInt then ashr l r else lshr l r

def asBool : Emit Tensor := if t.type = .int1 then pure t else bitcast t .int1

def logicalAnd : Emit Tensor := do
  let l ← asBool l
  let r ← asBool r
  and l r

def logicalOr : Emit Tensor := do
  let l ← asBool l
  let r ← asBool r
  or l r

def invert : Emit Tensor := do
  if t.dtype.isPtr || t.dtype.isFloating then throw (.unaryInvert t.dtype)
  let ones ← build .getAllOnesValue [.ofTy t.dtype] t.dtype
  xor t ones

def not : Emit Tensor := do invert (← asBool t)

inductive Comparison where
  | gt | ge | lt | le | eq | ne

def Comparison.opcode (c : Comparison) (ty : Ty) : Emit Opcode.Plain :=
  match c with
  | .gt => bySign ty (.mk .fcmpOGT) (.mk .icmpSGT) (.mk .icmpUGT)
  | .ge => bySign ty (.mk .fcmpOGE) (.mk .icmpSGE) (.mk .icmpUGE)
  | .lt => bySign ty (.mk .fcmpOLT) (.mk .icmpSLT) (.mk .icmpULT)
  | .le => bySign ty (.mk .fcmpOLE) (.mk .icmpSLE) (.mk .icmpULE)
  | .eq => byClass ty (.mk .fcmpOEQ) (.mk .icmpEQ)
  | .ne => byClass ty (.mk .fcmpUNE) (.mk .icmpNE)

def boolLike : Ty := t.retyped .int1

def compare (c : Comparison) (l r : Tensor) : Emit Tensor := do
  let (l, r) ← operands {} l r
  let opcode ← c.opcode l.dtype
  build opcode.1 [l.operand, r.operand] l.boolLike opcode.2

def selectOperands (condition x y : Tensor) : Emit (Tensor × Tensor × Tensor) := do
  let rule : OperandRule := { leftPointer := true, rightPointer := true }
  let condition ← cast condition .int1
  if condition.type.isBlock then
    let (condition, x) ← broadcastPair condition x
    let (x, y) ← broadcastPair x y
    let (condition, x) ← broadcastPair condition x
    return (condition, ← operands rule x y)
  else
    let (x, y) ← operands rule x y
    let (condition, _) ← broadcastPair condition x
    return (condition, x, y)

def select (condition x y : Tensor) : Emit Tensor := do
  let (condition, x, y) ← selectOperands condition x y
  build .select [condition.operand, x.operand, y.operand] x.type

end Tensor

end TileKernel
