import TileKernel.Device
import TileKernel.Tensor.Arith

/-! # Making and reshaping blocks

Ranges, filled blocks, views, new axes, transposition and concatenation, and hints that promise something about the
elements of a tensor.
-/

namespace TileKernel

open IR

namespace Tensor

def programId (axis : Operand) : Emit Tensor := build .getProgramId [axis] .int32

def numPrograms (axis : Operand) : Emit Tensor := build .getNumPrograms [axis] .int32

/-- The block of the integers from `start` up to but excluding `stop`; `bounds` are the two as they were written. -/
def arange (start stop : Int) (bounds : List Operand) : Emit Tensor := do
  if start.shiftRight 32 ≠ 0 ∨ stop.shiftRight 32 ≠ 0 then throw .rangeTooWide
  if stop ≤ start then throw .rangeEmpty
  let ty ← blockTy .int32 [stop - start]
  build .makeRange bounds ty

def fill (shape : List Int) (value : Tensor) (element : Ty) : Emit Tensor := do
  if value.numel ≠ 1 then throw .fillNotScalar
  let value ← cast value element
  let ty ← blockTy value.dtype shape
  build .splat [value.operand, .ofShape shape] ty

def fillConstant (shape : List Int) (isZero : Bool) (constant : Operand) (element : Ty) : Emit Tensor := do
  let v ← if isZero then build .getNullValue [.ofTy element] element
    else match element with
      | .scalar s =>
        match Opcode.constantOf? s with
        | some opcode => build opcode.1 [constant] element opcode.2
        | none => throw (.unknownInstruction ("get_" ++ s.name))
      | t => throw (.unknownInstruction ("get_" ++ t.text))
  let ty ← blockTy element shape
  build .splat [v.operand, .ofShape shape] ty

def ones (shape : List Int) (element : Ty) : Emit Tensor := do
  let v ← build .getOneValue [.ofTy element] element
  let ty ← blockTy element shape
  build .splat [v.operand, .ofShape shape] ty

variable (t : Tensor)

def view (shape : List Int) : Emit Tensor := do
  match t.type.numel? with
  | none => throw (.implicit .missingAttribute)
  | some n =>
    if n ≠ Ty.elements shape then throw .viewSize
    let ty ← blockTy t.dtype shape
    build .view [t.operand, .ofShape shape] ty

def insertionIndex (n : Nat) (axis : Int) : Nat :=
  if axis ≥ 0 then min axis.toNat n else n - min axis.natAbs n

def expandDims (axis : Int) : Emit Tensor := do
  match t.type with
  | .block e shape =>
    let ty ← blockTy e (shape.insertIdx (insertionIndex shape.length axis) 1)
    build .expandDims [t.operand, .int axis] ty
  | _ => throw (.implicit .missingAttribute)

def cat (l r : Tensor) (mayReorder : Bool) : Emit Tensor := do
  if !mayReorder then throw .catMayReorder
  if l.shape.length ≠ 1 then throw .assertion
  let ty ← blockTy l.dtype [l.shape.headD 0 + r.shape.headD 0]
  build .cat [l.operand, r.operand] ty

def trans : Emit Tensor := do
  match t.shape with
  | [m, n] =>
    let ty ← blockTy t.dtype [n, m]
    build .trans [t.operand] ty
  | _ => throw .transposeRank

def wrapAxis (axis rank : Int) : Result Int :=
  if -rank ≤ axis ∧ axis < rank then .ok (if axis ≥ 0 then axis else axis + rank) else .error (.invalidAxis axis rank)

inductive Hint where
  | multipleOf | maxContiguous | maxConstancy

def Hint.name : Hint → String
  | .multipleOf => "multiple_of"
  | .maxContiguous => "max_contiguous"
  | .maxConstancy => "max_constancy"

def Hint.key : Hint → String
  | .multipleOf => "tt.divisibility"
  | .maxContiguous => "tt.contiguity"
  | .maxConstancy => "tt.constancy"

def hint (h : Hint) (t : Tensor) (values : List Int) : Emit Tensor := do
  if t.shape.length ≠ values.length then throw (.hintRank h.name)
  match t.handle with
  | none => throw (.implicit .missingAttribute)
  | some v =>
    Emit.hint v h.key values
    return t

inductive Function where
  | exp | log | cos | sin | sqrt

def Function.opcode : Function → Opcode.Plain
  | .exp => .mk .exp
  | .log => .mk .log
  | .cos => .mk .cos
  | .sin => .mk .sin
  | .sqrt => .mk .sqrt

def checkReal : Emit Unit :=
  if t.dtype = .fp32 ∨ t.dtype = .fp64 then pure () else throw (.mathDtype t.dtype.text)

def function (f : Function) (t : Tensor) : Emit Tensor := do
  checkReal t
  build f.opcode.1 [t.operand] t.type f.opcode.2

def abs : Emit Tensor := do
  if t.dtype.isFloating then build .fabs [t.operand] t.type
  else if t.dtype.isSignedInt then build .iabs [t.operand] t.type
  else if t.dtype.isUnsignedInt then pure t
  else throw (.unexpectedDtype t.dtype)

def barrier : Emit Tensor := effect .barrier []

def print (text : String) (args : List Tensor) : Emit Tensor :=
  effect .print [.str text, .list (args.map (·.operand))]

def check (condition : Tensor) (message : Operand) : Emit Tensor := do
  let condition ← if condition.type.isBlock then pure condition else splat condition [1]
  effect .assert [condition.operand, message, .str "unknown", .str "unknown", .int 0]

end Tensor

/-! ## Matrix products

Devices that name their architecture multiply some types by conversion to another one; which ones depends on the generation of
their matrix units.
-/

variable (target : Target)

namespace IR.Target

def matrixCoreVersion : Result Nat :=
  if !target.isHip then .ok 0
  else match Device.reportedParts? target.archInfo with
    | none => .ok 0
    | some parts =>
      match parts[1]? with
      | none => refused .index
      | some name =>
        let gpu := (name.splitOn ":").headD ""
        .ok (if gpu == "gfx908" then 1 else if gpu == "gfx90a" then 2
          else if gpu == "gfx940" || gpu == "gfx941" || gpu == "gfx942" then 3 else 0)

def supportedGranularity (m n k : Int) : Bool :=
  [((32 : Int), (8 : Int)), (16, 16)].any fun (mn, kk) => m.fmod mn == 0 && n.fmod mn == 0 && k.fmod kk == 0

def supportsMatrixProduct (m n k : Int) : Result Bool := do
  let version ← matrixCoreVersion target
  return 1 ≤ version && version ≤ 3 && supportedGranularity m n k

end IR.Target

namespace Tensor

def checkDotTypes (a b : Ty) : Result Unit := do
  let require (ok : Bool) (f : Fault) : Result Unit := if ok then .ok () else .error f
  if target.isHip then
    require (a == b || (a.mentionsFp8 && b == .fp16) || (a == .fp16 && b.mentionsFp8) || (a.mentionsFp8 && b.mentionsFp8))
      (.dotDtypes a b)
  else match target.arch with
    | .named => require (a == b) (.dotDtypes a b)
    | .capability n =>
      if n < 90 then
        require (a != .scalar .fp8e4nv && b != .scalar .fp8e4nv) .dotFp8e4nv
        require (a == b) (.dotDtypes a b)
      else
        require (a != .scalar .fp8e4b15 && b != .scalar .fp8e4b15) .dotFp8e4b15
        require (a != .scalar .fp8e4b15x4 && b != .scalar .fp8e4b15x4) .dotFp8e4b15x4
        let fp8 (t : Ty) : Bool := t == .scalar .fp8e4nv || t == .scalar .fp8e5
        let plain (t : Ty) : Bool := t == .fp16 || t == .bf16 || t == .fp32 || t == .int1
        if a.isInt || b.isInt then
          require (a == b) (.dotSameType a b)
          require (a == .int8 || a == .scalar .uint8) (.dotIntegers a)
        else if a.mentionsFp8 || b.mentionsFp8 then
          require (fp8 a) (.dotFirstFp8 a)
          require (fp8 b) (.dotSecondFp8 b)
        else
          require (plain a) (.dotUnsupported a)
          require (plain b) (.dotUnsupported b)
          require (a == b) (.dotDtypes a b)

/-- The sizes that can be multiplied: two matrices with one inner dimension, no dimension below sixteen. -/
def checkDotShapes (a b : List Int) : Result (Int × Int × Int) :=
  match a, b with
  | [m, k], [l, n] =>
    if k ≠ l then .error (.dotInner a b k l)
    else if m ≥ 16 ∧ k ≥ 16 ∧ n ≥ 16 then .ok (m, n, k) else .error (.dotSmall a b)
  | [_, _], _ => .error (.dotRank "Second" b)
  | _, _ => .error (.dotRank "First" a)

/-- The type of an accumulator and its zero: integers accumulate in 32 bits, single precision and brain floats in single
precision, everything else in the type that was asked for. -/
def dotAccumulator (element : Ty) (k : Int) (asked : Option Ty) : Emit (Tensor × Ty) := do
  if element.isInt then
    if element ≠ .int8 then throw .dotOnlyInt8
    if !target.isHip && k < 32 then throw .dotSmallBlocks
    return (← build .getInt32 [.int 0] .int32, .int32)
  else if element = .fp32 ∨ element = .bf16 then return (← build .getFp32 [.int 0] .fp32, .fp32)
  else match asked with
    | none => throw (.implicit .missingAttribute)
    | some ty =>
      let zero ← if ty = .fp16 then build .getFp16 [.int 0] ty else build .getFp32 [.int 0] ty
      return (zero, ty)

def dot (l r : Tensor) (allowTf32 : Operand) (asked : Option Ty) : Emit Tensor := do
  let target := (← Emit.target)
  if !l.type.isBlock || !r.type.isBlock then throw .assertion
  liftExcept (checkDotTypes target l.dtype r.dtype)
  let (m, n, k) ← liftExcept (checkDotShapes l.shape r.shape)
  let (l, r) ← if target.isHip then do
      let version ← liftExcept (target.matrixCoreVersion)
      let keep := version == 3 && l.dtype.mentionsFp8 && r.dtype.mentionsFp8
      let lFp8 := l.dtype.mentionsFp8
      let rFp8 := r.dtype.mentionsFp8
      let l ← if !keep && lFp8 then cast l .fp16 else pure l
      let r ← if !keep && rFp8 then cast r .fp16 else pure r
      pure (l, r)
    else pure (l, r)
  let (zero, ty) ← dotAccumulator target l.dtype k asked
  let product (zero : Tensor) (element : Ty) (l r : Tensor) : Emit Tensor := do
    let acc ← build .splat [zero.operand, .ofShape [m, n]] element
    let result ← blockTy element [m, n]
    build .dot [l.operand, r.operand, acc.operand, allowTf32] result
  if target.isHip then
    let onMatrixUnits ← liftExcept (target.supportsMatrixProduct m n k)
    if !onMatrixUnits then
      let computed : Ty := if l.dtype.isInt then .fp32 else ty
      let l ← cast l computed
      let r ← cast r computed
      let zero ← if computed = .fp16 then build .getFp16 [.int 0] computed else build .getFp32 [.int 0] computed
      return ← cast (← product zero computed l r) ty
    match ty with
    | .scalar s =>
      if s.bits < 32 then
        let (computed, opcode) : Ty × Opcode.Plain :=
          if l.dtype.isInt then (.int32, (.mk .getInt32)) else (.fp32, (.mk .getFp32))
        let zero ← build opcode.1 [.int 0] computed opcode.2
        return ← cast (← product zero computed l r) ty
    | _ => throw (.implicit .missingAttribute)
  product zero ty l r

end Tensor

end TileKernel
