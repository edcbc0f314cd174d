import TileKernel.Lowering.Primitive
import TileKernel.Tensor.Math
import TileKernel.Tensor.Memory

/-! # Primitives on blocks and memory

The primitives as kernels call them: options are given by name, and masks and positions of block pointers may be constants.
-/

namespace TileKernel.Lowering

open Tensor hiding shape
open IR Primitive
open Rule hiding ofExcept

namespace Blocks

def arange (start stop : Value) : Rule Value := do
  match start.int?, stop.int? with
  | some a, some b => result (Tensor.arange a b [start.operand, stop.operand])
  | _, _ => throw .rangeNotConstant

/-- A dimension may be given as a truth value, which counts as zero or one; the operation that makes a new tensor of the shape is
told the shape as it was given. -/
def spelled (shape : Value) (x : Rule Value) : Rule Value := do
  let before ← valueCount
  let v ← x
  let dims := ((shape.unwrap.items?).getD []).map Value.unwrap
  match v with
  | .tensor ⟨some h, _⟩ =>
    if before ≤ h && dims.any Value.isTruth then Emit.respell h (dims.map Value.operand)
  | _ => pure ()
  return v

def full (shape : List Int) (value type : Value) : Rule Value := do
  match value with
  | .tensor t =>
    if t.numel ≠ 1 then throw .fillNotScalar
    result (fill shape t (← asTy type.unwrap))
  | v =>
    let ty ← asTy type
    result (fillConstant shape (Constant.equal v (.int 0)) v.operand ty)

def ones (shape : List Int) (type : Value) : Rule Value := do
  result (Tensor.ones shape (← asTy type))

def broadcast (l r : Value) : Rule Value := do
  let (l, r) ← broadcastPair (← asTensor l) (← asTensor r)
  return .tuple [.tensor l, .tensor r]

def cat (l r mayReorder : Value) : Rule Value := do
  if !mayReorder.truth then throw .catMayReorder
  result (Tensor.cat (← asTensor l) (← asTensor r) true)

def rankOf : Value → Rule Nat
  | .tensor t => pure t.shape.length
  | .ty (.block _ shape) => pure shape.length
  | _ => refuse .missingAttribute

def wrapAxes (axes : List Value) (rank : Int) : Rule (List Int) :=
  axes.mapM fun v =>
    match v.unwrap.int? with
    | some a => ofExcept (wrapAxis a rank)
    | none => refuse .type

def axesOf (axis : Value) : List Value :=
  match axis.unwrap with
  | .tuple items | .list items => items
  | v => [v]

def expandDims (input axis : Value) : Rule Value := do
  let rank := (← rankOf input) + (axesOf axis).length
  let axes ← wrapAxes (axesOf axis) rank
  if ¬ axes.Nodup then throw (.duplicateAxes axes)
  let t ← asTensor input
  result ((axes.mergeSort (· ≤ ·)).foldlM Tensor.expandDims t)

def dot (l r allowTf32 type : Value) : Rule Value := do
  result (Tensor.dot (← asTensor l) (← asTensor r) allowTf32.operand type.ty?)

def select (c x y : Value) : Rule Value := do
  result (Tensor.select (← toTensor c) (← toTensor x) (← toTensor y))

def hint (h : Tensor.Hint) (input values : Value) : Rule Value := do
  let items ← match values with
    | .const _ => pure [values]
    | v => iterate v
  let numbers ← constants "values" items
  result (Tensor.hint h (← asTensor input) numbers)

def function (f : Tensor.Function) (x : Value) : Rule Value := do
  result (Tensor.function f (← asTensor x))

def printable (c : Char) : Bool := (0x20 ≤ c.toNat && c.toNat ≤ 0x7e) || (9 ≤ c.toNat && c.toNat ≤ 13)

def devicePrint (title : Value) (args : List Value) : Rule Value := do
  match title with
  | .str s =>
    if !s.toList.all printable then throw (.printNotAscii s)
    result (print s (← toTensors args))
  | v => throw (.printNotString v.text)

def deviceAssert (condition message : Value) : Rule Value := do
  result (check (← toTensor condition) message.unwrap.operand)

def inlineAsm (code constraints args type isPure pack : Value) : Rule Value := do
  let items ← match args with
    | .list items => pure items
    | _ => refuse .missingAttribute
  let ts ← toTensors items
  let shape ← commonShapeOf ts
  let handles ← items.mapM fun v => do return (← asTensor v).operand
  let element ← asTy type
  let ty ← match shape with
    | some shape => emit (blockTy element shape)
    | none => pure element
  result (build .inlineAsm [code.unwrap.operand, constraints.unwrap.operand, .list handles, .ofTy ty,
    isPure.unwrap.operand, pack.unwrap.operand] ty)

/-- A type that reductions can work with: narrow integers are widened, and so are brain floats of the language's own. -/
def promoteReductionInput (v : Value) : Rule Value := do
  let t ← asTensor v
  let e := t.dtype
  match e with
  | .scalar s =>
    if s.isInt && s.bits < 32 then return ← result (cast t .int32)
  | _ => pure ()
  if e == .bf16 && (← target).ownTypes then result (cast t .fp32)
  else return v

def primitives : List Primitive :=
  [prim "program_id" ["axis"] fun axis => result (programId axis.unwrap.operand),
   prim "num_programs" ["axis"] fun axis => result (numPrograms axis.unwrap.operand),
   prim "arange" ["start", "end"] fun a b => arange a.unwrap b.unwrap,
   prim "full" ["shape", "value", "dtype"] fun shape value type => do
    spelled shape do full (← Rule.shape shape) value.unwrap type.unwrap,
   prim "ones" ["shape", "dtype"] fun shape type => do
    spelled shape do ones (← constants "Shape" (← iterate shape)) type.unwrap,
   prim "broadcast" ["input", "other"] broadcast,
   prim "broadcast_to" ["input", "shape"] fun input shape => spelled shape do
    let shape ← Rule.shape shape
    result (broadcastTo (← asTensor input) shape),
   prim "trans" ["input"] fun input => do result (trans (← asTensor input)),
   prim "cat" ["input", "other", opt "can_reorder" (.bool false)] cat,
   prim "view" ["input", "shape"] fun input shape => spelled shape do
    let shape ← Rule.shape shape
    result (view (← asTensor input) shape),
   prim "reshape" ["input", "shape"] fun _ shape => do
    let _ ← Rule.shape shape
    throw .reshapeUnsupported,
   prim "expand_dims" ["input", "axis"] expandDims,
   prim "dot" ["input", "other", opt "allow_tf32" (.bool true), opt "out_dtype" (.ty .fp32)]
    fun l r allowTf32 type => dot l r allowTf32.unwrap type.unwrap,
   prim "where" ["condition", "x", "y"] select,
   prim "umulhi" ["x", "y"] fun x y => do result (umulhi (← toTensor x) (← toTensor y)),
   prim "fdiv" ["x", "y", opt "ieee_rounding" (.bool false)] fun x y _ => do
    result (fdiv (← asTensor x) (← asTensor y)),
   prim "exp" ["x"] (function .exp), prim "log" ["x"] (function .log), prim "cos" ["x"] (function .cos),
   prim "sin" ["x"] (function .sin), prim "sqrt" ["x"] (function .sqrt),
   prim "abs" ["x"] fun x => do result (abs (← asTensor x)),
   prim "_promote_reduction_input" ["t"] promoteReductionInput,
   prim "debug_barrier" [] (result barrier),
   prim "multiple_of" ["input", "values"] (hint .multipleOf),
   prim "max_contiguous" ["input", "values"] (hint .maxContiguous),
   prim "max_constancy" ["input", "values"] (hint .maxConstancy),
   { prim "static_print" ["values"] (fun _ => pure .none) with params := [], variadic := true },
   prim "static_assert" ["cond", opt "msg" (.str "")] fun _ _ => pure .none,
   { prim "device_print" ["prefix", "args"] (fun title args => devicePrint title.unwrap ((args.items?).getD [])) with
      params := ["prefix"], variadic := true },
   prim "device_assert" ["cond", opt "msg" (.str "")] deviceAssert,
   prim "inline_asm_elementwise" ["asm", "constraints", "args", "dtype", "is_pure", "pack"] inlineAsm,
   { prim "_to_tensor" ["x"] (fun v => do return .tensor (← toTensor v)) with guarded := false },
   { prim "_constexpr_to_value" ["v"] (fun v => pure v.unwrap) with guarded := false, builds := false },
   { prim "binary_op_type_legalization" ["lhs", "rhs"] (fun l r => do
      let (l, r) ← operands {} (← asTensor l) (← asTensor r)
      return .tuple [.tensor l, .tensor r]) with guarded := false },
   { prim "_wrap_axis" ["axis", "ndim"] (fun axis rank => do
      if axis.isConst || rank.isConst then refuse .missingAttribute
      match axis.int?, rank.int? with
      | some a, some r => return .int (← ofExcept (wrapAxis a r))
      | _, _ => refuse .type) with guarded := false, builds := false },
   { prim "_shape_check_impl" ["shape"] (fun shape => do
      let _ ← Rule.shape shape
      return .list (((shape.unwrap.items?).getD []).map Value.unwrap)) with guarded := false, builds := false }]

def deviceQueries : List Primitive :=
  let query (name code constraints : String) (type : Ty) (isPure : Bool) : Primitive :=
    { prim name [] (inlineAsm (.str code) (.str constraints) (.list []) (.ty type) (.bool isPure) (.int 1)) with space := .cuda }
  [query "globaltimer" "mov.u64 $0, %globaltimer;" "=l" .int64 false, query "smid" "mov.u32 $0, %smid;" "=r" .int32 true]

def ofRoutine (r : Routine) : Primitive :=
  { space := .math, name := r.name
    params := (List.range r.arity).map fun i => s!"arg{i}"
    run := fun _ args => Combining.ofRule do result (r.apply (← toTensors args)) }

def ofExtremum (name : String) (f : Tensor → Tensor → Emit Tensor) : Primitive :=
  { prim name ["arg0", "arg1"] (fun l r => do result (f (← toTensor l) (← toTensor r))) with space := .math }

def mathPrimitives : List Primitive :=
  ofExtremum "min" minimum :: ofExtremum "max" maximum ::
    { prim "libdevice_path" [] (do return .str (← target).mathLibrary) with
      space := .math, guarded := false, builds := false } ::
    MathLibrary.all.map ofRoutine

end Blocks

/-! ## Reductions and scans

Both combine the elements along an axis by a function of the program, which is lowered into a region of its own: it gets the
elements of two groups and gives back those of the combined group.
-/

open Blocks

namespace Reduction

variable {env : Surroundings}

def shapeOf (t : Tensor) : Rule (List Int) :=
  match t.type with
  | .block _ shape => pure shape
  | _ => refuse .missingAttribute

def sharedShape : List Tensor → Rule (List Int)
  | [] => refuse .index
  | first :: rest => do
    let shape ← shapeOf first
    match rest.find? (·.type.shape? ≠ some shape) with
    | none => return shape
    | some t =>
      let _ ← shapeOf t
      throw .assertion

def withoutAxis (shape : List Int) (axis : Value) : List Int :=
  (shape.zipIdx.filter fun (_, i) => !Constant.equal (.int i) axis).map (·.1)

def resultOf (left : List Int) (t : Tensor) (v : ValueId) : Rule Tensor := do
  let e := t.type.element
  let ty ← if left.isEmpty then pure e else emit (blockTy e left)
  return ⟨some v, ty⟩

def flattened (t : Tensor) : Rule Tensor := emit (view t [t.numel])

def reduceAlong (inputs : List Tensor) (axis function : Value) : Combining env (List Tensor) := do
  let shape ← sharedShape inputs
  let results ← Combining.combine .reduce (inputs.map (·.operand)) axis.operand function (inputs.map (·.type.element))
  (inputs.zip results).mapM fun (t, v) => resultOf (withoutAxis shape axis) t v

def reduceAll (inputs : List Tensor) (axis function : Value) : Combining env (List Tensor) := do
  if axis.isNone then reduceAlong (← (inputs.mapM flattened : Rule (List Tensor))) (.int 0) function
  else reduceAlong inputs axis function

def scanAll (inputs : List Tensor) (axis function : Value) : Combining env (List Tensor) := do
  match inputs with
  | [t] =>
    let shape ← shapeOf t
    let results ← Combining.combine .scan [t.operand] axis.operand function [t.type.element]
    results.mapM fun v => do
      return ⟨some v, ← emit (blockTy t.type.element shape)⟩
  | _ => throw .scanSingle

def onTensors (combine : List Tensor → Value → Value → Combining env (List Tensor)) (input axis function : Value) :
    Combining env Value := do
  match input with
  | .tensor t =>
    match ← combine [t] axis.unwrap function with
    | r :: _ => return .tensor r
    | [] => refuse .index
  | v => return .tuple ((← combine (← tensors v) axis.unwrap function).map .tensor)

def reduce : Value → Value → Value → Combining env Value := onTensors reduceAll

def scan : Value → Value → Value → Combining env Value := onTensors scanAll

def indexOf (n : Nat) (v : Value) : Rule Nat :=
  match v.int? with
  | none => refuse .type
  | some i =>
    if 0 ≤ i ∧ i < n then pure i.toNat
    else if -(n : Int) ≤ i ∧ i < 0 then pure (i + n).toNat
    else refuse .index

def reduceWithIndices (input axis function : Value) : Combining env Value := do
  let axis := axis.unwrap
  let t ← asTensor input
  let shape := t.shape
  let a ← indexOf shape.length axis
  let n := Value.int (shape.getD a 0)
  let index ← arange (.int 0) n
  let index ← if shape.length > 1 then do
      let axes := ((List.range shape.length).eraseIdx a).map fun (i : Nat) => Value.const (.int i)
      let index ← expandDims index (.list axes)
      result (broadcastTo (← asTensor index) shape)
    else pure index
  match ← reduce (.tuple [input, index]) axis function with
  | .tuple [value, indices] => return .tuple [value, indices]
  | _ => refuse .value

/-- The combination of integers by exclusive or; the function that combines two of them belongs to the library. -/
def xorSum (input axis : Value) : Combining env Value := do
  let t ← asTensor input
  if !t.dtype.isInt then throw .xorSumIntegers
  let input ← promoteReductionInput input
  let function := (((← program).scope .standard).find? "_xor_combine").getD .none
  reduce input axis function

def primitives : List Primitive :=
  [combining "reduce" ["input", "axis", "combine_fn"] reduce,
   combining "_reduce_with_indices" ["input", "axis", "combine_fn"] reduceWithIndices,
   combining "associative_scan" ["input", "axis", "combine_fn"] scan,
   { combining "xor_sum" ["input", opt "axis" .none] xorSum with space := .standard }]

end Reduction

/-! ## Memory -/

open Rule hiding ofExcept

namespace Memory

def option {α : Type} (what : String) (default : α) (table : List (String × α)) (v : Value) : Result α :=
  if !v.truth then .ok default
  else
    match v with
    | .str s =>
      match table.lookup s with
      | some a => .ok a
      | none => .error (.unsupportedOption what s)
    | v => .error (.unsupportedOption what v.text)

def loadCache : Value → Result CacheModifier :=
  option "Cache modifier" .none [(".ca", .ca), (".cg", .cg)]

def storeCache : Value → Result CacheModifier :=
  option "Cache modifier" .none [(".wb", .wb), (".cg", .cg), (".cs", .cs), (".wt", .wt)]

def eviction : Value → Result EvictionPolicy :=
  option "Eviction policy" .normal [("evict_last", .evictLast), ("evict_first", .evictFirst)]

def padding : Value → Result (Option Padding) :=
  option "Padding option" none [("zero", some .zero), ("nan", some .nan)]

def memoryOrder : Value → Result MemoryOrder :=
  option "Memory semantic" .acquireRelease
    [("acquire", .acquire), ("release", .release), ("acq_rel", .acquireRelease), ("relaxed", .relaxed)]

def itemsOf (v : Value) : List Value :=
  match v with
  | .tuple items | .list items => items
  | .str s => s.toList.map fun c => .str c.toString
  | v => [v]

/-- The dimensions to check against the bounds of an array, in order and without repetition. -/
def boundary (v : Value) (shape : List Int) : Result (List Int) :=
  if !v.truth then .ok []
  else do
    let dims ← (itemsOf v).mapM fun item =>
      match item.unwrap.int? with
      | some d => if 0 ≤ d ∧ d < shape.length then .ok d else .error Fault.assertion
      | none => .error .assertion
    if dims.isEmpty then .error .assertion
    else if ¬ dims.Nodup then .error .duplicateBoundary
    else .ok (dims.mergeSort (· ≤ ·))

def optionalTensor (v : Value) : Rule (Option Tensor) :=
  match v.unwrap with
  | .none => pure none
  | _ => do return some (← toTensor v)

def blockPointee? (t : Tensor) : Option Ty :=
  match t.type with
  | .pointer (.block e shape) _ => some (.block e shape)
  | _ => none

def load (ptr : Value) (mask other : Option Tensor) (bounds paddingOption cache evict isVolatile : Value) : Rule Value := do
  let cache ← ofExcept (loadCache cache)
  let evict ← ofExcept (eviction evict)
  let pad ← ofExcept (padding paddingOption)
  let ptr ← asTensor ptr
  match blockPointee? ptr with
  | some block =>
    result (loadBlockPointer ptr block (mask.isSome || other.isSome) (boundary bounds) pad cache evict
      isVolatile.operand)
  | none =>
    result (loadPointers ptr mask other (pad.isSome || bounds.truth) cache evict isVolatile.operand)

def store (ptr : Value) (value : Tensor) (mask : Option Tensor) (bounds cache evict : Value) : Rule Value := do
  let cache ← ofExcept (storeCache cache)
  let evict ← ofExcept (eviction evict)
  let ptr ← asTensor ptr
  match blockPointee? ptr with
  | some block =>
    result (storeBlockPointer ptr value block mask.isSome (boundary bounds) cache evict)
  | none => result (storePointers ptr value mask bounds.truth cache evict)

def compareAndSwap (ptr : Value) (expected value : Tensor) (order : Value) : Rule Value := do
  let order ← ofExcept (memoryOrder order)
  result (atomicCas (← asTensor ptr) expected value order)

/-- An atomic update. A mask that counts as nothing lets every element through; one that is not a tensor fails when it is
needed, at once for a block of pointers and at the update itself for a single one. -/
def atomic (op : AtomicOp) (ptr : Value) (value : Tensor) (mask order : Value) : Rule Value := do
  let ptr ← asTensor ptr
  let unusable := mask.truth && !mask.isTensor
  if unusable && ptr.type.isBlock then
    let _ ← ofExcept (atomicElement (← target) op ptr)
    refuse .missingAttribute
  let (value, given) ← atomicOperands op ptr value mask.tensor?
  let full ← match given with
    | some m => pure m
    | none => if unusable then pure default else emit (fullMask ptr)
  let order ← ofExcept (memoryOrder order)
  if unusable then
    if (op == .max || op == .min) && !value.dtype.isInt then
      let _ ← floatUpdate ptr value
    refuse .missingAttribute
  result (Tensor.atomic op ptr value full order)

def position (wide : Bool) (v : Value) : Rule Operand := do
  match v with
  | .const c => return .value (← Emit.op (if wide then .getInt64 else .getInt32) [c.operand] (by split <;> rfl))
  | .tensor t =>
    if t.numel ≠ 1 then throw .blockPtrScalar
    if !t.dtype.isInt then throw .blockPtrInteger
    let extend (ty : Ty) : Rule Operand := do
      return .value (← Emit.op .intCast [t.operand, .ofTy ty, .bool t.dtype.isSignedInt])
    if t.dtype ≠ .int64 ∧ wide then extend .int64
    else if t.dtype ≠ .int32 then extend .int32
    else return t.operand
  | v => throw (.blockPtrElement v.classText)

def positions (wide : Bool) (v : Value) : Rule (List Operand) := (itemsOf v).mapM (position wide)

def blockShape (v : Value) : Result (List Int) :=
  (itemsOf v).mapM fun item =>
    match item.unwrap.int? with
    | some n => if -Int.pow 2 31 ≤ n ∧ n < Int.pow 2 31 then .ok n else .error .blockPtrShape
    | none => .error .blockPtrShape

def dimensionOrder (v : Value) : Result (List Int) := do
  let items := (itemsOf v).map (·.unwrap)
  match items.mapM Value.int? with
  | some ns =>
    if ns.mergeSort (· ≤ ·) = (List.range ns.length).map (fun (i : Nat) => (i : Int)) then .ok ns
    else .error .blockPtrOrder
  | none =>
    if items.any Value.isTensor then .error (if items.length > 1 then .implicit .type else .outsideKernel)
    else .error (if items.length > 1 then .implicit .type else .blockPtrOrder)

def makeBlockPtr (base shape strides offsets block order : Value) : Rule Value := do
  let shape ← positions true shape
  let strides ← positions true strides
  let offsets ← positions false offsets
  let base ← asTensor base
  match base.type with
  | .pointer e space =>
    if e.isBlock then throw .blockPtrBase
    let base ← if e = .int1 then emit (cast base (.pointer .int8 space)) else pure base
    let block ← ofExcept (blockShape block)
    let order ← ofExcept (dimensionOrder order)
    if [shape.length, strides.length, offsets.length, order.length].any (· ≠ block.length) then throw .blockPtrLengths
    result (Tensor.makeBlockPtr base shape strides offsets block order)
  | _ => throw .blockPtrBase

def advance (base offsets : Value) : Rule Value := do
  let offsets ← positions false offsets
  result (Tensor.advance (← asTensor base) offsets)

def atomicPrimitive (name : String) (op : AtomicOp) : Primitive :=
  prim name ["pointer", "val", opt "mask" .none, opt "sem" .none] fun ptr value mask order => do
    atomic op ptr (← toTensor value) mask order.unwrap

def primitives : List Primitive :=
  [prim "load" ["pointer", opt "mask" .none, opt "other" .none, opt "boundary_check" (.tuple []),
      opt "padding_option" (.str ""), opt "cache_modifier" (.str ""), opt "eviction_policy" (.str ""),
      opt "volatile" (.bool false)] fun ptr mask other bounds pad cache evict isVolatile => do
    load ptr (← optionalTensor mask) (← optionalTensor other) bounds pad.unwrap cache.unwrap evict.unwrap isVolatile.unwrap,
   prim "store" ["pointer", "value", opt "mask" .none, opt "boundary_check" (.tuple []), opt "cache_modifier" (.str ""),
      opt "eviction_policy" (.str "")] fun ptr value mask bounds cache evict => do
    store ptr (← toTensor value) (← optionalTensor mask) bounds cache.unwrap evict.unwrap,
   prim "make_block_ptr" ["base", "shape", "strides", "offsets", "block_shape", "order"] makeBlockPtr,
   prim "advance" ["base", "offsets"] advance,
   prim "atomic_cas" ["pointer", "cmp", "val", opt "sem" .none] fun ptr expected value order => do
    compareAndSwap ptr (← toTensor expected) (← toTensor value) order.unwrap,
   atomicPrimitive "atomic_xchg" .xchg, atomicPrimitive "atomic_add" .add, atomicPrimitive "atomic_max" .max,
   atomicPrimitive "atomic_min" .min, atomicPrimitive "atomic_and" .and, atomicPrimitive "atomic_or" .or,
   atomicPrimitive "atomic_xor" .xor]

end Memory

end TileKernel.Lowering
