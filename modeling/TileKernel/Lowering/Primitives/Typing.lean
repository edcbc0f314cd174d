import TileKernel.Lowering.Primitives.Blocks

/-! # Operators and typing rules as primitives

The methods that operators on tensors stand for: the operand beside the tensor may be a number, and an operator with the tensor
on the right has a method of its own. The typing rules behind the primitives have names of their own, and take tensors, types and
plain numbers where the primitives take constants.
-/

namespace TileKernel.Lowering

open IR Primitive Tensor
open Rule hiding ofExcept

namespace Operators

def binary (name : String) (guarded : Bool) (f : Tensor → Tensor → Emit Tensor) : Primitive :=
  { prim name ["self", "other"] (fun self other => do result (f (← asTensor self) (← toTensor other))) with guarded }

def unary (name : String) (f : Tensor → Emit Tensor) : Primitive :=
  prim name ["self"] fun self => do result (f (← asTensor self))

def swapped (f : Tensor → Tensor → Emit Tensor) (l r : Tensor) : Emit Tensor := f r l

/-- Index a tensor: `None` adds an axis of size one at its place, a full slice keeps an axis. -/
def getItem (self : Tensor) (index : Value) : Rule Value := do
  let items ← match index with
    | .slice _ _ _ => pure [index]
    | v => iterate v
  let mut t := self
  for (item, axis) in items.zipIdx do
    match item with
    | .const .none => t ← expandDims t axis
    | .slice .none .none .none => pure ()
    | v => throw (.tensorIndex v.text)
  return .tensor t

def convert (self : Tensor) (type reinterpret : Value) : Rule Value := do
  if reinterpret.unwrap.truth then result (bitcast self (← asTy type))
  else result (cast self (← asTy type.unwrap))

def methods : List Primitive :=
  [binary "__add__" true add,
   binary "__radd__" false add,
   binary "__sub__" true sub,
   binary "__rsub__" false (swapped sub),
   binary "__mul__" true mul,
   binary "__rmul__" false mul,
   binary "__truediv__" true truediv,
   binary "__rtruediv__" false (swapped truediv),
   binary "__floordiv__" true floordiv,
   binary "__rfloordiv__" true (swapped floordiv),
   binary "__mod__" true mod,
   binary "__rmod__" true (swapped mod),
   unary "__neg__" minus,
   unary "__invert__" invert,
   binary "__and__" true and,
   binary "__rand__" true (swapped and),
   binary "__or__" true or,
   binary "__ror__" true (swapped or),
   binary "__xor__" true xor,
   binary "__rxor__" true (swapped xor),
   binary "__lshift__" true shl,
   binary "__rlshift__" true (swapped shl),
   binary "__rshift__" true (fun self other => shiftRight self self other),
   binary "__rrshift__" true (fun self other => shiftRight self other self),
   binary "__gt__" true (compare .gt),
   binary "__rgt__" true (swapped (compare .gt)),
   binary "__ge__" true (compare .ge),
   binary "__rge__" true (swapped (compare .ge)),
   binary "__lt__" true (compare .lt),
   binary "__rlt__" true (swapped (compare .lt)),
   binary "__le__" true (compare .le),
   binary "__rle__" true (swapped (compare .le)),
   binary "__eq__" true (compare .eq),
   binary "__ne__" true (compare .ne),
   binary "logical_and" true logicalAnd,
   binary "logical_or" true logicalOr,
   unary "__not__" not,
   { prim "__str__" ["self"] (fun self => do return .str (← asTensor self).text) with guarded := false, builds := false },
   prim "__getitem__" ["self", "slices"] fun self index => do getItem (← asTensor self) index,
   prim "to" ["self", "dtype", opt "bitcast" (.bool false)] fun self type reinterpret => do
    convert (← asTensor self) type reinterpret]

def method? (name : String) : Option Primitive := methods.find? (·.name == name)

end Operators

/-! ## Typing rules -/

namespace Typing

def rule (name : String) (params : List (Parameter Value)) (run : Curried Value (Rule Value) params) : Primitive :=
  { prim name params run with space := .semantic, guarded := false }

def fact (name : String) (params : List (Parameter Value)) (run : Curried Value (Rule Value) params) : Primitive :=
  { rule name params run with builds := false }

def onTensors (name : String) (f : Tensor → Tensor → Emit Tensor) (x : String := "input") (y : String := "other") : Primitive :=
  rule name [x, y] fun l r => do result (f (← asTensor l) (← asTensor r))

def onTensor (name param : String) (f : Tensor → Emit Tensor) : Primitive :=
  rule name [param] fun t => do result (f (← asTensor t))

def integer (v : Value) : Rule Int :=
  match v.int? with
  | some n => pure n
  | none => refuse .type

def integers (v : Value) : Rule (List Int) := do (← iterate v).mapM integer

def maybe (v : Value) : Rule (Option Tensor) :=
  if v.truth then do return some (← asTensor v) else pure none

def pair (x : Rule (Tensor × Tensor)) : Rule Value := do
  let (l, r) ← x
  return .tuple [.tensor l, .tensor r]

def optionValue {α : Type} (f : Value → Result α) (name : α → Value) (param : String) (rule : String) : Primitive :=
  fact rule [param] fun v => do return name (← ofExcept (f v))

def atomicRule (name : String) (op : AtomicOp) : Primitive :=
  rule name ["ptr", "val", "mask", "sem"] fun ptr value mask order => do
    Memory.atomic op ptr (← asTensor value) mask order

def hintRule (h : Tensor.Hint) : Primitive :=
  fact h.name ["x", "values"] fun t values => do result (hint h (← asTensor t) (← integers values))

def onTypes : List Primitive :=
  [fact "integer_promote_impl" ["a_ty", "b_ty"] fun a b => do
    return .ty (← ofExcept (Types.integerPromote (← asTy a) (← asTy b))),
   fact "computation_type_impl" ["a_ty", "b_ty", "div_or_mod"] fun a b d => do
    return .ty (← ofExcept (Types.computationType (← asTy a) (← asTy b) d.truth)),
   fact "check_ptr_type_impl" ["type_a", "type_b", "allow_ptr_a"] fun a b allow => do
    ofExcept (Types.checkPointerOperand (← asTy a) (← asTy b) allow.truth)
    return .none,
   fact "_bool_like" ["v"] fun t => do return .ty (← asTensor t).boolLike,
   fact "_is_cuda" ["arch"] fun v => pure (.bool v.int?.isSome),
   fact "is_hip" [] (do return .bool (← target).isHip),
   fact "gpu_matrix_core_version" [] (do return .int (← ofExcept (Target.matrixCoreVersion (← target)))),
   fact "mfma_supported_granularity" ["m", "n", "k"] fun m n k => do
    return .bool (Target.supportedGranularity (← integer m) (← integer n) (← integer k)),
   fact "mfma_supported" ["M", "N", "K", "allow_tf32", "ret_scalar_ty"] fun m n k _ _ => do
    let (m, n, k) := (← integer m, ← integer n, ← integer k)
    return .bool (← ofExcept (Target.supportsMatrixProduct (← target) m n k))]

def onOptions : List Primitive :=
  [optionValue Memory.loadCache (fun c => .option c.name) "cache_modifier" "_str_to_load_cache_modifier",
   optionValue Memory.storeCache (fun c => .option c.name) "cache_modifier" "_str_to_store_cache_modifier",
   optionValue Memory.eviction (fun e => .option e.name) "eviction_policy" "_str_to_eviction_policy",
   optionValue Memory.padding (fun p => (p.map fun p => Value.option p.name).getD .none) "padding_option"
    "_str_to_padding_option",
   optionValue Memory.memoryOrder (fun o => .option o.name) "sem_option" "_str_to_sem",
   fact "_canonicalize_boundary_check" ["boundary_check", "block_shape"] fun v shape => do
    let n := (← iterate shape).length
    let dims ← ofExcept (Memory.boundary v (List.replicate n 0))
    return if v.truth then .list (dims.map .int) else .tuple []]

def onNumbers : List Primitive :=
  [onTensors "add" add, onTensors "sub" sub, onTensors "mul" mul,
   onTensors "truediv" truediv, onTensors "floordiv" floordiv, onTensors "mod" mod,
   rule "fdiv" ["input", "other", "ieee_rounding"] fun l r _ => do result (fdiv (← asTensor l) (← asTensor r)),
   onTensors "and_" and, onTensors "or_" or, onTensors "xor_" xor, onTensors "shl" shl,
   onTensors "lshr" lshr, onTensors "ashr" ashr, onTensors "logical_and" logicalAnd,
   onTensors "logical_or" logicalOr, onTensor "not_" "input" not, fact "plus" ["input"] pure,
   onTensor "minus" "input" minus, onTensor "invert" "input" invert,
   onTensors "greater_than" (compare .gt), onTensors "greater_equal" (compare .ge),
   onTensors "less_than" (compare .lt), onTensors "less_equal" (compare .le),
   onTensors "equal" (compare .eq), onTensors "not_equal" (compare .ne),
   rule "binary_op_type_checking_impl" ["lhs", "rhs", opt "allow_lhs_ptr" (.bool false), opt "allow_rhs_ptr" (.bool false),
      opt "arithmetic_check" (.bool true), opt "div_or_mod" (.bool false)] fun l r lp rp arith div => pair do
    let rule : Tensor.OperandRule :=
      { leftPointer := lp.truth, rightPointer := rp.truth, promote := arith.truth, division := div.truth }
    operands rule (← asTensor l) (← asTensor r),
   rule "bitwise_op_type_checking_impl" ["input", "other"] fun l r => pair do
    bitOperands (← asTensor l) (← asTensor r),
   onTensors "umulhi" umulhi "x" "y",
   onTensor "floor" "x" floor, onTensor "exp" "x" (function .exp), onTensor "log" "x" (function .log),
   onTensor "cos" "x" (function .cos), onTensor "sin" "x" (function .sin),
   onTensor "sqrt" "x" (function .sqrt), onTensor "abs" "x" abs]

def onBlocks : List Primitive :=
  [rule "program_id" ["axis"] fun axis => result (programId axis.operand),
   rule "num_programs" ["axis"] fun axis => result (numPrograms axis.operand),
   rule "arange" ["start", "end"] Blocks.arange,
   rule "full" ["shape", "value", "dtype"] fun shape value type => Blocks.spelled shape do
    Blocks.full (← integers shape) value type,
   rule "ones" ["shape", "dtype"] fun shape type => Blocks.spelled shape do Blocks.ones (← integers shape) type,
   rule "view" ["input", "dst_shape"] fun t shape => Blocks.spelled shape do
    let shape ← integers shape
    result (view (← asTensor t) shape),
   rule "reshape" ["input", "dst_shape"] fun _ _ => throw .reshapeUnsupported,
   rule "expand_dims" ["input", "axis"] fun t axis => do
    let t ← asTensor t
    if !t.type.isBlock then refuse .missingAttribute
    result (expandDims t (← integer axis)),
   rule "cat" ["lhs", "rhs", "can_reorder"] Blocks.cat,
   onTensor "trans" "input" trans,
   rule "broadcast_impl_shape" ["input", "shape"] fun t shape => Blocks.spelled shape do
    result (broadcastTo (← asTensor t) (← integers shape)),
   rule "broadcast_impl_value" ["lhs", "rhs"] Blocks.broadcast,
   rule "bitcast" ["input", "dst_ty"] fun t ty => do result (bitcast (← asTensor t) (← asTy ty)),
   rule "cast" ["input", "dst_ty"] fun t ty => do result (cast (← asTensor t) (← asTy ty.unwrap)),
   rule "dot" ["lhs", "rhs", "allow_tf32", "out_dtype"] Blocks.dot,
   rule "where" ["condition", "x", "y"] fun c x y => do
    result (select (← asTensor c) (← asTensor x) (← asTensor y)),
   hintRule .multipleOf, hintRule .maxContiguous, hintRule .maxConstancy,
   rule "debug_barrier" [] (result barrier),
   rule "device_print" ["prefix", "args"] fun title args => do
    let handles ← (← iterate args).mapM fun v => do return (← asTensor v).operand
    result (effect .print [title.operand, .list handles]),
   rule "device_assert" ["cond", "msg", "file_name", "func_name", "lineno"] fun c msg file func line => do
    let c ← asTensor c
    let c ← if c.type.isBlock then pure c else emit (splat c [1])
    result (effect .assert [c.operand, msg.operand, file.operand, func.operand, line.operand])]

def onMemory : List Primitive :=
  let position : Operand → Value := fun
    | .value h => .handle (some h)
    | _ => .none
  [rule "load" ["ptr", "mask", "other", "boundary_check", "padding_option", "cache_modifier", "eviction_policy",
      "is_volatile"] fun ptr mask other bounds pad cache evict isVolatile => do
    Memory.load ptr (← maybe mask) (← maybe other) bounds pad cache evict isVolatile,
   rule "store" ["ptr", "val", "mask", "boundary_check", "cache_modifier", "eviction_policy"]
      fun ptr value mask bounds cache evict => do
    Memory.store ptr (← asTensor value) (← maybe mask) bounds cache evict,
   rule "atomic_cas" ["ptr", "cmp", "val", "sem"] fun ptr expected value order => do
    Memory.compareAndSwap ptr (← asTensor expected) (← asTensor value) order,
   atomicRule "atomic_max" .max, atomicRule "atomic_min" .min, atomicRule "atomic_add" .add, atomicRule "atomic_and" .and,
   atomicRule "atomic_or" .or, atomicRule "atomic_xor" .xor, atomicRule "atomic_xchg" .xchg,
   rule "atom_red_typechecking_impl" ["ptr", "val", "mask", "op"] fun ptr value mask op => do
    let ptr ← asTensor ptr
    let op := (AtomicOp.all.find? fun o => op.text == o.name).getD .xchg
    let (value, mask) ← atomicOperands op ptr (← asTensor value) (← maybe mask)
    let mask ← match mask with
      | some m => pure m
      | none => emit (fullMask ptr)
    return .tuple [.tensor ptr, .tensor value, .tensor mask],
   rule "_convert_elem_to_ir_value" ["elem", "require_i64"] fun v wide => do
    return position (← Memory.position wide.truth v),
   rule "_convert_to_ir_values" ["list_like", opt "require_i64" (.bool true)] fun v wide => do
    return .list ((← Memory.positions wide.truth v).map position),
   rule "make_block_ptr" ["base", "shape", "strides", "offsets", "block_shape", "order"] Memory.makeBlockPtr,
   rule "advance" ["base", "offsets"] Memory.advance]

def primitives : List Primitive := onTypes ++ onOptions ++ onNumbers ++ onBlocks ++ onMemory

end Typing

end TileKernel.Lowering
