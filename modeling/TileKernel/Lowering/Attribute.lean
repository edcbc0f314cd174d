import TileKernel.Lowering.Primitives.Typing

/-! # Methods and attributes of known values

An operator on values that are known while a kernel is lowered stands for a method of its left operand. A constant expects
another constant; inside it, operators work on the wrapped values, where either operand may decide. A bare value answers
`NotImplemented` to an operand that it does not know, and lacks methods that make no sense for it.
-/

namespace TileKernel.Lowering

open Source Constant

namespace Methods

variable (name : String)

def ofBinary : BinaryOp → Option String
  | .add => some "__add__"
  | .sub => some "__sub__"
  | .mult => some "__mul__"
  | .div => some "__truediv__"
  | .floorDiv => some "__floordiv__"
  | .mod => some "__mod__"
  | .pow => some "__pow__"
  | .lShift => some "__lshift__"
  | .rShift => some "__rshift__"
  | .bitAnd => some "__and__"
  | .bitOr => some "__or__"
  | .bitXor => some "__xor__"
  | .matMult => none

def binaryOps : List BinaryOp :=
  [.add, .sub, .mult, .div, .floorDiv, .mod, .pow, .lShift, .rShift, .bitAnd, .bitOr, .bitXor]

def binary? : Option BinaryOp := binaryOps.find? fun op => ofBinary op == some name

def ofCompare : CompareOp → Option String
  | .eq => some "__eq__"
  | .notEq => some "__ne__"
  | .lt => some "__lt__"
  | .ltE => some "__le__"
  | .gt => some "__gt__"
  | .gtE => some "__ge__"
  | _ => none

def comparison? : String → Option Tensor.Comparison
  | "__eq__" => some .eq
  | "__ne__" => some .ne
  | "__lt__" => some .lt
  | "__le__" => some .le
  | "__gt__" => some .gt
  | "__ge__" => some .ge
  | _ => none

def ofUnary : UnaryOp → String
  | .uSub => "__neg__"
  | .uAdd => "__pos__"
  | .not => "__not__"
  | .invert => "__invert__"

def reflected : String :=
  match name.toList with
  | '_' :: '_' :: rest => "__r" ++ String.ofList rest
  | _ => name

def wrong {α : Type} (kind : FaultKind) : Result α := .error (.implicit kind)

/-- Operators for which a tensor on the right has a method that does not first ask for a kernel. -/
def unguarded : BinaryOp → Bool
  | .add | .sub | .mult | .div => true
  | _ => false

def operateBare (op : BinaryOp) (a b : Value) : Result Value :=
  match a, b with
  | .tensor _, _ => if op matches .pow | .matMult then wrong .type else .error .outsideKernel
  | _, .tensor _ =>
    if op matches .pow | .matMult then wrong .type
    else if unguarded op then
      match a with
      | .bool _ | .int _ | .float _ => wrong .missingAttribute
      | v => .error (.notATensor v.text v.classText)
    else .error .outsideKernel
  | _, _ => arith op a b

def compareBare (c : Tensor.Comparison) (a b : Value) : Result Value :=
  match a, b with
  | .tensor _, _ | _, .tensor _ => .error .outsideKernel
  | _, _ => do return .bool (← compareValues c a b)

def operate (op : BinaryOp) (a b : Value) : Result Value :=
  match a, b with
  | .const x, .const y => do return (← operateBare op x y).wrap
  | .const _, _ => if op matches .matMult then wrong .type else wrong .missingAttribute
  | .tensor _, .const _ => operateBare op a b
  | _, .const _ => if op matches .add | .sub | .mult | .div | .floorDiv then wrong .missingAttribute else wrong .type
  | _, _ => operateBare op a b

def compare (c : Tensor.Comparison) (a b : Value) : Result Value :=
  match a, b with
  | .const x, .const y => do return (← compareBare c x y).wrap
  | .tensor _, _ => .error .outsideKernel
  | .const _, _ | _, .const _ => wrong .missingAttribute
  | _, _ => compareBare c a b

def unaryBare (op : UnaryOp) (a : Value) : Result Value :=
  match op, a with
  | .not, a => .ok (.bool (!a.truth))
  | .uAdd, .tensor _ => wrong .type
  | _, .tensor _ => .error .outsideKernel
  | .uSub, a => negate a
  | .uAdd, a => positive a
  | .invert, a => invert a

def unary (op : UnaryOp) (a : Value) : Result Value :=
  match op, a with
  | .not, a => .ok (.bool (!a.truth))
  | op, .const x => do return (← unaryBare op x).wrap
  | op, a => unaryBare op a

def repetition? (v : Value) : Option Int := v.unwrap.int?

def bareBinary (op : BinaryOp) (a b : Value) : Result Value :=
  match a with
  | .int _ | .bool _ =>
    match b with
    | .int _ | .bool _ => arith op a b
    | _ => .ok .notImplemented
  | .float _ =>
    match op with
    | .lShift | .rShift | .bitAnd | .bitOr | .bitXor => wrong .missingAttribute
    | _ =>
      match b with
      | .int _ | .bool _ | .float _ => arith op a b
      | _ => .ok .notImplemented
  | .str _ | .list _ | .tuple _ =>
    match op with
    | .add => arith op a b
    | .mult =>
      match repetition? b with
      | some n => arith op a (.int n)
      | none => wrong .type
    | .mod => if a matches .str _ then wrong .type else wrong .missingAttribute
    | _ => wrong .missingAttribute
  | .kind k =>
    if op matches .bitOr || k matches .int | .bool | .float | .str | .list | .tuple | .const | .tensor then wrong .type
    else wrong .missingAttribute
  | _ => wrong .missingAttribute

def bareCompare (c : Tensor.Comparison) (a b : Value) : Result Value :=
  let known : Bool := match a, b with
    | .int _, .int _ | .int _, .bool _ | .bool _, .int _ | .bool _, .bool _ => true
    | .float _, .int _ | .float _, .bool _ | .float _, .float _ => true
    | .str _, .str _ | .list _, .list _ | .tuple _, .tuple _ => true
    | _, _ => false
  match a with
  | .ty _ =>
    match c with
    | .eq => .ok (.bool (equal a b))
    | .ne => .ok (.bool (!equal a b))
    | _ => .ok .notImplemented
  | .kind _ => wrong .type
  | _ =>
    if known then do return .bool (← compareValues c a b)
    else match c with
      | .eq => .ok (if same a b then .bool true else .notImplemented)
      | .ne => .ok (if same a b then .bool false else .notImplemented)
      | _ => .ok .notImplemented

/-- A method of a constant with one operand, which has to be a constant too if it is looked at: a connective that the first
operand decides does not. -/
def constBinary (x b : Value) : Result Value :=
  match name, x.truth, b with
  | "logical_and", false, _ => .ok (.const x)
  | "logical_or", true, _ => .ok (.const x)
  | _, _, .const y =>
    match name with
    | "logical_and" | "logical_or" => .ok (.const y)
    | _ =>
      match binary? name, comparison? name with
      | some op, _ => do return (← operateBare op x y).wrap
      | none, some c => do return (← compareBare c x y).wrap
      | none, none =>
        match name with
        | "__radd__" => do return (← operateBare .add y x).wrap
        | "__rsub__" => do return (← operateBare .sub y x).wrap
        | "__rmul__" => do return (← operateBare .mult y x).wrap
        | "__rtruediv__" => do return (← operateBare .div y x).wrap
        | "__rfloordiv__" => do return (← operateBare .floorDiv y x).wrap
        | "__rgt__" => do return (← compareBare .gt y x).wrap
        | "__rge__" => do return (← compareBare .ge y x).wrap
        | "__rlt__" => do return (← compareBare .lt y x).wrap
        | "__rle__" => do return (← compareBare .le y x).wrap
        | _ => wrong .missingAttribute
  | _, _, _ => wrong .missingAttribute

def constBinaryNames : List String :=
  binaryOps.filterMap ofBinary ++ ["__eq__", "__ne__", "__lt__", "__le__", "__gt__", "__ge__", "logical_and", "logical_or",
    "__radd__", "__rsub__", "__rmul__", "__rtruediv__", "__rfloordiv__", "__rgt__", "__rge__", "__rlt__", "__rle__"]

def constUnaryNames : List String := ["__neg__", "__pos__", "__invert__", "__not__", "__bool__", "__index__", "__repr__"]

def constUnary (x : Value) : Result Value :=
  match name with
  | "__neg__" => do return (← unaryBare .uSub x).wrap
  | "__pos__" => do return (← unaryBare .uAdd x).wrap
  | "__invert__" => do return (← unaryBare .invert x).wrap
  | "__not__" => .ok (.const (.bool (!x.truth)))
  | "__bool__" => .ok (.bool x.truth)
  | "__index__" => .ok x
  | "__repr__" => .ok (.str (Value.const x).shown)
  | _ => wrong .missingAttribute

def applyBinary (a b : Value) : Result Value :=
  match a with
  | .const x => if constBinaryNames.contains name then constBinary name x b else wrong .missingAttribute
  | _ =>
    match binary? name, comparison? name with
    | some op, _ => bareBinary op a b
    | none, some c => bareCompare c a b
    | none, none => wrong .missingAttribute

def applyUnary (a : Value) : Result Value :=
  match a with
  | .const x => constUnary name x
  | .int _ | .bool _ =>
    match name with
    | "__neg__" => negate a
    | "__pos__" => positive a
    | "__invert__" => invert a
    | _ => wrong .missingAttribute
  | .float _ =>
    match name with
    | "__neg__" => negate a
    | "__pos__" => positive a
    | _ => wrong .missingAttribute
  | _ => wrong .missingAttribute

def position (n : Nat) (v : Value) : Result Nat :=
  match v.unwrap.int? with
  | none => wrong .type
  | some i =>
    if 0 ≤ i ∧ i < n then .ok i.toNat
    else if -(n : Int) ≤ i ∧ i < 0 then .ok (i + n).toNat
    else wrong .index

def sliceBound : Value → Result (Option Int)
  | .none => .ok none
  | v =>
    match v.unwrap.int? with
    | some n => .ok (some n)
    | none => wrong .type

def slicePositions (n : Nat) (start stop step : Option Int) : Result (List Nat) :=
  let step := step.getD 1
  if step = 0 then wrong .value
  else
    let clamp (i low high : Int) : Int := if i < low then low else if i > high then high else i
    let fix (i : Int) : Int := if i < 0 then i + n else i
    let size : Int := n
    let (low, high) : Int × Int := if step > 0 then (0, size) else (-1, size - 1)
    let first := match start with
      | some i => clamp (fix i) low high
      | none => if step > 0 then low else high
    let last := match stop with
      | some i => clamp (fix i) low high
      | none => if step > 0 then high else low
    let count : Nat := if step > 0 then ((last - first + step - 1) / step).toNat else ((first - last - step - 1) / (-step)).toNat
    .ok ((List.range count).map fun (k : Nat) => (first + step * k).toNat)

def pick {α : Type} (items : List α) (positions : List Nat) : List α := positions.filterMap fun i => items[i]?

def item (v index : Value) : Result Value :=
  match v with
  | .list items | .tuple items =>
    match index with
    | .slice a b c => do
      let picked := pick items (← slicePositions items.length (← sliceBound a) (← sliceBound b) (← sliceBound c))
      return if v matches .list _ then .list picked else .tuple picked
    | i => do return items.getD (← position items.length i) .none
  | .str s =>
    match index with
    | .slice a b c => do
      return .str (String.ofList (pick s.toList
        (← slicePositions s.length (← sliceBound a) (← sliceBound b) (← sliceBound c))))
    | i => do return .str ((s.toList.getD (← position s.length i) ' ').toString)
  | _ => wrong .type

end Methods

/-! ## Attributes -/

namespace Attribute

def typePredicates : List (String × (Ty → Bool)) :=
  let isScalar (s : Scalar) (t : Ty) : Bool := t == .scalar s
  [("is_fp8", Ty.mentionsFp8), ("is_fp8e4nv", isScalar .fp8e4nv), ("is_fp8e4b8", isScalar .fp8e4b8),
   ("is_fp8e4b15", isScalar .fp8e4b15), ("is_fp8e4b15x4", isScalar .fp8e4b15x4), ("is_fp8e5", isScalar .fp8e5),
   ("is_fp8e5b16", isScalar .fp8e5b16), ("is_fp16", isScalar .fp16), ("is_bf16", isScalar .bf16),
   ("is_fp32", isScalar .fp32), ("is_fp64", isScalar .fp64), ("is_int1", isScalar .int1), ("is_int8", isScalar .int8),
   ("is_int16", isScalar .int16), ("is_int32", isScalar .int32), ("is_int64", isScalar .int64),
   ("is_uint8", isScalar .uint8), ("is_uint16", isScalar .uint16), ("is_uint32", isScalar .uint32),
   ("is_uint64", isScalar .uint64), ("is_floating", Ty.isFloating), ("is_standard_floating", Ty.isStandardFloating),
   ("is_int_signed", Ty.isSignedInt), ("is_int_unsigned", Ty.isUnsignedInt), ("is_int", Ty.isInt), ("is_bool", Ty.isBool),
   ("is_block", Ty.isBlock), ("is_ptr", Ty.isPtr)]

def typeMethods : List String := ["is_void", "is_dtype", "get_block_shapes", "to_ir", "__eq__", "__ne__", "__str__", "__repr__"]

def nameList (p : Scalar → Bool) : Value := .list ((Scalar.all.filter p).map fun s => .str s.name)

def ofTypes : String → Option Value
  | "SIGNEDNESS" => some (.kind .signedness)
  | "SINT_TYPES" => some (nameList Scalar.isSignedInt)
  | "UINT_TYPES" => some (nameList Scalar.isUnsignedInt)
  | "OTHER_TYPES" => some (.list [.str "void"])
  | "STANDARD_FP_TYPES" => some (nameList Scalar.isStandardFloating)
  | "FP_TYPES" => some (nameList Scalar.isFloating)
  | _ => none

def ofTy (t : Ty) (name : String) : Option Value :=
  if (typePredicates.lookup name).isSome || (typeMethods.contains name && (name ≠ "get_block_shapes" || t.isBlock)) then
    some (.method (.ty t) name)
  else
    let ofNat (n : Option Nat) : Option Value := n.map fun n => .int n
    match name, t with
    | "name", _ | "cache_key_part", _ => some (.str t.text)
    | "scalar", _ => some (.ty t.element)
    | "int_signedness", .scalar s => s.signedness?.map .signedness
    | "int_bitwidth", .scalar s => ofNat s.intBits?
    | "primitive_bitwidth", .scalar s => some (.int s.bits)
    | "fp_mantissa_width", .scalar s => ofNat s.mantissaBits?
    | "exponent_bias", .scalar s => ofNat s.exponentBias?
    | "element_ty", .pointer e _ => some (.ty e)
    | "address_space", .pointer _ n => some (.int n)
    | "element_ty", .block e _ => some (.ty e)
    | "shape", .block _ shape => some (.list (shape.map .int))
    | "numel", .block _ shape => some (.int (Ty.elements shape))
    | _, _ => ofTypes name

def ofTensor (t : Tensor) (name : String) : Option Value :=
  match name with
  | "handle" => some (.handle t.handle)
  | "shape" => some (Value.ofShape t)
  | "numel" => some (.const (.int t.numel))
  | "type" => some (.ty t.type)
  | "dtype" => some (.ty t.dtype)
  | _ => (Operators.method? name).map fun _ => .method (.tensor t) name

def isOperator (name : String) : Bool := (Methods.binary? name).isSome || (Methods.comparison? name).isSome

def ofBare (v : Value) (name : String) : Option Value :=
  match v, name with
  | .int _, "real" | .int _, "numerator" | .float _, "real" => some v
  | .bool b, "real" | .bool b, "numerator" => some (.int (if b then 1 else 0))
  | .int _, "imag" | .bool _, "imag" => some (.int 0)
  | .int _, "denominator" | .bool _, "denominator" => some (.int 1)
  | .float _, "imag" => some (.float .zero)
  | .int _, "bit_length" | .bool _, "bit_length" => some (.method v name)
  | .signedness s, "value" => some (.int (if s = .signed then 0 else 1))
  | .signedness s, "name" => some (.str (if s = .signed then "SIGNED" else "UNSIGNED"))
  | .slice a _ _, "start" => some a
  | .slice _ b _, "stop" => some b
  | .slice _ _ c, "step" => some c
  | .range a _ _, "start" => some (.int a)
  | .range _ b _, "stop" => some (.int b)
  | .range _ _ c, "step" => some (.int c)
  | .staticRange a _ _, "start" => some a
  | .staticRange _ b _, "end" => some b
  | .staticRange _ _ c, "step" => some c
  | .fnTy t, "ret_types" => some (.list (t.results.map .ty))
  | .fnTy t, "param_types" => some (.list (t.params.map .ty))
  | .func f, "__name__" => some (.str f.name)
  | .primitive _ n, "__name__" => some (.str n)
  | .kind k, "__name__" => some (.str k.name)
  | .space s, "__name__" => some (.str s.fullName)
  | .kind .signedness, "SIGNED" => some (.signedness .signed)
  | .kind .signedness, "UNSIGNED" => some (.signedness .unsigned)
  | .kind .scalarTy, name | .kind .pointerTy, name | .kind .blockTy, name => ofTypes name
  | v, name => if isOperator name then some (.method v name) else none

def member (scope : Space → Scope) (v : Value) (name : String) : Result Value := do
  let found ← match v with
    | .tensor t => if name == "T" then .error .transposeProperty else .ok (ofTensor t name)
    | .const x =>
      if name == "value" then .ok (some x)
      else if Methods.constBinaryNames.contains name || Methods.constUnaryNames.contains name then
        .ok (some (.method v name))
      else .ok none
    | .ty t => .ok (ofTy t name)
    | .space s => .ok (((scope s).find? name).orElse fun _ => ofBare v name)
    | v => .ok (ofBare v name)
  match found with
  | some x => .ok x
  | none => refused .missingAttribute

def get (v : Value) (name : String) : Rule Value := do Rule.ofExcept (member (← Rule.program).scope v name)

def callTyMethod (t : Ty) (name : String) (args : List Value) : Result Value :=
  match typePredicates.lookup name, name, args with
  | some p, _, [] => .ok (.bool (p t))
  | none, "is_void", [] => .error .voidUnsupported
  | none, "is_dtype", [.str s] => .ok (.bool (Scalar.ofName? s).isSome)
  | none, "is_dtype", [_] => .ok (.bool false)
  | none, "get_block_shapes", [] => .ok (.list ((t.shape?.getD []).map .int))
  | none, "__eq__", [other] => .ok (.bool (equal (.ty t) other))
  | none, "__ne__", [other] => .ok (.bool (!equal (.ty t) other))
  | none, "__str__", [] => .ok (.str t.text)
  | none, "__repr__", [] => .ok (.str t.detailed)
  | none, "to_ir", [_] => refused .missingAttribute
  | _, _, _ => refused .type

def callMethod (v : Value) (name : String) (args : List Value) : Result Value :=
  match v, args with
  | .ty t, args => callTyMethod t name args
  | .int n, [] => if name == "bit_length" then .ok (.int (Binary64.bitLength n.natAbs)) else refused .type
  | .bool b, [] => if name == "bit_length" then .ok (.int (if b then 1 else 0)) else refused .type
  | .const x, [] =>
    if Methods.constUnaryNames.contains name then Methods.constUnary name x else refused .type
  | .const x, [b] =>
    if Methods.constBinaryNames.contains name then Methods.constBinary name x b else refused .type
  | v, [b] => Methods.applyBinary name v b
  | _, _ => refused .type

end Attribute

end TileKernel.Lowering
