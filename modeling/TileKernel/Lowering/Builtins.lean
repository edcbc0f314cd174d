import TileKernel.Lowering.Attribute

/-! # Classes and functions that are always there

Making values of a class, and the functions that need no definition: tests of class, attributes by name, sizes, extrema and
printing, on values that are known while a kernel is lowered.
-/

namespace TileKernel.Lowering

open Primitive

namespace Builtins

variable (args : List Value)

def toInt (v : Value) : Result Value :=
  match v.unwrap with
  | .int n => .ok (.int n)
  | .bool b => .ok (.int (if b then 1 else 0))
  | .float x =>
    if x.isNaN then refused .value
    else if x.isInf then refused .overflow
    else .ok (.int x.truncate)
  | .str s =>
    match Reading.int? s with
    | some n => .ok (.int n)
    | none => refused .value
  | _ => refused .type

def toFloat (v : Value) : Result Value :=
  match v.unwrap with
  | .float x => .ok (.float x)
  | .str s =>
    match Reading.float? s with
    | some x => .ok (.float x)
    | none => refused .value
  | v =>
    match v.int? with
    | some n => do return .float (← Constant.toFloat n)
    | none => refused .type

def items (v : Value) : Result (List Value) :=
  match v with
  | .tuple xs | .list xs => .ok xs
  | .str s => .ok (s.toList.map fun c => .str c.toString)
  | .range a b s =>
    let n : Nat := if s > 0 then ((b - a + s - 1) / s).toNat else ((a - b - s - 1) / (-s)).toNat
    .ok ((List.range n).map fun (i : Nat) => .int (a + s * i))
  | _ => refused .type

def bound (v : Value) : Result Int :=
  match v.unwrap.int? with
  | some n => .ok n
  | none => refused .type

def makeRange : Result Value := do
  let (a, b, s) ← match args with
    | [b] => pure (Value.int 0, b, Value.int 1)
    | [a, b] => pure (a, b, .int 1)
    | [a, b, s] => pure (a, b, s)
    | _ => refused .type
  let s ← bound s
  if s = 0 then refused .value
  return .range (← bound a) (← bound b) s

def makeStaticRange : Result Value := do
  let (first, second, step) ← match args with
    | [a] => pure (a, Value.none, Value.none)
    | [a, b] => pure (a, b, .none)
    | [a, b, s] => pure (a, b, s)
    | _ => refused .type
  if !first.isConst then .error .assertion
  let step ← if step.isNone then pure (Value.const (.int 1))
    else if step.isConst then pure step else .error .assertion
  if second.isNone then return .staticRange (.const (.int 0)) first step
  if !second.isConst then .error .assertion
  return .staticRange first second step

def dimensions (v : Value) : Result (List Int) := do
  let dims ← items v
  let dims := if (dims.headD .none).isConst then dims.map Value.unwrap else dims
  dims.mapM fun d =>
    match d.int? with
    | some n => .ok n
    | none => refused .type

def makeBlockTy (element shape : Value) : Result Value := do
  if !shape.truth then .error .emptyShape
  let dims ← dimensions shape
  match element with
  | .ty e => return .ty (← Ty.makeBlock e dims)
  | _ => refused .missingAttribute

def makePointerTy (element space : Value) : Result Value :=
  match element with
  | .ty e =>
    match space.unwrap.int? with
    | some n => .ok (.ty (.pointer e n))
    | none => refused .type
  | _ => .error .pointerElement

def types (v : Value) : Result (List Ty) := do
  (← items v).mapM fun t =>
    match t with
    | .ty t => .ok t
    | _ => refused .missingAttribute

def parameters : Kind → List (Parameter Value)
  | .const => ["value"]
  | .tensor => ["handle", "type"]
  | .scalarTy => ["name"]
  | .pointerTy => ["element_ty", opt "address_space" (.int 1)]
  | .blockTy => ["element_ty", "shape"]
  | .functionTy => ["ret_types", "param_types"]
  | _ => []

def makeOwn (k : Kind) (args : List Value) : Result Value :=
  match k, args with
  | .const, [v] => .ok v.wrap
  | .tensor, [.handle h, .ty t] => .ok (.tensor ⟨h, t⟩)
  | .scalarTy, [.str s] =>
    match Scalar.ofName? s with
    | some t => .ok (.ty (.scalar t))
    | none => .error (.unknownDtype s)
  -- constants and tensors cannot be compared with names
  | .scalarTy, [.const _] => refused .missingAttribute
  | .scalarTy, [.tensor _] => .error .outsideKernel
  | .scalarTy, [v] => .error (.unknownDtype v.text)
  | .pointerTy, [e, s] => makePointerTy e s
  | .blockTy, [e, shape] => makeBlockTy e shape
  | .functionTy, [rets, params] => do return .fnTy { params := ← types params, results := ← types rets }
  | _, _ => refused .missingAttribute

def construct (k : Kind) (args : List Value) (keywords : Named Value) : Result Value := do
  match k with
  | .const | .tensor | .scalarTy | .pointerTy | .blockTy | .functionTy =>
    makeOwn k (← Parameter.bind (parameters k) args keywords)
  | .staticRange =>
    let given ← Parameter.bind ["arg1", opt "arg2" .none, opt "step" .none] args keywords
    makeStaticRange given
  | _ =>
    if !keywords.isEmpty then refused .type
    match k, args with
    | .int, [] => .ok (.int 0)
    | .int, [v] => toInt v
    | .float, [] => .ok (.float .zero)
    | .float, [v] => toFloat v
    | .bool, [] => .ok (.bool false)
    | .bool, [v] => .ok (.bool v.truth)
    | .str, [] => .ok (.str "")
    | .str, [v] => .ok (.str v.text)
    | .list, [] => .ok (.list [])
    | .list, [v] => do return .list (← items v)
    | .tuple, [] => .ok (.tuple [])
    | .tuple, [v] => do return .tuple (← items v)
    | .range, args => makeRange args
    | .slice, [b] => .ok (.slice .none b .none)
    | .slice, [a, b] => .ok (.slice a b .none)
    | .slice, [a, b, c] => .ok (.slice a b c)
    | .type, [v] => .ok (.kind v.kindOf)
    | _, _ => refused .type

def isSubclass (k base : Kind) : Bool :=
  k == base ||
    match base with
    | .int => k == .bool
    | .scalarTy => k == .pointerTy || k == .blockTy || k == .functionTy
    | _ => false

def isInstance (v classes : Value) : Result Bool :=
  match classes with
  | .kind k => .ok (isSubclass v.kindOf k)
  | .tuple ks => ks.foldlM (fun found k =>
    match k with
    | .kind k => .ok (found || isSubclass v.kindOf k)
    | _ => refused .type) false
  | _ => refused .type

def getAttr : Rule Value :=
  match args with
  | [v, .str name] => Attribute.get v name
  | [v, .str name, fallback] => do
    try Attribute.get v name
    catch f => if f.kind == .missingAttribute then pure fallback else throw f
  | _ => Rule.refuse .type

def extremum (c : Tensor.Comparison) (args : List Value) : Result Value := do
  let all ← match args with
    | [v] => items v
    | vs => pure vs
  match all with
  | [] => .error (.implicit (if args.isEmpty then .type else .value))
  | first :: rest => rest.foldlM (fun best v => do
      return if (← Methods.compare c v best).truth then v else best) first

def magnitude : Value → Result Value
  | .int n => .ok (.int n.natAbs)
  | .bool b => .ok (.int (if b then 1 else 0))
  | .float x => .ok (.float x.abs)
  | _ => refused .type

def size : Value → Result Value
  | .str s => .ok (.int s.length)
  | v => do return .int (← items v).length

def printed (keywords : Named Value) : String :=
  let separator := match keywords.lookup "sep" with
    | some (.str s) => s
    | _ => " "
  let ending := match keywords.lookup "end" with
    | some (.str s) => s
    | _ => "\n"
  separator.intercalate (args.map Value.text) ++ ending

def print (keywords : Named Value) : Rule Value := do
  if keywords.any fun (k, _) => !(["sep", "end", "file", "flush"].contains k) then Rule.refuse .type
  Rule.print (printed args keywords)
  return .none

def function (name : String) (run : List Value → Rule Value) : Primitive :=
  { space := .builtins, name, params := [], variadic := true, guarded := false, builds := false
    run := fun _ args => match args with
      | [.tuple given] => run given
      | _ => Rule.refuse .type }

def ofOne (name : String) (run : Value → Result Value) : Primitive :=
  function name fun
    | [v] => Rule.ofExcept (run v)
    | _ => Rule.refuse .type

def primitives : List Primitive :=
  [function "isinstance" fun
    | [v, k] => do return .bool (← Rule.ofExcept (isInstance v k))
    | _ => Rule.refuse .type,
   function "getattr" getAttr,
   function "hasattr" fun
    | [v, .str name] => do
      try
        let _ ← Attribute.get v name
        return .bool true
      catch f => if f.kind == .missingAttribute then return .bool false else throw f
    | _ => Rule.refuse .type,
   ofOne "len" size, ofOne "abs" magnitude,
   function "min" fun args => Rule.ofExcept (extremum .lt args),
   function "max" fun args => Rule.ofExcept (extremum .gt args),
   ofOne "sum" fun v => do (← items v).foldlM (Methods.operate .add) (.int 0),
   ofOne "repr" fun v => .ok (.str v.shown)]

def ceilDiv (x y : Value) : Result Value := do
  Methods.operate .floorDiv (← Methods.operate .sub (← Methods.operate .add x y) (.int 1)) y

/-- The smallest power of two that is not below a number of up to 64 bits: the bits below the highest one are filled in. -/
def nextPowerOf2 (n : Value) : Result Value := do
  let n ← Methods.operate .sub n (.int 1)
  let n ← [1, 2, 4, 8, 16, 32].foldlM (fun n (k : Int) => do
    Methods.operate .bitOr n (← Methods.operate .rShift n (.int k))) n
  Methods.operate .add n (.int 1)

def sizePrimitives : List Primitive :=
  [{ prim "cdiv" ["x", "y"] (fun x y => Rule.ofExcept (ceilDiv x y)) with space := .root, guarded := false, builds := false },
   { prim "next_power_of_2" ["n"] (fun n => Rule.ofExcept (nextPowerOf2 n)) with
      space := .root, guarded := false, builds := false }]

def classes : Named Kind :=
  [("range", .range), ("float", .float), ("int", .int), ("bool", .bool), ("str", .str), ("list", .list), ("tuple", .tuple),
   ("slice", .slice), ("type", .type)]

def find? (name : String) : Option Value :=
  match classes.lookup name with
  | some k => some (.kind k)
  | none => if primitives.any (·.name == name) || name == "print" then some (.primitive .builtins name) else none

end Builtins

end TileKernel.Lowering
