import TileKernel.Source.Tree
import TileKernel.Tensor.Arith

/-! # Values at lowering time

While a kernel is lowered its expressions have values of two stages: tensors, which stand for what the device will compute,
and what is known already: numbers, texts, types, functions. A number is bare or a *constant*, a wrapper with operations of
its own.
-/

namespace TileKernel.Lowering

open IR

inductive Space where
  | builtins
  | root
  | language
  | core
  | semantic
  | standard
  | random
  | math
  | extra
  | cuda
  | user (name : String)
deriving DecidableEq, Inhabited

def Space.fullName : Space → String
  | .builtins => "builtins"
  | .root => "triton"
  | .language => "triton.language"
  | .core => "triton.language.core"
  | .semantic => "triton.language.semantic"
  | .standard => "triton.language.standard"
  | .random => "triton.language.random"
  | .math => "triton.language.math"
  | .extra => "triton.language.extra"
  | .cuda => "triton.language.extra.cuda"
  | .user n => n

def Space.file? : Space → Option String
  | .builtins | .user _ => none
  | .root => some "REPO/triton/__init__.py"
  | .language => some "REPO/triton/language/__init__.py"
  | .extra => some "REPO/triton/language/extra/__init__.py"
  | s => some ("REPO/" ++ s.fullName.replace "." "/" ++ ".py")

inductive Kind where
  | noneType | notImplementedType | bool | int | float | complex | str | bytes | ellipsis | tuple | list | dict | slice | range
  | const | tensor | scalarTy | pointerTy | blockTy | functionTy | staticRange | signedness | function | jitFunction
  | builtinFunction | method | module | type | irValue | option
deriving DecidableEq

namespace Kind

def name : Kind → String
  | noneType => "NoneType"
  | notImplementedType => "NotImplementedType"
  | bool => "bool"
  | int => "int"
  | float => "float"
  | complex => "complex"
  | str => "str"
  | bytes => "bytes"
  | ellipsis => "ellipsis"
  | tuple => "tuple"
  | list => "list"
  | dict => "dict"
  | slice => "slice"
  | range => "range"
  | const => "constexpr"
  | tensor => "tensor"
  | scalarTy => "dtype"
  | pointerTy => "pointer_type"
  | blockTy => "block_type"
  | functionTy => "function_type"
  | staticRange => "static_range"
  | signedness => "SIGNEDNESS"
  | function => "function"
  | jitFunction => "JITFunction"
  | builtinFunction => "builtin_function_or_method"
  | method => "method"
  | module => "module"
  | type => "type"
  | irValue => "value"
  | option => "option"

def space? : Kind → Option String
  | const | tensor | scalarTy | pointerTy | blockTy | functionTy | staticRange => some "triton.language.core"
  | signedness => some "triton.language.core.dtype"
  | jitFunction => some "triton.runtime.jit"
  | _ => none

def text (k : Kind) : String :=
  "<class '" ++ (match k.space? with
    | some s => s ++ "."
    | none => "") ++ k.name ++ "'>"

end Kind

structure FuncRef where
  index : Nat
  name : String
  space : Space
  isJit : Bool
deriving DecidableEq, Inhabited

inductive Value where
  | none
  | notImplemented
  | ellipsis
  | bool (b : Bool)
  | int (n : Int)
  | float (x : Binary64)
  | imaginary (x : Binary64)
  | str (s : String)
  | bytes (s : String)
  | tuple (items : List Value)
  | list (items : List Value)
  | dict (keys values : List Value)
  | slice (start stop step : Value)
  | const (v : Value)
  | tensor (t : Tensor)
  | handle (v : Option ValueId)
  | ty (t : Ty)
  | fnTy (t : FnTy)
  | signedness (s : Signedness)
  | option (name : String)
  | space (s : Space)
  | primitive (s : Space) (name : String)
  | func (f : FuncRef)
  | method (self : Value) (name : String)
  | kind (k : Kind)
  | range (start stop step : Int)
  | staticRange (start stop step : Value)
deriving Inhabited

namespace Value

instance (n : Nat) : OfNat Value n := ⟨int n⟩
instance : Coe Int Value := ⟨int⟩
instance : Coe Bool Value := ⟨bool⟩
instance : Coe String Value := ⟨str⟩

def kindOf : Value → Kind
  | .none => .noneType
  | .notImplemented => .notImplementedType
  | .ellipsis => .ellipsis
  | .bool _ => .bool
  | .int _ => .int
  | .float _ => .float
  | .imaginary _ => .complex
  | .str _ => .str
  | .bytes _ => .bytes
  | .tuple _ => .tuple
  | .list _ => .list
  | .dict _ _ => .dict
  | .slice _ _ _ => .slice
  | .const _ => .const
  | .tensor _ => .tensor
  | .handle _ => .irValue
  | .ty (.scalar _) => .scalarTy
  | .ty (.pointer _ _) => .pointerTy
  | .ty (.block _ _) => .blockTy
  | .fnTy _ => .functionTy
  | .signedness _ => .signedness
  | .option _ => .option
  | .space _ => .module
  | .primitive .builtins _ => .builtinFunction
  | .primitive _ _ => .function
  | .func f => if f.isJit then .jitFunction else .function
  | .method _ _ => .method
  | .kind _ => .type
  | .range _ _ _ => .range
  | .staticRange _ _ _ => .staticRange

def classText (v : Value) : String := v.kindOf.text

def className (v : Value) : String := v.kindOf.name

def unwrap : Value → Value
  | .const v => v
  | v => v

def wrap : Value → Value
  | .const v => .const v
  | v => .const v

def isConst : Value → Bool
  | .const _ => true
  | _ => false

def isNone : Value → Bool
  | .none => true
  | _ => false

def isTensor : Value → Bool
  | .tensor _ => true
  | _ => false

def tensor? : Value → Option Tensor
  | .tensor t => some t
  | _ => Option.none

def int? : Value → Option Int
  | .int n => some n
  | .bool b => some (if b then 1 else 0)
  | _ => Option.none

def ty? : Value → Option Ty
  | .ty t => some t
  | _ => Option.none

def isTruth : Value → Bool
  | .bool _ => true
  | _ => false

def items? : Value → Option (List Value)
  | .tuple items | .list items => some items
  | _ => Option.none

def truth : Value → Bool
  | .none => false
  | .bool b => b
  | .int n => n != 0
  | .float x => !x.isZero
  | .imaginary x => !x.isZero
  | .str s => !s.isEmpty
  | .bytes s => !s.isEmpty
  | .tuple items | .list items | .dict items _ => !items.isEmpty
  | .const v => truth v
  | .range a b s => if s > 0 then a < b else b < a
  | _ => true

def signednessText : Signedness → String
  | .signed => "SIGNEDNESS.SIGNED"
  | .unsigned => "SIGNEDNESS.UNSIGNED"

def imaginaryText (x : Binary64) : String :=
  let t := x.shortest
  (if t.endsWith ".0" then String.ofList (t.toList.take (t.length - 2)) else t) ++ "j"

mutual

def text : Value → String
  | .str s => s
  | .ty t => t.text
  | .signedness s => signednessText s
  | .tensor t => t.text
  | v => shown v

def shown : Value → String
  | .none => "None"
  | .notImplemented => "NotImplemented"
  | .ellipsis => "Ellipsis"
  | .bool b => if b then "True" else "False"
  | .int n => toString n
  | .float x => x.shortest
  | .imaginary x => imaginaryText x
  | .str s => Text.quoted s
  | .bytes s => "b" ++ Text.quoted s
  | .tuple items => Text.parenthesised (shownAll items)
  | .list items => Text.bracketed (shownAll items)
  | .dict keys values => Text.braced (List.zipWith (fun k v => k ++ ": " ++ v) (shownAll keys) (shownAll values))
  | .slice a b c => s!"slice({shown a}, {shown b}, {shown c})"
  | .const v => "constexpr[" ++ text v ++ "]"
  | .tensor _ => "<triton.language.core.tensor object at 0x?>"
  | .handle _ => "<value object at 0x?>"
  | .ty t => t.detailed
  | .fnTy t => s!"fn ({Text.bracketed (t.params.map Ty.detailed)}) -> {Text.bracketed (t.results.map Ty.detailed)}"
  | .signedness s => "<" ++ signednessText s ++ ": " ++ (if s = .signed then "0" else "1") ++ ">"
  | .option s => s
  | .space s => "<module '" ++ s.fullName ++ "'" ++ ((s.file?.map (" from " ++ Text.quoted ·)).getD "") ++ ">"
  | .primitive .builtins n => s!"<built-in function {n}>"
  | .primitive _ n => s!"<function {n} at 0x?>"
  | .func f => if f.isJit then s!"JITFunction({f.space.fullName}:{f.name})"
      else s!"<function {f.name} at 0x?>"
  | .method s n => s!"<bound method {s.className}.{n} of {shown s}>"
  | .kind k => k.text
  | .staticRange _ _ _ => "<triton.language.core.static_range object at 0x?>"
  | .range a b s => "range(" ++ toString a ++ ", " ++ toString b ++ (if s = 1 then "" else s!", {s}") ++ ")"

def shownAll : List Value → List String
  | [] => []
  | v :: vs => shown v :: shownAll vs

end

mutual

/-- A value as an argument of an operation: a constant gives its value, and what has no form of its own gives its class. -/
def operand : Value → Operand
  | .none => .absent
  | .bool b => .bool b
  | .int n => .int n
  | .float x => .float x
  | .str s => .str s
  | .tuple items | .list items => .list (operands items)
  | .const v => operand v
  | .handle (some v) => .value v
  | .handle Option.none => .absent
  | .option s => .option s
  | v => .object v.className

def operands : List Value → List Operand
  | [] => []
  | v :: vs => operand v :: operands vs

end

def ofShape (t : Tensor) : Value := .list (t.shape.map fun d => .const (.int d))

end Value

/-! ## Arithmetic

Integers are unbounded, quotients of integers are rounded correctly, integer division and remainder go toward minus infinity, and
truth values count as integers.
-/

open Source

namespace Constant

def wrongType {α : Type} : Result α := refused .type

inductive Number where
  | int (n : Int)
  | float (x : Binary64)

def number? : Value → Option Number
  | .int n => some (.int n)
  | .bool b => some (.int (if b then 1 else 0))
  | .float x => some (.float x)
  | _ => none

def toFloat (n : Int) : Result Binary64 :=
  match Binary64.ofInt? n with
  | some x => .ok x
  | none => refused .overflow

def Number.toFloat : Number → Result Binary64
  | .int n => Constant.toFloat n
  | .float x => .ok x

def divideInts (a b : Int) : Result Binary64 :=
  if b = 0 then refused .zeroDivision
  else
    let negative := decide (a < 0) != decide (b < 0)
    match Binary64.ofRatio? (a.natAbs : Int) b.natAbs with
    | some x => .ok (if negative then x.neg else x)
    | none => refused .overflow

def powFloats (x y : Binary64) : Result Binary64 :=
  if x.isZero && y.isFinite && y.negative && !y.isZero then refused .zeroDivision
  else
    let r := Binary64.pow x y
    if r.isInf && x.isFinite && y.isFinite then refused .overflow
    else if r.isNaN && !x.isNaN && !y.isNaN then
      .error (.implicit (if (Binary64.pow x.abs y).isInf then .overflow else .type))
    else .ok r

variable (op : BinaryOp)

def arithInts (a b : Int) : Result Value :=
  match op with
  | .add => .ok (.int (a + b))
  | .sub => .ok (.int (a - b))
  | .mult => .ok (.int (a * b))
  | .div => do return .float (← divideInts a b)
  | .floorDiv => if b = 0 then refused .zeroDivision else .ok (.int (a.fdiv b))
  | .mod => if b = 0 then refused .zeroDivision else .ok (.int (a.fmod b))
  | .pow =>
    if b ≥ 0 then .ok (.int (Int.pow a b.toNat))
    else if a = 0 then refused .zeroDivision
    else do return .float (← powFloats (← toFloat a) (← toFloat b))
  | .lShift => if b < 0 then refused .value else .ok (.int (a * Int.pow 2 b.toNat))
  | .rShift => if b < 0 then refused .value else .ok (.int (a.shiftRight b.toNat))
  | .bitAnd => .ok (.int (bits Nat.land (fun m n => m && n) a b))
  | .bitOr => .ok (.int (bits Nat.lor (fun m n => m || n) a b))
  | .bitXor => .ok (.int (bits Nat.xor (fun m n => m != n) a b))
  | .matMult => wrongType
where
  /-- A bit operation on integers in two's complement: on the magnitudes where both are below a bound, with the sign that
  the operation gives to the signs. -/
  bits (f : Nat → Nat → Nat) (sign : Bool → Bool → Bool) (a b : Int) : Int :=
    let width := max (Binary64.bitLength a.natAbs) (Binary64.bitLength b.natAbs) + 1
    let modulus : Int := Int.pow 2 width
    let r : Int := f (a.emod modulus).toNat (b.emod modulus).toNat
    if sign (a < 0) (b < 0) then r.emod modulus - modulus else r.emod modulus

def arithFloats (x y : Binary64) : Result Value :=
  match op with
  | .add => .ok (.float (x.add y))
  | .sub => .ok (.float (x.sub y))
  | .mult => .ok (.float (x.mul y))
  | .div => if y.isZero then refused .zeroDivision else .ok (.float (x.div y))
  | .floorDiv => if y.isZero then refused .zeroDivision else .ok (.float (x.floorDiv y))
  | .mod => if y.isZero then refused .zeroDivision else .ok (.float (x.floorMod y))
  | .pow => do return .float (← powFloats x y)
  | _ => wrongType

def arithNumbers : Number → Number → Result Value
  | .int a, .int b => arithInts op a b
  | a, b => do arithFloats op (← a.toFloat) (← b.toFloat)

/-- Repeat a list a number of times; none at all for a negative number. The number has to fit into 64 bits. -/
def repeated {α : Type} (items : List α) (n : Int) : Result (List α) :=
  if -Int.pow 2 63 ≤ n && n < Int.pow 2 63 then .ok (List.replicate n.toNat items).flatten else refused .overflow

/-- Put values into the marks of a text: a mark is a percent sign and a letter, and two percent signs stand for one. Every value
has to be used. -/
def fillMarks : List Char → List Value → Result (List Char)
  | [], [] => .ok []
  | [], _ :: _ => wrongType
  | '%' :: '%' :: cs, vs => do return '%' :: (← fillMarks cs vs)
  | '%' :: 's' :: cs, v :: vs => do return v.text.toList ++ (← fillMarks cs vs)
  | '%' :: 'r' :: cs, v :: vs => do return v.shown.toList ++ (← fillMarks cs vs)
  | '%' :: 'd' :: cs, v :: vs | '%' :: 'i' :: cs, v :: vs => do
    match number? v with
    | some (.int n) => return (toString n).toList ++ (← fillMarks cs vs)
    | some (.float x) =>
      if x.isNaN then refused .value
      else if x.isInf then refused .overflow
      else return (toString x.truncate).toList ++ (← fillMarks cs vs)
    | none => wrongType
  | ['%'], _ => refused .value
  | '%' :: _, [] => wrongType
  | '%' :: _ :: _, _ => refused .value
  | c :: cs, vs => do return c :: (← fillMarks cs vs)

/-- A text with values put into its marks; a list may stay unused when there is no mark. -/
def fillText (s : String) (v : Value) : Result Value := do
  let items := match v with
    | .tuple vs => vs
    | .list vs => if s.toList.contains '%' then [.list vs] else []
    | v => [v]
  return .str (String.ofList (← fillMarks s.toList items))

def arith (a b : Value) : Result Value :=
  match op, a, b with
  | .bitAnd, .bool x, .bool y => .ok (.bool (x && y))
  | .bitOr, .bool x, .bool y => .ok (.bool (x || y))
  | .bitXor, .bool x, .bool y => .ok (.bool (x != y))
  | .add, .str x, .str y => .ok (.str (x ++ y))
  | .add, .list x, .list y => .ok (.list (x ++ y))
  | .add, .tuple x, .tuple y => .ok (.tuple (x ++ y))
  | op, a, b =>
    match number? a, number? b with
    | some x, some y => arithNumbers op x y
    | _, _ =>
      match op, a, b.int?, b, a.int? with
      | .mult, .str s, some n, _, _ | .mult, _, _, .str s, some n => do return .str (String.ofList (← repeated s.toList n))
      | .mult, .list l, some n, _, _ | .mult, _, _, .list l, some n => do return .list (← repeated l n)
      | .mult, .tuple l, some n, _, _ | .mult, _, _, .tuple l, some n => do return .tuple (← repeated l n)
      | .mod, .str s, _, v, _ => fillText s v
      | _, _, _, _, _ => wrongType

/-- Where a number stands: below, among or above the finite numbers, and its value in the smallest unit. -/
def Number.place? : Number → Option (Int × Int)
  | .int n => some (0, n * Nat.pow 2 Binary64.unitPlaces)
  | .float x =>
    if x.isNaN then none
    else if x.isInf then some (if x.negative then -1 else 1, 0)
    else some (0, if x.negative then -x.units else x.units)

def compareNumbers : Number → Number → Option Ordering
  | .int a, .int b => some (compare a b)
  | a, b => do
    let p ← a.place?
    let q ← b.place?
    return (compare p.1 q.1).then (compare p.2 q.2)

mutual

def equal : Value → Value → Bool
  | .str a, .str b => a == b
  | .bytes a, .bytes b => a == b
  | .none, .none => true
  | .ellipsis, .ellipsis => true
  | .notImplemented, .notImplemented => true
  | .tuple a, .tuple b => equalAll a b
  | .list a, .list b => equalAll a b
  | .dict a x, .dict b y => equalAll a b && equalAll x y
  | .ty a, .ty b => a == b
  | .fnTy a, .fnTy b => a == b
  | .signedness a, .signedness b => a == b
  | .option a, .option b => a == b
  | .space a, .space b => a == b
  | .primitive s a, .primitive t b => s == t && a == b
  | .func f, .func g => f == g
  | .kind a, .kind b => a == b
  | .range a b c, .range x y z => a == x && b == y && c == z
  | .const a, .const b => equal a b
  | .tensor a, .tensor b => a == b
  | .imaginary a, .imaginary b => a.eq b
  | a, b =>
    match number? a, number? b with
    | some x, some y => compareNumbers x y == some .eq
    | _, _ => false

def equalAll : List Value → List Value → Bool
  | [], [] => true
  | a :: as, b :: bs => equal a b && equalAll as bs
  | _, _ => false

end

def same (a b : Value) : Bool := a.kindOf == b.kindOf && equal a b

def holds (c : Tensor.Comparison) (o : Ordering) : Bool :=
  match c, o with
  | .gt, .gt | .ge, .gt | .ge, .eq | .lt, .lt | .le, .lt | .le, .eq | .eq, .eq | .ne, .lt | .ne, .gt => true
  | _, _ => false

def firstDifference : List Value → List Value → Sum (Value × Value) Ordering
  | [], [] => .inr .eq
  | [], _ => .inr .lt
  | _, [] => .inr .gt
  | a :: as, b :: bs => if equal a b then firstDifference as bs else .inl (a, b)

/-- An order comparison of two known values; `fuel` bounds the nesting of lists. -/
def order (c : Tensor.Comparison) : Nat → Value → Value → Result Bool
  | 0, _, _ => wrongType
  | fuel + 1, a, b =>
    let items (x y : List Value) : Result Bool :=
      match firstDifference x y with
      | .inl (a, b) => order c fuel a b
      | .inr o => .ok (holds c o)
    match a, b with
    | .str x, .str y => .ok (holds c (compare x y))
    | .list x, .list y => items x y
    | .tuple x, .tuple y => items x y
    | _, _ =>
      match number? a, number? b with
      | some x, some y => .ok ((compareNumbers x y).any (holds c))
      | _, _ => wrongType

def compareValues (c : Tensor.Comparison) (a b : Value) : Result Bool :=
  match c with
  | .eq => .ok (equal a b)
  | .ne => .ok (!equal a b)
  | c => order c 100 a b

def negate : Value → Result Value
  | .int n => .ok (.int (-n))
  | .bool b => .ok (.int (if b then -1 else 0))
  | .float x => .ok (.float x.neg)
  | .imaginary x => .ok (.imaginary x.neg)
  | _ => wrongType

def positive : Value → Result Value
  | .int n => .ok (.int n)
  | .bool b => .ok (.int (if b then 1 else 0))
  | .float x => .ok (.float x)
  | .imaginary x => .ok (.imaginary x)
  | _ => wrongType

def invert : Value → Result Value
  | .int n => .ok (.int (-n - 1))
  | .bool b => .ok (.int (if b then -2 else -1))
  | _ => wrongType

end Constant

end TileKernel.Lowering
