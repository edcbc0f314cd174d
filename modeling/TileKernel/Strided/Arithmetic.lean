import TileKernel.Strided.View

/-! # Arithmetic on tensors

Element-wise operations. The operands are brought to one type and one shape, and elements are computed in that type: whole
numbers wrap around, floating-point numbers are rounded after each operation. A tensor without axes and a plain number count
for the type only when they are of a higher category than the other operands.
-/

namespace TileKernel.Strided

open Element

variable (op : BinaryOp) (type : ElementType)

inductive Operand where
  | tensor (t : View)
  | truth (b : Bool)
  | whole (n : Int)
  | real (x : Binary64)
  | nothing

inductive BinaryOp where
  | add | sub | mul | div | floorDiv | rem | and | or | xor | shiftLeft | shiftRight | maximum | minimum
deriving DecidableEq

inductive Comparison where
  | lt | le | gt | ge | eq | ne

inductive UnaryOp where
  | exp | log | cos | sin | sqrt | asin | abs | neg | invert
deriving DecidableEq

namespace Operand

def shape : Operand → List Nat
  | tensor t => t.shape
  | _ => []

def device? : Operand → Option String
  | tensor t => some t.device
  | _ => none

def typeAndWeight : Operand → ElementType × Nat
  | tensor t => (t.type, if t.shape.isEmpty then 1 else 0)
  | truth _ => (.bool, 2)
  | whole _ => (.int64, 2)
  | real _ | nothing => (.float32, 2)

def elementsIn? (shape : List Nat) : Operand → Result (Option (List Element))
  | tensor t => do return (← t.expand shape).elements?.map (·.map (convert type))
  | truth b => .ok (some (List.replicate (volume shape) ((ofBool b).convert type)))
  | whole n => .ok (some (List.replicate (volume shape) ((Element.whole n).convert type)))
  | real x => .ok (some (List.replicate (volume shape) ((Element.real x).convert type)))
  | nothing => .ok (some (List.replicate (volume shape) ((Element.real .nan).convert type)))

end Operand

def resultType (operands : List Operand) : ElementType :=
  let ofWeight (w : Nat) : Option ElementType :=
    let types := (operands.map Operand.typeAndWeight).filterMap fun (t, v) => if v == w then some t else none
    match types with
    | [] => none
    | t :: ts => some (ts.foldl ElementType.join t)
  let weigh (acc : Option ElementType) (next : Option ElementType) : Option ElementType :=
    match acc, next with
    | none, t | t, none => t
    | some a, some b => if b.category.rank > a.category.rank then some (a.join b) else some a
  (weigh (weigh (ofWeight 0) (ofWeight 1)) (ofWeight 2)).getD .float32

def resultShape (operands : List Operand) : Result (List Nat) :=
  operands.foldlM (fun shape o =>
    match View.broadcast? shape o.shape with
    | some s => .ok s
    | none => refused .value) []

def resultDevice (operands : List Operand) : String := (operands.findSome? Operand.device?).getD "cuda"

/-! ## Operations on elements -/

def bitwise (f : Nat → Nat → Nat) (a b : Int) : Int :=
  wrapSigned 64 (f (a % Int.pow 2 64).toNat (b % Int.pow 2 64).toNat)

def ElementType.width (t : ElementType) : Nat := 8 * t.bytes

/-- An operation on two whole numbers of a type, before wrapping. A division by zero gives zero, and a shift by the width or
more moves everything out. -/
def BinaryOp.onWholes (t : ElementType) (a b : Int) : Int :=
  match op with
  | .add => if t == .bool then max a b else a + b
  | .sub => a - b
  | .mul => a * b
  | .div | .floorDiv => if b == 0 then 0 else a.fdiv b
  | .rem => if b == 0 then 0 else a.fmod b
  | .and => bitwise Nat.land a b
  | .or => bitwise Nat.lor a b
  | .xor => bitwise Nat.xor a b
  | .shiftLeft => if 0 ≤ b && b < t.width then a * Int.pow 2 b.toNat else 0
  | .shiftRight => if 0 ≤ b && b < t.width then a.fdiv (Int.pow 2 b.toNat) else if a < 0 then -1 else 0
  | .maximum => max a b
  | .minimum => min a b

def BinaryOp.onReals (x y : Binary64) : Binary64 :=
  match op with
  | .add => x.add y
  | .sub => x.sub y
  | .mul => x.mul y
  | .div => x.div y
  | .floorDiv => if y.isZero then x.div y else x.floorDiv y
  | .rem => if y.isZero then .nan else x.floorMod y
  | .maximum => if x.isNaN || (!y.isNaN && y.lt x) then x else y
  | .minimum => if x.isNaN || (!y.isNaN && x.lt y) then x else y
  | .and | .or | .xor | .shiftLeft | .shiftRight => .nan

def BinaryOp.onElements (t : ElementType) (a b : Element) : Element :=
  if t.isReal then .real (t.round (op.onReals a.toReal b.toReal)) else .whole (t.wrap (op.onWholes t a.toWhole b.toWhole))

def BinaryOp.isBitwise : BinaryOp → Bool
  | .and | .or | .xor | .shiftLeft | .shiftRight => true
  | _ => false

def BinaryOp.typeOf (t : ElementType) : Result ElementType :=
  if op.isBitwise && t.isReal then refused .type
  else if op == .sub && t == .bool then refused .type
  else if op == .div && !t.isReal then .ok .float32
  else .ok t

def Comparison.holds (c : Comparison) (a b : Element) : Bool :=
  match c, compare? a b with
  | .ne, some .eq => false
  | .ne, _ => true
  | _, none => false
  | .lt, some o => o == .lt
  | .le, some o => o != .gt
  | .gt, some o => o == .gt
  | .ge, some o => o != .lt
  | .eq, some o => o == .eq

def UnaryOp.onReal (op : UnaryOp) (x : Binary64) : Binary64 :=
  let via (f : Float → Float) : Binary64 := Binary64.ofFloat (f x.toFloat)
  match op with
  | .exp => via Float.exp
  | .log => via Float.log
  | .cos => via Float.cos
  | .sin => via Float.sin
  | .sqrt => via Float.sqrt
  | .asin => via Float.asin
  | .abs => x.abs
  | .neg => x.neg
  | .invert => .nan

def UnaryOp.isReal : UnaryOp → Bool
  | .abs | .neg | .invert => false
  | _ => true

def UnaryOp.typeOf (op : UnaryOp) (t : ElementType) : Result ElementType :=
  if op.isReal then .ok (if t.isReal then t else .float32)
  else if op == .invert && t.isReal then refused .type
  else if op == .neg && t == .bool then refused .type
  else .ok t

def UnaryOp.onElement (op : UnaryOp) (t : ElementType) (e : Element) : Element :=
  if t.isReal then .real (t.round (op.onReal (t.round e.toReal)))
  else
    let n := e.toWhole
    .whole (t.wrap (match op with
      | .abs => n.natAbs
      | .neg => -n
      | .invert => if t == .bool then 1 - n else -n - 1
      | _ => n))

/-! ## Operations on tensors -/

namespace View

def pointwise (given result : ElementType) (f : List Element → Element) (operands : List Operand) : Result View := do
  let shape ← resultShape operands
  let columns ← operands.mapM (Operand.elementsIn? given shape)
  let es := (columns.mapM id).map fun columns =>
    let columns := columns.map List.toArray
    (List.range (volume shape)).map fun i => f (columns.map fun column => (column[i]?).getD (.whole 0))
  return { ofElements? result shape es with device := resultDevice operands }

def onTwo (f : Element → Element → Element) : List Element → Element
  | [a, b] => f a b
  | _ => .whole 0

def binary (a b : Operand) : Result View := do
  let t ← op.typeOf (resultType [a, b])
  pointwise t t (onTwo (op.onElements t)) [a, b]

def compare (c : Comparison) (a b : Operand) : Result View :=
  pointwise (resultType [a, b]) .bool (onTwo fun x y => ofBool (c.holds x y)) [a, b]

def unary (op : UnaryOp) (t : View) : Result View := do
  let type ← op.typeOf t.type
  let es := t.elements?.map (·.map fun e => op.onElement type (e.convert type))
  return { ofElements? type t.shape es with device := t.device }

def select (condition a b : Operand) : Result View := do
  let type := resultType [a, b]
  let shape ← resultShape [condition, a, b]
  let cs ← condition.elementsIn? .bool shape
  let xs ← a.elementsIn? type shape
  let ys ← b.elementsIn? type shape
  let es := match cs, xs, ys with
    | some cs, some xs, some ys => some (List.zipWith (fun c (x, y) => if isTrue c then x else y) cs (xs.zip ys))
    | _, _, _ => none
  return { ofElements? type shape es with device := resultDevice [condition, a, b] }

def equal (a b : View) : Bool :=
  a.shape == b.shape &&
    match compare .eq (.tensor a) (.tensor b) with
    | .ok t => (t.elements?.getD []).all isTrue
    | .error _ => false

end View

/-! ## Reductions and products

Sums of whole numbers are 64 bits wide; sums and products of short floating-point numbers are computed in single precision and
rounded at the end.
-/

def ElementType.accumulator : ElementType → ElementType
  | .float16 | .bfloat16 => .float32
  | t => t

def ElementType.sumType : ElementType → ElementType
  | .bool | .uint8 | .int8 | .int16 | .int32 | .int64 => .int64
  | t => t

def lines (shape : List Nat) (axis : Nat) (es : Array Element) : List (List Element) :=
  let n := (shape[axis]?).getD 1
  let inner := volume (shape.drop (axis + 1))
  let outer := volume (shape.take axis)
  (List.range outer).flatMap fun o => (List.range inner).map fun i =>
    (List.range n).map fun k => (es[(o * n + k) * inner + i]?).getD (.whole 0)

def ofLines (shape : List Nat) (axis : Nat) (ls : List (List Element)) : List Element :=
  let n := (shape[axis]?).getD 1
  let inner := volume (shape.drop (axis + 1))
  let outer := volume (shape.take axis)
  let table := (ls.map List.toArray).toArray
  (List.range outer).flatMap fun o => (List.range n).flatMap fun k => (List.range inner).map fun i =>
    (((table[o * inner + i]?).getD #[])[k]?).getD (.whole 0)

namespace Sum

variable (t : ElementType)

def inOrder (es : List Element) : Element :=
  es.foldl (BinaryOp.add.onElements t) ((whole 0).convert t)

def columns : Nat → List Element → List Element → List Element × List Element
  | 0, acc, rest => (acc, rest)
  | fuel + 1, acc, rest =>
    if rest.length < 8 then (acc, rest)
    else columns fuel (List.zipWith (BinaryOp.add.onElements t) acc (rest.take 8)) (rest.drop 8)

/-- Add a list in pairs: the first of two with the second, until one is left. -/
def inPairs : List Element → Element
  | [a, b, c, d, e, f, g, h] =>
    let add := BinaryOp.add.onElements t
    add (add (add a b) (add c d)) (add (add e f) (add g h))
  | es => inOrder t es

/-- Add a block of at most 128 elements: by eight columns, then the rest. -/
def block (es : List Element) : Element :=
  if es.length < 8 then inOrder t es
  else
    let (acc, rest) := columns t es.length (es.take 8) (es.drop 8)
    rest.foldl (BinaryOp.add.onElements t) (inPairs t acc)

/-- Add elements that lie side by side: by halves until the blocks are short. -/
def byHalves : Nat → List Element → Element
  | 0, es => inOrder t es
  | fuel + 1, es =>
    if es.length ≤ 128 then block t es
    else
      let half := es.length / 2
      let half := half - half % 8
      BinaryOp.add.onElements t (byHalves fuel (es.take half)) (byHalves fuel (es.drop half))

end Sum

namespace View

variable (t : View) (dim : Option Int)

def reduceWith (type : ElementType) (f : Bool → List Element → Result Element) : Result View := do
  let place (x : View) : View := { x with device := t.device }
  match dim with
  | none =>
    match t.elements? with
    | none => return place (unknown type [])
    | some es => return place (ofElements type [] [← f true es])
  | some d =>
    let a ← t.axis d
    let shape := t.shape.eraseIdx a
    match t.elements? with
    | none => return place (unknown type shape)
    | some es => return place (ofElements type shape (← (lines t.shape a es.toArray).mapM (f (a + 1 == t.rank))))

def sum : Result View :=
  let type := t.type.sumType
  let acc := type.accumulator
  t.reduceWith dim type fun adjacent es =>
    let es := es.map (Element.convert acc)
    .ok ((if adjacent then Sum.byHalves acc 64 es else Sum.inOrder acc es).convert type)

def extremum (t : ElementType) : List Element → Result Element
  | [] => refused .value
  | e :: es => .ok (es.foldl (op.onElements t) e)

def extreme : Result View :=
  t.reduceWith dim t.type fun _ es => extremum op t.type es

def mean : Result View :=
  let acc := t.type.accumulator
  t.reduceWith dim t.type fun adjacent es =>
    let es := es.map (Element.convert acc)
    let total := if adjacent then Sum.byHalves acc 64 es else Sum.inOrder acc es
    .ok ((BinaryOp.div.onElements acc total ((Element.whole es.length).convert acc)).convert t.type)

def scan (dim : Int) : Result View := do
  let type := t.type.sumType
  let a ← t.axis dim
  let running (es : List Element) : List Element :=
    (es.foldl (fun (acc : List Element) e =>
      match acc with
      | [] => [e.convert type]
      | last :: _ => op.onElements type last (e.convert type) :: acc) []).reverse
  let es := t.elements?.map fun es => ofLines t.shape a ((lines t.shape a es.toArray).map running)
  return { ofElements? type t.shape es with device := t.device }

def allTrue : Bool := (t.elements?.getD []).all isTrue

def product (m k n : Nat) (a b : Array Element) : List Element :=
  let acc := type.accumulator
  (List.range m).flatMap fun i => (List.range n).map fun j =>
    let terms := (List.range k).map fun l =>
      let x := ((a[i * k + l]?).getD (.whole 0))
      let y := ((b[l * n + j]?).getD (.whole 0))
      if type.isReal then real (x.toReal.mul y.toReal) else .whole (x.toWhole * y.toWhole)
    let total := terms.foldl (fun s e => match s, e with
      | .whole x, .whole y => whole (x + y)
      | s, e => .real (s.toReal.add e.toReal)) ((whole 0).convert type)
    (total.convert acc).convert type

def matmul (a b : View) : Result View := do
  let mismatch : Result View := .error (.stated .runtime "matmul shapes")
  match a.shape.reverse, b.shape.reverse with
  | k :: m :: outer, n :: l :: outer' =>
    match broadcast? outer.reverse outer'.reverse with
    | none => mismatch
    | some stack =>
      if k != l then mismatch
      else
        let type := a.type.join b.type
        let es := if stack.isEmpty then
            match a.elements?, b.elements? with
            | some xs, some ys => some (product type m k n xs.toArray ys.toArray)
            | _, _ => none
          else none
        return { ofElements? type (stack ++ [m, n]) es with device := a.device }
  | _, _ => mismatch

def arange (start stop : Int) : View :=
  vector type ((List.range (stop - start).toNat).map fun (i : Nat) => .whole (start + i))

end View

/-! ### Closeness -/

structure Tolerance where
  absolute : Binary64
  relative : Binary64
  equalNaN : Bool := false

def Tolerance.holds (t : Tolerance) (type : ElementType) (x y : Binary64) : Bool :=
  if x.isNaN || y.isNaN then t.equalNaN && x.isNaN && y.isNaN
  else if x.isInf || y.isInf then x == y
  else (type.round (x.sub y)).abs.le (t.absolute.add (t.relative.mul y.abs))

namespace View

def reals (t : View) : List Binary64 := (t.elements?.map (·.map toReal)).getD (List.replicate t.count .zero)

def close (tol : Tolerance) (a b : View) : Bool :=
  let type := if a.type.isReal && b.type.isReal then a.type.join b.type else .float64
  let n := max a.count b.count
  let spread (t : View) : List Binary64 := if t.count = 1 then List.replicate n (t.reals.headD .zero) else t.reals
  if a.count = 0 || b.count = 0 then true
  else ((spread a).zip (spread b)).all fun (x, y) => tol.holds type x y

def digitsOf (x : Binary64) : DecimalDigits :=
  let attempt (n : Nat) : Option DecimalDigits :=
    let d := x.significantDigits (n + 1)
    let read := Binary64.ofDecimal d.digits (d.exponent - n)
    if type.round read == x then some d.trim else none
  ((List.range 17).findSome? attempt).getD x.shortestDigits

/-- A number as an item of an array: positional from `1e-4` up to but excluding `1e8`, with at most eight digits behind the
point, and a point in every whole number. -/
def itemText (x : Binary64) : String :=
  if x.isNaN then "nan"
  else
    let sign := if x.negative then "-" else ""
    let body (y : Binary64) : String :=
      if y.isInf then "inf"
      else if y.isZero then "0."
      else
        let d := digitsOf type y
        let pointed (s : String) : String := if s.contains '.' then s else s ++ "."
        if y.lt (Binary64.ofDecimal 1 (-4)) || (Binary64.ofDecimal 1 8).le y then
          let short := if d.count > 9 then (y.significantDigits 9).trim else d
          match short.scientific.splitOn "e" with
          | [m, e] => pointed m ++ "e" ++ e
          | _ => short.scientific
        else
          let places := (d.count : Int) - 1 - d.exponent
          let keep := (d.exponent + 9).toNat
          pointed ((if places > 8 then (y.significantDigits keep).trim else d).positional false)
    sign ++ body x.abs

def oneText (t : View) : String :=
  let e := ((t.elements?.bind (·.head?)).getD (.whole 0)).convert t.type
  let truth (b : Bool) : String := if b then "True" else "False"
  if t.shape.isEmpty then
    if t.type = .bool then truth e.isTrue else match e with
      | .whole n => toString n
      | .real x => x.shortest
  else
    let item := if t.type = .bool then (if e.isTrue then " True" else "False") else match e with
      | .whole n => toString n
      | .real x => itemText t.type x
    String.join (t.shape.map fun _ => "[") ++ item ++ String.join (t.shape.map fun _ => "]")

end View

end TileKernel.Strided
