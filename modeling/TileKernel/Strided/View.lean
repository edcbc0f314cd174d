import TileKernel.Fault
import TileKernel.Number

/-! # Strided tensors

A tensor is a view of a storage: a shape, a stride for every axis and the place of its first element. The contents of a storage
may be unknown. `View.elements?` is the observation that everything else is stated by: the elements in row-major order.

## Elements

Whole numbers wrap around in their width, floating-point numbers are rounded to their format, and truth values are zero and one.
-/

namespace TileKernel.Strided

inductive ElementType where
  | bool | uint8 | int8 | int16 | int32 | int64 | float16 | bfloat16 | float32 | float64
  | other (name : String)
deriving DecidableEq

/-- A category of numbers: of two categories the higher one decides the type of a result. -/
inductive Category where
  | truth | whole | real
deriving DecidableEq

namespace Category

def rank : Category → Nat
  | truth => 0
  | whole => 1
  | real => 2

end Category

namespace ElementType

def all : List ElementType :=
  [.bool, .uint8, .int8, .int16, .int32, .int64, .float16, .bfloat16, .float32, .float64]

def name : ElementType → String
  | bool => "bool"
  | uint8 => "uint8"
  | int8 => "int8"
  | int16 => "int16"
  | int32 => "int32"
  | int64 => "int64"
  | float16 => "float16"
  | bfloat16 => "bfloat16"
  | float32 => "float32"
  | float64 => "float64"
  | other n => n

def ofName (n : String) : ElementType := (all.find? (·.name == n)).getD (.other n)

def text (t : ElementType) : String := "torch." ++ t.name

def hasContents : ElementType → Bool
  | other _ => false
  | _ => true

def category : ElementType → Category
  | bool => .truth
  | uint8 | int8 | int16 | int32 | int64 => .whole
  | float16 | bfloat16 | float32 | float64 => .real
  | other _ => .real

def isReal (t : ElementType) : Bool := t.category == .real

def bytes : ElementType → Nat
  | bool | uint8 | int8 => 1
  | int16 | float16 | bfloat16 => 2
  | int32 | float32 => 4
  | int64 | float64 => 8
  | other _ => 1

def rank (t : ElementType) : Nat := (all.findIdx? (· == t)).getD 10

def join (a b : ElementType) : ElementType :=
  match a, b with
  | .float16, .bfloat16 | .bfloat16, .float16 => .float32
  | .uint8, .int8 | .int8, .uint8 => .int16
  | a, b => if a.rank < b.rank then b else a

end ElementType

inductive Element where
  | whole (n : Int)
  | real (x : Binary64)

/-- The whole number of a width that agrees with a number modulo two to the width: unsigned, or signed. -/
def wrapUnsigned (width : Nat) (n : Int) : Int := n % Int.pow 2 width

def wrapSigned (width : Nat) (n : Int) : Int := Int.bmod n (Nat.pow 2 width)

namespace ElementType

def wrap (t : ElementType) (n : Int) : Int :=
  match t with
  | .bool => if n == 0 then 0 else 1
  | .uint8 => wrapUnsigned 8 n
  | .int8 => wrapSigned 8 n
  | .int16 => wrapSigned 16 n
  | .int32 => wrapSigned 32 n
  | .int64 => wrapSigned 64 n
  | _ => n

/-- Round a floating-point number to the format of a type; brain floats are rounded by way of single precision. -/
def round (t : ElementType) (x : Binary64) : Binary64 :=
  match t with
  | .float16 => Narrow.half.round x
  | .bfloat16 => Narrow.brain.round (Narrow.single.round x)
  | .float32 => Narrow.single.round x
  | _ => x

end ElementType

namespace Element

def toReal : Element → Binary64
  | whole n => (Binary64.ofInt? n).getD (if n < 0 then Binary64.infinity.neg else .infinity)
  | real x => x

/-- The whole number nearest to an element toward zero; what is not finite becomes the least 64-bit number. -/
def toWhole : Element → Int
  | whole n => n
  | real x => if x.isFinite then x.truncate else -Int.pow 2 63

def isTrue : Element → Bool
  | whole n => n != 0
  | real x => !x.isZero

def convert (t : ElementType) (e : Element) : Element :=
  match t with
  | .bool => whole (if e.isTrue then 1 else 0)
  | t => if t.isReal then real (t.round e.toReal) else whole (t.wrap e.toWhole)

def ofBool (b : Bool) : Element := whole (if b then 1 else 0)

def compare? : Element → Element → Option Ordering
  | whole a, whole b => some (compare a b)
  | a, b =>
    let x := a.toReal
    let y := b.toReal
    if x.isNaN || y.isNaN then none else if x.lt y then some .lt else if y.lt x then some .gt else some .eq

end Element

def volume (shape : List Nat) : Nat := shape.foldl (· * ·) 1

def rowMajor : List Nat → List Int
  | [] => []
  | _ :: ns => (volume ns : Int) :: rowMajor ns

def positions : List Nat → List Int → Int → List Int
  | [], _, start => [start]
  | n :: ns, s :: ss, start => (List.range n).flatMap fun (i : Nat) => positions ns ss (start + i * s)
  | n :: ns, [], start => (List.range n).flatMap fun _ => positions ns [] start

structure View where
  type : ElementType
  shape : List Nat
  strides : List Int
  offset : Int := 0
  extent : Nat
  cells : Option (Array Element)
  device : String := "cuda"

inductive Index where
  | item (i : Int)
  | slice (start stop step : Option Int)
  | newAxis

namespace View

variable (t : ElementType) (shape : List Nat)

def ofElements (es : List Element) : View :=
  { type := t, shape, strides := if es.isEmpty then shape.map fun _ => 0 else rowMajor shape, extent := es.length
    cells := some es.toArray }

def unknown : View :=
  { type := t, shape, strides := rowMajor shape, extent := volume shape, cells := none }

def ofElements? : Option (List Element) → View
  | some es => ofElements t shape es
  | none => unknown t shape

def vector (es : List Element) : View := ofElements t [es.length] (es.map (Element.convert t))

def scalar (e : Element) : View := ofElements t [] [e.convert t]

def full (e : Element) : View :=
  ofElements t shape (List.replicate (volume shape) (e.convert t))

variable (t : View)

def rank : Nat := t.shape.length

def count : Nat := volume t.shape

def storageBytes : Nat := t.extent * t.type.bytes

/-- Whether the elements lie side by side in row-major order; the stride of an axis of one element does not count. -/
def isContiguous : Bool :=
  go t.shape t.strides
where
  go : List Nat → List Int → Bool
    | n :: ns, s :: ss => (n == 1 || s == volume ns) && go ns ss
    | _, _ => true

def cellAt (cells : Array Element) (i : Int) : Element := (cells[i.toNat]?).getD (.whole 0)

def elements? : Option (List Element) :=
  t.cells.map fun cells => (positions t.shape t.strides t.offset).map (cellAt cells)

def item : Result Element :=
  if t.count != 1 then .error (.stated .runtime "not one element")
  else .ok (((t.elements?.getD []).head?).getD (if t.type.isReal then .real .zero else .whole 0))

def text : String :=
  "tensor([" ++ ", ".intercalate (t.shape.map toString) ++ "], " ++ t.type.text ++ ")"

def convert (type : ElementType) : View :=
  if type == t.type then t
  else
    let es := if type.hasContents then t.elements?.map (·.map (Element.convert type)) else none
    { ofElements? type t.shape es with device := t.device }

/-! ## Views -/

def sliceBounds (n : Nat) (start stop step : Option Int) : Result (Int × Int × Nat) :=
  let by_ := step.getD 1
  if by_ == 0 then refused .value
  else
    let size : Int := n
    let clamp (low high i : Int) : Int :=
      let i := if i < 0 then i + size else i
      max low (min high i)
    if by_ > 0 then
      let a := (start.map (clamp 0 size)).getD 0
      let b := (stop.map (clamp 0 size)).getD size
      .ok (a, by_, ((b - a + by_ - 1).fdiv by_).toNat)
    else
      let a := (start.map (clamp (-1) (size - 1))).getD (size - 1)
      let b := (stop.map (clamp (-1) (size - 1))).getD (-1)
      .ok (a, by_, ((a - b + -by_ - 1).fdiv (-by_)).toNat)

def follow : List Index → List Nat → List Int → Int → Result (List Nat × List Int × Int)
  | [], shape, strides, offset => .ok (shape, strides, offset)
  | .newAxis :: is, shape, strides, offset => do
    let (ns, ss, o) ← follow is shape strides offset
    return (1 :: ns, 0 :: ss, o)
  | .item i :: is, n :: ns, s :: ss, offset =>
    let j := if i < 0 then i + n else i
    if 0 ≤ j && j < n then follow is ns ss (offset + j * s) else refused .index
  | .slice a b c :: is, n :: ns, s :: ss, offset => do
    let (first, step, count) ← sliceBounds n a b c
    let (ms, ts, o) ← follow is ns ss (offset + first * s)
    return (count :: ms, step * s :: ts, o)
  | _, _, _, _ => refused .index

def index (is : List Index) : Result View := do
  let (shape, strides, offset) ← follow is t.shape t.strides t.offset
  return { t with shape, strides, offset }

def exchange {α : Type} (xs : List α) (i j : Nat) : List α :=
  match xs[i]?, xs[j]? with
  | some a, some b => (xs.set i b).set j a
  | _, _ => xs

def axis (i : Int) : Result Nat :=
  let j := if i < 0 then i + t.rank else i
  if 0 ≤ j && j < t.rank then .ok j.toNat else refused .index

def transpose (i j : Int) : Result View := do
  let a ← t.axis i
  let b ← t.axis j
  return { t with shape := exchange t.shape a b, strides := exchange t.strides a b }

def reversed : View := { t with shape := t.shape.reverse, strides := t.strides.reverse }

/-- The tensor itself when its elements lie side by side, and otherwise a copy whose elements do. -/
def contiguous : View :=
  if t.isContiguous then t else { ofElements? t.type t.shape t.elements? with device := t.device }

/-- Walk the axes of a view from the last one, with its groups of axes that lie side by side, and give the axes of a new shape
their strides; a group has to be used up by whole axes. Both shapes are reversed; `base` is the stride of the group, `given`
and `taken` count the elements of the group so far on either side. -/
def regroup : List (Nat × Int) → List Nat → Int → Nat → List Int → Option (List Int)
  | [], rest, _, _, out => if rest.all (· == 1) then some (rest.map (fun _ => 1) ++ out) else none
  | (n, _) :: axes, rest, base, given, out =>
    let given := given * n
    let continues := match axes with
      | (m, s) :: _ => m == 1 || s == given * base
      | [] => false
    if continues then regroup axes rest base given out
    else
      let (rest, out, taken) := fill given rest base 1 out
      if taken != given then none
      else regroup axes rest ((axes.head?.map (·.2)).getD 1) 1 out
where
  fill (given : Nat) : List Nat → Int → Nat → List Int → List Nat × List Int × Nat
    | m :: rest, base, taken, out =>
      if taken < given || m == 1 then fill given rest base (taken * m) ((taken * base) :: out) else (m :: rest, out, taken)
    | [], _, taken, out => ([], out, taken)

def regrouped? (shape : List Nat) : Option View :=
  if volume shape != t.count then none
  else if t.count == 0 then some { t with shape, strides := rowMajor shape }
  else
    let axes := (t.shape.zip t.strides).reverse
    (regroup axes shape.reverse ((axes.head?.map (·.2)).getD 1) 1 []).map fun strides => { t with shape, strides }

def expandedStrides (shape : List Nat) (strides : List Int) (target : List Nat) : Option (List Int) :=
  let missing := target.length - shape.length
  if shape.length > target.length then none
  else
    let padded := (List.replicate missing (1, (0 : Int)) ++ shape.zip strides).zip target
    padded.mapM fun ((n, s), m) => if n == m then some s else if n == 1 then some 0 else none

def expand (target : List Nat) : Result View :=
  match expandedStrides t.shape t.strides target with
  | some strides => .ok { t with shape := target, strides }
  | none => refused .value

def broadcast? (a b : List Nat) : Option (List Nat) :=
  let n := max a.length b.length
  let pad (xs : List Nat) : List Nat := List.replicate (n - xs.length) 1 ++ xs
  ((pad a).zip (pad b)).mapM fun (x, y) => if x == y then some x else if x == 1 then some y else if y == 1 then some x else none

end View

end TileKernel.Strided
