import TileKernel.Lowering.Builtins
import TileKernel.Strided.Arithmetic

/-! # Simulated kernels

A kernel can be run on the host, one program instance after another, on the contents of its tensors. It sees the storages of its
tensor arguments as regions of one address space. The pointers of an access must stay within one region in all lanes that its
mask leaves active. Bounds are counted in bytes, but a step of one address moves by one element.
-/

namespace TileKernel.Simulation

open Strided

structure Region where
  start : Int
  size : Nat
  type : ElementType
  cells : Option (Array Element)

variable (t : View) (r : Region)

namespace Region

def covers (low high : Int) : Bool := low ≥ r.start && high < r.start + r.size

def count : Nat := r.size / r.type.bytes

def ofTensor (start : Int) : Region := { start, size := t.storageBytes, type := t.type, cells := t.cells }

def cellAt (place : Int) : Result Element :=
  if 0 ≤ place && place < r.count then .ok (((r.cells.bind fun cells => cells[place.toNat]?)).getD (.whole 0))
  else refused .index

def write (entries : List (Int × Element)) : Result Region := do
  if entries.any fun (p, _) => p < 0 || p ≥ r.count then refused .index
  let put (cells : Array Element) (entry : Int × Element) : Array Element :=
    cells.setIfInBounds entry.1.toNat (entry.2.convert r.type)
  return { r with cells := r.cells.map (entries.foldl put) }

end Region

structure Allocator where
  free : Int := 65536

namespace Allocator

/-- Place a storage of some bytes: storages are kept apart by at least 512 bytes, and begin at multiples of 512. -/
def place (a : Allocator) (bytes : Nat) : Int × Allocator :=
  (a.free, { free := a.free + ((bytes + 511) / 512 * 512 : Nat) + 512 })

end Allocator

structure Memory where
  regions : List Region := []

def scattered : Fault := .stated .exception "Storage not found or pointers spanning multiple tensors"

namespace Memory

variable (m : Memory)

/-- Register the storage of a tensor, and give the address of the tensor's first element. -/
def add (t : View) (start : Int) : Memory × Int :=
  ({ m with regions := m.regions ++ [Region.ofTensor t start] }, start + t.offset * t.type.bytes)

def find? (addresses : List Int) : Option Nat :=
  match addresses with
  | [] => none
  | a :: as =>
    let low := as.foldl min a
    let high := as.foldl max a
    m.regions.findIdx? (·.covers low high)

structure Lanes where
  addresses : List Int
  active : List Bool

def activeOnly {α : Type} (active : List Bool) (items : List α) : List α :=
  (active.zip items).filterMap fun (b, a) => if b then some a else none

/-- The lanes of an access. A pointer has one or two axes and 64 bits; a mask has one or two axes of truth values. -/
def lanes (pointer : View) (mask : Option View) : Result Lanes := do
  let axes (t : View) : Bool := 0 < t.rank && t.rank < 3
  if !axes pointer || pointer.type != .int64 then .error .assertion
  let addresses := (pointer.elements?.getD []).map Element.toWhole
  match mask with
  | none => return { addresses, active := addresses.map fun _ => true }
  | some mask =>
    if !axes mask || mask.type != .bool then .error .assertion
    let mask ← mask.expand pointer.shape
    return { addresses, active := (mask.elements?.getD []).map Element.isTrue }

def locate (l : Lanes) : Result (Nat × Region × List Int) :=
  match m.find? (activeOnly l.active l.addresses) with
  | none => .error scattered
  | some i =>
    match m.regions[i]? with
    | none => .error scattered
    | some r => .ok (i, r, l.addresses.map (· - r.start))

/-- Read the active lanes of a pointer; the others get `other`. When no lane is active the type of the elements cannot be
known, and half precision is taken. -/
def load (pointer : View) (mask : Option View) (other : Element) : Result View := do
  let onDevice (t : View) : Bool := t.device == "cuda"
  if !onDevice pointer then .error .assertion
  if !(mask.all onDevice) then .error .assertion
  let l ← lanes pointer mask
  if l.active.all (!·) then return .full .float16 pointer.shape other
  let (_, r, places) ← m.locate l
  let es ← (l.active.zip places).mapM fun (b, p) => if b then r.cellAt p else .ok (other.convert r.type)
  return .ofElements r.type pointer.shape es

def store (pointer value : View) (mask : Option View) : Result Memory := do
  let l ← lanes pointer mask
  if l.active.all (!·) then return m
  let (i, r, places) ← m.locate l
  if value.shape != pointer.shape then refused .index
  match value.elements? with
  | none => return m
  | some es =>
    let r ← r.write (activeOnly l.active (places.zip es))
    return { m with regions := m.regions.set i r }

end Memory

/-! ## Values

Parameters are *tiles*, which wrap a tensor, or *fixed* values if they are declared constant.
-/

inductive Value where
  | plain (v : Lowering.Value)
  | tile (t : View)
  /-- A wrapper around nothing, which stands for an absent argument. -/
  | hollow
  | tensor (t : View)
  | fixed (v : Value)
  | elementType (t : ElementType)
  | tuple (items : List Value)
  | list (items : List Value)
  | slice (start stop step : Value)
  | routed (name : String)
  | method (self : Value) (name : String)

namespace Value

def none : Value := .plain .none

def bool (b : Bool) : Value := .plain (.bool b)

def int (n : Int) : Value := .plain (.int n)

def float (x : Binary64) : Value := .plain (.float x)

def str (s : String) : Value := .plain (.str s)

def fix : Value → Value
  | .fixed v => .fixed v
  | v => .fixed v

def classText : Value → String
  | .plain v => v.classText
  | .tile _ | .hollow => "<class 'triton.interpreter.tl_lang.WrappedTensor'>"
  | .tensor _ => "<class 'torch.Tensor'>"
  | .fixed _ => "<class 'triton.interpreter.tl_lang.debugger_constexpr'>"
  | .elementType _ => "<class 'torch.dtype'>"
  | .tuple _ => Lowering.Kind.tuple.text
  | .list _ => Lowering.Kind.list.text
  | .slice _ _ _ => Lowering.Kind.slice.text
  | .routed _ => Lowering.Kind.function.text
  | .method _ _ => Lowering.Kind.method.text

mutual

def text : Value → String
  | .plain v => v.text
  | .tile t => "wrapped_" ++ t.text
  | .hollow => "wrapped_None"
  | .fixed v => s!"debugger_constexpr({text v})"
  | v => shown v

def shown : Value → String
  | .plain v => v.shown
  | .tile _ | .hollow => "<triton.interpreter.tl_lang.WrappedTensor object at 0x?>"
  | .tensor t => t.text
  | .fixed _ => "<triton.interpreter.tl_lang.debugger_constexpr object at 0x?>"
  | .elementType t => t.text
  | .tuple items => Text.parenthesised (shownAll items)
  | .list items => Text.bracketed (shownAll items)
  | .slice a b c => s!"slice({shown a}, {shown b}, {shown c})"
  | .routed name => s!"<function {name} at 0x?>"
  | .method _ name => s!"<bound method {name}>"

def shownAll : List Value → List String
  | [] => []
  | v :: vs => shown v :: shownAll vs

end

mutual

def plain? : Value → Option Lowering.Value
  | .plain v => some v
  | .tuple items => (plains? items).map .tuple
  | .list items => (plains? items).map .list
  | _ => Option.none

def plains? : List Value → Option (List Lowering.Value)
  | [] => some []
  | v :: vs =>
    match plain? v, plains? vs with
    | some w, some ws => some (w :: ws)
    | _, _ => Option.none

end

def ofPlain : Lowering.Value → Value
  | .tuple items => .tuple (ofPlains items)
  | .list items => .list (ofPlains items)
  | v => .plain v
where
  ofPlains : List Lowering.Value → List Value
    | [] => []
    | v :: vs => ofPlain v :: ofPlains vs

def tensorTruth : Result Bool :=
  match t.elements? with
  | Option.none => .ok true
  | some _ => do return (← t.item).isTrue

def truth : Value → Result Bool
  | .plain v => .ok v.truth
  | .tile t => do return (← View.compare .eq (.tensor t) (.truth true)).allTrue
  | .hollow => .ok false
  | .tensor t => tensorTruth t
  | .fixed v => truth v
  | .tuple items | .list items => .ok (!items.isEmpty)
  | _ => .ok true

def ofElement (type : ElementType) : Element → Value
  | .whole n => if type == .bool then bool (n != 0) else int n
  | .real x => float x

def index : Value → Result Int
  | .plain v =>
    match v.int? with
    | some n => .ok n
    | Option.none => refused .type
  | .tile t | .tensor t => do
    match ← t.item with
    | .whole n => return n
    | .real _ => refused .type
  | .fixed v => index v
  | _ => refused .type

def operand : Value → Result Operand
  | .plain .none => .ok .nothing
  | .plain (.bool b) => .ok (.truth b)
  | .plain (.int n) => .ok (.whole n)
  | .plain (.float x) => .ok (.real x)
  | .tensor t => .ok (.tensor t)
  | _ => refused .type

def toTensor : Value → Result Value
  | .plain (.bool b) => .ok (.tensor (.vector .bool [Element.ofBool b]))
  | .plain (.int n) =>
    if -Int.pow 2 31 ≤ n && n < Int.pow 2 31 then .ok (.tensor (.vector .int32 [.whole n]))
    else if -Int.pow 2 63 ≤ n && n < Int.pow 2 63 then .ok (.tensor (.vector .int64 [.whole n]))
    else .error (.stated .runtime s!"Nonrepresentable integer {n}.")
  | .plain (.float x) => .ok (.tensor (.vector .float32 [.real x]))
  | .plain .none => .ok none
  | .tensor t => .ok (.tensor t)
  | .tile t => .ok (.tile t)
  | .hollow => .ok .hollow
  | .fixed v => toTensor v
  | v => .error (.stated .assertion s!"cannot convert {v.text} of type {v.classText} to tensor")

def unwrap : Value → Value
  | .tile t => .tensor t
  | .hollow => none
  | .fixed v => v
  | v => v

def wrap : Value → Value
  | .tensor t => .tile t
  | v => v

end Value

/-! ## Operators

A tile works with any operand that can become a tensor, also from the right where the operator has a reflected form. A fixed
value only has comparisons and the two bitwise connectives of its own; everything else is up to the other operand.
-/

variable (c : Comparison)

namespace Tile

def operation? : Source.BinaryOp → Option (BinaryOp × Bool)
  | .add => some (.add, true)
  | .sub => some (.sub, true)
  | .mult => some (.mul, true)
  | .div => some (.div, true)
  | .floorDiv => some (.floorDiv, true)
  | .mod => some (.rem, true)
  | .bitAnd => some (.and, false)
  | .bitOr => some (.or, false)
  | .bitXor => some (.xor, false)
  | .lShift => some (.shiftLeft, false)
  | .rShift => some (.shiftRight, false)
  | .pow | .matMult => none

def held : Value → Operand
  | .tile t => .tensor t
  | _ => .nothing

def other (v : Value) : Result Operand := do (← v.toTensor).unwrap.operand

def binary (op : BinaryOp) (self v : Value) (reflected : Bool) : Result Value := do
  let o ← other v
  return .tile (← if reflected then View.binary op o (held self) else View.binary op (held self) o)

def ordered (self v : Value) (reflected : Bool) : Result Value := do
  let o ← other v
  return .tile (← if reflected then View.compare c o (held self) else View.compare c (held self) o)

def equal (self v : Value) : Result Bool := do
  match held self, ← other v with
  | .tensor a, .tensor b => return a.equal b
  | _, _ => return false

def compare (self v : Value) (reflected : Bool) : Result Value := do
  match c with
  | .eq => return .bool (← equal self v)
  | .ne => return .bool (!(← equal self v))
  | c => ordered c self v reflected

def elementType? (s : Scalar) : Option ElementType :=
  match s with
  | .fp16 => some .float16
  | .bf16 => some .bfloat16
  | .fp32 => some .float32
  | .fp64 => some .float64
  | .int1 => some .bool
  | s => ElementType.all.find? (·.name == s.name)

def convert : Value → Result View
  | .elementType e => .ok (t.convert e)
  | .plain (.ty (.scalar s)) =>
    match elementType? s with
    | some e => .ok (t.convert e)
    | none => .error (.stated .type ("not a dtype: " ++ s.name))
  | .plain (.str _) => .ok t
  | v => .error (.stated .type ("not a dtype: " ++ v.text))

def bound? : Value → Result (Option Int)
  | .plain .none => .ok none
  | v => do return some (← v.index)

def entry : Value → Result Index
  | .plain .none => .ok .newAxis
  | .slice a b c => do return .slice (← bound? a) (← bound? b) (← bound? c)
  | v => do return .item (← v.index)

def gather (t index : View) : Result View := do
  match t.shape, t.elements?, index.elements? with
  | [], _, _ => refused .index
  | n :: rest, some es, some is =>
    let width := volume rest
    let es := es.toArray
    let row (i : Nat) : List Element := (List.range width).map fun j => (es[i * width + j]?).getD (.whole 0)
    if index.type == .bool then
      if index.shape != [n] then refused .index
      let chosen := (is.zipIdx.filter fun (e, _) => e.isTrue).map (·.2)
      return .ofElements t.type (chosen.length :: rest) (chosen.flatMap row)
    else
      let chosen ← is.mapM fun e =>
        let i : Int := if e.toWhole < 0 then e.toWhole + n else e.toWhole
        if 0 ≤ i && i < n then Except.ok i.toNat else refused .index
      return .ofElements t.type (index.shape ++ rest) (chosen.flatMap row)
  | _ :: rest, _, _ => return .unknown t.type (index.shape ++ rest)

def item : Value → Result View
  | .tensor i => gather t i
  | .tuple entries => do t.index (← entries.mapM entry)
  | v => do t.index [← entry v]

end Tile

/-! ### Operators -/

namespace Value

def bare : Value → Value
  | .fixed v => bare v
  | v => v

def operateBare (op : Source.BinaryOp) (a b : Value) : Result Value :=
  match a, b, Tile.operation? op with
  | .tile _, _, some (t, _) | .hollow, _, some (t, _) => Tile.binary t a b false
  | _, .tile _, some (t, true) | _, .hollow, some (t, true) => Tile.binary t b a true
  | .tensor _, _, some (t, _) | _, .tensor _, some (t, _) => do
    return .tensor (← View.binary t (← a.operand) (← b.operand))
  | .tuple xs, .tuple ys, _ => if op == .add then .ok (.tuple (xs ++ ys)) else refused .type
  | .list xs, .list ys, _ => if op == .add then .ok (.list (xs ++ ys)) else refused .type
  | _, _, _ =>
    match a.plain?, b.plain? with
    | some x, some y => do return ofPlain (← Lowering.Methods.operate op x y)
    | _, _ => refused .type

def fixedHas : Source.BinaryOp → Bool
  | .bitAnd | .bitOr => true
  | _ => false

def operate (op : Source.BinaryOp) (a b : Value) : Result Value :=
  match a, b with
  | .fixed x, b =>
    if fixedHas op then operateBare op x.bare b.bare
    else
      match b, Tile.operation? op with
      | .tile _, some (t, true) | .hollow, some (t, true) => Tile.binary t b a true
      | _, _ => refused .type
  | .tile _, .fixed _ | .hollow, .fixed _ =>
    match Tile.operation? op with
    | some (t, _) => Tile.binary t a b false
    | Option.none => refused .type
  | a, .fixed y => if fixedHas op then operateBare op y.bare a else refused .type
  | a, b => operateBare op a b

def comparisonOf : Source.CompareOp → Option Comparison
  | .eq => some .eq
  | .notEq => some .ne
  | .lt => some .lt
  | .ltE => some .le
  | .gt => some .gt
  | .gtE => some .ge
  | _ => Option.none

def flipped : Comparison → Comparison
  | .lt => .gt
  | .le => .ge
  | .gt => .lt
  | .ge => .le
  | c => c

def plainComparison : Comparison → TileKernel.Tensor.Comparison
  | .lt => .lt
  | .le => .le
  | .gt => .gt
  | .ge => .ge
  | .eq => .eq
  | .ne => .ne

def compareBare (a b : Value) : Result Value :=
  match a, b with
  | .tile _, _ | .hollow, _ => Tile.compare c a b false
  | _, .tile _ | _, .hollow => Tile.compare (flipped c) b a false
  | .tensor _, _ | _, .tensor _ => do return .tensor (← View.compare c (← a.operand) (← b.operand))
  | .elementType x, .elementType y =>
    match c with
    | .eq => .ok (bool (x == y))
    | .ne => .ok (bool (x != y))
    | _ => refused .type
  | _, _ =>
    match a.plain?, b.plain? with
    | some x, some y => do return bool (← Lowering.Constant.compareValues (plainComparison c) x y)
    | _, _ =>
      match c with
      | .eq => .ok (bool false)
      | .ne => .ok (bool true)
      | _ => refused .type

def compare (a b : Value) : Result Value :=
  match a, b with
  | .fixed x, b =>
    match c with
    | .ne => do return bool (!(← (← compareBare .eq x.bare b.bare).truth))
    | c => compareBare c x.bare b.bare
  | .tile _, .fixed _ | .hollow, .fixed _ => compareBare c a b
  | a, .fixed y =>
    match c with
    | .ne => do return bool (!(← (← compareBare .eq y.bare a).truth))
    | c => compareBare (flipped c) y.bare a
  | a, b => compareBare c a b

/-- Whether two values are one object, as far as that can be told: nothing is, and so are equal small values. -/
def same : Value → Value → Bool
  | .plain a, .plain b => Lowering.Constant.same a b
  | .elementType a, .elementType b => a == b
  | _, _ => false

def unary (op : Source.UnaryOp) (a : Value) : Result Value :=
  match op, a with
  | .not, a => do return bool (!(← a.truth))
  | .uSub, .tile t => do return .tile (← View.unary .neg t)
  | .invert, .tile t => do return .tile (← View.unary .invert t)
  | .uSub, .tensor t => do return .tensor (← View.unary .neg t)
  | .invert, .tensor t => do return .tensor (← View.unary .invert t)
  | op, .plain v => do return ofPlain (← Lowering.Methods.unary op v)
  | _, _ => refused .type

def item (v i : Value) : Result Value :=
  match v with
  | .tile t => do return .tile (← Tile.item t i.unwrap)
  | .tensor t => do return .tensor (← Tile.item t i)
  | .tuple items | .list items =>
    match i with
    | .slice a b c => do
      let (first, step, count) ← View.sliceBounds items.length (← Tile.bound? a) (← Tile.bound? b) (← Tile.bound? c)
      let chosen := (List.range count).filterMap fun (k : Nat) => items[(first + step * k).toNat]?
      return match v with
        | .tuple _ => .tuple chosen
        | _ => .list chosen
    | i => do
      let n ← i.index
      let n := if n < 0 then n + items.length else n
      match if n < 0 then Option.none else items[n.toNat]? with
      | some x => return x
      | Option.none => refused .index
  | .plain p =>
    match i.plain? with
    | some j => do return ofPlain (← Lowering.Methods.item p j)
    | Option.none => refused .type
  | _ => refused .type

end Value

/-! ### Methods by name -/

namespace Tile

def binaryMethod? (name : String) : Option (BinaryOp × Bool) :=
  match Lowering.Methods.binary? name with
  | some op => (operation? op).map fun (t, _) => (t, false)
  | none =>
    (Lowering.Methods.binaryOps.findSome? fun op =>
      match operation? op with
      | some (t, true) => if (Lowering.Methods.ofBinary op).map Lowering.Methods.reflected == some name then some t else none
      | _ => none).map fun t => (t, true)

def comparisonMethod? : String → Option (Comparison × Bool)
  | "__gt__" => some (.gt, false)
  | "__rgt__" => some (.gt, true)
  | "__ge__" => some (.ge, false)
  | "__rge__" => some (.ge, true)
  | "__lt__" => some (.lt, false)
  | "__rlt__" => some (.lt, true)
  | "__le__" => some (.le, false)
  | "__rle__" => some (.le, true)
  | "__eq__" => some (.eq, false)
  | "__ne__" => some (.ne, false)
  | _ => none

def method (self : Value) (name : String) (args : List Value) : Result Value := do
  match binaryMethod? name, comparisonMethod? name, args with
  | some (op, reflected), _, [v] => binary op self v reflected
  | none, some (c, reflected), [v] => compare c self v reflected
  | some _, _, _ | none, some _, _ => refused .type
  | none, none, args =>
    match name, args with
    | "__neg__", [] => self.unary .uSub
    | "__invert__", [] => self.unary .invert
    | "__index__", [] =>
      match self with
      | .tile t => return .ofElement t.type (← t.item)
      | _ => refused .missingAttribute
    | "__str__", [] => return .str self.text
    | "__bool__", [] => return .bool (← self.truth)
    | "__getitem__", [.tensor _] => .error (.stated .assertion "unexpected tensor argument")
    | "__getitem__", [i] => self.item i
    | "to", .tensor _ :: _ => .error (.stated .assertion "unexpected tensor argument")
    | "to", [dtype] | "to", [dtype, _] =>
      match self with
      | .tile t => return .tile (← convert t dtype.unwrap)
      | _ => refused .missingAttribute
    | _, _ => refused .type

def hasMethod (name : String) : Bool :=
  (binaryMethod? name).isSome || (comparisonMethod? name).isSome ||
    ["__neg__", "__invert__", "__index__", "__str__", "__bool__", "__getitem__", "to"].contains name

def property? (self : Value) (name : String) : Result (Option Value) :=
  match self, name with
  | .tile t, "dtype" => .ok (some (.elementType t.type))
  | .tile t, "tensor" => .ok (some (.tensor t))
  | .hollow, "tensor" => .ok (some .none)
  | .hollow, "dtype" => refused .missingAttribute
  | _, _ => .ok none

end Tile

namespace Fixed

def convert (v : Value) (type : ElementType) : Result Value := do
  let unsupported : Result Value := .error (.stated .value "dtype not supported in debugger")
  match type, v.plain? with
  | .int64, some p => return .fixed (.plain (← Lowering.Builtins.toInt p))
  | .bool, _ => return .fixed (.bool (← v.truth))
  | .float64, some p => return .fixed (.plain (← Lowering.Builtins.toFloat p))
  | .int64, none | .float64, none => refused .type
  | _, _ => unsupported

def method (v : Value) (name : String) (args : List Value) : Result Value := do
  match Lowering.Methods.comparison? name, name, args with
  | some _, _, [b] =>
    match Tile.comparisonMethod? name with
    | some (c, _) => Value.compare c (.fixed v) b
    | none => refused .type
  | none, "__or__", [b] | none, "__ror__", [b] => Value.operateBare .bitOr v.bare b.bare
  | none, "__and__", [b] | none, "__rand__", [b] => Value.operateBare .bitAnd v.bare b.bare
  | none, "__str__", [] => return .str (Value.fixed v).text
  | none, "__index__", [] => return v
  | none, "__bool__", [] => return .bool (← v.truth)
  | none, "to", dtype :: _ =>
    match dtype with
    | .elementType t => convert v t
    | _ => .error (.stated .value "dtype not supported in debugger")
  | _, _, _ => refused .type

def hasMethod (name : String) : Bool :=
  (Lowering.Methods.comparison? name).isSome ||
    ["__or__", "__ror__", "__and__", "__rand__", "__str__", "__index__", "__bool__", "to"].contains name

end Fixed

end TileKernel.Simulation
