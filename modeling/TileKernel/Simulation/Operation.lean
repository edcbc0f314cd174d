import TileKernel.Lowering.Library
import TileKernel.Simulation.Tile

/-! # State of a simulation

While a program instance of a simulated kernel runs, some names of the language stand for operations on the host. What they stood
for before is kept in a backup, one table for all instances: one that fails restores nothing, and the next one finds, and keeps,
the routes that it left.
-/

namespace TileKernel.Simulation

inductive Entry where
  | own
  | routed (instance_ : Nat)

structure Routing where
  entries : List (String × Entry)
  backup : List (String × Entry) := []

namespace Routing

def initial (names : List String) : Routing := { entries := names.map (·, .own) }

def route (instance_ : Nat) (r : Routing) (name : String) : Routing :=
  match r.entries.lookup name with
  | some e => { entries := Table.put r.entries name (.routed instance_), backup := Table.put r.backup name e }
  | none => r

def attach (r : Routing) (names : List String) (instance_ : Nat) : Routing := names.foldl (route instance_) r

def detach (r : Routing) : Routing :=
  { r with entries := Table.putAll r.entries r.backup }

end Routing

open Strided

structure Context where
  position : List Int
  grid : List Int

structure Scene where
  context : Context := { position := [0], grid := [1] }
  routing : Routing := { entries := [] }
  program : Lowering.Program := {}

structure State where
  memory : Memory := {}
  allocator : Allocator := {}
  printed : List String := []

abbrev Run := ReaderT Scene (EStateM Fault State)

namespace Run

def check {α : Type} : Result α → Run α
  | .ok a => pure a
  | .error f => throw f

def refuse {α : Type} (kind : FaultKind) : Run α := throw (.implicit kind)

end Run

/-- A step that needs nothing but the state of lowering, with the program at hand. -/
def lowering {α : Type} (x : Lowering.Lower α) : Run α := fun scene s =>
  match x.run { (default : Lowering.LowerState) with program := scene.program, printed := s.printed } with
  | .ok a t => .ok a { s with printed := t.printed }
  | .error f t => .error f { s with printed := t.printed }

/-! ## Operations on the host

Arguments are taken out of their wrappers, and a tensor that comes out is wrapped again.
-/

structure Operation where
  name : String
  params : List (Parameter Value)
  run : List Value → Run Value

namespace Operation

variable (name : String)

/-! ### Arguments -/

def tensor : Value → Result View
  | .tensor t => .ok t
  | _ => refused .missingAttribute

def mask : Value → Result (Option View)
  | .plain .none => .ok none
  | v => do return some (← tensor v)

def filler : Value → Result Element
  | .plain (.bool b) => .ok (Element.ofBool b)
  | .plain (.int n) => .ok (.whole n)
  | .plain (.float x) => .ok (.real x)
  | .plain .none => .ok (.real .nan)
  | .tensor t => t.item
  | _ => refused .type

def axis? : Value → Result (Option Int)
  | .plain .none => .ok none
  | v => do return some (← v.index)

def give (t : Result View) : Run Value := do return .tensor (← Run.check t)

/-! ### Memory -/

def load (pointer maskValue other : Value) : Run View := do
  let p ← Run.check (tensor pointer)
  let m ← Run.check (mask maskValue)
  let o ← Run.check (filler other)
  Run.check ((← get).memory.load p m o)

def store (pointer value maskValue : Value) : Run Unit := do
  let p ← Run.check (tensor pointer)
  let m ← Run.check (mask maskValue)
  let v ← match value with
    | .tensor t => pure t
    | _ => Run.refuse .type
  let memory ← Run.check ((← get).memory.store p v m)
  modify fun s => { s with memory }

/-- Replace what is stored by what a function makes of it and another operand, and give what was stored before. -/
def update (f : Operand → Operand → Result View) (pointer value maskValue : Value) : Run Value := do
  let stored ← load pointer maskValue (.int 0)
  let result ← Run.check (do f (.tensor stored) (← value.operand))
  store pointer (.tensor result) maskValue
  return .tensor stored

def compareAndSwap (pointer cmp value : Value) : Run Value := do
  let stored ← load pointer .none (.float .zero)
  let ofType (v : Value) : Result View :=
    match v with
    | .tensor t => .ok t
    | v => do return .vector stored.type [← filler v]
  let cmp ← Run.check (ofType cmp)
  let value ← Run.check (ofType value)
  let equal ← Run.check (View.compare .eq (.tensor stored) (.tensor cmp))
  if ← Run.check (Value.tensorTruth equal) then store pointer (.tensor value) .none
  return .tensor stored

def exchange (pointer value maskValue : Value) : Run Value := do
  let value ← match value with
    | .plain (.int n) => pure (Value.tensor (.vector .int32 [.whole n]))
    | .plain (.bool b) => pure (.tensor (.vector .int32 [Element.ofBool b]))
    | v => pure v
  let stored ← load pointer maskValue (.float .zero)
  store pointer value maskValue
  return .tensor stored

/-! ### Shapes and types -/

def extents (items : List Value) : Result (List Nat) :=
  items.zipIdx.mapM fun (d, i) =>
    match d with
    | .fixed v =>
      match v with
      | .plain (.int n) => .ok n.toNat
      | .plain (.bool b) => .ok (if b then 1 else 0)
      | v => .error (.stated .type s!"Shape element {i} must have type `constexpr[int]`, got `constexpr[{v.classText}]")
    | _ => .error (.stated .type s!"Shape element {i} must have type `constexpr`")

def newType : Value → Result ElementType
  | .plain (.ty (.scalar s)) =>
    match s with
    | .fp32 => .ok .float32
    | .fp16 => .ok .float16
    | .bf16 => .ok .bfloat16
    | .int32 => .ok .int32
    | .int16 => .ok .int16
    | .int8 => .ok .int8
    | s => .error (.stated .type ("Unsupported dtype " ++ s.name))
  | .elementType t => .ok t
  | .plain .none => .ok .float32
  | _ => refused .type

def zeros (shape dtype : Value) : Result View :=
  match shape with
  | .list items | .tuple items => do
    let shape ← extents items
    return .full (← newType dtype) shape (.whole 0)
  | _ => refused .type

def along (xs : List Int) (axis : Value) : Result View := do
  let i ← axis.index
  if i ≥ xs.length then .error .assertion
  let j := if i < 0 then i + xs.length else i
  match if j < 0 then none else xs[j.toNat]? with
  | some n => return .vector .int32 [.whole n]
  | none => refused .index

def dot (a b transA transB : Value) : Result View := do
  let x ← tensor a
  let y ← tensor b
  if x.type != y.type then .error .assertion
  let x := if ← transA.truth then x.reversed else x
  let y := if ← transB.truth then y.reversed else y
  x.matmul y

def scalarOf : Value → Value
  | .plain (.int n) => .tensor (.scalar .int64 (.whole n))
  | .plain (.bool b) => .tensor (.scalar .bool (Element.ofBool b))
  | v => v

def converted (v : Value) : Result Operand := do (← v.toTensor).operand

def ceilDiv (x y : Value) : Result Value := do
  Value.operate .floorDiv (← Value.operate .sub (← Value.operate .add x y) (.int 1)) y

/-! ### The table -/

def doing (params : List (Parameter Value)) (run : Curried Value (Run Value) params) : Operation :=
  { name, params, run := Curried.apply (Run.refuse .type) run }

def giving (params : List (Parameter Value)) (f : Curried Value (Result View) params) : Operation :=
  { name, params, run := fun args => give (Curried.apply (refused .type) f args) }

def elementWise (op : UnaryOp) : Operation := giving name ["x"] fun x => do View.unary op (← tensor x)

def reduction (f : View → Option Int → Result View) : Operation :=
  giving name ["input", opt "axis" .none] fun x axis => do f (← tensor x) (← axis? axis)

def scan (op : BinaryOp) : Operation :=
  giving name ["input", opt "axis" .none] fun x axis => do
    match ← axis? axis with
    | some d => View.scan op (← tensor x) d
    | none => refused .type

def atomic (f : Operand → Operand → Result View) : Operation :=
  doing name ["pointer", "val", opt "mask" .none] (update f)

def hint : Operation := doing name ["input", "values"] fun x _ => pure x

def missing (params : List (Parameter Value)) : Operation :=
  { name, params, run := fun _ => throw (.stated .notImplemented "") }

def pairwise (name x y : String) (f : Value → Value → Result Value) : Operation :=
  doing name [x, y] fun a b => Run.check (f a b)

def launchNumber (numbers : Context → List Int) : Operation :=
  doing name ["axis"] fun axis => do give (along (numbers (← read).context) axis)

def memoryOperations : List Operation :=
  [doing "load" ["pointer", opt "mask" .none, opt "other" (.float .zero), opt "cache_modifier" (.str ""),
      opt "eviction_policy" (.str ""), opt "volatile" (.bool false)] fun p m o _ _ _ => do return .tensor (← load p m o),
   doing "store" ["pointer", "value", opt "mask" .none] fun p v m => do store p v m; return .none,
   launchNumber "program_id" (·.position), launchNumber "num_programs" (·.grid),
   doing "atomic_cas" ["pointer", "cmp", "val"] compareAndSwap,
   doing "atomic_xchg" ["pointer", "val", opt "mask" .none] exchange,
   atomic "atomic_add" (View.binary .add), atomic "atomic_max" (View.binary .maximum),
   atomic "atomic_min" (View.binary .minimum), atomic "atomic_and" (View.binary .and), atomic "atomic_or" (View.binary .or),
   atomic "atomic_xor" (View.binary .xor)]

def valueOperations : List Operation :=
  [giving "arange" ["start", "end"] fun a b => do return .arange .int32 (← a.index) (← b.index),
   giving "zeros" ["shape", "dtype"] zeros,
   giving "dot" ["input", "other", opt "trans_a" (.bool false), opt "trans_b" (.bool false), opt "allow_tf32" (.bool true)]
     fun a b ta tb _ => dot a b ta tb,
   giving "where" ["condition", "x", "y"] fun c x y => do View.select (← converted c) (← converted x) (← converted y),
   elementWise "exp" .exp, elementWise "log" .log, elementWise "cos" .cos, elementWise "sin" .sin,
   elementWise "sqrt" .sqrt, elementWise "abs" .abs, hint "multiple_of", hint "max_contiguous", hint "max_constancy",
   pairwise "cdiv" "x" "div" ceilDiv,
   pairwise "minimum" "x" "y" fun x y => do
     return .tensor (← View.binary .minimum (← (scalarOf x).operand) (← (scalarOf y).operand)),
   pairwise "maximum" "x" "y" fun x y => do return .tensor (← View.binary .maximum (← x.operand) (← y.operand)),
   reduction "max" (View.extreme .maximum), reduction "min" (View.extreme .minimum), reduction "sum" View.sum,
   scan "cumsum" .add, scan "cumprod" .mul]

def missingOperations : List Operation :=
  [missing "dequantize" ["input", "scale", "shift", "nbit", opt "dst_ty" .none], missing "broadcast" ["input", "other"],
   missing "broadcast_to" ["input", "shape"], missing "cat" ["input", "shape"], missing "reshape" ["input", "shape"],
   missing "umulhi" ["x", "y"], missing "fdiv" ["x", "y", opt "ieee_rounding" (.bool false)], missing "globaltimer" [],
   missing "clock" [], missing "debug_barrier" [], missing "sigmoid" ["x"],
   missing "softmax" ["x", opt "ieee_rounding" (.bool false)], missing "ravel" ["x"],
   missing "swizzle2d" ["i", "j", "size_i", "size_j", "size_g"], missing "zeros_like" ["input"],
   missing "argmax" ["input", "axis"], missing "argmin" ["input", "axis"], missing "xor_sum" ["input", "axis"]]

def all : List Operation := memoryOperations ++ valueOperations ++ missingOperations

def find? : Option Operation := all.find? (·.name == name)

def call (op : Operation) (args : List Value) (named : Named Value) : Run Value := do
  if args.any fun a => a matches .tensor _ then throw (.stated .assertion "unexpected tensor argument")
  let values ← Run.check (Parameter.bind op.params (args.map Value.unwrap) (named.map fun (n, v) => (n, v.unwrap)))
  return (← op.run values).wrap

end Operation

end TileKernel.Simulation
