import TileKernel.Host.World

/-! # Host programs

A host program does something when it is loaded and more when it is started, and offers functions, values, and methods of the
objects that it makes. It loads its kernels once and launches them by name; how long a launch takes depends on the number of
program instances and warps. An operation of the tensor library computes if its operands have known elements, and gives a tensor
of the right shape and type if not.
-/

variable (p : Program)

namespace TileKernel.Kernels

open Lowering

def collectionName : String := "kernels"

def onPlatform (hip : Option String) : Program :=
  let library : Space := .user "torch"
  let version : Space := .user "torch.version"
  (p.define library "version" (.space version)).define version "hip" ((hip.map Value.str).getD .none)

def loadText (text : String) (hip : Option String) : Result Program :=
  ((loadModules [(collectionName, text)]).1).map (onPlatform · hip)

def load (lines : List String) (hip : Option String) : Result Program :=
  loadText ("\n".intercalate ("import torch" :: lines) ++ "\n") hip

inductive Subject where
  | function (info : FuncInfo)
  | operation

def findIn (s : Space) (name : String) : Result Subject :=
  match (p.scope s).find? name with
  | some (.func f) => .ok (.function (p.func f))
  | some (.primitive _ _) => .ok .operation
  | _ => refused .missingAttribute

def find (name : String) : Result Subject := findIn p (.user collectionName) name

def findStandard (name : String) : Result Subject := findIn p .standard name

end TileKernel.Kernels

/-! ## Tensors -/

namespace TileKernel.Host

open Strided

variable (t : Tensor) (v : Value) (type : ElementType)

def knownLimit : Nat := 65536

def blank (shape : List Nat) : Host Tensor := own (.unknown type shape)

def blankLike : Host Tensor := own { View.unknown t.type t.shape with device := t.view.device }

def filled (shape : List Nat) (e : Element) : Host Tensor :=
  own (if volume shape > knownLimit || !type.hasContents then .unknown type shape else .full type shape e)

def zeros (shape : List Nat) : Host Tensor := filled type shape (.whole 0)

def zerosLike : Host Tensor :=
  if t.view.cells.isSome then zeros type t.shape else blank type t.shape

def vectorOf (ns : List Int) : Host Tensor := own (.vector type (ns.map Element.whole))

/-- Another shape: a view when the axes allow it, a copy otherwise. -/
def reshape (shape : List Nat) : Host Tensor :=
  match t.view.regrouped? shape with
  | some v => pure { t with view := v }
  | none =>
    if volume shape != t.count then refuse .runtime
    else own { View.ofElements? t.type shape t.view.elements? with device := t.view.device }

def asRows : Host Tensor :=
  if t.lastSize = 0 then refuse .runtime else reshape t [t.count / t.lastSize, t.lastSize]

def flipped : Tensor := { t with view := t.view.reversed }

def compact : Host Tensor := if t.isContiguous then pure t else own t.view.contiguous

def converted : Host Tensor := if t.type = type then pure t else own (t.view.convert type)

def combine (op : BinaryOp) (a b : Operand) : Host Tensor := do own (← check (View.binary op a b))

def product (a b : Tensor) : Host Tensor := do own (← check (View.matmul a.view b.view))

def dimension (i : Nat) : Host Nat := need .index t.shape[i]?

def dimensionFromEnd : Nat → Host Nat := dimension (flipped t)

def strides (count : Nat) : Host (List Value) :=
  if count ≤ t.view.strides.length then pure ((t.view.strides.take count).map .int) else refuse .index

def stridesOfFour (ts : List Tensor) : Host (List Value) := do return (← ts.mapM (strides · 4)).flatten

def matrixShape : Host (Nat × Nat) :=
  match t.shape with
  | [m, n] => pure (m, n)
  | _ => refuse .value

def powerAbove (n : Nat) : Nat := match Lowering.Builtins.nextPowerOf2 (.int n) with
  | .ok (.int m) => m.toNat
  | _ => 0

def tensor : Host Tensor := need .missingAttribute v.tensor?

def integer : Host Int := need .type v.int?

def size : Host Nat := do return (← integer v).toNat

def number : Host Binary64 := need .type v.float?

def entry (key : String) : Host Value :=
  match v with
  | .dict _ => need .key (v.field? key)
  | _ => refuse .type

def items : Host (List Value) :=
  match v with
  | .dict es => pure (es.map (·.1))
  | v => need .type v.items?

def integerText (s : String) : Host Int := need .value (Reading.int? s)

def elementType : Host ElementType :=
  match v with
  | .elementType e => pure e
  | _ => refuse .type

/-! ## Launches -/

open Launch

inductive Grid where
  | fixed (sizes : List Value)
  | computed (f : Bindings → Result (List Int))

namespace Grid

def ofSizes (ns : List Int) : Grid := fixed (ns.map Value.int)

def launched : Grid → Launch.Grid
  | fixed vs => .fixed (.value (.tuple (vs.map fun
      | .plain v => v
      | _ => .none)))
  | computed f => .computed fun b => do return .value (.tuple ((← f b).map .int))

def argument (b : Bindings) (name : String) : Result Int :=
  match (b.lookup name).map Argument.int? with
  | some (some n) => .ok n
  | some none => refused .type
  | none => refused .key

def ceilDiv (n block : Int) : Result Int :=
  if block == 0 then refused .zeroDivision else .ok ((n + block - 1).fdiv block)

def blocks (n : Int) (block : String) : Grid := .computed fun b => do return [← ceilDiv n (← argument b block)]

end Grid

def loadKernels (lines : List String) : Host Unit := do
  let p ← check (Kernels.load lines (← read).hip)
  let ks ← (p.scope (.user Kernels.collectionName)).filterMapM fun (_, v) => do
    match v with
    | .func f => match Launchable.ofInfo (p.func f) with
      | .ok k => return some k
      | .error _ => return none
    | _ => return none
  modify fun w => { w with kernels := w.kernels ++ ks }

def kernel (name : String) : Host Launchable := do need .unknownName ((← get).kernels.find? (·.name == name))

def argumentAt (address : Int) : Value → Argument
  | .plain v => .value v
  | .tensor t | .differentiable t _ => .tensor { element := .host t.type.name, address, device := t.view.device }
  | .elementType e => .elementType e.name
  | _ => .value .none

def argumentOf : Value → Host Argument
  | .tuple xs => return .value (.tuple (xs.filterMap fun
      | .plain v => some v
      | _ => none))
  | v => do return argumentAt (← (v.tensor?).elim (pure 0) addressOf) v

def givenValue (k : Launchable) (args : List Value) (named : Named Value) (n : String) (a : Argument) : Value :=
  match (k.params.zip args).lookup n, named.lookup n, a with
  | some v, _, _ | none, some v, _ => v
  | none, none, .value v => .plain v
  | none, none, _ => .none

def duration (grid : List Lowering.Value) (warps : Int) : Binary64 :=
  let blocks := grid.foldl (fun n v => n * (v.int?.getD 1)) 1
  (Binary64.ofRatio? ((blocks * warps).fmod 16) 4).getD .zero

def noteEvent (k : Launchable) (regular : List Value) : Launch.Event → Host Unit
  | .select d => note "set_device" [d]
  | .hook _ _ _ => pure ()
  | .compile r => do
    let types := r.signature.map fun (i, t) => (Value.int i, Value.str t)
    let constants := r.constants.map fun (i, a) => (Value.int i, match a with
      | .value v => Value.plain v
      | .elementType n => .elementType (.ofName n)
      | _ => .none)
    let option (i : Nat) : Value := match r.options[i]? with
      | some (.value v) => .plain v
      | _ => .none
    note "compile" [r.name, .dict types, .dict constants, option 0, option 2]
  | .start grid _ warps _ => do
    let warps := warps.int?.getD 0
    note "launch" [k.name, .list (grid.map .plain), warps, .list regular]
    pass (duration grid warps)

def launch (name : String) (grid : Grid) (args : List Value) (named : Named Value) : Host Unit := do
  let k ← kernel name
  let as_ ← args.mapM argumentOf
  let ns ← named.mapM fun (n, v) => do return (n, ← argumentOf v)
  let w ← get
  let s : Launch.Surroundings := { machine := (← read).machine }
  let cache := (w.binaries.lookup name).getD []
  let (result, st) := match Launch.run s k (some grid.launched) as_ ns { cache } with
    | .ok b st => (Except.ok b, st)
    | .error f st => (.error f, st)
  modify fun w => { w with
    printed := w.printed ++ st.printed
    binaries := (name, st.cache) :: w.binaries.filter (·.1 != name) }
  let regular := match Launch.bind k as_ (ns.filter (·.1 != "grid")) with
    | .ok b => (Launch.regular k b).map fun (n, a) => givenValue k args named n a
    | .error _ => []
  for e in st.events do noteEvent k regular e
  let _ ← check result

/-! ## Measuring

A step runs between two marks on the clock of the device, often enough to fill a given time.
-/

open Tuning

def decimal (mantissa : Nat) (exponent : Int) : Binary64 := Binary64.ofDecimal mantissa exponent

def realOf (n : Int) : Binary64 := (Binary64.ofInt? n).getD (if n < 0 then Binary64.infinity.neg else .infinity)

/-! ### Statistics -/

namespace Statistics

def ascending (xs : List Binary64) : List Binary64 := xs.mergeSort fun a b => a.le b

def single (x : Binary64) : Binary64 := ElementType.float32.round x

def quantile (xs : List Binary64) (q : Binary64) : Binary64 :=
  let sorted := (ascending xs).toArray
  let place := single ((single q).mul (realOf (sorted.size - 1)))
  let low := place.floor.toNat
  let high := place.ceil.toNat
  let a := (sorted[low]?).getD .zero
  let b := (sorted[high]?).getD .zero
  let part := single (place.sub (realOf low))
  single (a.add (single ((single (b.sub a)).mul part)))

def median (xs : List Binary64) : Binary64 := ((ascending xs)[(xs.length - 1) / 2]?).getD .zero

def mean (xs : List Binary64) : Binary64 :=
  match View.mean (.vector .float32 (xs.map Element.real)) none with
  | .ok t => ((t.item.toOption).getD (.real .nan)).toReal
  | .error _ => .nan

end Statistics

def tera (operations : Int) (ms : Binary64) : Binary64 :=
  ((realOf operations).mul (decimal 1 (-12))).div (ms.mul (decimal 1 (-3)))

/-! ### Measurements -/

structure Measurement where
  warmup : Binary64 := decimal 25 0
  rep : Binary64 := decimal 100 0
  quantiles : Option (List Binary64) := none
  summary : String := "mean"

def usualQuantiles : List Binary64 := [decimal 5 (-1), decimal 2 (-1), decimal 8 (-1)]

/-- Set a mark on the clock of the device: it takes its time first. -/
def mark : Host Binary64 := do
  pass (decimal 200 0)
  return (← get).clock

def repeatedly (n : Nat) (x : Host Unit) : Host Unit := (List.range n).forM fun _ => x

def fitting (time step : Binary64) : Nat := max 1 (time.div step).truncate.toNat

def times (m : Measurement) (x : Host Unit) : Host (List Binary64) := do
  x
  let start ← mark
  repeatedly 5 x
  let estimate := ((← mark).sub start).div (decimal 5 0)
  repeatedly (fitting m.warmup estimate) x
  (List.range (fitting m.rep estimate)).mapM fun _ => do
    let start ← mark
    x
    return Statistics.single ((← mark).sub start)

def summaries : List (String × (List Binary64 → Binary64)) :=
  [("min", fun ts => ((Statistics.ascending ts).head?).getD .zero), ("max", fun ts => ((Statistics.ascending ts).getLast?).getD .zero),
   ("mean", Statistics.mean), ("median", Statistics.median)]

def measure (m : Measurement) (x : Host Unit) : Host (List Binary64) := do
  match summaries.lookup m.summary with
  | none => throw .assertion
  | some f =>
    let ts ← times m x
    match m.quantiles with
    | some qs => return qs.map (Statistics.quantile ts)
    | none => return [f ts]

def measureUsual (rep : Binary64) (x : Host Unit) : Host (Binary64 × Binary64 × Binary64) := do
  match ← measure { rep, quantiles := some usualQuantiles } x with
  | [a, b, c] => return (a, b, c)
  | _ => refuse .value

/-! ### Tuned kernels -/

structure TunedKernel where
  name : String
  configs : List Config := []
  key : List String := []
  heuristics : Named Heuristic := []
  pruner : Pruner := {}
  /-- Milliseconds for warming up and for measuring. -/
  warmup : Binary64 := decimal 25 0
  rep : Binary64 := decimal 100 0

def valueOfArgument : Argument → Value
  | .value v => .plain v
  | _ => .none

def launchCompleted (t : TunedKernel) (grid : Grid) (args : List Value) (named : Named Value) : Host Unit := do
  let k ← kernel t.name
  let before := named.map fun (n, v) => (n, argumentAt 0 v)
  let after ← check (Heuristic.complete t.heuristics k.params (args.map (argumentAt 0)) before)
  let added := after.filterMap fun (n, a) => if named.any (·.1 == n) then none else some (n, valueOfArgument a)
  launch t.name grid args (named ++ added)

def configured (c : Config) (named : Named Value) : Host (Named Value) := do
  let options := (Tuner.launchOptions c).map fun (n, a) => (n, valueOfArgument a)
  let fixed := c.options.map fun (n, v) => (n, Value.plain v)
  let all := options ++ named ++ fixed
  if (all.map (·.1)).eraseDups.length == all.length then return all else refuse .type

def launchTuned (t : TunedKernel) (grid : Grid) (args : List Value) (named : Named Value) : Host Unit := do
  let k ← kernel t.name
  let as_ := args.map (argumentAt 0)
  let ns := named.map fun (n, v) => (n, argumentAt 0 v)
  let tuner : Tuner := {
    params := k.params, keyPositions := ← check (Tuner.positions k.params t.key), pruner := t.pruner
    measure := fun _ _ => .ok [] }
  let state := ((← get).tuned.lookup t.name).getD { configs := Tuner.choices t.configs }
  let keep (s : Tuner.State) : Host Unit :=
    modify fun w => { w with tuned := (t.name, { s with events := [] }) :: w.tuned.filter (·.1 != t.name) }
  let (best, state) ← if state.configs.length > 1 then do
      let key ← check (Tuner.keyOf tuner as_ ns)
      match Tuner.find? state key with
      | some i => pure (i, state)
      | none => do
        let (kept, state) ← match Tuner.trying (Tuner.prune tuner as_ ns) state with
          | .ok kept s => pure (kept, s)
          | .error f s => do keep s; throw f
        let timings ← kept.foldlM (fun ts i => do
          let c := state.config i
          check (Tuner.checkConflicts c ns)
          let run : Host Unit := do launchCompleted t grid args (← configured c named)
          let timing ← measure { warmup := t.warmup, rep := t.rep, quantiles := some usualQuantiles } run
          return Table.put ts i (timing.map Lowering.Constant.Number.float)) []
        let (i, _) ← need .value (Tuner.bestOf timings)
        pure (i, { state with cache := state.cache ++ [(key, i)] })
    else pure (0, state)
  keep { state with best := some best }
  launchCompleted t grid args (← configured (state.config best) named)

def lastConfig (name : String) : Host Config := do
  need .missingAttribute (((← get).tuned.lookup name).bind fun s => s.best.bind (s.configs[·]?))

/-! ## Reports -/

structure Point where
  mean : Value
  low : Value := .none
  high : Value := .none
deriving Inhabited

namespace Point

def ofBounds (mean low high : Binary64) : Point := ⟨mean, low, high⟩

def value (p : Point) : Value := if p.low.isNone && p.high.isNone then p.mean else .tuple [p.mean, p.low, p.high]

def ofValue : Result Point :=
  match v.items? with
  | some [a, b, c] => .ok ⟨a, b, c⟩
  | some _ => refused .value
  | none => .ok { mean := v }

end Point

def measurePoint (rep : Binary64) (f : Binary64 → Binary64) (step : Host Unit) : Host Value := do
  let (ms, low, high) ← measureUsual rep step
  return (Point.ofBounds (f ms) (f high) (f low)).value

structure Benchmark where
  name : String
  axes : List String
  places : List Value
  lineArgument : String
  lines : List Value
  lineNames : List String
  styles : List (Value × Value) := []
  xLabel : String := ""
  yLabel : String := ""
  xLog : Bool := false
  yLog : Bool := false
  fixed : Named Value := []

structure ReportOptions where
  showPlots : Bool := false
  printData : Bool := false
  savePath : String := ""

structure Table where
  columns : List String
  rows : List (List Value)

namespace Table

def entryText : Value → String
  | .plain (.float x) => x.general 5
  | v => v.text

def text (t : Table) : String :=
  "\n".intercalate (" ".intercalate t.columns :: t.rows.map fun r => " ".intercalate (r.map entryText))

end Table

namespace Benchmark

def placeValues (b : Benchmark) (x : Value) : Result (List Value) :=
  let xs := (x.items?).getD (b.axes.map fun _ => x)
  if xs.length = b.axes.length then .ok xs
  else .error (.stated .value s!"Expected {b.axes.length} values, got {x.shown}")

end Benchmark

def byName (named : Named Value) : Named Value := named.mergeSort fun a b => a.1 ≤ b.1

def draw (name : String) (args : List Value) (named : Named Value) : Host Unit :=
  note "plot" [name, .list args, .members (byName named)]

def under (directory name : String) : String :=
  if directory.endsWith "/" || directory.isEmpty then directory ++ name else directory ++ "/" ++ name

def measureRows (b : Benchmark) (f : Named Value → Host Point) : Host (List (List Value × List Point)) :=
  b.places.mapM fun x => do
    let xs ← check (b.placeValues x)
    let points ← b.lines.mapM fun y => f (b.axes.zip xs ++ [(b.lineArgument, y)] ++ b.fixed)
    return (xs, points)

def drawLines (b : Benchmark) (options : ReportOptions) (rows : List (List Value × List Point)) : Host Unit := do
  let firstAxis := b.axes.headD ""
  let xs := Value.list (rows.map fun (xs, _) => xs.headD .none)
  draw "figure" [] []
  draw "subplot" [] []
  for (y, i) in b.lineNames.zipIdx do
    let points := rows.map fun (_, ps) => (ps[i]?).getD default
    let (colour, style) := (b.styles[i]?).getD (.none, .none)
    draw "plot" [xs, .list (points.map (·.mean))] [("label", y), ("color", colour), ("ls", style)]
    if points.any (!·.low.isNone) && points.any (!·.high.isNone) then
      draw "fill_between" [xs, .list (points.map (·.low)), .list (points.map (·.high))]
        [("alpha", decimal 15 (-2)), ("color", colour)]
  draw "legend" [] []
  draw "set_xlabel" [if b.xLabel.isEmpty then firstAxis else b.xLabel] []
  draw "set_ylabel" [b.yLabel] []
  draw "set_xscale" [if b.xLog then "log" else "linear"] []
  draw "set_yscale" [if b.yLog then "log" else "linear"] []
  if options.showPlots then draw "show" [] []
  if !options.savePath.isEmpty then draw "savefig" [under options.savePath (b.name ++ ".png")] []

def reportOne (options : ReportOptions) (b : Benchmark) (f : Named Value → Host Point) : Host Unit := do
  let rows ← measureRows b f
  if !b.name.isEmpty then drawLines b options rows
  let table : Table := { columns := b.axes ++ b.lineNames, rows := rows.map fun (xs, ps) => xs ++ ps.map (·.mean) }
  if options.printData then
    printLine (b.name ++ ":")
    printLine table.text
  if !options.savePath.isEmpty then
    note "to_csv" [under options.savePath (b.name ++ ".csv"), "%.1f", false, .list (table.columns.map .str), table.rows.length]

def report (options : ReportOptions) (bs : List Benchmark) (f : Named Value → Host Point) : Host Unit := do
  let page := under options.savePath "results.html"
  let saves := !options.savePath.isEmpty
  if saves then writeFile page ""
  let ready ← bs.foldlM (fun text b => do
    match ← attempt (reportOne options b f) with
    | .ok () => return s!"{text}<image src=\"{b.name}.png\"/>\n"
    | .error e =>
      if saves then writeFile page text
      throw e) "<html><body>\n"
  if saves then writeFile page (ready ++ "</body></html>\n")

/-! ### Programs -/

structure Arguments where
  bound : Named Value
  rest : List Value := []
  others : Named Value := []

def Arguments.get (a : Arguments) : String → Value := .of a.bound

structure Function where
  params : List (Parameter Value) := []
  takesRest : Bool := false
  takesOthers : Bool := false
  byPosition : Bool := false
  leading : Option Nat := none
  run : Arguments → Host Value

namespace Function

def bind (f : Function) (args : List Value) (named : Named Value) : Result Arguments := do
  let names := f.params.map (·.name)
  let (known, others) := named.partition fun (n, _) => names.contains n
  if f.byPosition && !named.isEmpty then refused .type
  else if args.length > f.leading.getD names.length && !f.takesRest then refused .type
  else if !others.isEmpty && !f.takesOthers then refused .type
  else
    let values ← Parameter.bind f.params (args.take names.length) known
    return { bound := names.zip values, rest := args.drop names.length, others }

def call (f : Function) (args : List Value) (named : Named Value) : Host Value := do
  f.run (← Host.check (f.bind args named))

def plain (params : List (Parameter Value)) (run : Curried Value (Host Value) params) : Function :=
  { params, run := fun a => Curried.apply (refuse .type) run (a.bound.map (·.2)) }

def action (run : Host Value) : Function := plain [] run

def positional (params : List (Parameter Value)) (run : Curried Value (Host Value) params) : Function :=
  { plain params run with byPosition := true }

end Function

def reportFunction (options : ReportOptions) (bs : List Benchmark) (f : Function) : Host Unit :=
  report options bs fun named => do check (Point.ofValue (← f.call [] named))

def callGiven (args : List Value) (named : Named Value) : Host Value := do
  match v with
  | .given name result field rows failure time quiet =>
    if !quiet then note "called" [name, .list args, .members (byName named)]
    pass time
    match failure, field with
    | some kind, _ => complain (FaultKind.ofName kind) "stand-in"
    | none, some n => need .key (named.lookup n)
    | none, none =>
      if rows.isEmpty then return result
      else need .key (rows.lookup ("|".intercalate ((byName named).map fun (_, v) => v.text)))
  | _ => refuse .type

def callable : Value → Bool
  | .given _ _ _ _ _ _ _ | .named _ => true
  | _ => false

def derive (backward : (String → Value) → Tensor → Host Unit) (made : Value) (gradient : Tensor) : Host Unit :=
  match made with
  | .differentiable _ (.object _ fields) => backward (Value.of fields) gradient
  | _ => pure ()

/-- Derive what a differentiable function made: `run` gets what the function kept and the derivative of the result. Other
tensors have nothing to derive. -/
def backwardMethod (run : String → (String → Value) → Tensor → Host Unit) : Function :=
  .plain ["self", opt "gradient" .none, opt "retain_graph" .none] fun self gradient _ => do
    match self with
    | .differentiable _ (.object kind fields) =>
      run kind (.of fields) (← tensor gradient)
      return .none
    | .tensor _ => return .none
    | _ => Host.refuse .missingAttribute

structure Program where
  load : Host Unit := pure ()
  main : Host Unit := pure ()
  functions : Named Function := []
  values : List (String × Host Value) := []
  methods : Named Function := []

namespace Program

def start : Host Unit := do
  p.load
  p.main

def loadQuietly : Host Unit := do
  let r ← attempt p.load
  modify fun w => { w with journal := #[], printed := "" }
  Host.check r

def member (name : String) : Host Value := do
  let fields ← fieldsOf v
  match v.field? name, fields.lookup name with
  | some x, _ | none, some x => pure x
  | none, none => Host.refuse .missingAttribute

def callMethod (self : Value) (name : String) (args : List Value) (named : Named Value) : Host Value :=
  match p.methods.lookup name with
  | some f => f.call (self :: args) named
  | none =>
    if name == "__call__" && Host.callable self then Host.callGiven self args named
    else if name == "__next__" then next self
    else do Host.callGiven (← member self name) args named

def callFunction (name : String) (args : List Value) (named : Named Value) : Host Value :=
  do (← need .missingAttribute (p.functions.lookup name)).call args named

def value (name : String) : Host Value :=
  match p.values.lookup name with
  | some v => v
  | none =>
    if (p.functions.lookup name).isSome then pure (.named ((name.splitOn ".").getLastD "")) else Host.refuse .missingAttribute

end Program

end TileKernel.Host
