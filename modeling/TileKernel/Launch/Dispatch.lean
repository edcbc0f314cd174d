import TileKernel.Launch.Identity
import TileKernel.Launch.Stub

/-! # Launches

A launch binds its arguments to the parameters of a kernel and to the options of launches, and reuses a binary or asks for one.
Binaries are looked up by `Launch.key` and compiled for `Launch.request`, which depends on an argument only through its key (the
element type of a tensor, the width of an integer) and its specialization (divisibility, being one).

## Arguments
-/

namespace TileKernel.Launch

open Lowering

variable (k : Launchable) (b : Bindings) (a : Argument)

inductive Element where
  | host (name : String)
  | own (t : Ty)
deriving DecidableEq

namespace Element

def text : Element → String
  | host n => "torch." ++ n
  | own t => t.text

def shown : Element → String
  | host n => "torch." ++ n
  | own t => t.detailed

def shortNames : Named String :=
  let pairs := [("bool", "i1"), ("float8e4nv", "fp8e4nv"), ("float8_e4m3fn", "fp8e4nv"), ("float8e4b8", "fp8e4b8"),
    ("float8_e4m3fnuz", "fp8e4b8"), ("float8e5", "fp8e5"), ("float8_e5m2", "fp8e5"), ("float8e5b16", "fp8e5b16"),
    ("float8_e5m2fnuz", "fp8e5b16"), ("float8e4b15", "fp8e4b15"), ("float8e4b15x4", "fp8e4b15x4"), ("float16", "fp16"),
    ("bfloat16", "bf16"), ("float32", "fp32"), ("float64", "fp64"), ("int8", "i8"), ("int16", "i16"), ("int32", "i32"),
    ("int64", "i64"), ("uint8", "u8"), ("uint16", "u16"), ("uint32", "u32"), ("uint64", "u64")]
  pairs ++ pairs.map fun (_, short) => (short, short)

def short? (e : Element) : Option String := shortNames.lookup (((e.text.splitOn ".").getLast?).getD "")

end Element

structure HostTensor where
  element : Element
  address : Int := 0
  device : String := "cuda"
  pinned : Option Bool := none

inductive Argument where
  | value (v : Value)
  | elementType (name : String)
  | tensor (t : HostTensor)
  | reinterpreted (base : HostTensor) (element : Element)
  | placeholder (element : Element)
deriving Inhabited

inductive ArgumentKey where
  | element (e : Element)
  | short (name : String)
  | nothing
deriving DecidableEq

namespace ArgumentKey

def text : ArgumentKey → String
  | element e => e.text
  | short n => n
  | nothing => "None"

def shown : ArgumentKey → String
  | element e => e.shown
  | short n => Text.quoted n
  | nothing => "None"

def type : ArgumentKey → Result String
  | nothing => .ok "*i8"
  | short n => .ok n
  | element e =>
    match e.short? with
    | some s => .ok ("*" ++ s)
    | none => refused .key

end ArgumentKey

namespace Argument

def text : Argument → String
  | value v => v.text
  | elementType n => "torch." ++ n
  | tensor t => s!"Tensor({t.element.text}, {t.address})"
  | reinterpreted b e => s!"TensorWrapper({e.text}, {b.address})"
  | placeholder e => s!"MockTensor({e.text})"

def shown : Argument → String
  | value v => v.shown
  | a => a.text

def classText : Argument → String
  | value v => v.classText
  | elementType _ => "<class 'torch.dtype'>"
  | tensor _ => "<class 'torch.Tensor'>"
  | reinterpreted _ _ => "<class 'triton.runtime.jit.TensorWrapper'>"
  | placeholder _ => "<class 'triton.runtime.jit.MockTensor'>"

def element? : Argument → Option Element
  | tensor t => some t.element
  | reinterpreted _ e | placeholder e => some e
  | _ => none

/-- The address of the first element; placeholders are taken to be aligned. -/
def address? : Argument → Option Int
  | tensor t | reinterpreted t _ => some t.address
  | placeholder _ => some 0
  | _ => none

def int? : Argument → Option Int
  | value v => v.int?
  | _ => none

def isNone : Argument → Bool
  | value v => v.isNone
  | _ => false

def isBool : Argument → Bool
  | value (.bool _) => true
  | _ => false

def intKey (n : Int) : String :=
  if -Int.pow 2 31 ≤ n && n ≤ Int.pow 2 31 - 1 then "i32" else if Int.pow 2 63 ≤ n && n ≤ Int.pow 2 64 - 1 then "u64" else "i64"

def key : Result ArgumentKey :=
  match a.element? with
  | some e => .ok (.element e)
  | none =>
    match a with
    | value (.bool _) => .ok (.short "i1")
    | value (.int n) => .ok (.short (intKey n))
    | value (.float _) => .ok (.short "fp32")
    | value .none => .ok .nothing
    | a => .error (.evaluation .type (some s!"Unsupported type {a.classText} for {a.text}"))

def device : Argument → String
  | tensor t | reinterpreted t _ => t.device
  | _ => ""

def pinned : Argument → Bool
  | tensor t => t.pinned.getD false
  | _ => false

def divisibleBy16 : Bool :=
  match a.address?, a.int? with
  | some n, _ => n.fmod 16 == 0
  | none, some n => n.fmod 16 == 0
  | none, none => a.isNone

def divisibleBy8 : Bool :=
  match a.int? with
  | some n => n.fmod 8 == 0
  | none => a.isNone

def isOne : Bool := !a.isBool && a.int? == some 1

def prepared : Argument → Argument
  | elementType n => placeholder (.host n)
  | a => a

/-- Take the elements of a tensor to be of another type; going back to its own type gives the tensor itself. -/
def reinterpret (e : Element) : Result Argument :=
  match a with
  | reinterpreted b _ => .ok (if e = b.element then tensor b else reinterpreted b e)
  | tensor t => .ok (reinterpreted t e)
  | placeholder _ => refused .missingAttribute
  | a => .error (.evaluation .type (some s!"Cannot reinterpret a {a.classText}."))

mutual

def hashableValue : Value → Bool
  | .list _ | .dict _ _ | .slice _ _ _ | .const _ => false
  | .ty (.scalar _) => true
  | .ty _ => false
  | .tuple items => hashableValues items
  | _ => true

def hashableValues : List Value → Bool
  | [] => true
  | v :: vs => hashableValue v && hashableValues vs

end

def hashable : Argument → Bool
  | value v => hashableValue v
  | _ => true

/-- Whether two arguments count as equal in keys: numbers by value, tensors only if they are one object, which two launches
never share. -/
def same : Argument → Argument → Bool
  | value a, value b => Constant.equal a b
  | elementType a, elementType b => a == b
  | _, _ => false

def callable : Argument → Bool
  | value (.primitive _ _) | value (.func _) | value (.kind _) | value (.method _ _) => true
  | _ => false

end Argument

/-! ## Tensor maps

A tensor map describes a region of memory to the unit that copies whole blocks. The compiler says which arguments of a kernel
hold the address, sizes and strides. Positions are shifted back over arguments that were folded into the kernel.
-/

structure TensorMap where
  dataType : Int
  rank : Int
  addressPosition : Int
  /-- Positions of the sizes; a negative number `-1 - n` stands for the size `n`, except that `-1` stands for one. -/
  dimPositions : List Int
  /-- Positions of the strides; `-1` stands for the product of the sizes before, `-2` for one. -/
  stridePositions : List Int
  boxDims : List Int
  elementStrides : List Int
  interleave : Int
  swizzle : Int
  l2Promotion : Int
  oobFill : Int
  descriptorPosition : Int
  folded : List Int := []
deriving DecidableEq

namespace TensorMap

variable (m : TensorMap) (args : List Int)

def elementSizes : List Int := [1, 2, 4, 4, 8, 8, 2, 4, 8, 2, 4, 4, 4]

def elementSize : Result Int :=
  if m.dataType < 0 then refused .key
  else match elementSizes[m.dataType.toNat]? with
    | some n => .ok n
    | none => refused .key

def item {α : Type} (xs : List α) (i : Int) : Result α :=
  let j := if i < 0 then i + xs.length else i
  if j < 0 then refused .index
  else match xs[j.toNat]? with
    | some x => .ok x
    | none => refused .index

def originalPosition (position : Int) (argCount : Nat) : Result Int :=
  if m.folded.isEmpty then .ok position
  else item (((List.range argCount).map fun (i : Nat) => (i : Int)).filter fun i => !m.folded.contains i) position

def argumentAt (position : Int) : Result Int := do
  item args (← m.originalPosition position args.length)

def address : Result Int := m.argumentAt args m.addressPosition

def dims : Result (List Int) :=
  m.dimPositions.mapM fun e =>
    if e = -1 then .ok 1 else if e < 0 then .ok (-e - 1) else m.argumentAt args e

def leadingSize (dims : List Int) (i : Nat) : Result Int :=
  if i ≤ dims.length then .ok ((dims.take i).foldl (· * ·) 1) else refused .index

def elementStridesOf : Result (List Int) := do
  let dims ← m.dims args
  (List.range m.rank.toNat).mapM fun (i : Nat) => do
    let e ← item m.stridePositions i
    if e = -1 then leadingSize dims i
    else if e = -2 then return 1
    else m.argumentAt args e

def strides : Result (List Int) := do
  ((← m.elementStridesOf args).drop 1).mapM fun s => do return s * (← m.elementSize)

structure Encoding where
  dataType : Int
  rank : Int
  address : Int
  dims : List Int
  strides : List Int
  boxDims : List Int
  elementStrides : List Int
  interleave : Int
  swizzle : Int
  l2Promotion : Int
  oobFill : Int

def encode : Result Encoding := do
  let address ← m.address args
  let dims ← m.dims args
  let strides ← m.strides args
  return { dataType := m.dataType, rank := m.rank, address, dims, strides, boxDims := m.boxDims
           elementStrides := m.elementStrides, interleave := m.interleave, swizzle := m.swizzle
           l2Promotion := m.l2Promotion, oobFill := m.oobFill }

def position : Int := m.descriptorPosition + m.folded.length

def same (a b : TensorMap) : Bool := { a with descriptorPosition := 0 } == { b with descriptorPosition := 0 }

def positions (ms : List TensorMap) : List (Int × Int) :=
  ms.foldl (fun ps m => Table.put ps m.addressPosition m.position) []

def encodedSize : Nat := 128

structure Copy where
  target : Int
  encoding : Encoding

/-- Encoded tensor maps in the memory of the device, by what they were encoded from, and the copies made so far. -/
structure Store where
  entries : List ((TensorMap × List Int) × Int) := []
  copies : List Copy := []

namespace Store

def find? (s : Store) (m : TensorMap) (args : List Int) : Option Int :=
  (s.entries.find? fun ((m', args'), _) => same m' m && args' == args).map (·.2)

def lookup (fresh : Nat → Int) (m : TensorMap) (args : List Int) (s : Store) : Result (Int × Store) :=
  match s.find? m args with
  | some p => .ok (p, s)
  | none => do
    let encoding ← m.encode args
    let target := fresh s.copies.length
    return (target, { entries := s.entries ++ [((m, args), target)], copies := s.copies ++ [⟨target, encoding⟩] })

end Store

end TensorMap

/-! ## Dispatch -/

open Device


structure Launchable where
  name : String
  space : String
  params : List String
  defaults : List Value
  annotations : Named String
  constants : List Nat
  notSpecialized : List Int
  debug : Value
deriving Inhabited

namespace Launchable

def ofInfo (info : FuncInfo) : Result Launchable := do
  let constants ← info.constantPositions
  return {
    name := info.name, space := info.space.fullName, params := info.paramNames, defaults := info.launchDefaults
    annotations := info.annotations, constants, notSpecialized := ← info.notSpecializedPositions constants
    debug := (info.debug.map Value.bool).getD .none }

def declaredType (name : String) : String := (k.annotations.lookup name).getD ""

def isConstant (i : Nat) : Bool := k.constants.contains i

end Launchable

def optionDefaults : Named Value :=
  [("grid", .none), ("num_warps", .none), ("num_ctas", .int 1), ("num_stages", .none), ("waves_per_eu", .int 0),
   ("matrix_instr_nonkdim", .int 0), ("enable_warp_specialization", .bool false), ("extern_libs", .none), ("stream", .none),
   ("warmup", .bool false), ("device", .none), ("device_type", .none)]

abbrev Bindings := Named Argument

/-- Bind arguments: positional ones in order, the others by name, defaults for the rest. Too many arguments, unknown or
repeated names and missing arguments are refused. -/
def bind (args : List Argument) (named : Named Argument) : Result Bindings := do
  let names := k.params ++ optionDefaults.map (·.1)
  if args.length > names.length then refused .type
  else if named.any fun (n, _) => !names.contains n || (names.take args.length).contains n then refused .type
  else
    let first := k.params.length - k.defaults.length
    let defaults := (k.params.drop first).zip (k.defaults.map Argument.value) ++
      optionDefaults.map fun (n, v) => (n, Argument.value v)
    names.zipIdx.mapM fun (n, i) =>
      match args[i]?, named.lookup n, defaults.lookup n with
      | some a, _, _ | none, some a, _ | none, none, some a => .ok (n, a)
      | none, none, none => refused .type

def argument (name : String) : Argument := (b.lookup name).getD (.value .none)

def allArguments : List Argument := k.params.map (argument b)

def regular : Named Argument :=
  (k.params.zipIdx.filter fun (_, i) => !k.isConstant i).map fun (n, _) => (n, argument b n)

def constantArguments : List Argument :=
  (k.params.zipIdx.filter fun (_, i) => k.isConstant i).map fun (n, _) => argument b n

def argumentKey (name : String) (a : Argument) : Result ArgumentKey :=
  let declared := k.declaredType name
  if Text.occursIn "Tensor" declared then
    match a.element? with
    | some e => .ok (.element e)
    | none => refused .missingAttribute
  else if declared == "bool" || declared == "float" then refused .unknownName
  else a.key

inductive Spec where
  | aligned (b : Bool)
  | number (by16 by8 isOne : Bool)
  | nothing
deriving DecidableEq

def factText (b : Bool) : String := if b then "True" else "False"

def Spec.shown : Spec → String
  | .aligned b => factText b
  | .number a b c => Text.parenthesised [factText a, factText b, factText c]
  | .nothing => "(False,)"

def numberSpec (v : Value) : Result Spec := do
  let divides (n : Int) : Result Bool := do
    return Constant.equal (← Constant.arith .mod v (.int n)) (.int 0)
  return .number (← divides 16) (← divides 8) (Constant.equal v (.int 1))

def spec (name : String) (a : Argument) : Result Spec :=
  let declared := k.declaredType name
  let alignment : Result Spec := match a.address? with
    | some n => .ok (.aligned (n.fmod 16 == 0))
    | none => refused .missingAttribute
  if declared == "" then
    match a.address?, a.int? with
    | some _, _ => alignment
    | none, some n => numberSpec (.int n)
    | none, none => .ok .nothing
  else if Text.occursIn "Tensor" declared then alignment
  else if declared == "int" then
    match a with
    | .value v => numberSpec v
    | _ => refused .type
  else .ok .nothing

structure Key where
  arguments : List ArgumentKey
  constants : List Argument
  specs : List Spec
  options : List Argument
  /-- Libraries that a launch asks for, if it asks for any. -/
  externLibs : Option (List (Value × Value))
deriving Inhabited

namespace Key

def hashable (k : Key) : Bool :=
  k.constants.all Argument.hashable && k.options.all Argument.hashable &&
    (k.externLibs.getD []).all fun (n, v) => Argument.hashableValue n && Argument.hashableValue v

def agree {α : Type} (p : α → α → Bool) : List α → List α → Bool
  | [], [] => true
  | a :: as, b :: bs => p a b && agree p as bs
  | _, _ => false

def same (a b : Key) : Bool :=
  a.arguments == b.arguments && agree Argument.same a.constants b.constants && a.specs == b.specs &&
    agree Argument.same a.options b.options &&
    match a.externLibs, b.externLibs with
    | none, none => true
    | some xs, some ys => agree (fun x y => Constant.equal x.1 y.1 && Constant.equal x.2 y.2) xs ys
    | _, _ => false

def externTexts (libs : List (Value × Value)) : List String :=
  libs.map fun (n, v) => Text.parenthesised [n.shown, v.shown]

def text (k : Key) : String :=
  let own := Text.parenthesised ([Text.quoted version, Text.parenthesised (k.arguments.map ArgumentKey.shown),
    Text.parenthesised (k.constants.map Argument.shown), Text.parenthesised (k.specs.map Spec.shown)] ++
    k.options.map Argument.shown)
  match k.externLibs with
  | none => own
  | some libs => Text.parenthesised [own, Text.parenthesised (externTexts libs)]

end Key

structure Request where
  name : String
  signature : Signature
  constants : List (Int × Argument)
  knowledge : Types.Specialization
  device : Argument
  deviceType : String
  /-- Warps, blocks of a cluster, stages, waves, size of matrix instructions, warp specialization, debugging. -/
  options : List Argument
  externLibs : Argument

def knowledge (args : List Argument) : Types.Specialization :=
  let positions (p : Argument → Bool) : List Int :=
    (args.zipIdx.filter fun (a, i) => p a && !k.notSpecialized.contains (i : Int)).map fun (_, i) => (i : Int)
  let ones := positions Argument.isOne
  { divisibleBy16 := positions Argument.divisibleBy16, equalTo1 := ones
    idsOfFoldedArgs := positions fun a => a.isOne || a.isNone, divisibleBy8 := positions Argument.divisibleBy8 }

def constants (known : Types.Specialization) : List (Int × Argument) :=
  let given := (k.constants.map fun (i : Nat) => (i : Int)).zip (constantArguments k b)
  let given := Table.putAll [] given
  let absent := ((allArguments k b).zipIdx.filter fun (a, _) => a.isNone).map fun (_, i) => (i : Int)
  let cs := absent.foldl (fun acc i => Table.put acc i (.value .none)) given
  known.equalTo1.foldl (fun acc i => Table.put acc i (.value (.int 1))) cs

def signature : Result Signature := do
  let all := (allArguments k b).zipIdx.filter fun (_, i) => !k.isConstant i
  all.mapM fun (a, i) => do return ((i : Int), ← (← a.key).type)

inductive Grid where
  | fixed (a : Argument)
  | computed (f : Bindings → Result Argument)

def gridSizes : Argument → Result (List Value)
  | .value (.tuple items) | .value (.list items) =>
    match items with
    | [] => refused .index
    | x :: rest => .ok [x, rest.getD 0 (.int 1), rest.getD 1 (.int 1)]
  | .value (.str s) =>
    match s.toList with
    | [] => refused .index
    | c :: rest =>
      let item (i : Nat) : Value := (rest[i]?.map fun c => Value.str c.toString).getD (.int 1)
      .ok [.str c.toString, item 0, item 1]
  | _ => refused .type

def deviceType (isHip : Bool) (args : List Argument) : String :=
  let devices := (args.map Argument.device).filter (· != "")
  if devices.contains numbered then (if isHip then named else numbered)
  else if devices.all (· == "cpu") && args.any Argument.pinned then numbered
  else devices.headD numbered

inductive Event where
  | select (device : Int)
  | hook (text name : String) (key : Key)
  | compile (r : Request)
  | start (grid : List Value) (stream warps : Argument) (args : List Argument)

def currentDevice : Int := 0

abbrev Cache := List (Argument × Key)

def hookText (key : Key) : String :=
  let labels := ["num_warps", "num_ctas", "num_stages", "waves_per_eu", "matrix_instr_nonkdim", "enable_warp_specialization"]
  let options := List.zipWith (fun n (a : Argument) => n ++ "=" ++ a.text) labels key.options
  let second := match key.externLibs with
    | none => key.arguments.map ArgumentKey.text
    | some libs => Key.externTexts libs
  let args := List.zipWith (fun n t => n ++ ": " ++ t) k.params second
  k.name ++ "[" ++ ", ".intercalate options ++ "](" ++ ", ".intercalate args ++ ")"

structure Surroundings where
  machine : Machine
  hook : Option Value := none

structure State where
  cache : Cache := []
  events : List Event := []
  printed : String := ""

abbrev Launching := EStateM Fault State

def check {α : Type} : Result α → Launching α
  | .ok a => pure a
  | .error f => throw f

def printing {α : Type} (x : Printing α) : Launching α := do
  let s ← get
  match x s.printed with
  | .ok a printed => set { s with printed }; return a
  | .error f printed => set { s with printed }; throw f

def note (e : Event) : Launching Unit := modify fun s => { s with events := s.events ++ [e] }

def externLibs : Argument → Result (Option (List (Value × Value)))
  | .value .none => .ok none
  | .value (.dict ks vs) => .ok (some (ks.zip vs))
  | _ => refused .missingAttribute

def argumentKeys : Result (List ArgumentKey) :=
  (regular k b).mapM fun (n, a) => argumentKey k n a

def specs : Result (List Spec) :=
  ((regular k b).zipIdx.filter fun (_, i) => !k.notSpecialized.contains (i : Int)).mapM fun ((n, a), _) => spec k n a

def key (numWarps numStages : Argument) : Result Key := do
  return {
    arguments := ← argumentKeys k b, constants := constantArguments k b, specs := ← specs k b
    options := [numWarps, argument b "num_ctas", numStages, argument b "waves_per_eu", argument b "matrix_instr_nonkdim",
      argument b "enable_warp_specialization", .value k.debug]
    externLibs := ← externLibs (argument b "extern_libs") }

def request (key : Key) (device : Argument) (deviceType : String) : Result Request := do
  let known := knowledge k (allArguments k b)
  return {
    name := k.name, signature := ← signature k b, constants := constants k b known, knowledge := known, device, deviceType
    options := key.options, externLibs := argument b "extern_libs" }

def refuse {α : Type} (kind : FaultKind) : Launching α := throw (.implicit kind)

def kindOf (s : Surroundings) (k : Launchable) (b : Bindings) : Launching String := do
  match argument b "device_type" with
  | .value .none => return deviceType s.machine.isHip ((regular k b).map (·.2))
  | .value (.str t) => return t
  | _ => refuse .type

def orDefault (dflt : Launching Int) : Launching Argument := do
  if a.isNone then return .value (.int (← dflt)) else return a

def run (s : Surroundings) (k : Launchable) (grid : Option Grid) (args : List Argument) (named : Named Argument) :
    Launching Bool := do
  -- a grid among the named arguments wins over the grid of the launch
  let grid := if named.any (·.1 == "grid") then none else grid
  let given : Named Argument := match grid with
    | some (.fixed a) => [("grid", a)]
    | some (.computed _) => [("grid", .value .none)]
    | none => []
  let b ← check (bind k args (named ++ given))
  let _ ← check (argumentKeys k b)
  let _ ← check (specs k b)
  match argument b "num_ctas" with
  | .value v =>
    if !(← check (Constant.compareValues .gt v (.int 0))) then refuse .assertion
  | _ => refuse .type
  let sizes ← match grid, argument b "grid" with
    | some (.computed f), _ => check (f (b.filter fun (n, _) => k.params.contains n))
    | _, a => if a.isNone then refuse .assertion else pure a
  let sizes ← check (gridSizes sizes)
  let kind ← kindOf s k b
  if kind != numbered && !hasBackend kind then refuse .value
  let warmup := match argument b "warmup" with
    | .value v => v.truth
    | _ => true
  if (argument b "device").isNone then note (.select currentDevice)
  let device := if (argument b "device").isNone then .value (.int currentDevice) else argument b "device"
  let stream := if (argument b "stream").isNone && !warmup then .value (.int 7) else argument b "stream"
  let numWarps ← orDefault (argument b "num_warps") (printing (s.machine.defaultWarps kind))
  let numStages ← orDefault (argument b "num_stages") (printing (s.machine.defaultStages kind none))
  let key ← check (key k b numWarps numStages)
  if !key.hashable || !device.hashable then refuse .type
  let start : Launching Unit := if warmup then pure () else note (.start sizes stream numWarps ((regular k b).map (·.2)))
  if (← get).cache.any fun (d, c) => d.same device && c.same key then
    start
    return true
  let r ← check (request k b key device kind)
  if r.constants.any fun (_, a) => a.callable then refuse .type
  if let some answer := s.hook then
    note (.hook (hookText k key) k.name key)
    if answer.truth then return false
  note (.compile r)
  start
  modify fun st => { st with cache := st.cache ++ [(device, key)] }
  return true

end TileKernel.Launch
