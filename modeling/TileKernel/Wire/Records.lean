import TileKernel.Ahead
import TileKernel.Compile.Kernel
import TileKernel.Extern
import TileKernel.Tuning

/-! # Values as JSON

The forms in which values, types and failures are written into JSON answers and read from JSON requests. A floating-point
number is written as its bit pattern and an integer too large for every reader as a text, so that nothing is lost.
-/

namespace TileKernel.Wire

open Lowering

variable (j : Json)

/-! ## Members of requests -/

def texts : List String := j.items.filterMap Json.str?

def ints : List Int := j.items.filterMap Json.int?

def ask (k : String) (dflt : String) : String := ((j.get k).str?).getD dflt

def intOr (k : String) (dflt : Int) : Int := ((j.get k).int?).getD dflt

def flag (k : String) (dflt : Bool) : Bool := ((j.get k).bool?).getD dflt

/-! ## Answers -/

def faultJson (f : Fault) : Named Json :=
  ("error", f.kind.name) :: (f.message?.map fun m => ("message", Json.str m)).toList

def orFault {α : Type} (enc : α → Json) : Result α → Json
  | .ok a => enc a
  | .error f => .obj (faultJson f)

def strs (xs : List String) : Json := .arr (xs.map .str)

def linesJson (s : String) : Json := strs (s.splitOn "\n")

def intJson (n : Int) : Json := if n.natAbs ≥ Nat.pow 2 53 then .obj [("int", toString n)] else .int n

def intsJson (is : List Int) : Json := .arr (is.map intJson)

def sortedInts (is : List Int) : Json := .arr ((is.mergeSort (· ≤ ·)).map .int)

def tyJson (t : Ty) : Json := .obj [("t", t.text)]

def withPrinted (text : String) (j : Json) : Json :=
  if text.isEmpty then j else .obj (j.members ++ [("stdout", .str text)])

mutual

/-- A value: a number, a text or a truth value as it is, anything else by its form or its text. -/
def plainJson : Value → Json
  | .none => .null
  | .bool b => .bool b
  | .int n => intJson n
  | .float x => .str ("f64:" ++ x.hexDigits)
  | .str s => .str s
  | .ty t => tyJson t
  | .const v => .obj [("c", plainJson v)]
  | .tuple xs | .list xs => .arr (plainJsons xs)
  | .dict ks vs => .obj (List.zip (ks.map Value.text) (plainJsons vs))
  | v => .str v.text

def plainJsons : List Value → List Json
  | [] => []
  | v :: vs => plainJson v :: plainJsons vs

end

/-! ## Values of requests -/

def typeOf : Nat → List Char → Result Ty
  | fuel + 1, '*' :: rest => do return .ptr (← typeOf fuel rest)
  | fuel + 1, '[' :: rest => do
    let (dims, rest) := rest.span (· != ']')
    let dims := ((String.ofList dims).splitOn ",").filterMap Reading.int?
    Ty.makeBlock (← typeOf fuel (rest.drop 1)) dims
  | _, cs => match Scalar.ofName? (String.ofList cs) with
    | some t => .ok (.scalar t)
    | none => .error (.unknownDtype (String.ofList cs))

/-- The type of a text; every step of the reading takes a character away. -/
def typeText (s : String) : Result Ty := typeOf (s.length + 1) s.toList

def keyOf (s : String) : ArgKey :=
  let digits := if s.startsWith "-" then (s.drop 1).toString else s
  if !digits.isEmpty && digits.toList.all Char.isDigit then .position ((Reading.int? s).getD 0) else .name s

def keyValue (s : String) : Value := match keyOf s with
  | .position i => .int i
  | .name n => .str n

def positionOf (s : String) : Int := match keyOf s with
  | .position i => i
  | .name _ => 0

mutual

/-- A plain value, a type or a tuple; in a session also a constant, a slice, or a value that `lookup` gives. -/
def valueOf (lookup : Option (List Int → Value)) : Json → Result Value
  | .null => .ok .none
  | .bool b => .ok (.bool b)
  | .int n => .ok (.int n)
  | .float x => .ok (.float x)
  | .str s => .ok (.str s)
  | .arr xs => do return .list (← valuesOf lookup xs)
  | .obj [("tu", .arr xs)] => do return .tuple (← valuesOf lookup xs)
  | .obj [("f", .str s)] => .ok (.float ((Reading.float? s).getD .nan))
  | .obj [("t", .str s)] => do return .ty (← typeText s)
  | .obj [("v", v)] => match lookup, v with
    | some f, .int i => .ok (f [i])
    | some f, .arr is => .ok (f (is.filterMap Json.int?))
    | _, v => do return .dict ["v"] [← valueOf lookup v]
  | .obj [("c", x)] => do
    let v ← valueOf lookup x
    return if lookup.isSome then v.wrap else .dict ["c"] [v]
  | .obj [("s", .arr [a, b, c])] => do
    let (x, y, z) := (← valueOf lookup a, ← valueOf lookup b, ← valueOf lookup c)
    return if lookup.isSome then .slice x y z else .dict ["s"] [.list [x, y, z]]
  | .obj ms => do return .dict (ms.map fun (k, _) => keyValue k) (← memberValues lookup ms)

def valuesOf (lookup : Option (List Int → Value)) : List Json → Result (List Value)
  | [] => .ok []
  | x :: xs => do
    let v ← valueOf lookup x
    return v :: (← valuesOf lookup xs)

def memberValues (lookup : Option (List Int → Value)) : Named Json → Result (List Value)
  | [] => .ok []
  | (_, x) :: xs => do
    let v ← valueOf lookup x
    return v :: (← memberValues lookup xs)

end

def plainValue : Result Value := valueOf none j

def plainText : String := ((plainValue j).toOption.map Value.text).getD ""

def shownText : String := ((plainValue j).toOption.map Value.shown).getD ""

def constantsOf : Result Constants :=
  j.members.mapM fun (k, v) => do return (keyOf k, ← plainValue v)

def signatureOf : Json → List (Int × String)
  | .str s => KernelInstance.splitSignature s
  | j => j.members.map fun (k, v) => (positionOf k, (v.str?).getD "")

def knowledgeOf : Types.Specialization :=
  { divisibleBy16 := ints (j.get "div16"), equalTo1 := ints (j.get "eq1"), idsOfFoldedArgs := ints (j.get "folded")
    divisibleBy8 := ints (j.get "div8") }

def knowledgeJson (k : Types.Specialization) : Json :=
  .obj [("divisible_by_16", sortedInts k.divisibleBy16), ("divisible_by_8", sortedInts k.divisibleBy8),
    ("equal_to_1", sortedInts k.equalTo1), ("ids_of_folded_args", sortedInts k.idsOfFoldedArgs)]

/-! ## Launches, records and compilations -/

open IR Launch

def targetOf : Target :=
  let arch : Arch := match j.get? "arch" with
    | none => .capability 80
    | some (.int n) => .capability n
    | some _ => .named
  let hip := j.get "hip"
  let info := match hip with
    | .str s => "amdgcn-amd-amdhsa--" ++ s
    | _ => ask j "arch_info" ""
  { arch, isHip := hip matches .str _ | .bool true, archInfo := info }

def machineOf : Device.Machine :=
  let t := targetOf j
  { isHip := t.isHip, archInfo := t.archInfo, wanted := ((j.get "environ").get "MI_GPU_ARCH").str?
    capability := match ints (j.get "capability") with
      | [a, b] => (a, b)
      | _ => (8, 0) }

def idsOf : StubIds :=
  { tensorMaps := (j.get? "tma").bind fun t => if t.isNull then none else some (ints t)
    folded := ints (j.get "folded"), constants := ints (j.get "constexprs") }

/-- The dialect of stubs for a request: its own field decides, and the pointer type follows the target. -/
def stubText : Stub.Text :=
  if ask j "which" "" == "hip" then Stub.hip
  else { Stub.cuda with pointer := if (targetOf j).isHip then Stub.hip.pointer else Stub.cuda.pointer }

def optionsOf (kw : Json) : Result CompileOptions := do
  let d : CompileOptions := {}
  let opt (k : String) (dflt : Value) : Result Value := (kw.get? k).elim (.ok dflt) plainValue
  return {
    constants := ← constantsOf (kw.get "constants"), numWarps := ← opt "num_warps" d.numWarps
    numCtas := ← opt "num_ctas" d.numCtas, numStages := ← opt "num_stages" d.numStages
    wavesPerEu := ← opt "waves_per_eu" d.wavesPerEu
    matrixInstrNonkdim := ← opt "matrix_instr_nonkdim" d.matrixInstrNonkdim
    enableWarpSpecialization := ← opt "enable_warp_specialization" d.enableWarpSpecialization
    enablePersistent := ← opt "enable_persistent" d.enablePersistent, debug := ← opt "debug" d.debug }

/-! ### Arguments -/

def elementOf (n : String) : Element :=
  match (Library.program.scope .language).find? n with
  | some (.ty t) => if n.startsWith "float8e" || ["int1", "uint16", "uint32", "uint64"].contains n then .own t else .host n
  | _ => .host n

def bareArgument : Result Argument :=
  match j.get? "tensor", j.get? "dtype", j.get? "callable" with
  | some (.str n), _, _ => .ok (.tensor {
      element := elementOf n, address := intOr j "ptr" 0, device := ask j "device" "cuda"
      pinned := (j.get "pinned").bool? })
  | none, some (.str n), _ => .ok (.elementType n)
  | none, none, some _ => .ok (.value (.primitive .core "abs"))
  | _, _, _ => do return .value (← plainValue j)

mutual

def argumentOf : Json → Result Argument
  | .obj ms => wrappedArgument (.obj ms) ms
  | j => bareArgument j

def wrappedArgument (whole : Json) : Named Json → Result Argument
  | [] => bareArgument whole
  | ("wrap", a) :: _ => do
    let e ← match whole.get "to" with
      | .str n => pure (Element.host n)
      | t => (typeText (ask t "t" "")).map Element.own
    (← argumentOf a).reinterpret e
  | _ :: ms => wrappedArgument whole ms

end

def bindingsOf : Result Bindings := j.members.mapM fun (n, v) => do return (n, ← argumentOf v)

def argumentJson : Argument → Json
  | .value v => plainJson v
  | a => .str a.text

def rawArgument : Argument → Json
  | .value (.float x) => .float x
  | .value (.int n) => .int n
  | a => argumentJson a

def bindingsJson (b : Bindings) : Json := .obj (b.map fun (n, a) => (n, rawArgument a))

def argsJson (args : List Argument) : Json := .arr (args.map rawArgument)

def keyJson : ArgumentKey → Json
  | .element (.own t) => tyJson t
  | .element e => .str e.text
  | .short n => .str n
  | .nothing => .null

/-! ### Grids and events -/

def gridTerm (b : Bindings) : Json → Result Value
  | .str n => match b.lookup n with
    | some (.value v) => .ok v
    | some _ => refused .type
    | none => refused .key
  | x => plainValue x

def gridOf : Result (Option Launch.Grid) :=
  match j with
  | .null => .ok none
  | .obj [("cdiv", .arr terms)] =>
    .ok (some (.computed fun b => do
      let sizes ← terms.mapM fun t => do
        let x ← gridTerm b (t.items.getD 0 .null)
        let y ← gridTerm b (t.items.getD 1 .null)
        Builtins.ceilDiv x y
      return .value (.tuple sizes)))
  | j => do return some (.fixed (.value (.tuple ((← plainValue j).items?.getD []))))

def requestJson (r : Launch.Request) : Json :=
  let options := ["num_warps", "num_ctas", "num_stages", "waves_per_eu", "matrix_instr_nonkdim",
    "enable_warp_specialization", "debug"].zip (r.options.map argumentJson)
  .obj ([("configs", .arr [knowledgeJson r.knowledge]),
    ("constants", .obj (r.constants.map fun (i, a) => (toString i, argumentJson a))),
    ("signature", .obj (r.signature.map fun (i, t) => (toString i, t))), ("device", argumentJson r.device),
    ("device_type", r.deviceType), ("extern_libs", argumentJson r.externLibs)] ++ options)

/-- An event of a launch, if it is reported; the key of a hook is left out on demand. -/
def eventJson? (nokey : Bool) : Launch.Event → Option Json
  | .select _ => none
  | .hook text name key => some (.arr ["hook", text, name, if nokey then .null else .str key.text])
  | .compile r => some (.arr ["compile", r.name, requestJson r])
  | .start grid stream _ args =>
    some (.arr ["launch", .arr (grid.map plainJson), argumentJson stream, .arr (args.map argumentJson)])

open Pipeline Tuning

/-! ### Tuning -/

def configOf : Result Config := do
  let options ← (j.get "kw").members.mapM fun (n, v) => do return (n, ← plainValue v)
  return { options, numWarps := intOr j "num_warps" 4, numStages := intOr j "num_stages" 2, numCtas := intOr j "num_ctas" 1
           warpSpecialization := flag j "ws" false, hooked := flag j "hook" false }

def deviceOf : Tuning.Device :=
  let p := j.get "props"
  { capability := (machineOf j).capability
    properties := { maxSharedMem := intOr p "max_shared_mem" 166912, multiprocessorCount := intOr p "multiprocessor_count" 108
                    smClockRate := intOr p "sm_clock_rate" 1410000, memClockRate := intOr p "mem_clock_rate" 1215000
                    memBusWidth := intOr p "mem_bus_width" 5120 } }

def numberOf : Option Constant.Number := (plainValue j).toOption.bind Constant.number?

def entryOf (configs : List Config) (table : List Json) (c : Config) : Option Json :=
  (configs.findIdx? c.agrees).bind (table[·]?)

def tunerOf (configs : List Config) : Result Tuner := do
  let params := texts (j.get "arg_names")
  let prune := j.get "prune"
  let early : EarlyCheck := fun cs _ => do
    let kept ← (prune.get "early").items.mapM fun i => TensorMap.item (List.range cs.length) (i.int?.getD 0)
    return (cs, kept)
  let model : Option Model := (prune.get? "perf").map fun t c => match (entryOf configs t.items c).bind numberOf with
    | some x => .ok x
    | none => refused .type
  let pruner ← Pruner.ofEntries (some model) (← plainValue (prune.get "top_k"))
    (some (if (prune.get "early").isNull then none else some early))
  let measure (_ : Nat) (c : Config) : Result Timing :=
    match entryOf configs (j.get "timings").items c with
    | some (.str _) => refused .outOfResources
    | some t => .ok (t.items.filterMap numberOf)
    | none => .ok (List.replicate 3 (.int 1))
  return { params, pruner, measure, keyPositions := ← Tuner.positions params (texts (j.get "key"))
           resetPositions := ← Tuner.positions params (texts (j.get "reset")), verbose := flag j "verbose" false }

/-- An event of a tuner; a measurement reports how long it warms up and repeats. -/
def tuningEventJson : TuningEvent → Json
  | .bench => .arr ["bench", intOr j "warmup" 25, intOr j "rep" 100,
      .arr ([5, 2, 8].map fun n => .float (Binary64.ofDecimal n (-1)))]
  | .run args named => .arr ["run", argsJson args, bindingsJson named]
  | .warmup args named => .arr ["warmup", argsJson args, bindingsJson named]
  | .hook i b => .arr ["pre_hook", i, bindingsJson b]
  | .model b => .arr ["perf", bindingsJson b]

def heuristicOf : Json → Result Heuristic
  | .obj [("pow2", .str n)] => .ok (Heuristic.powerOf2 n)
  | .obj [("mod", .arr [.str a, .str b])] => .ok (Heuristic.multiple a b)
  | j => do return Heuristic.fixed (← plainValue (j.get "const"))

/-! ### Pipelines -/

def passTargetOf : Result PassTarget := do
  return { arch := ← plainValue ((j.get? "arch").getD (.int 80)), isHip := (targetOf j).isHip
           matrixCore := (targetOf j).matrixCoreVersion }

def stepJson : Step → Json
  | .manager => .str "pass_manager"
  | .run => .str "run"
  | .pass p => .arr (.str s!"add_{p.name}_pass" :: p.args.map plainJson)

def callJson (c : Pipeline.Call) : Json :=
  .arr (.str c.name :: c.args.map fun
    | .str s => .str (s.take 60).toString
    | v => plainJson v)

/-! ### Tensor maps -/

def tensorMapOf (folded : List Int) (j : Json) : TensorMap :=
  let n (k : String) : Int := intOr j k 0
  { dataType := n "tensorDataType", rank := n "tensorRank", addressPosition := n "globalAddressArgIdx"
    dimPositions := ints (j.get "globalDimsArgIdx"), stridePositions := ints (j.get "globalStridesArgIdx")
    boxDims := ints (j.get "boxDims"), elementStrides := ints (j.get "elementStrides"), interleave := n "interleave"
    swizzle := n "swizzle", l2Promotion := n "l2Promotion", oobFill := n "oobFill"
    descriptorPosition := n "TMADescArgIdx", folded }

def encodingJson (e : TensorMap.Encoding) : Json :=
  .arr [e.dataType, e.rank, intJson e.address, intsJson e.dims, intsJson e.strides, intsJson e.boxDims,
    intsJson e.elementStrides, e.interleave, e.swizzle, e.l2Promotion, e.oobFill]

/-! ### Ahead of time -/

def variantJson (v : Ahead.Variant) : Json :=
  .obj [("orig_kernel_name", v.kernel), ("arg_names", strs v.argNames), ("arg_ctypes", strs v.argTypes),
    ("sizes", .arr (v.hints.map fun h => (h.map fun h => Json.int h.size).getD .null)), ("sig_hash", v.signatureHash),
    ("triton_suffix", v.suffix), ("suffix", v.suffix), ("num_specs", v.hintCount)]

def aheadRequestJson (r : Ahead.Request) : Json :=
  .obj [("configs", .arr [knowledgeJson r.knowledge]),
    ("constants", .obj (r.constants.map fun (i, v) => (toString i, plainJson v))), ("num_stages", r.numStages),
    ("num_warps", r.numWarps), ("signature", .obj (r.types.map fun (i, t) => (toString i, t)))]

def symbolJson (s : Extern.Symbol) : Json :=
  .arr [s.name, s.operation, s.result, strs s.argNames, strs s.argTypes]

/-! ### Compilations -/

def toolchainOf : Compile.Toolchain :=
  let text (k : String) : String := ask (j.get "texts") k k
  { lowerText := text "llir", assemblyText := text "ptx", binaryText := text "cubin", nativeText := text "amdgcn"
    nativeBinary := text "hsaco", shared := intOr j "shared" 0, rolesSupported := flag j "ws_supported" false
    moduleWarps := intOr j "mod_warps" 4, maps := (j.get "tma_infos").items.map (tensorMapOf []) }

def surroundingsOf (library place : String) (j : Json) : Result Compile.Surroundings := do
  let environment ← (j.get "env_vars").members.mapM fun (n, v) => do return (n, ← plainValue v)
  return { machine := machineOf j, toolchain := { toolchainOf j with libraryPlace := library }, environment, place
           epilogue := ask (j.get "environ") "OPTIMIZE_EPILOGUE" "" == "1"
           maxShared := (deviceOf j).properties.maxSharedMem }

def compileOptionsOf (kw configs : Json) : Result Compile.Options := do
  let opt (k : String) : Result (Option Value) := (kw.get? k).elim (.ok none) fun v => do return some (← plainValue v)
  return {
    deviceType := ← opt "device_type", capability := ← opt "cc", constants := ← constantsOf (kw.get "constants")
    numWarps := ← opt "num_warps", numCtas := ← opt "num_ctas", numStages := ← opt "num_stages"
    wavesPerEu := ← opt "waves_per_eu", matrixInstrNonkdim := ← opt "matrix_instr_nonkdim"
    enableWarpSpecialization := ← opt "enable_warp_specialization", enablePersistent := ← opt "enable_persistent"
    debug := ← opt "debug", cluster := ← opt "clusterDims", shared := ← opt "shared"
    externLibs := ← (kw.get "extern_libs").members.mapM fun (n, v) => do return (n, ← plainValue v)
    signature := (kw.get? "signature").map signatureOf
    configs := if configs.isNull then none else some (configs.items.map knowledgeOf) }

def compileEventJson : Compile.Event → Json
  | .call c => callJson c
  | .load name data shared => .arr ["load_binary", plainJson name, data, plainJson shared, 0]
  | .copy c => .arr ["memcpy", c.target, encodingJson c.encoding, TensorMap.encodedSize]

def stubJson (r : Compile.StubRequest) : Json :=
  let key : ArgKey → String
    | .position i => toString i
    | .name n => n
  .arr [r.name, .obj (r.signature.map fun (i, t) => (toString i, t)),
    .obj (r.constants.map fun (k, v) => (key k, plainJson v)),
    .obj [("ids_of_tensormaps", (r.ids.tensorMaps.map intsJson).getD .null), ("ids_of_folded_args", intsJson r.ids.folded),
      ("ids_of_const_exprs", intsJson r.ids.constants)],
    .obj (r.options.map fun (n, v) => (n, plainJson v))]

def metadataJson (m : Compile.Metadata) : Json :=
  .obj (m.fields.map (fun (n, v) => (n, plainJson v)) ++
    (m.maps.map fun ms => (Compile.Metadata.mapsName, Json.arr (ms.map fun t => .obj (Compile.mapFields t)))).toList)

def compiledJson (k : Compile.Compiled) (launched : Option (List Argument)) : Named Json :=
  [("metadata", metadataJson k.metadata), ("asm", .obj (k.texts.map fun (n, t) => (n, t)))] ++
    (launched.map fun args => ("launches", Json.arr [.arr (args.map argumentJson)])).toList

def compileRun (s : Compile.Surroundings) (f : Result FuncRef) (j : Json) : Compile.Compiling (Named Json) := do
  let o ← Compile.lift (compileOptionsOf (j.get "kw") (j.get "configs"))
  let input ← match j.get? "file" with
    | some t => pure (Compile.Input.file (ask t "name" "") (ask t "text" ""))
    | none => do pure (Compile.Input.function (← Compile.lift f))
  let k ← Compile.run s o input
  match j.get? "launch" with
  | none => return compiledJson k none
  | some l =>
    let args ← Compile.lift ((l.get "args").items.mapM argumentOf)
    let grid ← Compile.lift ((l.get "grid").items.mapM plainValue)
    return compiledJson k (some (← Compile.launch s k grid args))

def compileReport (st : Compile.State) (result : Named Json) : Json :=
  .obj (result ++ [("log", .arr (st.events.map compileEventJson)), ("passes", .arr (st.steps.map stepJson)),
    ("stub", .arr (st.stubs.map stubJson))])

end TileKernel.Wire
