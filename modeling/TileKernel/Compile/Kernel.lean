import TileKernel.Launch.Dispatch
import TileKernel.Pipeline
import TileKernel.Store.Directory

/-! # Compiling a kernel

A kernel is compiled form by form. Every form is put into the directory of the kernel's key, and in the end a group file lists
what belongs together; a later compilation with the same key takes forms and metadata from there. Code generators are given by
the texts that they return.

## What is kept beside a compiled kernel

The facts that a launch needs are kept as named values in the order in which they were learned, and the tensor maps. Read back,
keys of dictionaries have become texts and tuples lists.
-/

namespace TileKernel.Compile

inductive Form where
  | source
  | tile
  | layout
  | lower
  | assembly
  | binary
  | native
deriving DecidableEq

namespace Form

def name : Form → String
  | source => "ast"
  | tile => "ttir"
  | layout => "ttgir"
  | lower => "llir"
  | assembly => "ptx"
  | binary => "cubin"
  | native => "amdgcn"

def nativeBinary : String := "hsaco_path"

def numbered : List Form := [source, tile, layout, lower, assembly, binary]

def named : List Form := [source, tile, layout, lower, native]

def isModule (f : Form) : Bool := f == tile || f == layout

def from? (forms : List Form) (ending : String) : Result (List Form) :=
  match forms.dropWhile fun f => f.name != ending with
  | [] => refused .value
  | fs => .ok fs

end Form

end TileKernel.Compile

namespace TileKernel.Pipeline

open Lowering

mutual

def isWritable : Value → Bool
  | .none | .bool _ | .int _ | .float _ | .str _ => true
  | .tuple items | .list items => areWritable items
  | .dict keys values => keys.all isWritableKey && areWritable values
  | _ => false

def areWritable : List Value → Bool
  | [] => true
  | v :: vs => isWritable v && areWritable vs

def isWritableKey : Value → Bool
  | .none | .bool _ | .int _ | .float _ | .str _ => true
  | _ => false

end

def writableConstants (constants : Constants) : Constants := constants.filter fun (_, v) => isWritable v

end TileKernel.Pipeline

namespace TileKernel.Compile

open Lowering Launch

/-! ## Written values -/

def keyText : Value → String
  | .str s => s
  | .bool b => if b then "true" else "false"
  | .none => "null"
  | .float x => Json.floatText x
  | v => v.text

mutual

def written : Value → Json
  | .bool b => .bool b
  | .int n => .int n
  | .float x => .float x
  | .str s => .str s
  | .tuple xs | .list xs => .arr (writtenAll xs)
  | .dict ks vs => .obj (List.zip (ks.map keyText) (writtenAll vs))
  | _ => .null

def writtenAll : List Value → List Json
  | [] => []
  | v :: vs => written v :: writtenAll vs

end

mutual

def readBack : Json → Value
  | .null => .none
  | .bool b => .bool b
  | .int n => .int n
  | .float x => .float x
  | .str s => .str s
  | .arr xs => .list (readBackAll xs)
  | .obj ms => .dict (readBackKeys ms) (readBackValues ms)

def readBackAll : List Json → List Value
  | [] => []
  | x :: xs => readBack x :: readBackAll xs

def readBackKeys : Named Json → List Value
  | [] => []
  | (k, _) :: ms => .str k :: readBackKeys ms

def readBackValues : Named Json → List Value
  | [] => []
  | (_, v) :: ms => readBack v :: readBackValues ms

end

/-! ## Tensor maps -/

def mapFields (m : TensorMap) : Named Json :=
  let ints (is : List Int) : Json := .arr (is.map .int)
  [("dummy", .bool false), ("ids_of_folded_args", ints m.folded), ("tensorDataType", .int m.dataType),
   ("tensorRank", .int m.rank), ("globalAddressArgIdx", .int m.addressPosition), ("globalStridesArgIdx", ints m.stridePositions),
   ("globalDimsArgIdx", ints m.dimPositions), ("boxDims", ints m.boxDims), ("elementStrides", ints m.elementStrides),
   ("interleave", .int m.interleave), ("swizzle", .int m.swizzle), ("l2Promotion", .int m.l2Promotion),
   ("oobFill", .int m.oobFill), ("TMADescArgIdx", .int m.descriptorPosition)]

def mapOfFields (j : Json) : TensorMap :=
  let int (k : String) : Int := ((j.get k).int?).getD 0
  let ints (k : String) : List Int := (j.get k).items.filterMap Json.int?
  { dataType := int "tensorDataType", rank := int "tensorRank", addressPosition := int "globalAddressArgIdx"
    dimPositions := ints "globalDimsArgIdx", stridePositions := ints "globalStridesArgIdx", boxDims := ints "boxDims"
    elementStrides := ints "elementStrides", interleave := int "interleave", swizzle := int "swizzle"
    l2Promotion := int "l2Promotion", oobFill := int "oobFill", descriptorPosition := int "TMADescArgIdx" }

/-! ## Metadata -/

/-- Facts about a compiled kernel by name, and its tensor maps if it has any. -/
structure Metadata where
  fields : Named Value
  maps : Option (List TensorMap) := none

namespace Metadata

variable (m : Metadata)

def get? (name : String) : Option Value := m.fields.lookup name

def set (name : String) (v : Value) : Metadata :=
  { m with fields := Table.put m.fields name v }

def setNew (name : String) (v : Value) : Metadata := if (m.get? name).isSome then m else m.set name v

def mapsName : String := "tensormaps_info"

def toJson : Json :=
  .obj (m.fields.map (fun (n, v) => (n, written v)) ++
    (m.maps.map fun ms => (mapsName, Json.arr (ms.map fun t => .obj (mapFields t)))).toList)

def text : String := Json.dump {} m.toJson

def ofText (s : String) : Result Metadata :=
  match Json.read? s with
  | some (.obj ms) => .ok {
      fields := (ms.filter fun (n, _) => n != mapsName).map fun (n, j) => (n, readBack j)
      maps := (ms.lookup mapsName).map fun j => j.items.map mapOfFields }
  | some _ => refused .type
  | none => refused .badJson

end Metadata

/-! ## Compilations -/

open Pipeline Store

structure Toolchain where
  lowerText : String := "llir"
  assemblyText : String := "ptx"
  binaryText : String := "cubin"
  nativeText : String := "amdgcn"
  nativeBinary : String := "hsaco"
  shared : Int := 0
  rolesSupported : Bool := false
  moduleWarps : Int := 4
  maps : List TensorMap := []
  assembler : String := "PTXAS"
  toolkit : String := "12.2"
  libraryPlace : String := ""

structure Surroundings where
  machine : Device.Machine := {}
  toolchain : Toolchain := {}
  environment : Named Value := []
  epilogue : Bool := false
  place : String := ""
  maxShared : Int := 0

structure Options where
  deviceType : Option Value := none
  capability : Option Value := none
  constants : Constants := []
  numWarps : Option Value := none
  numCtas : Option Value := none
  numStages : Option Value := none
  wavesPerEu : Option Value := none
  matrixInstrNonkdim : Option Value := none
  enableWarpSpecialization : Option Value := none
  enablePersistent : Option Value := none
  debug : Option Value := none
  externLibs : Named Value := []
  cluster : Option Value := none
  shared : Option Value := none
  signature : Option (List (Int × String)) := none
  configs : Option (List Types.Specialization) := none

inductive Input where
  | function (f : FuncRef)
  | file (name text : String)

structure StubRequest where
  name : String
  signature : List (Int × String)
  constants : Constants
  ids : StubIds
  /-- Options that enter the key of the stub. -/
  options : Named Value

inductive Event where
  | call (c : Call)
  | load (name : Value) (data : String) (shared : Value)
  | copy (c : TensorMap.Copy)

/-- The state between compilations: digests, stored kernels and encoded tensor maps; and what the current one did. -/
structure State where
  table : Identity.Table
  kernels : Named Directory := []
  maps : TensorMap.Store := {}
  events : List Event := []
  steps : List Step := []
  stubs : List StubRequest := []
  printed : String := ""

abbrev Compiling := EStateM Fault State

def lift {α : Type} : Result α → Compiling α
  | .ok a => pure a
  | .error f => throw f

def printing {α : Type} (x : Device.Printing α) : Compiling α := fun s =>
  match x "" with
  | .ok a t => .ok a { s with printed := s.printed ++ t }
  | .error f t => .error f { s with printed := s.printed ++ t }

def call (c : Call) : Compiling Unit := modify fun s => { s with events := s.events ++ [.call c] }

def pass (steps : List Step) : Compiling Unit := modify fun s => { s with steps := s.steps ++ steps }

/-! ### The device -/

inductive Processor where
  | numbered (capability : Int)
  | named (d : Device.Descriptor)

namespace Processor

def forms : Processor → List Form
  | numbered _ => Form.numbered
  | named _ => Form.named

def value : Processor → Value
  | numbered n => .int n
  | named d => .dict
      (["gfx_triple", "gfx_arch", "gfx_features", "num_warps", "num_stages", "num_ctas", "warp_size"].map .str)
      [.str d.triple, .str d.name, .str d.features, .int d.numWarps, .int d.numStages, .int d.numCtas, .int d.warpSize]

def warpSize : Processor → Int
  | numbered _ => 32
  | named d => d.warpSize

end Processor

variable (s : Surroundings) (o : Options)

def deviceKind : Value :=
  if s.machine.isHip then .str Device.named else o.deviceType.getD (.str Device.numbered)

def processor : Compiling Processor := do
  match deviceKind s o with
  | .str k =>
    if k == Device.numbered then
      match o.capability with
      | none | some .none => return .numbered s.machine.capabilityNumber
      | some v => match v.int? with
        | some n => return .numbered n
        | none => throw (.implicit .type)
    else return .named (← printing (s.machine.backendDescriptor k))
  | _ => throw .assertion

def checkWarps (v : Value) : Result Unit :=
  let wrong : Fault := .stated .assertion "num_warps must be a power of 2"
  match v with
  | .float x => if Binary64.lt .zero x then refused .type else .error wrong
  | v => match v.int? with
    | some n => if 0 < n && n.toNat &&& (n.toNat - 1) == 0 then .ok () else .error wrong
    | none => refused .type

def clusterOf : Option Value → Result (List Value)
  | none => .ok [.int 1, .int 1, .int 1]
  | some v => match v.items? with
    | some (a :: b :: c :: _) => .ok [a, b, c]
    | some _ => refused .index
    | none => refused .type

def withDeviceLibraries (place : String) (libs : Named Value) (own : Named String) : Named Value :=
  let added := Table.putAll libs (own.map fun (n, f) => (n, .str (place ++ f)))
  added.filter fun (_, v) => !(v matches .none | .str "")

def libraryPlaces : Named Value → Result (Named String)
  | [] => .ok []
  | (n, .str p) :: rest => do
    if n.isEmpty || p.isEmpty then return [(n, p)]
    return (n, p) :: (← libraryPlaces rest)
  | (n, _) :: _ => if n.isEmpty then .ok [(n, "")] else refused .type

/-! ### A compilation -/

structure Job where
  surroundings : Surroundings
  options : Options
  input : Input
  kind : Value
  processor : Processor
  name : String
  ending : String
  signature : List (Int × String)
  knowledge : Types.Specialization := {}
  numWarps : Value
  numCtas : Value
  numStages : Value
  warpSpecialization : Value
  persistent : Value
  cluster : List Value
  libraries : Named Value

variable (j : Job)

namespace Job

def target : IR.Target :=
  { arch := match j.processor with
      | .numbered n => .capability n
      | .named _ => .named
    isHip := j.surroundings.machine.isHip, archInfo := j.surroundings.machine.archInfo }

def passTarget : PassTarget :=
  { arch := j.processor.value, isHip := j.surroundings.machine.isHip, matrixCore := j.target.matrixCoreVersion }

end Job

/-- What a file tells of its kernel: its name, the form it has, and its signature. A kernel with layouts states its number
of warps, which the caller may repeat. -/
def readFile (forms : List Form) (numWarps : Option Value) (file text : String) :
    Result (String × String × List (Int × String) × Option Int) := do
  match file.splitOn "." with
  | [name, ending] =>
    match ← Prototype.read? ending text with
    | none => refused .missingAttribute
    | some facts =>
      let warps ← if ending != Form.layout.name then pure none else
        match Prototype.warpCounts text with
        | [n] =>
          let n : Int := (Reading.int? n).getD 0
          if numWarps.all fun v => Constant.equal v (.int n) then pure (some n)
          else .error (.stated .assertion "num_warps in ttgir does not match num_warps in compile")
        | _ => .error (.stated .assertion "Expected exactly one match for num_warps")
      let _ ← Form.from? forms ending
      return (name, ending, facts.types.zipIdx.map fun (t, i) => ((i : Int), t), warps)
  | _ => refused .value

def warpsOf : Compiling Value :=
  match o.numWarps with
  | some v => pure v
  | none => do return .int (← printing (s.machine.defaultWarps (deviceKind s o).text))

def stagesOf (p : Processor) : Value :=
  match o.numStages, p with
  | some v, _ => v
  | none, .numbered n => .int (if n ≥ 75 then 3 else 2)
  | none, .named d => .int d.numStages

/-- A device with the numbers that a kernel is compiled for; those of a device with a numbered capability are not kept. -/
def Processor.configured (p : Processor) (numWarps numStages numCtas : Value) : Processor :=
  match p with
  | .named d => .named { d with
      numWarps := (numWarps.int?).getD d.numWarps, numStages := (numStages.int?).getD d.numStages
      numCtas := (numCtas.int?).getD d.numCtas }
  | .numbered n => .numbered n

def librariesOf (p : Processor) : Result (Named Value) :=
  match p with
  | .named d => do return withDeviceLibraries s.toolchain.libraryPlace o.externLibs (← Device.libraries d.name)
  | .numbered _ => .ok o.externLibs

def Job.describe : Result Job :=
  match j.input with
  | .function f =>
    match j.options.signature, j.options.configs.getD [{}] with
    | some signature, [knowledge] => .ok { j with name := f.name, signature, knowledge }
    | some _, _ => .error .assertion
    | none, _ => refused .key
  | .file file text => do
    let (name, ending, signature, warps) ← readFile j.processor.forms j.options.numWarps file text
    return { j with name, ending, signature, numWarps := (warps.map Value.int).getD j.numWarps }

def prepare (input : Input) : Compiling Job := do
  let p ← processor s o
  let numWarps ← warpsOf s o
  lift (checkWarps numWarps)
  let numStages := stagesOf o p
  let numCtas := o.numCtas.getD (.int 1)
  let roles := o.enableWarpSpecialization.getD (.bool false)
  let cluster ← lift (clusterOf o.cluster)
  let p := p.configured numWarps numStages numCtas
  let libraries ← lift (librariesOf s o p)
  lift (Job.describe {
    surroundings := s, options := o, input, kind := deviceKind s o, processor := p, name := "", ending := Form.source.name
    signature := [], numWarps, numCtas, numStages, warpSpecialization := roles
    persistent := o.enablePersistent.getD roles, cluster, libraries })

def keyOptions : CompileOptions :=
  let d : CompileOptions := {}
  { constants := o.constants, numWarps := o.numWarps.getD d.numWarps, numCtas := o.numCtas.getD d.numCtas
    numStages := o.numStages.getD d.numStages, wavesPerEu := o.wavesPerEu.getD d.wavesPerEu
    matrixInstrNonkdim := o.matrixInstrNonkdim.getD d.matrixInstrNonkdim
    enableWarpSpecialization := o.enableWarpSpecialization.getD d.enableWarpSpecialization
    enablePersistent := o.enablePersistent.getD d.enablePersistent, debug := o.debug.getD d.debug }

def keyOf : Compiling String := do
  match j.input with
  | .function f =>
    let (k, table) := Identity.key (← get).table f
    modify fun s => { s with table }
    let environment := (j.surroundings.environment.mergeSort fun a b => a.1 ≤ b.1).map fun (_, v) => v.text
    return Identity.compileKey (← lift k) (j.signature.map (·.2)) [j.knowledge] (keyOptions j.options)
      j.processor.value.text environment
  | .file _ text => return Digest.md5 (text ++ version)

structure Artifact where
  text : String
  /-- What a code generator sees of a module; a text is seen as it is. -/
  label : Option String := none
  extra : String := ""

def Artifact.operand (a : Artifact) : Value := .str (a.label.getD a.text)

def madeLabel : String := "<Module>"

def parsedLabel : String := "<Parsed>"

def Artifact.parsed (f : Form) (text : String) : Artifact :=
  { text, label := if f.isModule then some parsedLabel else none }

def make (f : Form) (before : Artifact) : Compiling Artifact := do
  let t := j.surroundings.toolchain
  match f, j.processor, j.input with
  | .tile, _, .function r =>
    let program := (← get).table.program
    let k : KernelInstance := { signature := j.signature, constants := j.options.constants, knowledge := j.knowledge
                                debug := (j.options.debug.getD (.bool false)).truth }
    let lowered := lowerKernel program j.target (program.func r) k
    modify fun s => { s with printed := s.printed ++ lowered.printed }
    let g ← lift lowered.result
    pass (tilePasses j.passTarget)
    return { text := "\n".intercalate (g.lines false), label := some madeLabel }
  | .layout, .named d, _ =>
    pass (layoutPasses j.passTarget j.numWarps (.int d.warpSize) j.numCtas)
    pass (← lift (optimizationPasses j.passTarget {
      numStages := j.numStages, numWarps := j.numWarps, numCtas := j.numCtas, cluster := j.cluster
      warpSpecialization := j.warpSpecialization, epilogue := j.surroundings.epilogue
      instruction := j.options.matrixInstrNonkdim.getD (.int 0) } t.rolesSupported))
    return before
  | .lower, p, _ =>
    let libs ← lift (libraryPlaces j.libraries)
    let waves := match p with
      | .named _ => j.options.wavesPerEu.getD (.int 0)
      | .numbered _ => .int 0
    (lowerFormCalls j.passTarget before.operand libs (.list (t.maps.map fun _ => .str "info")) waves).forM call
    return { text := t.lowerText }
  | .assembly, p, _ =>
    let version ← lift (Prototype.assemblyVersion t.toolkit)
    call ⟨"translate_llvmir_to_ptx", [before.operand, p.value, .int version]⟩
    return { text := t.assemblyText }
  | .binary, p, _ =>
    call ⟨"compile_ptx_to_cubin", [before.operand, .str t.assembler, p.value]⟩
    return { text := t.binaryText }
  | .native, .named d, _ =>
    call ⟨"translate_llvmir_to_hsaco", [before.operand, .str d.name, .str d.triple, .str d.features]⟩
    return { text := t.nativeText, extra := t.nativeBinary }
  | _, _, _ => throw (.implicit .type)

/-! ### The stored kernel -/

def directory (key : String) : Compiling Directory := do
  return ((← get).kernels.lookup key).getD []

def change (key : String) (f : Directory → Result Directory) : Compiling Unit := do
  let d ← lift (f (← directory key))
  modify fun s => { s with kernels := (key, d) :: s.kernels.filter (·.1 != key) }

def store (key file : String) (c : Content) : Compiling Unit := change key (·.put file c)

def fileName (ending : String) : String := j.name ++ "." ++ ending

def metadataName : String := fileName j "json"

def initialMetadata : Result Metadata := do
  let o := j.options
  let constants := writableConstants o.constants
  let fields := [
    ("num_warps", j.numWarps), ("warp_size", Value.int j.processor.warpSize), ("num_ctas", j.numCtas),
    ("num_stages", j.numStages), ("waves_per_eu", o.wavesPerEu.getD (.int 0)),
    ("matrix_instr_nonkdim", o.matrixInstrNonkdim.getD (.int 0)), ("enable_warp_specialization", j.warpSpecialization),
    ("enable_persistent", j.persistent),
    ("constants", .dict (constants.map fun (k, _) => match k with
      | .position i => .int i
      | .name n => .str n) (constants.map (·.2))),
    ("debug", o.debug.getD (.bool false)), ("arch", j.processor.value)]
  let m := j.surroundings.environment.foldl (fun (m : Metadata) (n, v) => m.set n v) { fields }
  if j.ending != Form.assembly.name then return m
  match o.shared with
  | some v => return m.set "shared" v
  | none => .error (.stated .assertion "ptx compilation must provide shared memory size")

def learn (f : Form) (a : Artifact) (m : Metadata) : Result Metadata := do
  let t := j.surroundings.toolchain
  let named (mark : String) : Result Metadata := do
    return m.set "name" (((← Prototype.kernelName a.text mark).map Value.str).getD .none)
  match f with
  | .layout =>
    let m := m.set "enable_warp_specialization" (.bool t.rolesSupported)
    return if t.rolesSupported then m.set "num_warps" (.int t.moduleWarps) else m
  | .lower => return m.setNew "shared" (.int t.shared)
  | .assembly => named "// .globl"
  | .native => named ".globl"
  | _ => return m

/-- A run through the forms: the files that belong to the kernel, the forms so far, what is known, and the last form. -/
structure Progress where
  members : List String
  texts : Named String := []
  metadata : Metadata
  last : Artifact := { text := "" }

def Progress.add (p : Progress) (file : String) : Progress :=
  { p with members := if p.members.contains file then p.members else p.members ++ [file] }

def stored (key file : String) : Compiling String := do
  return (((← directory key).get? file).bind Content.text?).getD ""

variable (key : String) (p : Progress) (f : Form)

def given : Artifact :=
  match j.input with
  | .function r => { text := (Value.func r).text }
  | .file _ text => Artifact.parsed f text

def storedForm : Compiling Artifact := do
  let a := Artifact.parsed f (← stored key (fileName j f.name))
  if f != .native then return a
  else if p.members.contains (fileName j Form.nativeBinary) then
    return { a with extra := ← stored key (fileName j Form.nativeBinary) }
  else throw (.stated .assertion "Expected to have hsaco_path in metadata when we have the amdgcn")

def formTexts (a : Artifact) : Named String :=
  (f.name, a.text) :: if f == .native then [(Form.nativeBinary, a.extra)] else []

def produce : Compiling (Artifact × Progress) := do
  let a ← make j f p.last
  (formTexts f a).forM fun (n, t) => store key (fileName j n) (.text t)
  return (a, (formTexts f a).foldl (fun p (n, _) => p.add (fileName j n)) p)

/-- The next form: the one that the input has is the input itself, one that is stored is taken from there, and any other is
made and stored. -/
def obtainForm : Compiling (Artifact × Progress) :=
  if f.name == j.ending then pure (given j f, p)
  else if p.members.contains (fileName j f.name) then do return (← storedForm j key p f, p)
  else produce j key p f

def advance : Compiling Progress := do
  let (a, p) ← obtainForm j key p f
  let metadata ← lift (learn j f a p.metadata)
  return { p with texts := p.texts ++ formTexts f a, metadata, last := a }

structure Compiled where
  metadata : Metadata
  texts : Named String
  kind : Value

def knownMetadata (members : List String) : Compiling Metadata :=
  if members.contains (metadataName j) then do lift (Metadata.ofText (← stored key (metadataName j)))
  else lift (initialMetadata j)

def folded : List Int :=
  match j.input with
  | .function _ => j.knowledge.idsOfFoldedArgs
  | .file _ _ => []

def finalMetadata (m : Metadata) : Metadata :=
  let m := m.setNew "clusterDims" (.list j.cluster)
  let maps := j.surroundings.toolchain.maps
  { m with maps := (if maps.isEmpty then m.maps else some maps).map fun ms => ms.map fun t => { t with folded := folded j } }

def stubRequest (program : Program) (m : Metadata) : StubRequest :=
  let constants : List Nat := match j.input with
    | .function f => (program.func f).constantPositions.toOption.getD []
    | .file _ _ => []
  { name := j.name, signature := j.signature, constants := j.options.constants
    ids := { tensorMaps := m.maps.map fun ms => ms.map TensorMap.position, folded := folded j,
             constants := constants.map fun (i : Nat) => (i : Int) }
    options := match j.processor with
      | .numbered _ => [("enable_warp_specialization", j.warpSpecialization)]
      | .named _ => [] }

def keepMetadata (members : List String) (p : Progress) (m : Metadata) : Compiling Progress :=
  if members.contains (metadataName j) then pure p
  else do
    store key (metadataName j) (.text m.text)
    return p.add (metadataName j)

def run (input : Input) : Compiling Compiled := do
  let j ← prepare s o input
  let key ← keyOf j
  let d ← directory key
  let group ← lift (d.getGroup (fun f => s.place ++ "/" ++ key ++ "/" ++ f) (metadataName j))
  let members := group.getD []
  let metadata ← knownMetadata j key members
  let forms ← lift (Form.from? j.processor.forms j.ending)
  let p ← forms.foldlM (advance j key) { members, metadata := metadata.set "device_type" j.kind }
  let metadata := finalMetadata j p.metadata
  modify fun st => { st with stubs := st.stubs ++ [stubRequest j st.table.program metadata] }
  let p ← keepMetadata j key members p metadata
  change key (·.putGroup (metadataName j) p.members)
  return { metadata, texts := p.texts, kind := j.kind }

/-! ### Launching a compiled kernel -/

def stream : Int := 7

/-- Load the binary, unless it needs more shared memory than there is, and start the kernel: what the stub is called with.
Tensor maps are encoded for the arguments and follow them. -/
def launch (k : Compiled) (grid : List Value) (args : List Argument) : Compiling (List Argument) := do
  let fact (n : String) : Value := (k.metadata.get? n).getD .none
  let shared := fact "shared"
  match Constant.number? shared with
  | none => throw (.implicit .type)
  | some n => if Constant.compareNumbers (.int s.maxShared) n == some .lt then
      throw (Fault.outOfResources shared.text (toString s.maxShared) "shared memory")
  let form := if k.kind.text == Device.numbered then Form.binary.name else Form.nativeBinary
  let some data := k.texts.lookup form | throw (.implicit .key)
  modify fun st => { st with events := st.events ++ [.load (fact "name") data shared] }
  let numbers := args.map fun a => ((a.address?.orElse fun _ => a.int?).getD 0)
  let maps ← (k.metadata.maps.getD []).mapM fun m => do
    let st ← get
    let (place, store) ← lift (st.maps.lookup (fun n => 1000 * (n + 1)) m numbers)
    let copies := (store.copies.drop st.maps.copies.length).map Event.copy
    set { st with maps := store, events := st.events ++ copies }
    return Argument.value (.int place)
  let [x, y, z] := grid.take 3 | throw (.implicit .index)
  let cluster := (fact "clusterDims").items?.getD []
  return ([x, y, z, fact "num_warps", fact "num_ctas"] ++ cluster ++ [shared, .int stream, .str "fn"]).map Argument.value ++
    args ++ maps

end TileKernel.Compile
