import TileKernel.Compile.Kernel
import TileKernel.Host.Program
import TileKernel.Kernels.Rows

/-! # Drivers

A driver gives access to a device through functions in an extension, which the C compiler of the machine builds once and which
is kept in the store. Which driver is taken depends on the platform and on whether there is a device. A proxy makes its driver
at its first use.
-/

namespace TileKernel.Host.Extension

def ending : String := ".EXT"

def hostHeaders : String := "PYINCLUDE"

def directoryOf (path : String) : String :=
  match (path.splitOn "/").dropLast with
  | [""] => "/"
  | parts => "/".intercalate parts

def lastWord (line : String) : Option String :=
  (((line.toList.splitOnP Reading.isBlank).filter fun w => !w.isEmpty).getLast?).map String.ofList

def driverLibraries (listing : String) : List String :=
  (Text.lines listing).filterMap fun line => if Text.occursIn "libcuda.so" line then lastWord line else none

def driverPlaces : Host (List String) := do
  match (← get).driverPlaces with
  | some places => return places
  | none =>
    let found := driverLibraries (← command "check_output" ["/sbin/ldconfig", "-p"]).output
    let places := found.map directoryOf
    let there ← places.anyM fun p => fileExists (under p "libcuda.so")
    demand there ("libcuda.so cannot found!\n" ++
      if found.isEmpty then
        "Please make sure GPU is setup and then run \"/sbin/ldconfig\" (requires sudo) to refresh the linker cache."
      else "Possible files are located at " ++ Text.bracketed (found.map Text.quoted) ++
        ".Please create a symlink of libcuda.so to any of the file.")
    modify fun w => { w with driverPlaces := some places }
    return places

def platformPlace : Host String := do return ((← read).setting? "ROCM_PATH").getD "/opt/rocm"

def driverHeaders : String := "REPO/triton/common/../third_party/cuda/include"

def compiler : Host String := do
  let site ← read
  match site.setting? "CC", site.programs.lookup "gcc", site.programs.lookup "clang" with
  | some c, _, _ | none, some c, _ | none, none, some c => return c
  | none, none, none => complain .runtime "Failed to find C compiler. Please specify via CC environment variable."

/-- Build an extension, and give its path. When the compiler fails, the extension tools of the host language are tried. -/
def build (name source directory : String) : Host String := do
  let result := under directory (name ++ ending)
  let headers := ["-I" ++ hostHeaders, "-I" ++ directory, "-shared", "-fPIC"]
  if ← isHip then
    let place ← platformPlace
    let reply ← command "check_call" ([← compiler, source, "-I" ++ under place "include"] ++ headers ++
      ["-L" ++ under place "lib", "-lamdhip64", "-o", result])
    if reply.status == 0 then return result else refuse .unboundLocal
  else
    let places ← driverPlaces
    let reply ← command "check_call" ([← compiler, source, "-O3", "-I" ++ driverHeaders] ++ headers ++
      ["-lcuda", "-o", result] ++ places.map ("-L" ++ ·))
    if reply.status != 0 then
      let words := ["build_ext", "--build-temp=" ++ directory, "--build-lib=" ++ directory, "-q"]
      note "setup" [name, Json.dump {} (.arr (words.map .str))]
    return result

def program : Program := {
  functions := [
    ("is_hip", .action do return ← isHip),
    ("libcuda_dirs", .action do return .list ((← driverPlaces).map .str)),
    ("rocm_path_dir", .action do return ← platformPlace),
    ("cuda_include_dir", .action do return .str driverHeaders),
    ("quiet", .action do return .none),
    ("_build", .plain ["name", "src", "srcdir"] fun name src srcdir => do
      return ← build name.text src.text srcdir.text)] }

end TileKernel.Host.Extension

/-! ## Copies -/

namespace TileKernel.Host.Copying

open Strided

namespace Empty

def program : Program := {
  load := do
    loadKernels Kernels.empty
    let x ← blank .float32 [1]
    launch "kernel" (.ofSizes [1]) [x, 1, 1] [("BLOCK", 1024)] }

end Empty

namespace Strided

def surroundings (site : Site) : Compile.Surroundings :=
  let text (name : String) : String := (site.formTexts.lookup name).getD name
  { machine := site.machine, place := "TMP/cache"
    toolchain := {
      lowerText := text "llir", assemblyText := text "ptx", binaryText := text "cubin", nativeText := text "amdgcn"
      nativeBinary := text "hsaco", libraryPlace := "REPO/triton/third_party/hip/lib/bitcode/" }
    epilogue := site.setting? "OPTIMIZE_EPILOGUE" == some "1" }

def options : Compile.Options := {
  signature := some [(0, "*fp32"), (1, "i32"), (2, "*fp32"), (3, "i32")]
  constants := [(.name "BLOCK_M", 64), (.name "BLOCK_N", 64)] }

def noteEvent : Compile.Event → Host Unit
  | .call c => note c.name (c.args.map Value.plain)
  | .load _ _ _ | .copy _ => pure ()

def loadStub (name : String) : Host Unit := do
  withTemporary do
    let _ ← Extension.build name (under temporaryPlace "main.c") temporaryPlace
  refuse (.other "ImportError")

def run : Host Unit := do
  let site ← read
  let p ← check (Kernels.load Kernels.stridedCopy site.hip)
  let f ← match (p.scope (.user Kernels.collectionName)).find? "kernel" with
    | some (.func f) => pure f
    | _ => refuse .missingAttribute
  let (result, st) := match Compile.run (surroundings site) options (.function f) { table := { program := p } } with
    | .ok k st => (Except.ok k, st)
    | .error f st => (.error f, st)
  st.events.forM noteEvent
  printText st.printed
  let k ← check result
  loadStub f.name
  printLine ((k.texts.lookup Compile.Form.layout.name).getD "")

def program : Program := { load := run }

end Strided

end TileKernel.Host.Copying

/-! ## The store of compiled kernels -/

namespace TileKernel.Host.KernelStore

open Store

def storeClass : String := "triton.runtime.cache.FileCacheManager"

def usualRoot : Host String := do return under (((← read).setting? "HOME").getD "~") ".triton/cache"

def placeOf (key : String) : Host String := do
  let named := String.ofList (Reading.strip (((← read).setting? "TRITON_CACHE_DIR").getD "").toList)
  return under (← if named.isEmpty then usualRoot else pure named) key

def filesOf (place : String) : Host Directory := do
  let start := keptPath place ++ "/"
  return (← get).files.filterMap fun (n, t) =>
    if n.startsWith start then some ((n.drop start.length).toString, .text t) else none

def keep (place : String) (d : Directory) : Host Unit :=
  d.forM fun (n, c) => writeFile (under place n) ((c.text?).getD "")

def bytesOfHex : List Char → List UInt8
  | a :: b :: rest =>
    let digit (c : Char) : Nat := if c.isDigit then c.toNat - '0'.toNat else c.toLower.toNat - 'a'.toNat + 10
    (digit a * 16 + digit b).toUInt8 :: bytesOfHex rest
  | _ => []

def contentOf : Value → Content
  | .bytes h => .bytes (bytesOfHex h.toList)
  | v => .text v.text

def put (place name : String) (c : Content) : Host String := do
  keep place (← check (Directory.put [] name c))
  return under place name

def make (key : String) : Host Value := do
  let place ← placeOf key
  return .object storeClass [("key", key), ("cache_dir", place), ("lock_path", under place "lock")]

def placeIn : Value → Host String
  | .object kind fields =>
    if kind == storeClass then return ((fields.lookup "cache_dir").getD .none).text else refuse .missingAttribute
  | _ => refuse .missingAttribute

def method (params : List (Parameter Value)) (run : String → Curried Value (Host Value) params) : Function where
  params := "self" :: params
  run args := do
    let place ← placeIn (args.get "self")
    Curried.apply (refuse .type) (run place) ((args.bound.drop 1).map (·.2))

def keysOf (v : Value) : Host (List String) :=
  match v with
  | .dict es => pure (es.map fun (k, _) => k.text)
  | _ => refuse .missingAttribute

def asked (key : String) : Host Value := do
  match (← read).setting? "TRITON_CACHE_MANAGER" with
  | none | some "DEFAULT" => make key
  | some name =>
    match name.splitOn ":" with
    | [_, "FileCacheManager"] => make key
    | [_, "CacheManager"] => refuse .type
    | [_, _] => refuse .missingAttribute
    | _ => refuse .value

def program : Program := {
  functions := [
    ("default_cache_dir", .action do return ← usualRoot),
    ("CacheManager", .plain ["key"] fun _ => refuse .type),
    ("FileCacheManager", .plain ["key"] fun key => make key.text),
    ("get_cache_manager", .plain ["key"] fun key => asked key.text)]
  methods := [
    ("_make_path", method ["filename"] fun place name => return under place name.text),
    ("has_file", method ["filename"] fun place name => do return (← filesOf place).has name.text),
    ("get_file", method ["filename"] fun place name => do
      return if (← filesOf place).has name.text then under place name.text else .none),
    ("put", method ["data", "filename", opt "binary" true] fun place data name _ => do
      return ← put place name.text (contentOf data)),
    ("get_group", method ["filename"] fun place name => do
      let members ← check ((← filesOf place).getGroup (under place) name.text)
      return match members with
        | none => .none
        | some ms => .dict (ms.map fun m => (.str m, .str (under place m)))),
    ("put_group", method ["filename", "group"] fun place name group => do
      let members ← keysOf group
      return ← put place (Directory.groupName name.text) (.text (Directory.groupText members)))] }

end TileKernel.Host.KernelStore

/-! ## Drivers -/

namespace TileKernel.Host.Drivers

def functionNames : List String :=
  ["load_binary", "get_device_properties", "CUtensorMapDataType", "CUtensorMapInterleave", "CUtensorMapSwizzle",
   "CUtensorMapL2promotion", "CUtensorMapFloatOOBfill", "cuTensorMapEncodeTiled", "cuMemAlloc", "cuMemcpyHtoD", "cuMemFree"]

structure Utilities where
  name : String
  extension : String
  count : Nat

def numbered : Utilities := ⟨"CudaUtils", "cuda_utils", functionNames.length⟩

def named : Utilities := ⟨"HIPUtils", "hip_utils", 2⟩

def Utilities.make (u : Utilities) : Host Value := do
  let place ← KernelStore.placeOf u.extension
  let file := u.extension ++ ".so"
  if !(← KernelStore.filesOf place).has file then
    withTemporary do
      let built ← Extension.build u.extension (under temporaryPlace "main.c") temporaryPlace
      let _ ← KernelStore.put place file (.text (← readFile built))
  return .object u.name ((functionNames.take u.count).zipIdx.map fun (n, i) => (n, i))

inductive Driver where
  | numbered
  | named
  | unsupported

namespace Driver

def className : Driver → String
  | numbered => "CudaDriver"
  | named => "HIPDriver"
  | unsupported => "UnsupportedDriver"

def make : Driver → Host Value
  | d@numbered => do return .object d.className [("utils", ← Drivers.numbered.make), ("backend", 0)]
  | d@named => do return .object d.className [("utils", ← Drivers.named.make), ("backend", 1)]
  | d@unsupported => return .object d.className [("utils", .none), ("backend", .none)]

def ofSite (s : Site) : Driver := if s.isHip then named else if s.available then numbered else unsupported

end Driver

def described : Value → Value
  | .object kind fields => .list [kind, true, .dict (fields.map fun (n, v) => (n, match v with
      | .object k _ => .str k
      | v => v))]
  | v => v

def thirdPartyPlace : String := "REPO/triton/runtime/../third_party"

/-- What a proxy shows: that it is not made at first; after an attribute was added, how it is written in two ways and its value;
and after it was taken away, how it is written and whether the value is still there. -/
def proxyReport : Value :=
  let made := Value.record "namespace" [("val", 1), ("other", 2)]
  let without := Value.record "namespace" [("other", 2)]
  .list [true, made.shown, made.text, (made.field? "val").getD .none, without.shown,
    .bool (without.field? "val").isSome, thirdPartyPlace]

def step (name : String) : Host Value := do
  match name with
  | "CudaUtils" => return described (← numbered.make)
  | "HIPUtils" => return described (← named.make)
  | "CudaDriver" => return described (← Driver.numbered.make)
  | "HIPDriver" => return described (← Driver.named.make)
  | "UnsupportedDriver" => return described (← Driver.unsupported.make)
  | "init" => return described (← (Driver.ofSite (← read)).make)
  | "lazy" => return proxyReport
  | _ => refuse .missingAttribute

end TileKernel.Host.Drivers

/-! ## Support of devices with named architectures -/

namespace TileKernel.Host.DeviceSupport

def libraryPlace : String := "REPO/triton/third_party/hip/lib/bitcode/"

def libraries (arch : String) : Host (Named String) := do
  return (← check (Device.libraries arch)).map fun (n, f) => (n, libraryPlace ++ f)

def details : Host (Option Device.Details) := do
  let m := (← read).machine
  match Device.details? m.archInfo m.wanted with
  | some d => return some d
  | none =>
    printText Device.noDetails
    return none

def detailsValue (d : Device.Details) : Value :=
  .members [("gfx_triple", d.triple), ("gfx_arch", d.name), ("gfx_features", d.features)]

def entry (v : Value) (name : String) : Host Value := need .key (v.field? name)

/-- Architecture, triple and features of a description; a name that the user gives wins. -/
def described (v : Value) : Host Value := do
  let own ← entry v "gfx_arch"
  let arch := ((← read).machine.wanted.map Value.str).getD own
  let triple ← entry v "gfx_triple"
  let features ← entry v "gfx_features"
  if arch.isNone then complain .runtime "gfx_arch is None (not specified)"
  return .tuple [arch, triple, features]

/-- The libraries to link with: those of the architecture take the places of given ones of the same name, or follow. Empty ones
are dropped. -/
def linked (given : Value) (arch : String) : Host Value := do
  let own := (← libraries arch).map fun (n, f) => (Value.str n, Value.str f)
  let given := match given with
    | .dict es => es
    | _ => []
  let same (a b : Value × Value) : Bool := a.1.text == b.1.text
  let all := given.map (fun e => (own.find? (same e)).getD e) ++ own.filter fun e => !given.any (same e)
  let used := all.filter fun (_, v) => !(v.isNone || v.str? == some "")
  for (n, v) in used do
    if n.text.isEmpty then complain (.other "RuntimeWarning") s!"extern_lib has empty value, {n.text}: {v.text}"
  return .tuple [.list (used.map (·.1)), .list (used.map (·.2))]

def backend (kind : Value) : Host Value := do
  let driver ← Drivers.Driver.named.make
  return .object "triton.third_party.hip.hip_backend.HIPBackend"
    [("device_type", kind), ("driver", driver), ("stub_so_path", "")]

def descriptor : Host Value := do
  match detailsValue (← need .type (← details)) with
  | .dict es => return .dict (es ++ [(.str "num_warps", .int 4), (.str "num_stages", 2), (.str "num_ctas", 1), (.str "warp_size", 64)])
  | v => return v

def program : Program := {
  functions := [
    ("get_amdgcn_bitcode_paths", .plain ["gfx_arch"] fun gfxArch => do return .members ((← libraries gfxArch.text).map fun (n, f) => (n, f))),
    ("get_amdgpu_arch_fulldetails", .action do return ((← details).map detailsValue).getD .none),
    ("get_kernel_name", .plain ["src", "pattern"] fun src pattern => do
      return ((← check (Pipeline.Prototype.kernelName src.text pattern.text)).map Value.str).getD .none),
    ("get_arch_details", .plain ["arch"] described),
    ("update_extern_libs", .plain ["extern_libs", "gfx_arch"] fun externLibs gfxArch => linked externLibs gfxArch.text),
    ("ty_to_cpp", .plain ["ty"] fun ty => do return ← check (Launch.Stub.cType Launch.Stub.hip.pointer ty.text)),
    ("optimize_ttgir_rocm", .action do return .none),
    ("HIPBackend", .plain ["device_type"] backend)]
  values := [("HIP_BACKEND_MODE", pure (.bool false))]
  methods := [
    ("is_standalone", .plain ["self"] fun _ => return .bool true),
    ("add_meta_info", .plain ["self", "ir", "module", "next_module", "metadata", "asm"] fun _ _ _ _ _ _ => return .none),
    ("get_driver", .plain ["self"] fun self => Program.member self "driver"),
    ("get_kernel_bin", .plain ["self"] fun _ => return .str "hsaco_path"),
    ("get_load_binary_fn", .plain ["self"] fun self => do
      Program.member (← Program.member (← Program.member self "driver") "utils") "load_binary"),
    ("get_architecture_descriptor", .plain ["self"] fun _ => descriptor)] }

def refusal (required limit name : Value) : Value :=
  let message := (Fault.outOfResources required.text limit.text name.text).message?.getD ""
  .object "OutOfResources"
    [("message", message), ("required", required), ("limit", limit), ("name", name), ("args", .tuple [message])]

def refusals : Program := {
  functions := [("OutOfResources", .plain ["required", "limit", "name"] fun required limit name =>
    return refusal required limit name)]
  methods := [("__reduce__", .plain ["self"] fun self => do
    let of := Program.member self
    return .tuple [.named "OutOfResources", .tuple [← of "required", ← of "limit", ← of "name"]])] }

end TileKernel.Host.DeviceSupport
