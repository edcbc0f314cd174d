import TileKernel.CommandLine.Options
import TileKernel.Launch.Stub

/-! # Kernels compiled ahead of time

A kernel is compiled for a signature of types, types with an assumption, and constants. The code is embedded in a C source that
loads, unloads and launches it. A directive in the header names the kernel, its C signature and its constants; the suffix of the
name tells which arguments the kernel assumes to be one or divisible by sixteen.

## Headers
-/

namespace TileKernel.Ahead

open Text Text.Pattern

variable (v : Variant) (j : Job) (p : Parts)

inductive Hint where
  | isOne
  | divisibleBy16
deriving DecidableEq

def Hint.size : Hint → Nat
  | isOne => 1
  | divisibleBy16 => 16

structure Variant where
  kernel : String
  argNames : List String
  argTypes : List String
  hints : List (Option Hint)
  signatureHash : String
  suffix : String
  hintCount : Nat

/-- Variants by the name of what they compute: a kernel with its constants. -/
abbrev Variants := List (String × List Variant)

namespace Header

def functionName (kernel hash suffix : String) : String := kernel ++ "_" ++ hash ++ "_" ++ suffix

def line (function signature constants : String) : String :=
  "// tt-linker: " ++ function ++ ":" ++ signature ++ ":" ++ constants

def word : Pattern := atLeastOne (one isWord)

def onLine : Pattern := atLeastOne (one isOnLine)

def blanks : Pattern := many (one isSpace)

def directive : Pattern :=
  all [Pattern.text "//", blanks, Pattern.text "tt-linker:", blanks, capture 1 word, Pattern.text ":", capture 2 onLine,
    Pattern.text ":", capture 3 onLine]

def compiledName : Pattern :=
  all [capture 1 word, Pattern.text "_", capture 2 word, Pattern.text "_", capture 3 word, textEnd]

def argument : Pattern :=
  all [blanks, capture 1 word, one isSpace, capture 2 word, Pattern.optional (Pattern.text ",")]

def refuse {α : Type} (text : String) : Result α := .error (.stated .linker text)

def behind? (part : List Char) : List Char → Option (List Char)
  | [] => if part.isEmpty then some [] else none
  | c :: cs => if part.isPrefixOf (c :: cs) then some ((c :: cs).drop part.length) else behind? part cs

def hintOf : Char → Option Hint
  | 'c' => some .isOne
  | 'd' => some .divisibleBy16
  | _ => none

/-- The assumptions of `count` arguments from number `i` on: each number is looked for in the rest of the suffix, and a letter
behind it states an assumption. -/
def hints (suffix : List Char) (i : Nat) : Nat → Result (List (Option Hint))
  | 0 => .ok []
  | count + 1 =>
    match behind? (toString i).toList suffix with
    | none => refuse (String.ofList suffix ++ " is not a valid kernel suffix")
    | some rest => do
      let hint := rest.head?.bind hintOf
      let rest := if hint.isSome then rest.drop 1 else rest
      return hint :: (← hints rest (i + 1) count)

def variant (name signature constants : String) : Result (String × Variant) := do
  match compiledName.matchStart? name with
  | none => refuse (name ++ " is not a valid kernel name")
  | some m =>
    let args := findAll argument signature
    if args.isEmpty then refuse (signature ++ " is not a valid argument signature")
    let hs ← hints (m.group 3).toList 0 (parts ',' signature).length
    let v : Variant := {
      kernel := m.group 1, signatureHash := m.group 2, suffix := m.group 3, hints := hs
      argTypes := args.map (·.group 1), argNames := args.map (·.group 2), hintCount := (hs.filter Option.isSome).length }
    return (m.group 1 ++ "_" ++ constants, v)

/-- Add a variant; all variants of one kernel have the same types of arguments, as far as both have them. -/
def add (vs : Variants) (name : String) (v : Variant) : Result Variants :=
  match (vs.lookup name).bind List.getLast? with
  | none => .ok (vs ++ [(name, [v])])
  | some last =>
    if (last.argTypes.zip v.argTypes).any fun (a, b) => a != b then
      refuse ("Mismatched signature for kernel " ++ name ++ ": \n\texisting sig is: " ++ ",".intercalate last.argTypes ++
        "\n\tcurrent is: " ++ ",".intercalate v.argTypes)
    else .ok (vs.map fun (n, ws) => if n == name then (n, ws ++ [v]) else (n, ws))

abbrev Reading := EStateM Fault Variants

def readLine (text : String) : Reading Unit :=
  match if text.startsWith "//" then directive.matchStart? text else none with
  | none => pure ()
  | some m => do
    match variant (m.group 1) (m.group 2) (m.group 3) with
    | .error f => throw f
    | .ok (name, v) =>
      match add (← get) name v with
      | .error f => throw f
      | .ok vs => set vs

def read (header : String) : Reading Unit := (lines header).forM readLine

end Header

/-! ## Linking

The variants of a kernel are put behind one function that calls the first one whose assumptions hold, those with the most first.
Kernels that differ in their constants are put into a table.
-/

namespace Variant

def typed (args : Named String) : String := Text.commaSeparated (args.map fun (t, n) => t ++ " " ++ n)

def fullSignature : String := typed (v.argTypes.zip v.argNames)

def keptOf (items : List String) : List String :=
  ((items.zip v.hints).filter fun (_, h) => h != some .isOne).map (·.1)

def signature : String := typed ((v.keptOf v.argTypes).zip (v.keptOf v.argNames))

def function : String := Header.functionName v.kernel v.signatureHash v.suffix

def condition : String :=
  " && ".intercalate ((v.argNames.zip v.hints).filterMap fun (n, h) => h.map fun
    | .isOne => s!"({n} == 1)"
    | .divisibleBy16 => s!"({n} % 16 == 0)")

end Variant

namespace Linking

def block (head : String) (body : List String) : String :=
  head ++ "\x7b\n" ++ String.join (body.map (· ++ "\n")) ++ "\x7d\n"

def byHints (vs : List Variant) : List Variant := vs.mergeSort fun a b => a.hintCount ≥ b.hintCount

def lastSignature (vs : List Variant) : String := (vs.getLast?.map Variant.fullSignature).getD ""

def declarations (name : String) (vs : List Variant) : String :=
  s!"\nCUresult {name}(CUstream stream, {lastSignature vs});\nvoid load_{name}();\nvoid unload_{name}();\n    "

def globalDeclarations : String :=
  s!"\nCUresult {v.kernel}_default(CUstream stream, {v.fullSignature});\nCUresult {v.kernel}(CUstream stream, " ++
    s!"{v.fullSignature}, int algo_id);\nvoid load_{v.kernel}();\nvoid unload_{v.kernel}();\n    "

def defaultKernel : String :=
  block s!"CUresult {v.kernel}_default(CUstream stream, {v.fullSignature})"
    [s!"  return {v.kernel}(stream, {Text.commaSeparated v.argNames}, 0);"]

/-- The function that calls the first variant whose assumptions hold, and those that load and unload all variants. -/
def dispatcher (name : String) (vs : List Variant) : String :=
  let sorted := byHints vs
  let calls := sorted.flatMap fun v =>
    [s!"  if ({v.condition})", s!"    return {v.function}(stream, {Text.commaSeparated (v.keptOf v.argNames)});"]
  let launch := "// launcher for: " ++ name ++ "\n" ++
    String.join (sorted.map fun v => s!"CUresult {v.function}(CUstream stream, {v.signature});\n") ++ "\n" ++
    block s!"CUresult {name}(CUstream stream, {lastSignature vs})"
      (calls ++ ["", "  return CUDA_ERROR_INVALID_VALUE;"])
  let loading (mode : String) : String := "\n// " ++ mode ++ " for: " ++ name ++ "\n" ++
    String.join (sorted.map fun v => s!"void {mode}_{v.function}();\n") ++
    block s!"void {mode}_{name}() " (sorted.map fun v => s!"  {mode}_{v.function}();")
  launch ++ loading "load" ++ loading "unload"

def chooser : String :=
  block s!"CUresult {v.kernel}(CUstream stream, {v.fullSignature}, int algo_id)"
    [s!"  assert (algo_id < (int)sizeof({v.kernel}_kernels));",
     s!"  return {v.kernel}_kernels[algo_id](stream, {Text.commaSeparated v.argNames});"]

def table (names : List String) (v : Variant) : String :=
  "typedef CUresult (*kernel_func_t)(CUstream stream, " ++ v.fullSignature ++ ");\nkernel_func_t " ++ v.kernel ++
    "_kernels[] = \x7b\n" ++ String.join (names.map fun n => s!"  {n},\n") ++ "\x7d;\n"

def loading (names : List String) (v : Variant) : String :=
  String.join (["load", "unload"].map fun mode =>
    block s!"void {mode}_{v.kernel}(void)" (names.map fun n => s!"  {mode}_{n}();") ++ "\n")

def countDeclaration : String := s!"int {v.kernel}_get_num_algos(void);"

def count : String :=
  block s!"int {v.kernel}_get_num_algos(void)" [s!"  return (int)sizeof({v.kernel}_kernels);"]

structure Output where
  header : String
  source : String

def link (vs : Variants) : Result Output :=
  match vs.head?.bind (·.2.head?) with
  | none => refused .index
  | some v =>
    let names := vs.map (·.1)
    .ok { header := "#include <cuda.h>\n" ++ "\n".intercalate (vs.map fun (n, ws) => declarations n ws) ++ "\n" ++
            countDeclaration v ++ "\n" ++ globalDeclarations v
          source := "#include <cuda.h>\n#include <stdint.h>\n#include <assert.h>\n\n" ++
            "\n".intercalate (vs.map fun (n, ws) => dispatcher n ws) ++ "\n" ++ table names v ++ "\n" ++ count v ++ "\n" ++
            chooser v ++ "\n" ++ loading names v ++ "\n" ++ defaultKernel v }

def linkHeaders (headers : List String) : Result Output := do
  let vs ← headers.foldlM (fun vs h => match Header.read h vs with
    | .ok _ vs => .ok vs
    | .error f _ => .error f) []
  link vs

end Linking

/-! ## Sources -/

open Lowering Launch

def compilerUsage : CommandLine.Usage :=
  { options := [
      { names := ["--kernel-name", "-n"], key := "kernel", required := true },
      { names := ["--num-warps", "-w"], key := "warps", kind := some .int },
      { names := ["--num-stages", "-ns"], key := "stages", kind := some .int },
      { names := ["--out-name", "-on"], key := "name" },
      { names := ["--out-path", "-o"], key := "path" },
      { names := ["--signature", "-s"], key := "signature", required := true },
      { names := ["--grid", "-g"], key := "grid", required := true }]
    operands := .one "source" }

structure Job where
  kernel : String
  numWarps : Int
  numStages : Int
  name : Option String := none
  path : Option String := none
  signature : String
  grid : String

def Job.ofArguments (argv : List String) : Result Job := do
  let s ← CommandLine.read compilerUsage argv
  let given (key : String) : Option String := (s.text? key).filter (!·.isEmpty)
  return { kernel := (s.text? "kernel").getD "", numWarps := s.int "warps" 1, numStages := s.int "stages" 3
           name := given "name", path := s.text? "path", signature := (s.text? "signature").getD ""
           grid := (s.text? "grid").getD "" }

def constant? (s : String) : Option Value :=
  match Reading.int? s with
  | some n => some (.int n)
  | none => (Reading.float? s).map .float

structure Request where
  types : Signature
  constants : List (Int × Value)
  knowledge : Types.Specialization
  numWarps : Int
  numStages : Int

def Job.entries : List String :=
  (Text.parts ',' j.signature).map fun s => ((s.toList.dropWhile (· == ' ')).reverse.dropWhile (· == ' ')).reverse |> String.ofList

def Job.metaText : String := s!"warps{j.numWarps}xstages{j.numStages}"

def Job.hash : String := ((Digest.sha256 (" ".intercalate (j.entries ++ [j.metaText]))).take 8).toString

def Job.constants : List (Int × Value) :=
  j.entries.zipIdx.filterMap fun (s, (i : Nat)) => (constant? s).map fun v => ((i : Int), v)

def entryType (entry : String) : String := (Text.parts ':' entry).headD ""

def entryNumber? (entry : String) : Option Value := ((Text.parts ':' entry)[1]?).bind constant?

def Job.types : Signature :=
  j.entries.zipIdx.filterMap fun (s, (i : Nat)) => if (constant? s).isSome then none else some ((i : Int), entryType s)

def Job.hints : List (Int × Value) :=
  j.entries.zipIdx.filterMap fun (s, (i : Nat)) => (entryNumber? s).map fun v => ((i : Int), v)

def paramName (params : List String) (i : Int) : Result String :=
  match params[i.toNat]? with
  | some n => .ok n
  | none => refused .index

def Job.gridParts : Result (String × String × String) :=
  match Text.parts ',' j.grid with
  | [x, y, z] => .ok (x, y, z)
  | _ => .error .assertion

def Job.notes (params : List String) : Result (List String) := do
  let named ← j.constants.mapM fun (i, v) => do return (← paramName params i) ++ "=" ++ v.text
  return named ++ [s!"num_warps={j.numWarps}", s!"num_stages={j.numStages}"]

def isNumber (n : Int) (v : Value) : Bool := Constant.equal v (.int n)

/-- What the compiler is asked for. Only one and sixteen can be assumed; an argument that is one is a constant. -/
def Job.request : Result Request := do
  j.hints.forM fun (_, v) =>
    if isNumber 1 v || isNumber 16 v then .ok ()
    else .error (.stated .assertion ("Only 1 and 16 are valid hints, got " ++ v.text))
  let ones := (j.hints.filter fun (_, v) => isNumber 1 v).map (·.1)
  let constants := ones.foldl (fun cs i => Table.put cs i (.int 1)) j.constants
  return { types := j.types, constants, numWarps := j.numWarps, numStages := j.numStages
           knowledge := { divisibleBy16 := (j.hints.filter fun (_, v) => isNumber 16 v).map (·.1), equalTo1 := ones } }

structure Parts where
  function : String
  kernel : String
  binary : String
  shared : Int
  numWarps : Int
  argNames : List String
  argTypes : List String
  fullSignature : String
  note : String
  constants : String
  gridX : String
  gridY : String
  gridZ : String

namespace Parts

def binaryText : String := Text.commaSeparated (bytes p.binary.toList)
where
  bytes : List Char → List String
    | a :: b :: rest => ("0x" ++ String.ofList [a, b]) :: bytes rest
    | _ => []

def signature : String :=
  Text.commaSeparated (List.zipWith (fun t n => t ++ " " ++ n) p.argTypes p.argNames)

def pointers : String := Text.commaSeparated (p.argNames.map ("&" ++ ·))

def headerLines : List String :=
  ["#ifndef TT_KERNEL_INCLUDES",
   "#define TT_KERNEL_INCLUDES",
   "",
   "#include <cuda.h>",
   "#include <inttypes.h>",
   "#include <stdint.h>",
   "#include <stdio.h>",
   "",
   "#endif",
   "",
   "void unload_" ++ p.function ++ "(void);",
   "void load_" ++ p.function ++ "(void);",
   Header.line p.function p.fullSignature p.constants,
   "CUresult " ++ p.function ++ "(CUstream stream, " ++ p.signature ++ ");",
   ""]

def sourceLines : List String :=
  let f := p.function
  Text.lines "/* clang-format off */\n#include <stdio.h>\n#include <stdint.h>\n#include <inttypes.h>\n#include <string.h>\n#include <cuda.h>\n\n
// helpers to check for cuda errors\n#define CUDA_CHECK(ans) \x7b\\
    gpuAssert((ans), __FILE__, __LINE__);\\
  \x7d\\\n
static inline void gpuAssert(CUresult code, const char *file, int line) \x7b
  if (code != CUDA_SUCCESS) \x7b
    const char *prefix = \"Triton Error [CUDA]: \";
    const char *str;
    cuGetErrorString(code, &str);
    char err[1024] = \x7b0\x7d;
    strcat(err, prefix);
    strcat(err, str);
    printf(\"%s\\\\n\", err);
    exit(code);
  \x7d
\x7d\n
// globals" ++
  [s!"#define CUBIN_NAME {f}_cubin",
   s!"CUmodule {f}_mod = NULL;",
   s!"CUfunction {f}_func = NULL;",
   s!"unsigned char CUBIN_NAME[{p.binary.length}] = \x7b {p.binaryText} \x7d;",
   "",
   "",
   s!"void unload_{f}(void) \x7b",
   s!"    CUDA_CHECK(cuModuleUnload({f}_mod));",
   "\x7d",
   "",
   "// TODO: some code duplication with `runtime/backend/cuda.c`",
   s!"void load_{f}() \x7b",
   "    int dev = 0;",
   "    void *bin = (void *)&CUBIN_NAME;",
   s!"    int shared = {p.shared};",
   s!"    CUDA_CHECK(cuModuleLoadData(&{f}_mod, bin));",
   s!"    CUDA_CHECK(cuModuleGetFunction(&{f}_func, {f}_mod, \"{p.kernel}\"));",
   "    // set dynamic shared memory if necessary",
   "    int shared_optin;",
   "    CUDA_CHECK(cuDeviceGetAttribute(&shared_optin, CU_DEVICE_ATTRIBUTE_MAX_SHARED_MEMORY_PER_BLOCK_OPTIN, dev));",
   "    if (shared > 49152 && shared_optin > 49152) \x7b",
   s!"      CUDA_CHECK(cuFuncSetCacheConfig({f}_func, CU_FUNC_CACHE_PREFER_SHARED));",
   s!"      CUDA_CHECK(cuFuncSetAttribute({f}_func, CU_FUNC_ATTRIBUTE_MAX_DYNAMIC_SHARED_SIZE_BYTES, shared_optin))",
   "    \x7d",
   "\x7d",
   "",
   "/*",
   p.note,
   "*/",
   s!"CUresult {f}(CUstream stream, {p.signature}) \x7b",
   s!"    if ({f}_func == NULL)",
   s!"       load_{f}();",
   s!"    unsigned int gX = {p.gridX};",
   s!"    unsigned int gY = {p.gridY};",
   s!"    unsigned int gZ = {p.gridZ};",
   s!"    void *args[{p.argNames.length}] = \x7b {p.pointers} \x7d;",
   "    // TODO: shared memory",
   "    if(gX * gY * gZ > 0)",
   s!"      return cuLaunchKernel({f}_func, gX, gY, gZ, {p.numWarps} * 32, 1, 1, {p.shared}, stream, args, NULL);",
   "\x7d",
   ""]

end Parts

def Job.parts (params : List String) (r : Request) (pointer binary : String) (shared : Int) : Result Parts := do
  let kept := r.types.filter fun (i, _) => !r.knowledge.equalTo1.contains i
  let argNames ← kept.mapM fun (i, _) => paramName params i
  let suffix := Types.kernelSuffix r.types.length r.knowledge
  let argTypes ← kept.mapM fun (_, t) => Stub.cType pointer t
  let full ← r.types.mapM fun (i, t) => do return (← Stub.cType pointer t) ++ " " ++ (← paramName params i)
  let (gridX, gridY, gridZ) ← j.gridParts
  return { function := Header.functionName (j.name.getD j.kernel) j.hash suffix, kernel := j.kernel ++ "_" ++ suffix, binary
           shared, numWarps := j.numWarps, argNames, argTypes, fullSignature := Text.commaSeparated full
           note := Text.bracketed ((← j.notes params).map Text.quoted)
           constants := "x".intercalate (j.constants.map fun (_, v) => v.text) ++ "_" ++ j.metaText, gridX, gridY, gridZ }

/-- A file name with another ending behind its last point; a name may begin or end with a point. -/
def withEnding (name ending : String) : String :=
  let chars := name.toList
  let stem := (chars.reverse.dropWhile (· != '.')).drop 1
  if stem.isEmpty || name.endsWith "." then name ++ ending else String.ofList stem.reverse ++ ending

def Job.files (suffix : String) : Result (List (String × List String)) := do
  match j.path with
  | none => refused .missingAttribute
  | some path =>
    let file (ext : String) : String := withEnding path s!".{j.hash}_{suffix}.{ext}"
    return [(file "h", p.headerLines), (file "c", p.sourceLines)]

structure Outcome where
  compiled : Option (String × Request) := none
  files : List (String × List String) := []
  failure : Option Fault := none
  printed : String := ""

def kernelParams (p : Program) (space name : String) : Result (List String) :=
  match (p.scope (.user space)).find? name with
  | some (.func f) => if f.isJit then .ok (p.func f).paramNames else refused .missingAttribute
  | _ => refused .missingAttribute

/-- Do a job: the source is loaded as a module, and the compiled code and the shared memory it needs are given. -/
def compile (argv : List String) (source pointer binary : String) (shared : Int) : Outcome :=
  match Job.ofArguments argv with
  | .error f => { failure := some f }
  | .ok j =>
    let (program, printed) := loadModules [("kernels", source)]
    let asked : Result (List String × Request) := do
      let params ← kernelParams (← program) "kernels" j.kernel
      let _ ← j.gridParts
      let _ ← j.notes params
      return (params, ← j.request)
    match asked with
    | .error f => { failure := some f, printed }
    | .ok (params, r) =>
      let files : Result (List (String × List String)) := do
        let p ← j.parts params r pointer binary shared
        j.files p (Types.kernelSuffix r.types.length r.knowledge)
      match files with
      | .error f => { compiled := some (j.kernel, r), failure := some f, printed }
      | .ok files => { compiled := some (j.kernel, r), files, printed }

end TileKernel.Ahead
