import TileKernel.Host.Programs.MatrixProducts

/-! # Products that are split along the inner axis

A product with few rows or columns and a long inner axis keeps more of a device busy when several programs share the inner axis
of a tile. `Tuned` searches a space of configurations for the fastest one; `Profiled` runs a single one for a profiler.
-/

namespace TileKernel.Host.SplitProducts

open Strided Tuning

def needsSplit (m n k : Int) : Bool := (m < 64 || n < 64) && k > 1024

def tilesAndParts (m n : Int) : Grid := .computed fun b => do
  return [(← Grid.ceilDiv m (← Grid.argument b "BLOCK_SIZE_M")) * (← Grid.ceilDiv n (← Grid.argument b "BLOCK_SIZE_N")),
    ← Grid.argument b "SPLIT_K"]

def evenParts (block : String) : Heuristic := fun b => do
  let parts ← Lowering.Methods.operate .mult (← Heuristic.known b block) (← Heuristic.known b "SPLIT_K")
  let r ← Lowering.Methods.operate .mod (← Heuristic.known b "K") parts
  return .value (.bool (Lowering.Constant.equal r (.int 0)))

def needFunction : String × Function := ("need_split_k", .plain ["SIZE_M", "SIZE_N", "SIZE_K"] fun m n k => do
  return needsSplit (← integer m) (← integer n) (← integer k))

def shellFunction : String × Function := ("run_bash_command", .plain ["commandstring"] fun line => do
  return .list ((← shellLines line.text).map Value.bytesOf))

def elementTypes : Named ElementType := [("fp16", .float16), ("fp32", .float32), ("bf16", .bfloat16)]

/-! ## The fastest configuration -/

namespace Tuned

def config (m n k group split warps : Int) : Config :=
  MatrixProducts.blocks m n k group 0 warps [("SPLIT_K", split)]

def space : List Config :=
  [32, 64, 128].flatMap fun m => [32, 64, 128].flatMap fun n => [32, 64].flatMap fun k => [1, 2, 4, 8].flatMap fun warps =>
    [1, 4, 8].flatMap fun group => [1, 2, 4, 5, 8, 10].map fun split => config m n k group split warps

/-- Whether a configuration is worth measuring: short axes get the smallest blocks, and only a product that is worth splitting
is split. -/
def keeps (m n k : Int) (c : Config) : Result Bool := do
  let blockM ← c.size "BLOCK_SIZE_M"
  let blockN ← c.size "BLOCK_SIZE_N"
  let _ ← c.size "BLOCK_SIZE_K"
  let split ← c.size "SPLIT_K"
  return !(m ≤ 32 && blockM != 32) && !(n ≤ 32 && blockN != 32) && !(split != 1 && !needsSplit m n k)

def kernel (m n k : Nat) : TunedKernel := {
  name := "matmul_kernel_splitK", key := ["M", "N", "K"], configs := space, heuristics := [("EVEN_K", evenParts "BLOCK_SIZE_K")]
  pruner := { early := some fun cs _ => do
    let kept ← cs.zipIdx.filterM fun (c, _) => keeps m n k c
    return (cs, kept.map (·.2)) } }

def matmul (a b : Tensor) (activation : Value) : Host Tensor := do
  let (m, n, k) ← MatrixProducts.factors a b true
  let c ← blank a.type [m, n]
  launchTuned (kernel m n k) (tilesAndParts m n) (MatrixProducts.operands a b c m n k)
    [("ACTIVATION", activation)]
  return c

def test (m n k : Nat) (type : ElementType) : Host Unit := do
  let (a, b) ← MatrixProducts.blanks type m n k
  let ours ← matmul a b ""
  printLine ("triton_output=" ++ ours.view.text)
  printLine ("torch_output=" ++ (← product a b).view.text)
  printLine s!"✅ Triton and Torch match for size, (M: {m}, N: {n}, K: {k})"

def speed (m n k : Nat) (type : ElementType) (provider : Value) : Host Binary64 := do
  let (a, b) ← MatrixProducts.blanks type m n k
  let step ← MatrixProducts.stepOf provider "pytorch" do let _ ← matmul a b ""
  return (← measureUsual (decimal 100 0) step).2.1

def usage : CommandLine.Usage := {
  options := [
    .int "-m", .int "-n", .int "-k", .text "-dtype", .switch "--specify_type", .switch "--specify_size",
    .switch "--compare", .text "--gemm_size_file", .switch "--rocprof", .switch "-v"]
  shortens := false }

def settings : Host CommandLine.Settings := do check (CommandLine.read usage (← read).arguments)

def describedSizes : Host (List (Value × Value × Value)) := do
  (← items (← read).description).mapM fun sizes => do
    return (← entry sizes "M", ← entry sizes "N", ← entry sizes "K")

def askedSizes (s : CommandLine.Settings) : Host (List (Int × Int × Int)) := do
  if s.switch "specify_size" then
    let (m, n, k) := (s.int "m" 0, s.int "n" 0, s.int "k" 0)
    if m == 0 || n == 0 || k == 0 then
      printLine s!"Input matrix size: (M {m}, N {n}, K {k}) contains dim size 0!"
    return [(m, n, k)]
  else
    let file := (s.text? "gemm_size_file").getD ""
    if file.isEmpty || !(← fileExists file) then
      printLine s!"Matrix size file: {file} does not exist!"
      complain .exit "1"
    (← describedSizes).mapM fun (m, n, k) => do return (← integer m, ← integer n, ← integer k)

def profiledTime (m n k : Int) (c : Config) (type : String) : Host Binary64 := do
  let size (name : String) : Host String := do return toString (← check (c.size name))
  let driver := ((← read).setting? "TRITON_DIR").elim "rocprof_gemm.py" (under · "scripts/amd/gemm/rocprof_gemm.py")
  let gap := String.ofList (List.replicate 25 ' ')
  let _ ← shellLines (" ".intercalate ["rocprof --stats python", driver, "-m", toString m, "-n", toString n, "-k", toString k] ++
    gap ++ " ".intercalate ["-block_m", ← size "BLOCK_SIZE_M", "-block_n", ← size "BLOCK_SIZE_N", "-block_k", ← size "BLOCK_SIZE_K"] ++
    gap ++ " ".intercalate ["-group_m", ← size "GROUP_SIZE_M", "-split_k", ← size "SPLIT_K", "-num_warps", toString c.numWarps] ++
    gap ++ "-dtype " ++ type)
  match ← shellLines "sed -n '/matmul_kernel/p' results.stats.csv | awk -F ',' '\x7bprint $4\x7d'" with
  | first :: _ => return (Binary64.ofRatio? (← integerText first) 1000000).getD .zero
  | [] => refuse .index

def rate (m n k : Int) (ms : Binary64) : Host Binary64 :=
  if (ms.mul (decimal 1 (-3))).isZero then refuse .zeroDivision else pure (MatrixProducts.rate m n k ms)

def measureOne (s : CommandLine.Settings) (type : ElementType) (m n k : Int) : Host Unit := do
  let ms ← speed m.toNat n.toNat k.toNat type "triton"
  if s.switch "compare" then test m.toNat n.toNat k.toNat type
  let best ← lastConfig "matmul_kernel_splitK"
  let ms ← if s.switch "rocprof" then
      profiledTime m n k best (if s.switch "specify_type" then (s.text? "dtype").getD "fp16" else "fp16")
    else pure ms
  printLine ("SIZE: " ++ ",".intercalate ([m, n, k].map toString) ++ " " ++
    (if s.switch "v" then s!"  best_config: ({best.text}),   " else "") ++
    "TFLOPS: " ++ (← rate m n k ms).shortest ++ " time(ns): " ++ (ms.mul (decimal 1000000 0)).shortest)

def run : Host Unit := do
  let s ← settings
  let type ← if s.switch "specify_type" then
      match elementTypes.lookup ((s.text? "dtype").getD "fp16") with
      | some t => pure t
      | none => do
        printLine ("Unsupported datatype " ++ (s.text? "dtype").getD "")
        complain .exit "1"
    else pure .float16
  (← askedSizes s).forM fun (m, n, k) => measureOne s type m n k

def pruned (configs arguments : Value) : Host Value := do
  let a ← tensor (← entry arguments "a_ptr")
  let b ← tensor (← entry arguments "b_ptr")
  let (m, n, k) := (← dimension a 0, ← dimension b 1, ← dimension a 1)
  let kept ← (← items configs).filterM fun
    | .config c => check (keeps m n k c)
    | _ => refuse .missingAttribute
  return .list kept

def program : Program := {
  load := loadKernels Kernels.splitProduct
  main := do
    run
    complain .exit "None"
  functions := [
    ("prune_configs", .plain ["configs", "named_args"] pruned),
    ("get_full_tuning_space", .plain ["use_split_k"] fun _ => return .list (space.map .config)),
    needFunction,
    ("matmul", .plain ["a", "b", opt "activation" ""] fun a b activation => do
      return ← matmul (← tensor a) (← tensor b) activation),
    ("get_best_config", .plain ["M", "N", "K"] fun _ _ _ => return .config (← lastConfig "matmul_kernel_splitK")),
    ("test_correctness", .plain ["M", "N", "K", opt "datatype" (.elementType .float16)] fun m n k type => do
      test (← Host.size m) (← Host.size n) (← Host.size k) (← elementType type)
      return .none),
    ("run_speed", .plain ["M", "N", "K", "datatype", "use_rocprof", "provider"] fun m n k type _ provider => do
      return ← speed (← Host.size m) (← Host.size n) (← Host.size k) (← elementType type) provider),
    shellFunction,
    ("main", .action do run; return .none)]
  values := [("tuning_full_space", return true)] }

end Tuned

/-! ## One configuration -/

namespace Profiled

structure Choice where
  blockM : Value
  blockN : Value
  blockK : Value
  group : Value
  split : Value
  warps : Value

def matmul (a b : Tensor) (c : Choice) (activation : Value) : Host Tensor := do
  let (m, n, k) ← MatrixProducts.factors a b true
  let result ← blank a.type [m, n]
  let args := MatrixProducts.operands a b result m n k
  let sizes := [("BLOCK_SIZE_M", c.blockM), ("BLOCK_SIZE_N", c.blockN), ("BLOCK_SIZE_K", c.blockK), ("GROUP_SIZE_M", c.group)]
  let rest := [("num_warps", c.warps), ("num_stages", 1), ("ACTIVATION", activation)]
  if needsSplit m n k then
    launchCompleted { name := "matmul_kernel_splitK", heuristics := [("EVEN_K", evenParts "BLOCK_SIZE_K")] }
      (tilesAndParts m n) args (sizes ++ [("SPLIT_K", c.split)] ++ rest)
  else
    launchCompleted { name := "matmul_kernel", heuristics := [("EVEN_K", Heuristic.multiple "K" "BLOCK_SIZE_K")] }
      (MatrixProducts.tiles m n) args (sizes ++ rest)
  return result

def test (m n k : Nat) (c : Choice) (type : ElementType) : Host Tensor := do
  let (a, b) ← MatrixProducts.blanks type m n k
  matmul a b c (.str "")

def choices : List String := ["m", "n", "k", "block_m", "block_n", "block_k", "group_m", "split_k", "num_warps"]

def usage : CommandLine.Usage := {
  options := (choices.map fun n => .int ("-" ++ n)) ++ [.text "-dtype"]
  shortens := false }

def run (words : List String) : Host Unit := do
  let s ← check (CommandLine.read usage words)
  let type ← need .missingAttribute (elementTypes.lookup ((s.text? "dtype").getD "fp16"))
  match ← choices.mapM fun n => do return Value.plain (← need .missingAttribute (s.lookup n)) with
  | [m, n, k, blockM, blockN, blockK, group, split, warps] =>
    let _ ← test (← Host.size m) (← Host.size n) (← Host.size k) { blockM, blockN, blockK, group, split, warps } type
  | _ => refuse .missingAttribute

def program : Program := {
  load := loadKernels Kernels.profiledProduct
  main := do
    run (← read).arguments
    complain .exit "None"
  functions := [
    needFunction,
    ("matmul", .plain ["a", "b", "block_m", "block_n", "block_k", "group_m", "split_k", "num_warps", opt "activation" ""]
      fun a b blockM blockN blockK group split warps activation => do
        return ← matmul (← tensor a) (← tensor b) { blockM, blockN, blockK, group, split, warps } activation),
    ("test_gemm", .plain ["M", "N", "K", "block_m", "block_n", "block_k", "group_m", "split_k", "num_warps", "dtype"]
      fun m n k blockM blockN blockK group split warps type => do
        return ← test (← Host.size m) (← Host.size n) (← Host.size k) { blockM, blockN, blockK, group, split, warps }
          (← elementType type)),
    ("main", .plain [opt "args" .none] fun words => do
      run ((words.items?).elim (← read).arguments (·.map Value.text))
      return .none)] }

end Profiled

end TileKernel.Host.SplitProducts

/-! ## Products with pruned tuning -/

namespace TileKernel.Host.TunedProducts

open Strided Tuning

def config (m n k split stages warps : Int) : Config :=
  { options := [("BLOCK_M", m), ("BLOCK_N", n), ("BLOCK_K", k), ("SPLIT_K", split)]
    numStages := stages, numWarps := warps, hooked := split != 1 }

/-- Configurations for products that computing bounds; the second half is good for short integers. -/
def computeBound : List Config :=
  [config 128 256 32 1 3 8, config 256 128 32 1 3 8, config 256 64 32 1 4 4, config 64 256 32 1 4 4, config 128 128 32 1 4 4,
   config 128 64 32 1 4 4, config 64 128 32 1 4 4, config 128 32 32 1 4 4, config 64 32 32 1 5 2,
   config 128 256 128 1 3 8, config 256 128 128 1 3 8, config 256 64 128 1 4 4, config 64 256 128 1 4 4,
   config 128 128 128 1 4 4, config 128 64 64 1 4 4, config 64 128 64 1 4 4, config 128 32 64 1 4 4, config 64 32 64 1 5 2]

def memoryBound (hip : Bool) : List Config :=
  [2, 3, 4, 5, 6].flatMap fun stages => (if hip then [32] else [16, 32]).flatMap fun m => [32, 64].flatMap fun k =>
    [32, 64, 128, 256].flatMap fun n => [1, 2, 4, 8, 16].map fun split =>
      config m n k split stages (if n ≤ 64 then 2 else 4)

def estimate (d : Tuning.Device) (a : Tensor) (m n k : Nat) (c : Config) : Result Lowering.Constant.Number := do
  let e ← Throughput.estimate d (.host a.type.name) a.type.bytes {
    m, n, k, blockM := ← c.size "BLOCK_M", blockN := ← c.size "BLOCK_N", splitK := ← c.size "SPLIT_K", numWarps := c.numWarps }
  return .float e.total

def kernel (site : Site) (a : Tensor) (m n k : Nat) : TunedKernel := {
  name := "_kernel", key := ["M", "N", "K"], configs := computeBound ++ memoryBound site.isHip
  heuristics := [("EVEN_K", SplitProducts.evenParts "BLOCK_K")]
  pruner := {
    early := some fun cs _ => do
      let kept ← Pruning.prune site.device (.host a.type.name) a.type.bytes cs
      return (Pruning.updated cs kept, kept.map (·.index))
    model := some (estimate site.device a m n k)
    topK := .int 10 } }

def ordered : List ElementType := [.float16, .bfloat16, .float32]

def higher (a b : ElementType) : Host ElementType := do
  if a = b then return a
  demand (ordered.contains a) ""
  demand (ordered.contains b) ""
  return if ordered.idxOf a < ordered.idxOf b then b else a

def accumulator (asked : ElementType) : Scalar :=
  match asked with
  | .float16 => .fp16
  | .float32 | .bfloat16 => .fp32
  | _ => .int32

def aligned (t : Tensor) : Host Tensor := do
  if t.shape.isEmpty then refuse .index
  if t.stride 0 > 1 && t.shape.length < 2 then refuse .index
  if t.stride 0 > 1 && t.stride 1 > 1 then compact t else pure t

def grid (m n : Int) : Grid := .computed fun bs => do
  return [(← Grid.ceilDiv m (← Grid.argument bs "BLOCK_M")) * (← Grid.ceilDiv n (← Grid.argument bs "BLOCK_N")),
    ← Grid.argument bs "SPLIT_K"]

def matmul (a b : Tensor) (accumulated precision : Value) : Host Tensor := do
  let a ← aligned a
  let b ← aligned b
  demand ((← dimension a 1) == (← dimension b 0)) "incompatible dimensions"
  let (m, k) ← matrixShape a
  let (_, n) ← matrixShape b
  let type ← higher a.type b.type
  let c ← blank type [m, n]
  let inner : Scalar ← match accumulated with
    | .plain .none => pure (if ordered.contains type then .fp32 else .int32)
    | .elementType e => pure (accumulator e)
    | _ => complain .assertion "dot_out_dtype must be a torch.dtype"
  launchTuned (kernel (← read) a m n k) (grid m n) (MatrixProducts.operands a b c m n k)
    [("dot_out_dtype", .plain (.ty (.scalar inner))), ("allow_tf32", precision), ("GROUP_M", 8), ("AB_DTYPE", true)]
  return c

def program : Program := {
  load := loadKernels Kernels.tunedProduct
  functions := [
    ("get_higher_dtype", .plain ["a", "b"] fun a b => do
      return .elementType (← higher (← elementType a) (← elementType b))),
    ("get_configs_io_bound", .action do return .list ((memoryBound (← isHip)).map .config)),
    ("matmul", .positional ["a", "b", opt "dot_out_dtype" .none, opt "allow_tf32" true] fun a b accumulated precision => do
      return ← matmul (← tensor a) (← tensor b) accumulated precision)]
  values := [("_ordered_datatypes", pure (.list (ordered.map .elementType)))] }

end TileKernel.Host.TunedProducts
