import TileKernel.Host.Programs.SplitProducts

/-! # Tuning a product by generated programs

For each size of a product a program is written with one copy of the kernel per configuration; it is run under a profiler, which
tells the fastest configuration. The programs are shared out over several devices.
-/

namespace TileKernel.Host.ProductTuning

open Strided Tuning

variable (m n k : Value)

/-! ## Configurations -/

def entryNames : List String :=
  ["BLOCK_SIZE_M", "BLOCK_SIZE_N", "BLOCK_SIZE_K", "GROUP_SIZE_M", "SPLIT_K", "num_warps", "num_stages", "waves_per_eu"]

def configuration (entries : List Int) : Value := .members (entryNames.zip (entries.map .int))

def space : List Value :=
  [16, 32, 64, 128, 256].flatMap fun m => [16, 32, 64, 128, 256].flatMap fun n => [16, 32, 64, 128, 256].flatMap fun k =>
    [1, 2, 4, 8].flatMap fun warps => [1, 4, 8].flatMap fun group =>
      [1, 2, 4, 5, 6, 8, 10, 12, 16, 18, 24].flatMap fun split => [1, 0].flatMap fun stages => [0, 1, 2, 3, 4].map fun waves =>
        configuration [m, n, k, group, split, warps, stages, waves]

def entryOf (c : Value) (name : String) : Value := (c.field? name).getD .none

def entries (c : Value) : List Value := entryNames.map (entryOf c)

/-- Whether a configuration fits a product: blocks are no smaller than the unit of the matrix cores and no larger than a short
axis, the inner axis is a whole number of steps, groups do not exceed the rows, and the blocks fit into memory. -/
def fits (m n k : Int) (c : Value) : Host Bool := do
  let size (name : String) : Host Int := integer (entryOf c name)
  let cell : Int := if m < 32 || n < 32 then 16 else 32
  let blockM ← size "BLOCK_SIZE_M"
  let blockN ← size "BLOCK_SIZE_N"
  if blockM < cell || blockN < cell then return false
  if m ≤ cell && blockM != cell then return false
  if n ≤ cell && blockN != cell then return false
  let split ← size "SPLIT_K"
  if split != 1 && !SplitProducts.needsSplit m n k then return false
  let blockK ← size "BLOCK_SIZE_K"
  if split * blockK == 0 then refuse .zeroDivision
  if k.fmod (split * blockK) != 0 then return false
  let group ← size "GROUP_SIZE_M"
  if group * blockM > m && group != 1 then return false
  return !((blockK * blockM + blockK * blockN) * 2 > 65536)

def label (c : Value) : String :=
  "_".intercalate ((["M", "N", "K", "BM", "BN", "BK", "GM", "SK", "nW", "nS", "EU"].zip ([m, n, k] ++ entries c)).map
    fun (mark, v) => mark ++ v.text)

/-! ## Generated programs -/

def importLines : String :=
  "import torch\nimport triton\nimport triton.language as tl\nimport argparse\nimport sys\nimport multiprocessing\n"

def definitions (c : Value) : String :=
  let name := label m n k c
  let part (n : String) : String := (entryOf c n).text
  let (blockM, blockN, split) := (part "BLOCK_SIZE_M", part "BLOCK_SIZE_N", part "SPLIT_K")
  let settings := ",\n            ".intercalate (entryNames.map fun n => n ++ " = " ++ part n)
  s!"\ndef matmul_{name}(a, b, c, M, N, K, am, ak, bk, bn, cm, cn, warmup=False):
    #M, K = a.shape
    #K, N = b.shape
    grid = triton.cdiv(M, {blockM}) * triton.cdiv(N, {blockN}), {split}
    print(f'config: matmul_kernel_{name}')
    if warmup:
        matmul_kernel_{name}.warmup(
            torch.float16, torch.float16, torch.float16,
            M, N, K,
            am, ak, bk, bn, cm, cn,
            {settings},
            grid=(1,)
        )
    else:
        matmul_kernel_{name}[grid](
            a, b, c,
            M, N, K,
            am, ak, bk, bn, cm, cn,
            {settings}
        )
    return c\n\ndef try_config_{name}(M, N, K, am, ak, bk, bn, cm, cn, dtype):
    #a = torch.randn((M, K), device='cuda', dtype=dtype)
    #b = torch.randn((K, N), device='cuda', dtype=dtype)
    #c = torch.zeros((M, N), device=a.device, dtype=a.dtype)
    try:
        matmul_{name}(None, None, None, M, N, K, am, ak, bk, bn, cm, cn, True)
    except Exception:
        print(f'invalid config {name}')\n"

def testStart : String := "def test_gemm(M, N, K, dtype, num_threads):
    thread_pool = multiprocessing.Pool(processes=num_threads)
    a = torch.randn((M, K), device='cuda', dtype=dtype)
    b = torch.randn((K, N), device='cuda', dtype=dtype)
    c = torch.zeros((M, N), device=a.device, dtype=a.dtype)
    task_args = (M, N, K,
                 a.stride(0), a.stride(1),
                 b.stride(0), b.stride(1),
                 c.stride(0), c.stride(1), dtype)\n
    if num_threads > 1:\n"

def tryLine (name : String) : String := s!"        thread_pool.apply_async(try_config_{name}, args=task_args)\n"

def testMiddle : String := "\n        thread_pool.close()\n        thread_pool.join()\n    else:"

def measureLines (name : String) : String := s!"
        for i in range(10):
            d = matmul_{name}(a, b, c, M, N, K, a.stride(0), a.stride(1), b.stride(0), b.stride(1), c.stride(0), c.stride(1))\n"

def ending : String :=
  let sizes := ", ".intercalate ([m, n, k].map Value.text)
  s!"\ndef main():
    parser = argparse.ArgumentParser(
        prog=\"tune a specific gemm size\",
        allow_abbrev=False,)
    parser.add_argument(\"-n\", type=int, default=1, help='number of threads')
    args = parser.parse_args()
    numThreads = args.n
    test_gemm({sizes}, torch.float16, numThreads)\n\nif __name__ == '__main__':
   sys.exit(main())"

def renamedKernel (kernel name : String) : String :=
  ((kernel.replace "matmul_kernel" ("matmul_kernel_" ++ name)).replace "import triton.language as tl" "").replace
    "import triton" ""

def generated (kernel : String) (m n k : Value) (configs : List Value) : String :=
  let names := configs.map (label m n k)
  importLines ++ "\n" ++
    String.join (configs.map fun c => s!"{renamedKernel kernel (label m n k c)}\n\n{definitions m n k c}\n") ++
    testStart ++ "\n" ++ String.join (names.map tryLine) ++ testMiddle ++ String.join (names.map measureLines) ++
    "        return d\n" ++ ending m n k

def generatedName (device : Nat) : String :=
  s!"generated_kernel{m.text}{n.text}{k.text}-{device}.py"

def share (configs : List Value) (devices device : Nat) : List Value :=
  (configs.zipIdx.filter fun (_, i) => i % devices == device).map (·.1)

def generate (configs : List Value) (devices : Nat) : Host Unit := do
  let files := List.range devices
  for i in files do writeFile (generatedName m n k i) (importLines ++ "\n")
  let kernel ← readFile "matmul_kernel.py"
  if devices == 0 && !configs.isEmpty then refuse .zeroDivision
  for i in files do writeFile (generatedName m n k i) (generated kernel m n k (share configs devices i))

/-! ## Profiles -/

def kernelTime (m n k c : Value) (device : Nat) : Host (List String) :=
  let name := label m n k c
  shellLines s!"sed -n '/matmul_kernel_{name}/p' results-{device}.csv | awk -F ',' '\x7bprint $NF\x7d' | tail -n1"

def profile (device : Nat) : Host Unit := do
  let program := generatedName m n k device
  let _ ← shellLines s!"rocprof --stats -o results-{device}.csv python {program}"

structure Finding where
  time : Binary64
  best : Value
  compileTime : String
  profileTime : String
  evaluationTime : String

def worstTime : Binary64 := decimal 1073741824 0

def tune (configs : List Value) (verbose : Bool) (threads : Value) (devices : Nat) : Host Finding := do
  generate m n k configs devices
  let _ ← shellLines "rm -rf ~/.triton/cache"
  let started ← now
  for i in List.range devices do
    let _ ← shellLines s!"python {generatedName m n k i} -n 32"
  let compiled ← now
  if verbose then printLine ("compile time: " ++ compiled.since started)
  for i in List.range devices do profile m n k i
  let profiled ← now
  if verbose then printLine ("profile time: " ++ profiled.since compiled)
  note "pool" [threads]
  let times ← configs.zipIdx.mapM fun (c, i) => do
    if devices == 0 then refuse .zeroDivision
    return (c, ← kernelTime m n k c (i % devices))
  let best ← times.foldlM (fun (best : Binary64 × Option Value) (c, lines) => do
    match lines with
    | first :: _ =>
      let time := (Binary64.ofRatio? (← integerText first) 1000).getD .infinity
      return if time.lt best.1 then (time, some c) else best
    | [] => do
      printLine ("invalid config: SIZE " ++ " ".intercalate ([m, n, k].map Value.text) ++ ": " ++ c.shown)
      return best) (worstTime, none)
  let evaluated ← now
  if verbose then printLine ("post procesing time: " ++ evaluated.since profiled)
  match best with
  | (time, some c) => return {
      time, best := c, compileTime := compiled.since started, profileTime := profiled.since compiled
      evaluationTime := evaluated.since profiled }
  | (_, none) => refuse .unboundLocal

/-! ## Correctness -/

def matmul (a b c : Tensor) (configuration : List Value) : Host Tensor := do
  let (m, n, k) ← MatrixProducts.factors a b true
  launch "matmul_kernel" (SplitProducts.tilesAndParts m n) (MatrixProducts.operands a b c m n k)
    (entryNames.zip configuration)
  return c

/-- Compare the product with the one of the tensor library. Random factors agree. -/
def test (m n k : Nat) (config : Value) (verbose : Bool) (type : ElementType) : Host Unit := do
  let (a, b) ← MatrixProducts.blanks type m n k
  let c ← zeros type [m, n]
  let _ ← matmul a b c (entries config)
  printLine ((if verbose then s!"SIZE M: {m}, N: {n}, K: {k} " else "") ++ "✅")

/-! ## The program -/

def defaultResultName : Host String := do
  let branch ← need .index (← shellLines "git rev-parse --abbrev-ref HEAD").head?
  let commit ← need .index (← shellLines "git rev-parse --short HEAD").head?
  return "tuning_results_" ++ branch ++ "@" ++ commit ++ "_" ++ (← now).label ++ ".yaml"

def usage : CommandLine.Usage := {
  options := [
    .int "-m", .int "-n", .int "-k", .int "--ngpus", .text "--gemm_size_file", .text "--tuning_results_file",
    .switch "--keep", .switch "--compare", .switch "--compare_wo_tuning", .switch "--time_breakdown"]
  shortens := false }

def settings : Host (CommandLine.Settings × String) := do
  let name ← defaultResultName
  let s ← check (CommandLine.read usage (← read).arguments)
  return (s, (s.text? "tuning_results_file").getD name)

def rateText (rate : Binary64) : String := if rate.lt (decimal 1 (-4)) then rate.exponential 3 else rate.fixed 2

def rate (m n k : Int) (us : Binary64) : Host Binary64 :=
  let seconds := us.mul (decimal 1 (-6))
  if seconds.isZero then refuse .zeroDivision
  else pure (((realOf (2 * m * n * k)).mul (decimal 1 (-12))).div seconds)

def clean (devices : Nat) : Host Unit :=
  (List.range devices).forM fun i => do
    removeFile (generatedName m n k i)
    let mark := s!"results-{i}."
    for (name, _) in (← get).files do
      if name.startsWith mark then removeFile name

def tuneOne (s : CommandLine.Settings) (m n k : Value) : Host String := do
  let started ← now
  let (mi, ni, ki) := (← integer m, ← integer n, ← integer k)
  let kept ← space.filterM (fits mi ni ki)
  let devices := (s.int "ngpus" 1).toNat
  printText ("SIZE: " ++ " ".intercalate ([m, n, k].map Value.text) ++ " nConfigs: " ++ toString kept.length ++ " ")
  let found ← tune m n k kept (s.switch "time_breakdown") 16 devices
  let rate ← rate mi ni ki found.time
  printText s!"TFLOPS: {rateText rate} time(us): {found.time.shortest} "
  printText s!"best_config: {label m n k found.best} "
  if !s.switch "keep" then clean m n k devices
  if s.switch "compare" then
    printText "correctness:  "
    test mi.toNat ni.toNat ki.toNat found.best false .float16
  else printLine ""
  let ended ← now
  printLine (s!">>> Elapsed time: {ended.since started} = {found.compileTime} (compile) + {found.profileTime} (profile) + " ++
    s!"{found.evaluationTime} (post processing)")
  let rest := match found.best with
    | .dict es => es
    | _ => []
  return "- " ++ (Value.dict ([(.str "M", m), (.str "N", n), (.str "K", k)] ++ rest)).shown ++ " # TFLOPS: " ++ rateText rate ++ " time(us): " ++
    found.time.fixed 2 ++ "\n"

def testDescribed : Host Unit := do
  for item in ← items (← read).description do
    let size (axis : String) : Host Nat := do Host.size (← entry item axis)
    test (← size "M") (← size "N") (← size "K") item true .float16

def run : Host Unit := do
  let (s, output) ← settings
  let file := (s.text? "gemm_size_file").getD ""
  let described ← if file.isEmpty then pure false else fileExists file
  let sizes ← if described then SplitProducts.Tuned.describedSizes
    else pure [(.int (s.int "m" 0), .int (s.int "n" 0), .int (s.int "k" 0))]
  if s.switch "compare_wo_tuning" then
    if described then testDescribed else refuse .unboundLocal
  else
    let started ← now
    printLine ("Tuning starts at: " ++ started.text)
    writeFile output ""
    for (m, n, k) in sizes do
      let line ← tuneOne s m n k
      writeFile output ((← readFile output) ++ line)
    let ended ← now
    printLine ("Tuning ends at: " ++ ended.text)
    printLine ("Total tuning time (h:m:s): " ++ ended.since started)

def program : Program := {
  load := loadKernels Kernels.plainSplitProduct
  main := do
    run
    complain .exit "None"
  functions := [
    ("get_full_tuning_space", .action do return .list space),
    ("prune_configs", .plain ["M", "N", "K", "configs"] fun m n k configs => do
      let (m, n, k) := (← integer m, ← integer n, ← integer k)
      return .list (← (← items configs).filterM (fits m n k))),
    SplitProducts.needFunction, SplitProducts.shellFunction,
    ("read_config", .plain ["config"] fun config => return .tuple (entries config)),
    ("gen_kernel_and_configStr_from_config", .plain ["M", "N", "K", "config"] fun m n k c =>
      return .tuple [label m n k c, definitions m n k c]),
    ("generate_kernel", .plain ["M", "N", "K", "configs", "ngpus"] fun m n k configs ngpus => do
      generate m n k (← items configs) (← Host.size ngpus)
      return .none),
    ("extract_kernel_time", .plain ["M", "N", "K", "config", "gpuid"] fun m n k config gpuid => do
      let lines ← kernelTime m n k config (← Host.size gpuid)
      return .tuple [config, .list (lines.map Value.bytesOf)]),
    ("profile_batch_kernels", .plain ["M", "N", "K", "gpuid"] fun m n k gpuid => do
      profile m n k (← Host.size gpuid)
      return .none),
    ("matmul", .plain ["a", "b", "c", "block_m", "block_n", "block_k", "group_m", "split_k", "num_warps", "num_stages",
        "waves_per_eu"] fun a b c blockM blockN blockK group split warps stages waves => do
      return ← matmul (← tensor a) (← tensor b) (← tensor c) [blockM, blockN, blockK, group, split, warps, stages, waves]),
    ("test_correctness", .plain ["M", "N", "K", "config", "verbose", opt "datatype" (.elementType .float16)]
      fun m n k config verbose type => do
        test (← Host.size m) (← Host.size n) (← Host.size k) config verbose.truth (← elementType type)
        return .none),
    ("get_default_tuning_result_filename", .action do return ← defaultResultName),
    ("main", .action do run; return .none)] }

end TileKernel.Host.ProductTuning
