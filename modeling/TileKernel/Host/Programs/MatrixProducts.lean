import TileKernel.CommandLine.Options
import TileKernel.Host.Program
import TileKernel.Kernels.Products

/-! # Products of matrices

Programs that multiply matrices with tuned kernels: by pointers to elements, by pointers to blocks, and by descriptors of
tensors, which only newer devices have.
-/

namespace TileKernel.Host.MatrixProducts

open Strided Tuning

def blocks (m n k group stages warps : Int) (more : Named Lowering.Value := []) : Config :=
  { options := [("BLOCK_SIZE_M", .int m), ("BLOCK_SIZE_N", .int n), ("BLOCK_SIZE_K", .int k), ("GROUP_SIZE_M", .int group)] ++ more
    numStages := stages, numWarps := warps }

def numberedConfigs (first : Config) : List Config :=
  [first, blocks 64 256 32 8 4 4, blocks 128 128 32 8 4 4, blocks 128 64 32 8 4 4, blocks 64 128 32 8 4 4,
   blocks 128 32 32 8 4 4, blocks 64 32 32 8 5 2, blocks 32 64 32 8 5 2]

def namedConfigs : List Config :=
  let waves (n : Int) : Named Lowering.Value := [("waves_per_eu", n)]
  [blocks 128 256 16 1 0 4 (waves 2), blocks 256 256 16 4 0 8 (waves 2), blocks 128 128 32 1 0 8 (waves 2),
   blocks 64 128 32 8 0 4 (waves 3), blocks 64 64 32 1 0 4 (waves 8)]

def tiles (m n : Int) : Grid := .computed fun b => do
  return [(← Grid.ceilDiv m (← Grid.argument b "BLOCK_SIZE_M")) * (← Grid.ceilDiv n (← Grid.argument b "BLOCK_SIZE_N"))]

def operandNames (result : String) : List String :=
  ["a_ptr", "b_ptr", result ++ "_ptr", "M", "N", "K", "stride_am", "stride_ak", "stride_bk", "stride_bn",
   s!"stride_{result}m", s!"stride_{result}n"]

def operands (a b c : Tensor) (m n k : Nat) : List Value :=
  [a, b, c, m, n, k, a.stride 0, a.stride 1, b.stride 0, b.stride 1, c.stride 0, c.stride 1]

def factors (a b : Tensor) (whole : Bool) : Host (Nat × Nat × Nat) := do
  demand ((← dimension a 1) == (← dimension b 0)) (if whole then "Incompatible dimensions" else "incompatible dimensions")
  demand (!whole || a.isContiguous) "Matrix A must be contiguous"
  demand (!whole || b.isContiguous) "Matrix B must be contiguous"
  let (m, _) ← matrixShape a
  let (k, n) ← matrixShape b
  return (m, n, k)

def blanks (type : ElementType) (m n k : Nat) : Host (Tensor × Tensor) := do
  let a ← blank type [m, k]
  return (a, ← blank type [k, n])

def rate (m n k : Int) (ms : Binary64) : Binary64 := tera (2 * m * n * k) ms

def printComparison (ours theirs : Tensor) : Host Unit := do
  printLine ("triton_output=" ++ ours.view.text)
  printLine ("torch_output=" ++ theirs.view.text)
  printLine "✅ Triton and Torch match"

/-- The step that a provider stands for: nothing, if it is the tensor library. -/
def stepOf (provider : Value) (library : String) (step : Host Unit) : Host (Host Unit) :=
  if provider.str? == some library then pure (pure ())
  else if provider.str? == some "triton" then pure step
  else refuse .unboundLocal

def measureRate (provider : Value) (library : String) (m n k : Int) (step : Host Unit) : Host Value := do
  measurePoint (decimal 100 0) (rate m n k) (← stepOf provider library step)

def comparison (axes : List String) (places : List (List Int)) (library label : String) : Benchmark := {
  name := "matmul-performance", axes, places := places.map fun p => .list (p.map .int)
  lineArgument := "provider", lines := [library, "triton"], lineNames := [label, "Triton"]
  yLabel := "TFLOPS" }

/-! ## Pointers to elements -/

namespace ByElement

def kernel (hip : Bool) : TunedKernel := {
  name := "matmul_kernel", key := ["M", "N", "K"]
  configs := if hip then namedConfigs else numberedConfigs (blocks 128 256 64 8 3 8)
  heuristics := [("EVEN_K", Heuristic.multiple "K" "BLOCK_SIZE_K")] }

def matmul (a b : Tensor) (activation : Value) : Host Tensor := do
  let (m, n, k) ← factors a b true
  let c ← blank a.type [m, n]
  launchTuned (kernel (← isHip)) (tiles m n) (operands a b c m n k) [("ACTIVATION", activation)]
  return c

def test (m n k : Nat) : Host Unit := do
  let (a, b) ← blanks .float16 m n k
  let ours ← matmul a b ""
  printComparison ours (← product a b)

def benchmark (verbose : Bool) : Function := .plain ["M", "N", "K", "provider"] fun m n k provider => do
  let m ← integer m
  let n ← integer n
  let k ← integer k
  let (a, b) ← blanks .float16 m.toNat n.toNat k.toNat
  let v ← measureRate provider "rocblas" m n k do let _ ← matmul a b ""
  if verbose && provider.str? == some "triton" then
    let c ← lastConfig "matmul_kernel"
    printLine ("SIZE: " ++ ",".intercalate ([m, n, k].map toString) ++ "   Best tuning config: (" ++ c.text ++ ")")
  return v

def sizes : Benchmark :=
  { comparison ["M", "N", "K"] [[1024, 1024, 1024], [2048, 2048, 2048], [4096, 4096, 4096], [8192, 8192, 8192],
      [9728, 8192, 65536]] "rocblas" "rocBLAS" with
    styles := [("green", "-"), ("blue", "-")] }

def usage : CommandLine.Usage := { options := [.switch "-v"], shortens := false }

def verbosity : Host Bool := do return (← check (CommandLine.read usage (← read).arguments)).switch "v"

def run : Host Unit := do
  let verbose ← verbosity
  reportFunction { printData := true, showPlots := true } [sizes] (benchmark verbose)

def program : Program := {
  load := loadKernels Kernels.matrixProduct
  main := do
    run
    complain .exit "None"
  functions := [
    ("matmul", .plain ["a", "b", opt "activation" ""] fun a b activation => do
      return ← matmul (← tensor a) (← tensor b) activation),
    ("test_correctness", .plain ["M", "N", "K", "in_dtype", "out_dtype"] fun m n k _ _ => do
      test (← size m) (← size n) (← size k)
      return .none),
    ("benchmark.fn", benchmark false),
    ("parse_args", .action do return .record "Namespace" [("v", ← verbosity)]),
    ("main", .action do run; return .none)]
  values := [("verbose", return false)] }

end ByElement

/-! ## Pointers to blocks -/

namespace ByBlock

def kernel : TunedKernel := {
  name := "matmul_kernel_with_block_pointers", key := ["M", "N", "K"], configs := numberedConfigs (blocks 128 256 64 8 4 4) }

def matmul (a b : Tensor) : Host Tensor := do
  let (m, n, k) ← factors a b true
  let c ← blank a.type [m, n]
  launchTuned kernel (tiles m n) (operands a b c m n k) []
  return c

def program : Program := {
  load := do
    loadKernels Kernels.blockPointerProduct
    let (a, b) ← blanks .float16 512 512 512
    let ours ← matmul a b
    printComparison ours (← product a b)
  functions := [("matmul", .plain ["a", "b"] fun a b => do return ← matmul (← tensor a) (← tensor b))] }

end ByBlock

/-! ## Descriptors -/

def demandDescriptors : Host Unit := do
  if (← read).machine.capability.1 < 9 then
    printLine "Skipping TMA benchmark for GPU with compute capability < 9"
    complain .exit "0"

def ordered (rows columns : Nat) (byColumns : Bool) : Host (Tensor × Value) := do
  if byColumns then return (flipped (← blank .float16 [columns, rows]), .list [0, 1])
  else return (← blank .float16 [rows, columns], .list [1, 0])

def descriptorKernel : TunedKernel := {
  name := "matmul_kernel", key := ["M", "N", "K"], configs := [blocks 128 128 64 8 7 4] }

def descriptorStyles : List (Value × Value) :=
  [("green", "-"), ("green", "--"), ("blue", "-"), ("blue", "--")]

namespace ByDescriptor

def orderItem (v : Value) (i : Nat) : Host Value := do need .index (← need .type v.items?)[i]?

def matmul (a b : Tensor) (aOrder bOrder : Value) : Host Tensor := do
  let (m, n, k) ← factors a b false
  let z ← blank .float16 [m, n]
  let orders := [("A_ORDER_0", ← orderItem aOrder 0), ("A_ORDER_1", ← orderItem aOrder 1), ("B_ORDER_0", ← orderItem bOrder 0),
    ("B_ORDER_1", ← orderItem bOrder 1)]
  launchTuned descriptorKernel (tiles m n) [] ((operandNames "z").zip (operands a b z m n k) ++ orders)
  return z

def problems : List (Nat × Nat × Nat × Bool × Bool) :=
  [(2048, 512, 512, false, true), (2048, 1024, 1024, false, false), (2048, 2048, 2048, true, false),
   (2048, 4096, 4096, true, true)]

def problemValues : Nat × Nat × Nat × Bool × Bool → List Value
  | (m, n, k, ta, tb) => [m, n, k, ta, tb]

def run (m n k : Nat) (ta tb : Bool) : Host Unit := do
  let (a, aOrder) ← ordered m k ta
  let (b, bOrder) ← ordered k n tb
  let _ ← matmul a b aOrder bOrder

def test : Host Unit := problems.forM fun p => do
  printLine (" ".intercalate ((problemValues p).map Value.text))
  let (m, n, k, ta, tb) := p
  run m n k ta tb

def benchmark : Function := .plain ["M", "N", "K", "TRANS_A", "TRANS_B", "provider"] fun m n k transA transB provider => do
  let m ← size m
  let n ← size n
  let k ← size k
  let (a, aOrder) ← ordered m k transA.truth
  let (b, bOrder) ← ordered k n transB.truth
  measureRate provider "cublas" m n k do let _ ← matmul a b aOrder bOrder

def program : Program := {
  load := do
    demandDescriptors
    loadKernels Kernels.descriptorProduct
    test
  main := do
    reportFunction { printData := true }
      [{ comparison ["M", "N", "K", "TRANS_A", "TRANS_B"] [] "cublas" "cuBLAS" with
         places := problems.map fun p => .list (problemValues p), styles := descriptorStyles }] benchmark
  functions := [
    ("matmul", .plain ["a", "b", "a_order", "b_order"] fun a b aOrder bOrder => do
      return ← matmul (← tensor a) (← tensor b) aOrder bOrder),
    ("test_matmul", .action do test; return .none),
    ("benchmark.fn", benchmark)]
  values := [("problem_list", return .list (problems.map fun p => .list (problemValues p)))] }

end ByDescriptor

namespace ByDescriptorStore

def matmul (a b : Tensor) : Host Tensor := do
  let (m, n, k) ← factors a b false
  demand (k % 32 == 0) "We don't check memory-out-of-bounds with K so K must be divisible by BLOCK_SIZE_K"
  let c ← blank .float32 [m, n]
  launchTuned descriptorKernel (tiles m n) [] ((operandNames "c").zip (operands a b c m n k))
  return c

def benchmark : Function := .plain ["M", "N", "K", "provider"] fun m n k provider => do
  let m ← size m
  let n ← size n
  let k ← size k
  let (a, _) ← ordered m k false
  let (b, _) ← ordered k n true
  measureRate provider "cublas" m n k do let _ ← matmul a b

def program : Program := {
  load := do
    demandDescriptors
    loadKernels Kernels.descriptorStoreProduct
    let (a, _) ← ordered 512 512 false
    let (b, _) ← ordered 512 512 true
    let _ ← matmul a b
  main := do
    reportFunction { printData := true }
      [{ comparison ["M", "N", "K"] [[2048, 512, 512], [2048, 1024, 1024], [2048, 2048, 2048], [2048, 4096, 4096],
           [2048, 8192, 8192]] "cublas" "cuBLAS" with styles := descriptorStyles }] benchmark
  functions := [
    ("matmul", .plain ["a", "b"] fun a b => do return ← matmul (← tensor a) (← tensor b)),
    ("benchmark.fn", benchmark)] }

end ByDescriptorStore

end TileKernel.Host.MatrixProducts

/-! ## Many products in one launch -/

namespace TileKernel.Host.GroupedProducts

open Strided Tuning

def blocks (m n k programs : Int) (stages : Int := 2) (warps : Int := 4) : Config :=
  { options := [("BLOCK_SIZE_M", m), ("BLOCK_SIZE_N", n), ("BLOCK_SIZE_K", k), ("NUM_SM", programs)]
    numStages := stages, numWarps := warps }

def kernel (hip : Bool) : TunedKernel := {
  name := "grouped_matmul_kernel", key := ["SUM_M", "SUM_N", "SUM_K"]
  configs := if hip then
      [blocks 32 32 64 110 0 2, blocks 32 128 64 440 0 4, blocks 64 32 64 440 0 4, blocks 64 128 64 220 0 4,
       blocks 32 32 64 330 0 2]
    else [blocks 128 128 32 84, blocks 128 128 32 128, blocks 64 64 32 84, blocks 64 64 32 128] }

def grid : Grid := .computed fun b => do return [← Grid.argument b "NUM_SM"]

structure Group where
  aAddresses : List Int := []
  bAddresses : List Int := []
  cAddresses : List Int := []
  sizes : List Int := []
  strides : List Int := []
  results : List Tensor := []

def Group.add (g : Group) (a b c : Tensor) (m n k : Nat) (strides : List Int) : Host Group := do
  return {
    aAddresses := g.aAddresses ++ [← addressOf a], bAddresses := g.bAddresses ++ [← addressOf b]
    cAddresses := g.cAddresses ++ [← addressOf c], sizes := g.sizes ++ [(m : Int), n, k], strides := g.strides ++ strides
    results := g.results ++ [c] }

def Group.tensors (g : Group) : Host (List Value) := do
  return [← vectorOf .int64 g.aAddresses, ← vectorOf .int64 g.bAddresses, ← vectorOf .int64 g.cAddresses,
    ← vectorOf .int32 g.sizes, ← vectorOf .int32 g.strides]

def multiply (as_ bs : List Tensor) : Host (List Tensor) := do
  if as_.length != bs.length then throw .assertion
  let (group, sums) ← (as_.zip bs).foldlM (fun (acc : Group × Int × Int × Int) (a, b) => do
    let (g, sm, sn, sk) := acc
    if (← dimension a 1) != (← dimension b 0) then throw .assertion
    let (m, _) ← matrixShape a
    let (k, n) ← matrixShape b
    let c ← blank a.type [m, n]
    return (← g.add a b c m n k [a.stride 0, b.stride 0, c.stride 0], sm + m, sn + n, sk + k)) ({}, 0, 0, 0)
  let (sm, sn, sk) := sums
  launchTuned (kernel (← isHip)) grid ((← group.tensors) ++ [.nat as_.length])
    [("SUM_M", sm), ("SUM_N", sn), ("SUM_K", sk)]
  return group.results

def launchPrepared (args : List Value) : Host Unit := do launchTuned (kernel (← isHip)) grid args []

def benchmark : Function := .plain ["N", "provider"] fun n provider => do
  let n ← size n
  let count := 4
  let group ← (List.range count).foldlM (fun (g : Group) _ => do
    let a ← blank .float16 [n, n]
    let b ← blank .float16 [n, n]
    let c ← blank .float16 [n, n]
    g.add a b c n n n [n, n, n]) {}
  let prepared ← group.tensors
  let total : Value := .nat (count * n)
  let step : Host Unit ← match provider.str? with
    | some "cublas" => pure (pure ())
    | some "triton" => pure (launchPrepared (prepared ++ [Value.nat count, total, total, total]))
    | _ => refuse .unboundLocal
  measurePoint (decimal 100 0) id step

def sizes : Benchmark := {
  name := "group-gemm-performance", axes := ["N"], places := (List.range 4).map fun i => .nat (Nat.pow 2 (i + 7))
  lineArgument := "provider", lines := ["cublas", "triton"], lineNames := ["cuBLAS", "Triton"]
  styles := [("green", "-"), ("blue", "-")], yLabel := "runtime(ms)" }

def tensorList (v : Value) : Host (List Tensor) := do (← need .type v.items?).mapM tensor

def firstSizes : List Nat := [1024, 512, 256, 128]

def program : Program := {
  load := do
    loadKernels Kernels.groupedProduct
    let pairs ← firstSizes.mapM fun n => do
      let a ← blank .float16 [n, n]
      return (a, ← blank .float16 [n, n])
    let _ ← multiply (pairs.map (·.1)) (pairs.map (·.2))
  main := reportFunction { printData := true, showPlots := true } [sizes] benchmark
  functions := [
    ("group_gemm_fn", .plain ["group_A", "group_B"] fun groupA groupB => do
      return .list ((← multiply (← tensorList groupA) (← tensorList groupB)).map .tensor)),
    ("triton_perf_fn", {
      params := ["a_ptrs", "b_ptrs", "c_ptrs", "sizes", "lds", "group_size", "sum_m", "sum_n", "sum_k"]
      run := fun args => do launchPrepared (args.bound.map (·.2)); return .none }),
    ("torch_perf_fn", .plain ["group_A", "group_B"] fun _ _ => return .none),
    ("benchmark.fn", benchmark)] }

end TileKernel.Host.GroupedProducts
