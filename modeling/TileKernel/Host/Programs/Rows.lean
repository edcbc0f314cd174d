import TileKernel.Host.Program
import TileKernel.Kernels.Rows

/-! # Programs on elements and rows

Programs that add vectors, take arcsines, drop elements at random, and compute softmax, cross entropy and normalization of rows.
Most compare their results with those of the tensor library and measure both.
-/

namespace TileKernel.Host.VectorAddition

open Strided

def add (x y : Tensor) : Host Tensor := do
  let output ← blankLike x
  demand (x.onDevice && y.onDevice && output.onDevice) ""
  launch "add_kernel" (.blocks output.count "BLOCK_SIZE") [x, y, output, output.count]
    [("BLOCK_SIZE", 1024)]
  return output

def bandwidth (size : Int) (ms : Binary64) : Binary64 := ((realOf (12 * size)).div ms).mul (decimal 1 (-6))

def benchmark : Function := .plain ["size", "provider"] fun size provider => do
  let size ← integer size
  let x ← blank .float32 [size.toNat]
  let y ← blank .float32 [size.toNat]
  let step : Host Unit ← match provider.str? with
    | some "torch" => pure (pure ())
    | some "triton" => pure (do let _ ← add x y)
    | _ => refuse .unboundLocal
  measurePoint (decimal 100 0) (bandwidth size) step

def sizes : Benchmark := {
  name := "vector-add-performance", axes := ["size"], places := (List.range 16).map fun i => .nat (Nat.pow 2 (i + 12))
  lineArgument := "provider", lines := ["triton", "torch"], lineNames := ["Triton", "Torch"]
  styles := [("blue", "-"), ("green", "-")], yLabel := "GB/s", xLog := true }

def firstSize : Nat := 98432

def printDifference (a b : Tensor) : Host Unit := do
  printLine a.view.text
  printLine b.view.text
  let d ← combine .sub (.tensor a.view) (.tensor b.view)
  let d ← check (View.unary .abs d.view)
  let m ← check (View.extreme .maximum d none)
  printLine ("The maximum difference between torch and triton is " ++ m.text)

def load : Host Unit := do
  loadKernels Kernels.vectorAdd
  let x ← blank .float32 [firstSize]
  let y ← blank .float32 [firstSize]
  let expected ← combine .add (.tensor x.view) (.tensor y.view)
  printDifference expected (← add x y)

def program : Program := {
  load, main := reportFunction { printData := true, showPlots := true } [sizes] benchmark
  functions := [
    ("add", .plain ["x", "y"] fun x y => do return ← add (← tensor x) (← tensor y)),
    ("benchmark.fn", benchmark)] }

end TileKernel.Host.VectorAddition

namespace TileKernel.Host.Arcsine

open Strided VectorAddition

def libraryPath : String := "/usr/local/cuda/nvvm/libdevice/libdevice.10.bc"

def load : Host Unit := do
  loadKernels Kernels.arcsine
  let x ← blank .float32 [firstSize]
  let output ← zeros .float32 [firstSize]
  let expected ← own (← check (View.unary .asin x.view))
  let run (output : Tensor) (more : Named Value) : Host Unit := do
    launch "asin_kernel" (.blocks expected.count "BLOCK_SIZE") [x, output, expected.count]
      ([("BLOCK_SIZE", 1024)] ++ more)
    printDifference expected output
  run output []
  run (← blankLike x) [("extern_libs", .plain (.dict ["libdevice"] [libraryPath]))]

def program : Program := { load }

end TileKernel.Host.Arcsine

variable (x : Tensor)

namespace TileKernel.Host.Dropping

open Strided

def grid (n : Nat) : Grid := .blocks n "BLOCK_SIZE"

def blockSize : Named Value := [("BLOCK_SIZE", 1024)]

def dropout (keep p : Value) : Host Tensor := do
  let output ← blankLike x
  demand x.isContiguous ""
  launch "_dropout" (grid x.count) [x, keep, output, x.count, p] blockSize
  return output

def seededDropout (p seed : Value) : Host Tensor := do
  let output ← blankLike x
  demand x.isContiguous ""
  launch "_seeded_dropout" (grid x.count) [x, output, x.count, p, seed] blockSize
  return output

def row (label : String) (t : Tensor) : List Value :=
  let zero : Element := if t.type.isReal then .real .zero else .whole 0
  let es := (t.view.elements?).getD (List.replicate t.count zero)
  .str label :: es.map fun
    | .whole n => .int n
    | .real x => .float x

def printRows (rows : List (List Value)) : Host Unit :=
  printLine ("\n".intercalate (rows.map fun r => " ".intercalate (r.map Table.entryText)))

def load : Host Unit := do
  loadKernels Kernels.dropout
  let half : Value := .float (decimal 5 (-1))
  let x ← blank .float32 [10]
  let keep ← blank .int32 [10]
  let output ← dropout x (.tensor keep) half
  printRows [row "input" x, row "keep mask" keep, row "output" output]
  let x ← blank .float32 [10]
  let first ← seededDropout x half (.int 123)
  let second ← seededDropout x half (.int 123)
  let third ← seededDropout x half (.int 512)
  printRows [row "input" x, row "output (seed = 123)" first, row "output (seed = 123)" second,
    row "output (seed = 512)" third]

def program : Program := {
  load
  functions := [
    ("dropout", .plain ["x", "x_keep", "p"] fun x xKeep p => do
      return ← dropout (← tensor x) xKeep p),
    ("seeded_dropout", .plain ["x", "p", "seed"] fun x p seed => do
      return ← seededDropout (← tensor x) p seed)] }

end TileKernel.Host.Dropping

namespace TileKernel.Host.RowSoftmax

open Strided

def composed : Host Tensor := do
  let column (t : View) : Host View := check (t.index [.slice none none none, .newAxis])
  let greatest ← check (View.extreme .maximum x.view (some 1))
  let z ← check (View.binary .sub (.tensor x.view) (.tensor (← column greatest)))
  let numerator ← check (View.unary .exp z)
  let denominator ← check (View.sum numerator (some 1))
  combine .div (.tensor numerator) (.tensor (← column denominator))

def warps (block : Nat) : Int := if block ≥ 4096 then 8 else if block ≥ 2048 then 4 else 2

def softmax : Host Tensor := do
  match x.shape with
  | [rows, columns] =>
    let block := powerAbove columns
    let y ← blankLike x
    launch "softmax_kernel" (.ofSizes [rows]) [y, x, x.stride 0, y.stride 0, columns]
      [("num_warps", warps block), ("BLOCK_SIZE", block)]
    return y
  | _ => refuse .value

def bandwidth (ms : Binary64) : Binary64 :=
  ((realOf (2 * x.count * x.type.bytes)).mul (decimal 1 (-9))).div (ms.mul (decimal 1 (-3)))

def benchmark : Function := .plain ["M", "N", "provider"] fun m n provider => do
  let x ← blank .float32 [← size m, ← size n]
  let step : Host Unit ← match provider.str? with
    | some "torch-native" => pure (pure ())
    | some "triton" => pure (do let _ ← softmax x)
    | some "torch-jit" => pure (do let _ ← composed x)
    | _ => refuse .unboundLocal
  measurePoint (decimal 100 0) (bandwidth x) step

def widths : Benchmark := {
  name := "softmax-performance", axes := ["N"], places := (List.range 98).map fun i => .nat (128 * (i + 2))
  lineArgument := "provider", lines := ["triton", "torch-native", "torch-jit"].map .str
  lineNames := ["Triton", "Torch (native)", "Torch (jit)"]
  styles := [("blue", "-"), ("green", "-"), ("green", "--")], yLabel := "GB/s"
  fixed := [("M", 4096)] }

def load : Host Unit := do
  loadKernels Kernels.softmax
  let _ ← softmax (← blank .float32 [1823, 781])
  note "set_option" ["display.max_rows", 500]

def program : Program := {
  load, main := reportFunction { printData := true, showPlots := true } [widths] benchmark
  functions := [
    ("softmax", .plain ["x"] fun x => do return ← softmax (← tensor x)),
    ("naive_softmax", .plain ["x"] fun x => do return ← composed (← tensor x)),
    ("benchmark.fn", benchmark)] }

end TileKernel.Host.RowSoftmax

namespace TileKernel.Host.CrossEntropy

open Strided Tuning

def warps (n : Int) : Int := if n < 2048 then 4 else if n < 8192 then 8 else 16

def completed (name : String) : TunedKernel := {
  name
  heuristics := [
    ("num_warps", fun b => do return .value (.int (warps (← Grid.argument b "N")))),
    ("BLOCK", Heuristic.powerOf2 "N")] }

def rows (t : Tensor) (columns : Nat) : Grid := .computed fun _ =>
  if columns = 0 then refused .zeroDivision else .ok [((t.count / columns : Nat) : Int)]

def forward (scores classes : Tensor) : Host Value := do
  demand (classes.type = .int64) "Indices are expected to be of type long."
  let n ← dimensionFromEnd scores 0
  let loss ← blank scores.type classes.shape
  let kept ← blankLike scores
  launchCompleted (completed "_forward") (rows scores n)
    [scores, kept, classes, loss, n] []
  return .differentiable loss (.object "_cross_entropy" [("kept", kept), ("classes", classes)])

def backward (get : String → Value) (dloss : Tensor) : Host Unit := do
  let kept ← tensor (get "kept")
  let n ← dimensionFromEnd kept 0
  launchCompleted (completed "_backward") (rows kept n) [kept, get "classes", dloss, n] []

def program : Program := {
  load := loadKernels Kernels.crossEntropy
  functions := [
    ("num_warps", .plain ["N"] fun n => do return .int (warps (← integer n))),
    ("cross_entropy", .positional ["logits", "indices"] fun logits indices => do
      forward (← tensor logits) (← tensor indices))]
  methods := [("backward", backwardMethod fun _ => backward)] }

end TileKernel.Host.CrossEntropy

namespace TileKernel.Host.LayerNormalization

open Strided

def warps (hip : Bool) (block : Nat) : Nat :=
  if hip then (if block ≥ 8192 then 16 else if block ≥ 4096 then 8 else if block ≥ 2048 then 4 else 2)
  else min (max (block / 256) 1) 8

def groupRows (n : Nat) : Nat := if n ≤ 1024 then 256 else if n ≤ 4096 then 128 else if n ≤ 8192 then 96 else 64

def forward (weight bias eps : Value) : Host Value := do
  let y ← blankLike x
  let rows ← asRows x
  let m := rows.size 0
  let n := rows.size 1
  let mean ← blank .float32 [m]
  let rstd ← blank .float32 [m]
  let block := min (65536 / x.type.bytes) (powerAbove n)
  if n > block then complain .runtime "This layer norm doesn't support feature dim >= 64KB."
  let numWarps := warps (← isHip) block
  launch "_layer_norm_fwd_fused" (.ofSizes [m]) [rows, y, weight, bias, mean, rstd, rows.stride 0, n, eps]
    [("BLOCK_SIZE", block), ("num_warps", numWarps), ("num_ctas", 1)]
  return .differentiable y (.object "LayerNorm" [("x", x), ("w", weight), ("b", bias), ("m", mean), ("v", rstd),
    ("BLOCK_SIZE", block), ("num_warps", numWarps), ("eps", eps)])

def backward (kept : String → Value) (dy : Tensor) : Host Unit := do
  let x ← tensor (kept "x")
  let w ← tensor (kept "w")
  let n := w.size 0
  let group := groupRows n
  let locks ← zeros .int32 [2 * group]
  let partialW ← blank x.type [group, n]
  let partialB ← blank x.type [group, n]
  let dw ← blank w.type [n]
  let db ← blank w.type [n]
  let dx ← blankLike dy
  let rows ← asRows x
  let columns := rows.size 1
  launch "_layer_norm_bwd_dx_fused" (.ofSizes [rows.size 0])
    [dx, dy, partialW, partialB, x, w, kept "b", kept "m", kept "v", locks, rows.stride 0, columns, kept "eps"]
    [("BLOCK_SIZE_N", kept "BLOCK_SIZE"), ("GROUP_SIZE_M", group), ("num_warps", kept "num_warps")]
  launch "_layer_norm_bwd_dwdb" (.blocks columns "BLOCK_SIZE_N") [partialW, partialB, dw, db, group, columns]
    [("BLOCK_SIZE_M", 32), ("BLOCK_SIZE_N", 128), ("num_ctas", 1)]

def test (m n : Nat) (type : ElementType) (eps : Value) : Host Unit := do
  let weight ← blank type [n]
  let bias ← blank type [n]
  let _ ← forward (← blank type [m, n]) weight bias eps

def usualEps : Value := decimal 1 (-5)

def bandwidth (passes : Nat) (x : Tensor) (ms : Binary64) : Binary64 :=
  ((realOf (passes * x.count * x.type.bytes)).div ms).mul (decimal 1 (-6))

def benchmark : Function :=
  .plain ["M", "N", "dtype", "provider", opt "mode" "backward", opt "eps" usualEps, opt "device" "cuda"]
    fun m n type provider mode eps _ => do
      let n ← size n
      let type ← elementType type
      let weight ← blank type [n]
      let bias ← blank type [n]
      let x ← blank type [← size m, n]
      let dy ← blankLike x
      let library : Host Value := do return ← blankLike x
      let step : Option (Host Value) ← match provider.str? with
        | some "triton" => pure (some (forward x weight bias eps))
        | some "torch" => pure (some library)
        | some "apex" => if (← read).hasFusedNorm then pure (some library) else refuse .unknownName
        | _ => pure none
      let rep := decimal 500 0
      match mode.str?, step with
      | some "forward", some f => measurePoint rep (bandwidth 2 x) do let _ ← f
      | some "backward", some f => do
        let y ← f
        measurePoint rep (bandwidth 3 x) (derive backward y dy)
      | _, _ => refuse .unboundLocal

def widths (apex : Bool) : Benchmark := {
  name := "layer-norm-forward", axes := ["N"], places := (List.range 30).map fun i => .nat (512 * (i + 2))
  lineArgument := "provider", lines := if apex then ["triton", "torch", "apex"] else ["triton", "torch"]
  lineNames := ["Triton", "Torch"] ++ if apex then ["Apex"] else []
  styles := [("blue", "-"), ("green", "-"), ("orange", "-")], yLabel := "GB/s"
  fixed := [("M", 4096), ("dtype", .elementType .float16), ("mode", "forward")] }

def load : Host Unit := do
  loadKernels Kernels.layerNorm
  test 1151 8192 .float16 usualEps

def measured : Host Unit := do
  reportFunction { savePath := ".", printData := true } [widths (← read).hasFusedNorm] benchmark

def program : Program := {
  load, main := measured
  functions := [
    ("layer_norm", .positional ["x", "normalized_shape", "weight", "bias", "eps"] fun x _ weight bias eps => do
      forward (← tensor x) weight bias eps),
    ("test_layer_norm", .plain ["M", "N", "dtype", opt "eps" usualEps, opt "device" "cuda"] fun m n type eps _ => do
      test (← size m) (← size n) (← elementType type) eps
      return .none),
    ("bench_layer_norm.fn", benchmark)]
  methods := [("backward", backwardMethod fun _ => backward)] }

end TileKernel.Host.LayerNormalization
