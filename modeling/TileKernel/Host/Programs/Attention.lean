import TileKernel.Host.Program
import TileKernel.Kernels.Attention

/-! # Attention

Computes attention in one tuned kernel, derives it in several, and measures both. Values are stored by rows or by columns, with
their two last axes exchanged.
-/

namespace TileKernel.Host.Attention

open Strided Tuning

variable (l : Layout)

inductive Layout where
  | byRows
  | byColumns
deriving DecidableEq

namespace Layout

def kernels : Layout → List String
  | byRows => Kernels.attention
  | byColumns => Kernels.attentionTransposed

def valueShape (z h n d : Nat) : List Nat := if l = byRows then [z, h, n, d] else [z, h, d, n]

def widthAxis : Nat := if l = byRows then 0 else 1

end Layout

def config (m n waves : Int) (early : Bool) (warps : Int) : Config :=
  { options := [("BLOCK_M", m), ("BLOCK_N", n), ("waves_per_eu", waves), ("pre_load_v", early)]
    numStages := 1, numWarps := warps }

def kernel : TunedKernel := {
  name := "_attn_fwd", key := ["Z", "H", "N_CTX", "STAGE", "BLOCK_DMODEL"]
  configs := [config 256 64 2 false 8, config 128 128 2 false 4, config 256 128 2 false 8, config 128 64 3 true 4,
    config 128 64 3 false 4] }

def headWidth (q k v : Tensor) (valueAxis : Nat) : Host Nat := do
  let width ← dimensionFromEnd q 0
  let keyWidth ← dimensionFromEnd k 0
  let valueWidth ← dimensionFromEnd v valueAxis
  demand (width == keyWidth && keyWidth == valueWidth) ""
  demand ([16, 32, 64, 128].contains keyWidth) ""
  return keyWidth

def forward (q k v : Tensor) (causal scale split : Value) : Host Value := do
  let keyWidth ← headWidth q k v l.widthAxis
  let o ← blank (if l = .byRows then v.type else q.type) q.shape
  let z ← dimension q 0
  let h ← dimension q 1
  let n ← dimension q 2
  let stage : Int := if causal.truth then 3 else 1
  let m ← blank .float32 [z * h, n]
  let grid : Grid := .computed fun b => do return [← Grid.ceilDiv n (← Grid.argument b "BLOCK_M"), z * h, 1]
  launchTuned kernel grid (.flatten [[q, k, v, scale, m, o], ← stridesOfFour [q, k, v, o], [z, h]])
    [("N_CTX", n), ("BLOCK_DMODEL", keyWidth), ("STAGE", stage)]
  let block ← check ((← lastConfig kernel.name).size "BLOCK_M")
  let rows ← check (Grid.ceilDiv n block)
  return .differentiable o (.object "_attention" [("q", q), ("k", k), ("v", v), ("o", o), ("m", m), ("rows", rows),
    ("heads", .nat (z * h)), ("scale", scale), ("width", keyWidth), ("causal", causal), ("split", split)])

def backward (kept : String → Value) (do_ : Tensor) : Host Unit := do
  demand (!((kept "split").truth && !(kept "causal").truth)) ""
  let block : Int := if ← isHip then 64 else 128
  let q ← tensor (kept "q")
  let k ← tensor (kept "k")
  let v ← tensor (kept "v")
  let do_ ← compact do_
  let dq ← zerosLike q .float32
  let dk ← blankLike k
  let dv ← blankLike v
  let delta ← blankLike (← tensor (kept "m"))
  let scaled ← blankLike do_
  let rows ← integer (kept "rows")
  let heads ← integer (kept "heads")
  if rows = 0 then refuse .zeroDivision
  let ratio := ((q.size 2 : Int).fdiv rows).fdiv block
  launch "_bwd_preprocess" (.ofSizes [rows * heads]) [kept "o", do_, scaled, delta]
    [("BLOCK_M", .int (ratio * block)), ("D_HEAD", kept "width")]
  let before := [Value.tensor q, k, v, kept "scale", kept "o", scaled]
  let after : List Value := .flatten [[kept "m", delta], ← stridesOfFour [q, k, v], [q.size 0, q.size 1, q.size 2]]
  let blocks (m : Int) : Named Value := [("BLOCK_M", m), ("BLOCK_N", block), ("BLOCK_DMODEL", kept "width"), ("num_warps", 4),
    ("num_stages", 1)]
  if !(kept "split").truth then
    launch "_bwd_kernel" (.ofSizes [heads]) (.flatten [before, [dq, dk, dv], after, [.int (ratio * rows)]])
      (blocks block ++ [("CAUSAL", kept "causal")])
  else
    let dq ← zerosLike q q.type
    launch "_bwd_kernel_dk_dv" (.ofSizes [ratio * rows, heads]) (.flatten [before, [dk, dv], after]) (blocks block)
    launch "_bwd_kernel_dq" (.ofSizes [rows, heads, 1]) (.flatten [before, [dq], after]) (blocks (2 * block) ++ [("waves_per_eu", 1)])

def operands (type : ElementType) (z h n d : Nat) (valueShape : Nat → Nat → Nat → Nat → List Nat) :
    Host (Tensor × Tensor × Tensor) := do
  let q ← blank type [z, h, n, d]
  let k ← blank type [z, h, n, d]
  return (q, k, ← blank type (valueShape z h n d))

def half : Value := decimal 5 (-1)

def testForward : Function :=
  .plain ["Z", "H", "N_CTX", "D_HEAD", "causal", opt "dtype" (.elementType .float16)] fun z h n d causal type => do
    let (q, k, v) ← operands (← elementType type) (← size z) (← size h) (← size n) (← size d) l.valueShape
    let _ ← forward l q k v causal half false
    return .none

def testBackward : Function :=
  .plain ["Z", "H", "N_CTX", "D_HEAD", opt "dtype" (.elementType .float16)] fun z h n d type => do
    let (q, k, v) ← operands (← elementType type) (← size z) (← size h) (← size n) (← size d) Layout.byRows.valueShape
    let o ← forward l q k v true (if l = .byRows then half else .tuple [0, 5]) true
    derive backward o (← blankLike q)
    return .none

def libraryVersion : Host (Option Nat) := do
  let names := (← read).attentionFunctions
  return if names.contains "flash_attn_qkvpacked_func" then some 2 else if names.contains "flash_attn_func" then some 1 else none

def operations (z h n d : Int) (causal backward : Bool) : Binary64 :=
  let one := [z, h, n, n, d].foldl (fun x m => x.mul (realOf m)) (decimal 2 0)
  let both := (decimal 2 0).mul one
  let half := if causal then both.mul (decimal 5 (-1)) else both
  if backward then half.mul (decimal 25 (-1)) else half

def benchmark : Function :=
  .plain ["BATCH", "H", "N_CTX", "D_HEAD", "causal", "mode", "provider", opt "dtype" (.elementType .float16),
      opt "device" "cuda"] fun z h n d causal mode provider type _ => do
    let mode := (mode.str?).getD ""
    demand (["fwd", "bwd"].contains mode) ""
    let derived := mode == "bwd"
    let causal : Value := if derived then true else causal
    let z ← size z
    let h ← size h
    let n ← size n
    let d ← size d
    let type ← elementType type
    let step : Host Unit ← match provider.str? with
      | some "triton" => do
        let (q, k, v) ← operands type z h n d l.valueShape
        let q ← if !derived && l = .byRows then converted q .float16 else pure q
        let k ← if !derived && l = .byRows then converted k .float16 else pure k
        let run := forward l q k v causal (decimal 13 (-1)) derived
        if derived then
          let o ← run
          let do_ ← blankLike (← tensor o)
          pure (derive backward o do_)
        else pure (do let _ ← run)
      | some "flash" => do
        if (← libraryVersion).isNone then complain .value "unknown FLASH_VER = None"
        pure (pure ())
      | _ => refuse .unboundLocal
    match ← measure {} step with
    | [ms] => return ((operations z h n d causal.truth derived).div ms).mul (decimal 1 (-9))
    | _ => refuse .type

def places : List (List Int) :=
  [[16, 16, 1024], [8, 16, 2048], [4, 16, 4096], [2, 16, 8192], [1, 16, 16384], [4, 48, 1024], [4, 48, 2048], [4, 48, 4096],
   [4, 48, 8192], [4, 48, 16384]]

def modes : Layout → List (String × Nat × Bool)
  | .byRows => [("fwd", 128, false), ("fwd", 128, true), ("fwd", 64, false), ("fwd", 64, true), ("bwd", 64, true)]
  | .byColumns => [("fwd", 128, false), ("fwd", 128, true), ("fwd", 64, false), ("fwd", 64, true)]

def benchmarks (library : Option Nat) : List Benchmark := (modes l).map fun (mode, d, causal) =>
  let width := s!"d{d}"
  let parts := if l = .byRows then [mode, width] else [width, mode]
  { name := "-".intercalate (["fused-attention"] ++ parts) ++ "-causal=" ++ (Value.bool causal).text
    axes := ["BATCH", "H", "N_CTX"], places := places.map fun p => .tuple (p.map .int), lineArgument := "provider"
    lines := [.str "triton"] ++ (library.map fun _ => Value.str "flash").toList
    lineNames := ["Triton"] ++ (library.map fun n => s!"Flash-{n}").toList
    styles := [("red", "-"), ("blue", "-")], yLabel := "ms"
    fixed := [("D_HEAD", d), ("dtype", .elementType .float16), ("mode", mode), ("causal", causal)] }

def program : Program := {
  load := loadKernels l.kernels
  main := do
    reportFunction { savePath := ".", printData := true } (benchmarks l (← libraryVersion)) (benchmark l)
  functions := [
    ("attention", .positional ["q", "k", "v", "causal", "sm_scale", opt "split_kernel" false] fun q k v causal scale split => do
      forward l (← tensor q) (← tensor k) (← tensor v) causal scale split),
    ("test_op_fwd", testForward l), ("test_op_bwd", testBackward l), ("bench_flash_attention.fn", benchmark l)]
  values := [
    ("FLASH_VER", do return ((← libraryVersion).map Value.nat).getD .none),
    ("HAS_FLASH", do return (← libraryVersion).isSome)]
  methods := [("backward", backwardMethod fun _ => backward)] }

end TileKernel.Host.Attention

/-! ## Attention without a matrix of scores -/

namespace TileKernel.Host.FlashAttention

open Strided

def derivedBlock : Nat := 128

def blocksOf (n block : Nat) : Nat := (n + block - 1) / block

def forward (q k v : Tensor) (causal scale parallel : Value) : Host Value := do
  if (← read).machine.capability.1 < 8 then
    complain .runtime "Flash attention currently only supported for compute capability >= 80"
  let block := if ← isHip then 64 else 128
  let keyWidth ← Attention.headWidth q k v 0
  let o ← blankLike q
  let n ← dimension q 2
  let heads := q.size 0 * q.size 1
  let l ← blank .float32 [heads, n]
  launch "_fwd_kernel" (.ofSizes [blocksOf n block, heads, 1])
    (.flatten [[q, k, v, scale, l, o], ← stridesOfFour [q, k, v, o], [q.size 0, q.size 1, n]])
    [("BLOCK_M", block), ("BLOCK_N", 64), ("BLOCK_DMODEL", keyWidth), ("IS_CAUSAL", causal),
     ("num_warps", if keyWidth ≤ 64 then 4 else 8), ("num_stages", 4)]
  return .differentiable o (.object "_attention" [("q", q), ("k", k), ("v", v), ("o", o), ("l", l), ("heads", heads),
    ("scale", scale), ("width", keyWidth), ("causal", causal), ("parallel", parallel)])

def backward (kept : String → Value) (do_ : Tensor) : Host Unit := do
  let q ← tensor (kept "q")
  let k ← tensor (kept "k")
  let v ← tensor (kept "v")
  let o ← tensor (kept "o")
  let l ← tensor (kept "l")
  let parallel := kept "parallel"
  let copies := blocksOf (← dimension k 2) derivedBlock
  let do_ ← compact do_
  let dq ← if parallel.truth then zeros q.type (copies :: q.shape) else zerosLike q .float32
  let dk ← blankLike k
  let dv ← blankLike v
  let delta ← blankLike l
  let heads ← size (kept "heads")
  launch "_bwd_preprocess" (.ofSizes [blocksOf (q.size 2) derivedBlock * heads])
    [o, do_, delta] [("BLOCK_M", derivedBlock), ("D_HEAD", kept "width")]
  launch "_bwd_kernel" (.ofSizes [heads, if parallel.truth then (copies : Int) else 1])
    (.flatten [[q, k, v, kept "scale", o, do_, dq, dk, dv, l, delta, o.count], ← stridesOfFour [q, k, v],
      [q.size 0, q.size 1, q.size 2]])
    [("BLOCK_M", derivedBlock), ("BLOCK_N", derivedBlock), ("BLOCK_DMODEL", kept "width"),
     ("SEQUENCE_PARALLEL", parallel), ("CAUSAL", kept "causal"), ("num_warps", 8), ("num_stages", 1)]

def program : Program := {
  load := loadKernels Kernels.flashAttention
  functions := [
    ("attention", .positional ["q", "k", "v", "causal", "sm_scale", opt "sequence_parallel" false]
      fun q k v causal scale parallel => do forward (← tensor q) (← tensor k) (← tensor v) causal scale parallel)]
  methods := [("backward", backwardMethod fun _ => backward)] }

end TileKernel.Host.FlashAttention
