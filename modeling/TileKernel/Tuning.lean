import TileKernel.Launch.Dispatch

/-! # Tuning

A configuration is one way to run a kernel: values for some of its parameters, and how many warps, pipeline stages and blocks
per cluster it gets. A tuner runs a kernel in the best of several configurations, which is found by measuring when a launch brings
new values of the key parameters, and kept for later launches.
-/

namespace TileKernel.Tuning

open Lowering Constant

structure Config where
  options : Named Value := []
  numWarps : Int := 4
  numStages : Int := 2
  numCtas : Int := 1
  warpSpecialization : Bool := false
  hooked : Bool := false
deriving Inhabited

namespace Config

def text (c : Config) : String :=
  Text.commaSeparated (c.options.map (fun (k, v) => k ++ ": " ++ v.text) ++
    [s!"num_warps: {c.numWarps}", s!"num_stages: {c.numStages}"])

def option (c : Config) (name : String) : Result Value :=
  match c.options.lookup name with
  | some v => .ok v
  | none => refused .key

def size (c : Config) (name : String) : Result Int := do
  match (← c.option name).int? with
  | some n => .ok n
  | none => refused .type

def agrees (a b : Config) : Bool :=
  a.options.length == b.options.length &&
    a.options.all (fun (k, v) => (b.options.lookup k).any (equal v)) &&
    a.numWarps == b.numWarps && a.numStages == b.numStages && a.numCtas == b.numCtas &&
    a.warpSpecialization == b.warpSpecialization

end Config

/-! ## Tuning at launch -/

open Launch

abbrev Timing := List Constant.Number

namespace Timing

def never : Timing := List.replicate 3 (.float .infinity)

def better : Timing → Timing → Bool
  | [], [] => false
  | [], _ :: _ => true
  | _ :: _, [] => false
  | a :: as, b :: bs =>
    match compareNumbers a b with
    | some .lt => true
    | some .eq => better as bs
    | _ => false

end Timing

inductive TuningEvent where
  | bench
  | run (args : List Argument) (named : Bindings)
  | warmup (args : List Argument) (named : Bindings)
  | hook (config : Nat) (bindings : Bindings)
  | model (named : Bindings)

abbrev EarlyCheck := List Config → Bindings → Result (List Config × List Nat)

abbrev Model := Config → Result Constant.Number

structure Pruner where
  early : Option EarlyCheck := none
  model : Option Model := none
  topK : Value := .none

/-- The pruner that entries describe. The early check may be empty, but an entry for it has to be there. -/
def Pruner.ofEntries (model : Option (Option Model)) (topK : Option Value) (early : Option (Option EarlyCheck)) : Result Pruner :=
  match model, topK, early with
  | some model, some topK, some early => .ok { early, model, topK }
  | some _, some _, none => refused .unboundLocal
  | _, _, _ => refused .key

structure Tuner where
  params : List String
  keyPositions : List Nat
  resetPositions : List Nat := []
  pruner : Pruner := {}
  verbose : Bool := false
  measure : Nat → Config → Result Timing

namespace Tuner

variable (t : Tuner) (args : List Argument) (named : Bindings) (c : Config)

def positions (params names : List String) : Result (List Nat) :=
  names.mapM fun n => match params.findIdx? (· == n) with
    | some i => .ok i
    | none => refused .value

def choices (configs : List Config) : List Config := if configs.isEmpty then [{}] else configs

abbrev Key := List Argument

def sameKey (a b : Key) : Bool := Launch.Key.agree Argument.same a b

/-- What a launch works on: the configurations, what happened so far, how often each argument was cleared, and what was
printed. -/
structure Scratch where
  configs : List Config
  events : List TuningEvent := []
  cleared : List Nat := []
  printed : String := ""

structure State extends Scratch where
  cache : List (Key × Nat) := []
  best : Option Nat := none

abbrev Trial := EStateM Fault Scratch

abbrev Tuned := EStateM Fault State

def trying {α : Type} (x : Trial α) : Tuned α := fun s =>
  match x s.toScratch with
  | .ok a toScratch => .ok a { s with toScratch }
  | .error f toScratch => .error f { s with toScratch }

def check {α σ : Type} : Result α → EStateM Fault σ α
  | .ok a => pure a
  | .error f => throw f

@[simp] theorem check_ok {α σ : Type} (a : α) : (check (.ok a) : EStateM Fault σ α) = pure a := rfl

def note (e : TuningEvent) : Trial Unit := modify fun s => { s with events := s.events ++ [e] }

def Scratch.config (s : Scratch) (i : Nat) : Config := (s.configs[i]?).getD default

def overridden (below above : Bindings) : Bindings :=
  below.map (fun (n, a) => (n, (above.lookup n).getD a)) ++ above.filter fun (n, _) => (below.lookup n).isNone

def fixed : Bindings := c.options.map fun (n, v) => (n, .value v)

def launchOptions : Bindings :=
  [("num_warps", .value (.int c.numWarps)), ("num_stages", .value (.int c.numStages)), ("num_ctas", .value (.int c.numCtas)),
   ("enable_warp_specialization", .value (.bool c.warpSpecialization))]

def joined (parts : List Bindings) : Result Bindings :=
  let all := parts.flatten
  if (all.map (·.1)).eraseDups.length == all.length then .ok all else refused .type

def reset : Trial Unit :=
  t.resetPositions.forM fun i =>
    match args[i]? with
    | none => throw (.implicit .index)
    | some (.tensor _) => modify fun s => { s with cleared := s.cleared ++ [i] }
    | some _ => throw (.implicit .missingAttribute)

def checkConflicts (named : Bindings) : Result Unit :=
  let conflicts := named.filter fun (n, _) => c.options.any (·.1 == n)
  if conflicts.isEmpty then .ok ()
  else .error (.stated .value ("Conflicting meta-parameters: " ++ Text.commaSeparated (conflicts.map (·.1)) ++
    ". Make sure that you don't re-define auto-tuned symbols."))

def start (i : Nat) (c : Config) (between : Trial Unit) : Trial Unit := do
  if c.hooked then note (.hook i (overridden (overridden (t.params.zip args) named) (fixed c)))
  between
  note (.run args (← check (joined [launchOptions c, named, fixed c])))

def measureConfig (i : Nat) (c : Config) : Trial Timing := do
  if named.any (·.1 == "config") then throw (.implicit .type)
  check (checkConflicts c named)
  note .bench
  start t args named i c (reset t args)
  match t.measure i c with
  | .ok timing => return timing
  | .error f => if f.kind = .outOfResources then return Timing.never else throw f

def firstItems {α : Type} (k : Int) (xs : List α) : List α := if k ≥ 0 then xs.take k.toNat else xs.take (xs.length - k.natAbs)

def fractionOf (count : Nat) (x : Binary64) : Result Int := do
  let y := (← toFloat count).mul x
  if y.isNaN then refused .value else if y.isInf then refused .overflow else return y.truncate

/-- How many configurations the model leaves; a fraction of at most one is taken of all configurations. -/
def allowed (count : Nat) : Result Value :=
  match t.pruner.topK with
  | .float x => if x.le (Binary64.ofDecimal 1 0) then do return .int (← fractionOf count x) else .ok (.float x)
  | v => .ok v

def asked : Result Bindings :=
  joined [t.params.zip args, named, fixed c, launchOptions c ++ [("enable_persistent", Argument.value (.bool false))]]

/-- Keep the configurations with the smallest estimates, if there are more than the model leaves. -/
def pruneByModel (model : Model) (kept : List Nat) : Trial (List Nat) := do
  let s ← get
  let topK ← check (allowed t s.configs.length)
  if ← check (compareValues .gt (.int kept.length) topK) then
    let estimates ← kept.foldlM (fun es i => do
      note (.model (← check (asked t args named (s.config i))))
      return Table.put es i (← check (model (s.config i)))) []
    let sorted := estimates.mergeSort fun a b => compareNumbers b.2 a.2 != some .lt
    match topK.int? with
    | some k => return (firstItems k sorted).map (·.1)
    | none => throw (.implicit .type)
  else return kept

def pruneEarly : Trial (List Nat) :=
  match t.pruner.early with
  | none => do return List.range (← get).configs.length
  | some early => do
    let (configs, kept) ← check (early (← get).configs (t.params.zip args))
    modify fun s => { s with configs }
    return kept

def prune : Trial (List Nat) := do
  let kept ← pruneEarly t args
  match t.pruner.model with
  | none => return kept
  | some model => pruneByModel t args named model kept

def bestOf : List (Nat × Timing) → Option (Nat × Timing)
  | [] => none
  | e :: es => some (es.foldl (fun b e => if e.2.better b.2 then e else b) e)

def keyOf : Result Key := do
  let all := overridden (t.params.zip args) named
  let given := t.params.filterMap fun n => all.lookup n
  let key ← t.keyPositions.mapM fun i => match given[i]? with
    | some a => .ok a
    | none => refused .index
  if key.all Argument.hashable then return key else refused .type

def find? (s : State) (key : Key) : Option Nat := (s.cache.find? fun (k, _) => sameKey k key).map (·.2)

def pick : Trial Nat := do
  let kept ← prune t args named
  let s ← get
  let timings ← kept.mapM fun i => do return (i, ← measureConfig t args named i (s.config i))
  match bestOf timings with
  | none => throw (.implicit .value)
  | some (i, _) => return i

def store (key : Key) (i : Nat) : Tuned Unit := do
  modify fun s => { s with cache := s.cache ++ [(key, i)] }
  trying do
    reset t args
    if t.verbose then
      let line := Text.parenthesised (key.map Argument.shown) ++ ": " ++ ((← get).config i).text ++ "\n"
      modify fun s => { s with printed := s.printed ++ line }

def choose : Tuned Nat := do
  if (← get).configs.length > 1 then
    let key ← check (keyOf t args named)
    match find? (← get) key with
    | some i => return i
    | none => do
      let i ← trying (pick t args named)
      store t args key i
      return i
  else return 0

def launch (i : Nat) : Tuned Unit := do
  modify fun s => { s with best := some i }
  trying (start t args named i ((← get).config i) (pure ()))

def run : Tuned Unit := do launch t args named (← choose t args named)

def warmup : Tuned Unit := trying do
  (← prune t args named).forM fun i => do
    let c := (← get).config i
    note (.warmup args (← check (joined
      [launchOptions c ++ [("enable_persistent", Argument.value (.bool false))], named, fixed c])))

def lastBest : Tuned Config := do
  if args.isEmpty && t.keyPositions.any fun i => !(t.params[i]?).any fun n => named.any (·.1 == n) then throw .assertion
  match (← get).best with
  | some i => return (← get).config i
  | none => throw (.implicit .missingAttribute)

end Tuner

abbrev Heuristic := Bindings → Result Argument

namespace Heuristic

def complete (rules : Named Heuristic) (params : List String) (args : List Argument) (named : Bindings) : Result Bindings :=
  rules.foldlM (fun named (n, rule) => do
    return Tuner.overridden named [(n, ← rule (Tuner.overridden (params.zip args) named))]) named

def known (b : Bindings) (name : String) : Result Value :=
  match b.lookup name with
  | some (.value v) => .ok v
  | some _ => refused .type
  | none => refused .key

def powerOf2 (name : String) : Heuristic := fun b => do return .value (← Builtins.nextPowerOf2 (← known b name))

def multiple (name of : String) : Heuristic := fun b => do
  let r ← Methods.operate .mod (← known b name) (← known b of)
  return .value (.bool (equal r (.int 0)))

def fixed (v : Value) : Heuristic := fun _ => .ok (.value v)

end Heuristic

/-! ## Estimated throughput

Counts are exact integers; quotients are rounded once, and what follows is 64-bit arithmetic in the order written here.
-/

structure Properties where
  maxSharedMem : Int := 166912
  multiprocessorCount : Int := 108
  smClockRate : Int := 1410000
  memClockRate : Int := 1215000
  memBusWidth : Int := 5120

structure Device where
  properties : Properties := {}
  capability : Int × Int := (8, 0)

namespace Throughput

variable (d : Device) (e : Element)

private def decimal (mantissa : Nat) (exponent : Int) : Binary64 := Binary64.ofDecimal mantissa exponent

def quotient (x y : Binary64) : Result Binary64 :=
  if y.isZero then refused .zeroDivision else .ok (x.div y)

def scaled (n : Int) (x : Binary64) : Result Binary64 := do return (← toFloat n).mul x

def dramGbps : Result Binary64 := do
  let bits ← toFloat (d.properties.memClockRate * d.properties.memBusWidth * 2)
  quotient (← quotient bits (decimal 1 6)) (decimal 8 0)

def subcores : Int := d.properties.multiprocessorCount * 4

def tflops (clock perUnit : Int) : Result Binary64 :=
  scaled (subcores d * clock * perUnit) (decimal 1 (-9))

def unsupportedElement {α : Type} : Result α := .error (.stated .runtime "dtype not supported")

def matrixRate : Result Int :=
  let hosts (names : List String) : Bool := names.any fun n => e == .host n
  if d.capability.1 < 8 then
    if e == .host "float16" then .ok 256 else .error .assertion
  else if hosts ["float32", "int32"] then .ok 256
  else if hosts ["float16", "bfloat16", "int16"] then .ok 512
  else if hosts ["int8"] || [Scalar.fp8e4nv, .fp8e4b15, .fp8e5].any (fun s => e == .own (.scalar s)) then .ok 1024
  else unsupportedElement

def vectorRate : Result Int :=
  if e == .host "float32" then .ok 32
  else if e == .host "float16" then .ok 64
  else if d.capability.1 ≥ 8 && e == .host "bfloat16" then .ok 64
  else unsupportedElement

def maxMatrixTflops (clock : Option Int := none) : Result Binary64 := do
  let clock := match clock with
    | some 0 | none => d.properties.smClockRate
    | some n => n
  tflops d clock (← matrixRate d e)

def maxVectorTflops : Result Binary64 := do
  tflops d d.properties.smClockRate (← vectorRate d e)

def busyShare (ctas warps : Int) : Result Binary64 :=
  divideInts (min (subcores d) (ctas * min warps 4)) (subcores d)

def matrixTflops (ctas warps : Int) (e : Element) : Result Binary64 := do
  let share ← busyShare d ctas warps
  return share.mul (← maxMatrixTflops d e)

def vectorTflops (ctas warps : Int) (e : Element) : Result Binary64 := do
  let share ← busyShare d ctas warps
  return share.mul (← maxVectorTflops d e)

def productTflops (ctas warps : Int) (e : Element) : Result Binary64 :=
  if d.capability.1 < 8 && e == .host "float32" then vectorTflops d ctas warps e else matrixTflops d ctas warps e

structure Product where
  m : Int
  n : Int
  k : Int
  blockM : Int
  blockN : Int
  splitK : Int
  numWarps : Int

structure Estimate where
  total : Binary64
  compute : Binary64
  loading : Binary64
  storing : Binary64
  active : Constant.Number

def ceilDiv (a b : Int) : Result Int :=
  if b = 0 then refused .zeroDivision else .ok ((a + b - 1).fdiv b)

def atMostOne (x : Binary64) : Constant.Number := if x.lt (decimal 1 0) then .float x else .int 1

/-- The number itself as a floating-point number; only small integers occur. -/
private def plain : Constant.Number → Binary64
  | .int n => (Binary64.ofInt? n).getD .nan
  | .float x => x

/-- How long a matrix product takes: the longer of computing and loading, and then storing. Fewer than 32 blocks do not
saturate the memory, and up to 108 of them gain a little more; four fifths of repeated loads are found in the cache. -/
def estimate (elementBytes : Int) (p : Product) : Result Estimate := do
  let ctasM ← ceilDiv p.m p.blockM
  let ctasN ← ceilDiv p.n p.blockN
  let ctas := ctasM * ctasN * p.splitK
  let m := max p.m p.blockM
  let n := max p.n p.blockN
  let ops ← divideInts (2 * m * n * p.k) (1024 * 1024 * 1024)
  let compute ← quotient ops (← productTflops d ctas p.numWarps e)
  let active := atMostOne (← divideInts ctas d.properties.multiprocessorCount)
  let share32 := plain (atMostOne (← divideInts ctas 32))
  let rest := plain (atMostOne (← divideInts (ctas - 32) (108 - 32)))
  let share108 := if rest.lt .zero then .zero else rest
  let dram := (← dramGbps d).mul ((share32.mul (decimal 95 (-2))).add (share108.mul (decimal 5 (-2))))
  let cache := dram.mul (decimal 4 0)
  let fromDram (bytes repeats : Int) : Result Binary64 := do
    scaled bytes ((decimal 1 0).add ((decimal 2 (-1)).mul (← toFloat repeats)))
  let fromCache (bytes repeats : Int) : Result Binary64 := do
    return (← scaled bytes (decimal 8 (-1))).mul (← toFloat repeats)
  let bytesA := m * p.k * elementBytes
  let bytesB := n * p.k * elementBytes
  let aDram ← fromDram bytesA (ctasN - 1)
  let aCache ← fromCache bytesA (ctasN - 1)
  let bDram ← fromDram bytesB (ctasM - 1)
  let bCache ← fromCache bytesB (ctasM - 1)
  let mega := decimal 1048576 0
  let totalDram := (aDram.add bDram).div mega
  let totalCache := (aCache.add bCache).div mega
  let loading := (← quotient totalDram dram).add (← quotient totalCache cache)
  let storeRate := dram.mul (decimal 6 (-1))
  let stored ← quotient (← divideInts (m * n * elementBytes * p.splitK) (1024 * 1024)) storeRate
  let storing ← if p.splitK = 1 then pure stored else do
    let zeroed ← quotient (← divideInts (m * n * 2) (1024 * 1024)) storeRate
    pure (stored.add zeroed)
  let longer := if compute.lt loading then loading else compute
  return { total := longer.add storing, compute, loading, storing, active }

def Estimate.text (e : Estimate) : String :=
  let percent := match e.active with
    | .int n => toString (n * 100)
    | .float x => (x.mul (decimal 100 0)).shortest
  "Total time: " ++ e.total.shortest ++ "ms, compute time: " ++ e.compute.shortest ++ "ms, loading time: " ++
    e.loading.shortest ++ "ms, store time: " ++ e.storing.shortest ++ "ms, Activate CTAs: " ++ percent ++ "%\n"

end Throughput

/-! ### Pruning

Configurations that need too much shared memory are left out, and the others grouped by everything but their number of stages. On
newer devices each group keeps its two best numbers of stages; on older ones its first configuration, with two stages.
-/

namespace Pruning

structure Candidate where
  index : Nat
  config : Config

/-- What the configurations of a group have in common: block sizes, the split of the inner dimension, and warps. -/
structure GroupKey where
  blockM : Int
  blockN : Int
  blockK : Int
  splitK : Int
  numWarps : Int
deriving DecidableEq

def groupKey (c : Config) : Result GroupKey := do
  return { blockM := ← c.size "BLOCK_M", blockN := ← c.size "BLOCK_N", blockK := ← c.size "BLOCK_K"
           splitK := ← c.size "SPLIT_K", numWarps := c.numWarps }

def sharedMemory (elementBytes : Int) (c : Config) : Result Int := do
  return ((← c.size "BLOCK_M") + (← c.size "BLOCK_N")) * (← c.size "BLOCK_K") * c.numStages * elementBytes

def hasKey (k : GroupKey) (c : Candidate) : Bool := (groupKey c.config).toOption == some k

def bestStages (k : GroupKey) : Result Binary64 := do
  let products ← divideInts (k.blockM * k.blockN * k.blockK) (16 * 8 * 16)
  let perWarp ← Throughput.quotient products (← toFloat (min 4 k.numWarps))
  Throughput.quotient (Binary64.ofDecimal 300 0) (perWarp.mul (Binary64.ofDecimal 8 0))

/-- How far a number of stages is from the best one; too few stages are worse than too many. -/
def stageDistance (best : Binary64) (stages : Int) : Result Binary64 := do
  let diff := (← toFloat stages).sub best
  return if diff.lt .zero then (Binary64.ofDecimal 10 0).add diff.abs else diff

def smallest {α K : Type} (le : K → K → Bool) (n : Nat) (key : α → Result K) (xs : List α) : Result (List α) := do
  let keyed ← xs.mapM fun x => do return (← key x, x)
  return ((keyed.mergeSort fun a b => le a.1 b.1).take n).map (·.2)

def nearest {K : Type} (le : K → K → Bool) (distances : GroupKey → Result (Int → Result K)) (k : GroupKey)
    (cs : List Candidate) : Result (List Candidate) := do
  let distance ← distances k
  smallest le 2 (fun c => distance c.config.numStages) cs

def keepOfGroup (capability : Int × Int) : (k : GroupKey) → (cs : List Candidate) → Result (List Candidate) :=
  if capability.1 ≥ 8 then nearest Binary64.le fun k => do return stageDistance (← bestStages k)
  else fun _ cs => return (cs.take 1).map fun c => { c with config := { c.config with numStages := 2 } }

def keepEach (keep : GroupKey → List Candidate → Result (List Candidate)) (cs : List Candidate) : Result (List Candidate) := do
  let keys ← cs.mapM fun c => groupKey c.config
  return (← keys.eraseDups.mapM fun k => keep k (cs.filter (hasKey k))).flatten

/-- The candidates that are worth a measurement, where a group keeps some of its own. Only 16- and 32-bit floating-point elements
can be added atomically, so for the others the inner dimension is not split. -/
def pruneWith (keep : GroupKey → List Candidate → Result (List Candidate)) (d : Device) (e : Element) (elementBytes : Int)
    (cs : List Candidate) : Result (List Candidate) := do
  let fitting ← cs.filterM fun c => do return (← sharedMemory elementBytes c.config) ≤ d.properties.maxSharedMem
  let atomic := e == .host "float16" || e == .host "float32"
  keepEach keep (← if atomic then pure fitting else fitting.filterM fun c => do return (← c.config.size "SPLIT_K") == 1)

def candidates (configs : List Config) : List Candidate := configs.zipIdx.map fun (c, i) => ⟨i, c⟩

/-- The configurations that are kept, with their places in the list; one may differ from the given one in its number of stages. -/
def prune (d : Device) (e : Element) (elementBytes : Int) (configs : List Config) : Result (List Candidate) :=
  pruneWith (keepOfGroup d.capability) d e elementBytes (candidates configs)

def updated (configs : List Config) (kept : List Candidate) : List Config :=
  kept.foldl (fun cs c => cs.set c.index c.config) configs

end Pruning

end TileKernel.Tuning
