import TileKernel.CommandLine.Options
import TileKernel.Host.Program
import TileKernel.Simulation.Launch
import TileKernel.Workload

/-! # Measuring and comparing

A library for tests of kernels: it measures functions, compares results, draws reports of benchmarks, asks a device for its
clock rates and fixes them, and checks the memory accesses of tests.
-/

namespace TileKernel.Host.Measuring

open Strided Tuning

/-! ## Measuring -/

def currentStream : Int := 7

def step (f : Value) : Host Unit := do let _ ← callGiven f [] []

def measure : Function :=
  .plain ["fn", opt "warmup" 25, opt "rep" 100, opt "grad_to_none" .none, opt "quantiles" .none, opt "fast_flush" true,
      opt "return_mode" "mean"] fun f warmup rep _ quantiles _ summary => do
    let quantiles ← if quantiles.isNone then pure none else some <$> (do (← Host.items quantiles).mapM number)
    let m : Measurement := { warmup := ← number warmup, rep := ← number rep, quantiles, summary := (summary.str?).getD "" }
    match ← Host.measure m (step f) with
    | [ms] => return ms
    | times => return .list (times.map .float)

def replay : Host Unit := note "replay" []

/-- Measure a function by recording its work once and replaying it: the mean of the least times of fifty rounds. -/
def measureRecorded : Function := .plain ["fn", opt "rep" 20, opt "grad_to_none" .none] fun f rep _ => do
  if currentStream == (← read).stream then
    complain .runtime "Cannot capture graph in default stream. Please use side stream in benchmark code."
  step f
  note "graph" []
  step f
  let start ← Host.mark
  replay
  let estimate := (← Host.mark).sub start
  let count := fitting (← number rep) estimate
  let least ← (List.range 50).mapM fun _ => do
    let times ← (List.range count).mapM fun _ => do
      let start ← Host.mark
      replay
      return Statistics.single ((← Host.mark).sub start)
    return ((Statistics.ascending times).head?).getD .zero
  return Statistics.mean least

/-! ## Comparing -/

mutual

def nested : Value → Option (List Nat × List Lowering.Value)
  | .plain v => some ([], [v])
  | .list xs | .tuple xs =>
    match nestedAll xs with
    | some [] => some ([0], [])
    | some ((shape, items) :: rest) =>
      if rest.all fun (s, _) => s == shape then
        some ((rest.length + 1) :: shape, items ++ rest.flatMap (·.2))
      else none
    | none => none
  | _ => none

def nestedAll : List Value → Option (List (List Nat × List Lowering.Value))
  | [] => some []
  | v :: vs => do return (← nested v) :: (← nestedAll vs)

end

def typeOf (vs : List Lowering.Value) : Option ElementType :=
  if vs.isEmpty then some .float32
  else if vs.all fun | .bool _ => true | _ => false then some .bool
  else if vs.all fun | .bool _ | .int _ => true | _ => false then some .int64
  else if vs.all fun | .bool _ | .int _ | .float _ => true | _ => false then some .float32
  else none

def elementOf : Lowering.Value → Element
  | .float x => .real x
  | v => .whole ((v.int?).getD 0)

def asView (v : Value) : Host View := do
  match v.tensor? with
  | some t => return if t.type = .bfloat16 then t.view.convert .float32 else t.view
  | none =>
    let (shape, vs) ← need .value (nested v)
    let type ← need .type (typeOf vs)
    return .ofElements type shape (vs.map fun v => (elementOf v).convert type)

def tolerance (given : Value) (type : ElementType) (standard : Binary64) : Host Value :=
  if given.isNone then pure standard
  else if callable given then callGiven given [.elementType type] []
  else pure given

def compare : Function :=
  .plain ["x", "y", opt "atol" .none, opt "rtol" .none, opt "err_msg" ""] fun a b atol rtol message => do
    let x ← asView a
    let y ← asView b
    let type := ((a.tensor?).map Tensor.type).getD x.type
    let atol ← tolerance atol type (decimal 1 (-2))
    let rtol ← tolerance rtol type .zero
    let t : Tolerance := { absolute := ← number atol, relative := ← number rtol }
    if x.count > 1 || y.count > 1 then
      let comparable := x.shape.isEmpty || y.shape.isEmpty || x.shape == y.shape
      if !comparable || !x.close { t with equalNaN := true } y then refuse .assertion
    else if !x.close t y then
      complain .assertion s!"{message.text} {x.oneText} is not close to {y.oneText} (atol={atol.text}, rtol={rtol.text})"
    return .none

/-! ## Reports -/

def benchmark : Function where
  params := ["x_names", "x_vals", "line_arg", "line_vals", "line_names", "plot_name", "args", opt "xlabel" "", opt "ylabel" "",
    opt "x_log" false, opt "y_log" false, opt "color" .none, opt "styles" .none]
  run a := create "triton.testing.Benchmark"
    (["x_names", "x_vals", "x_log", "line_arg", "line_vals", "line_names", "y_log", "styles", "xlabel", "ylabel", "plot_name",
      "args"].map fun n => (n, a.get n))

def benchmarkOf (v : Value) : Host Benchmark := do
  let fields ← fieldsOf v
  if fields.isEmpty then refuse .missingAttribute
  let get : String → Value := .of fields
  let list (n : String) : Host (List Value) := Host.items (get n)
  let styles ← if (get "styles").truth then list "styles" else pure []
  let styles ← styles.mapM fun s => do
    match ← Host.items s with
    | c :: l :: _ => return (c, l)
    | _ => refuse .index
  return {
    name := (get "plot_name").text, axes := (← list "x_names").map Value.text, places := ← list "x_vals"
    lineArgument := (get "line_arg").text, lines := ← list "line_vals", lineNames := (← list "line_names").map Value.text
    styles, xLabel := (get "xlabel").text, yLabel := (get "ylabel").text, xLog := (get "x_log").truth
    yLog := (get "y_log").truth
    fixed := (get "args").entries }

def runMarked : Function :=
  .plain ["self", opt "show_plots" false, opt "print_data" false, opt "save_path" ""] fun self shows prints path => do
    let fields ← fieldsOf self
    let objects ← match Value.of fields "benchmarks" with
      | b@(.entity _ _) => pure [b]
      | v => Host.items v
    let bs ← objects.mapM benchmarkOf
    report { showPlots := shows.truth, printData := prints.truth, savePath := (path.str?).getD "" } bs fun named => do
      if (named.map (·.1)).eraseDups.length != named.length then refuse .type
      check (Point.ofValue (← callGiven (.of fields "fn") [] named))
    return .none

def mark (f benchmarks : Value) : Host Value := create "triton.testing.Mark" [("fn", f), ("benchmarks", benchmarks)]

/-! ## Devices -/

def attributes (names : Value) : Host (List Int) := do
  let names ← (← Host.items names).mapM fun n => need .type n.str?
  let r ← command "check_output" ["nvidia-smi", "-i", "0", "--query-gpu=" ++ ",".intercalate names,
    "--format=csv,noheader,nounits"]
  (r.output.splitOn ",").mapM integerText

def order (words : List String) : Host Unit := do
  let _ ← command "check_output" (["nvidia-smi", "-i", "0"] ++ words)

def clockRate (name : String) : Host Int := do
  need .index (← attributes (.list [name])).head?

def near (n : Int) (x : Binary64) : Bool := ((realOf n).sub x).abs.lt (decimal 10 0)

def fixedClocks (sm memory : Value) : Host Value :=
  ensuring
    (do
      order ["-pm", "1"]
      order [s!"--lock-gpu-clocks={sm.text},{sm.text}"]
      order [s!"--lock-memory-clocks={memory.text},{memory.text}"]
      let currentSm ← clockRate "clocks.current.sm"
      let currentMemory ← clockRate "clocks.current.memory"
      let smRate ← number sm
      let memoryRate ← number memory
      demand (near currentSm smRate) s!"GPU SMs must run at {sm.text} MHz"
      demand (near currentMemory memoryRate) s!"GPU SMs must run at {memory.text} MHz"
      let tflops := [2, 108, 4, 256].foldl (fun x (n : Int) => x.mul (realOf n)) (decimal 1 (-6))
      return .tuple [tflops.mul smRate, ((realOf 1280).mul memoryRate).mul (decimal 1 (-3))])
    (do
      order ["-pm", "0"]
      order ["-rgc"]
      order ["-rmc"])

def elementAsked : Value → Launch.Element
  | .elementType e => .host e.name
  | .plain (.ty t) => .own t
  | v => .host v.text

/-! ## Checked tests -/

def same : Value → Value → Bool
  | .plain a, .plain b => Lowering.Constant.equal a b
  | a, b => a.shown == b.shown

def nameOf : Value → String
  | .given n _ _ _ _ _ _ | .closure n _ | .named n => n
  | v => v.text

/-- Run a test: under the checker when its arguments hold the ones that were chosen, and when the checker does not run yet. -/
def runChecked (chosen : Named Value) (test : Value) (args : List Value) (named : Named Value) : Host Value := do
  let hit := chosen.all fun (n, v) => (named.lookup n).any (same v)
  if hit && (← read).parent != "cuda-memcheck" then
    match named.lookup "request" with
    | none => complain .assertion "memcheck'ed test must have a (possibly unused) `request` fixture"
    | some request =>
      let id ← Program.member (← Program.member (← Program.member request "node") "callspec") "id"
      let r ← command "run" ["cuda-memcheck", "pytest", "-vs", s!"ORACLE/host.py::{nameOf test}[{id.text}]"]
      demand (r.status == 0) "cuda-memcheck returned an error: bounds checking failed"
      demand (Text.occursIn "ERROR SUMMARY: 0 errors" r.output) ""
  else
    let _ ← callGiven test args named
  return .none

def callMade : Function where
  params := ["self"]
  takesRest := true
  takesOthers := true
  run a := do
    match a.get "self", a.rest with
    | .closure "decorator" kept, [test] =>
      return .closure (nameOf test) [("test", test), ("chosen", .members kept)]
    | .closure "<lambda>" kept, [f] => mark f (.of kept "benchmarks")
    | .closure _ kept, args =>
      match kept.lookup "test", kept.lookup "chosen" with
      | some test, some chosen => runChecked chosen.entries test args a.others
      | _, _ => refuse .type
    | f, args => callGiven f args a.others

def program : Program := {
  functions := [
    ("do_bench", measure), ("do_bench_cudagraph", measureRecorded), ("assert_close", compare), ("Benchmark", benchmark),
    ("Mark", .plain ["fn", "benchmarks"] mark),
    ("perf_report", .plain ["benchmarks"] fun benchmarks => return .closure "<lambda>" [("benchmarks", benchmarks)]),
    ("nvsmi", .plain ["attrs"] fun names => do return .list ((← attributes names).map .int)),
    ("nvsmi_attr", .plain ["attrs"] fun names => do return .list ((← attributes names).map .int)),
    ("set_gpu_clock", .plain [opt "ref_sm_clock" 1350, opt "ref_mem_clock" 1215] fixedClocks),
    ("cuda_memcheck", { takesOthers := true, run := fun a => return .closure "decorator" a.others }),
    ("get_dram_gbps", .plain [opt "backend" .none, opt "device" .none] fun _ _ => do
      return ← check (Throughput.dramGbps (← read).device)),
    ("get_max_tensorcore_tflops", .plain ["dtype", opt "backend" .none, opt "device" .none, opt "clock_rate" .none]
      fun type _ _ clock => do return ← check (Throughput.maxMatrixTflops (← read).device (elementAsked type) clock.int?)),
    ("get_max_simd_tflops", .plain ["dtype", opt "backend" .none, opt "device" .none] fun type _ _ => do
      return ← check (Throughput.maxVectorTflops (← read).device (elementAsked type)))]
  methods := [("__call__", callMade), ("run", runMarked)] }

end TileKernel.Host.Measuring

/-! ## Checks of benchmark tables -/

namespace TileKernel.Host.BenchmarkChecks

def field (row : List String) (i : Nat) : Host String := need .index row[i]?

namespace Accuracy

def run : Host Unit := do
  let path ← field (← read).arguments 0
  for row in (Text.Csv.rows (← readFile path)).drop 1 do
    if (← field row 3) != "pass" then
      printLine ((← field row 1) ++ " failed on device " ++ (← field row 0) ++ " with batch size " ++ (← field row 2))

def program : Program := { load := run }

end Accuracy

namespace Performance

structure Output where
  device : String
  name : String
  batchSize : String
  speedup : Binary64
  latency : Binary64

def Output.value (o : Output) : Value :=
  .tuple [o.device, o.name, o.batchSize, o.speedup, o.latency]

def numberText (s : String) : Host Binary64 := need .value (Reading.float? s)

/-- The rows of a table by name; short rows do not count, and the last row of a name does. -/
def outputs (path : String) : Host (Named Output) := do
  ((Text.Csv.rows (← readFile path)).drop 1).foldlM (fun es row => do
    match row with
    | device :: name :: batchSize :: speedup :: latency :: _ =>
      let o : Output := { device, name, batchSize, speedup := ← numberText speedup, latency := ← numberText latency }
      return Table.put es name o
    | _ => return es) []

def root (product : Binary64) (count : Nat) : Host Binary64 :=
  if count == 0 then refuse .zeroDivision
  else pure (product.pow ((decimal 1 0).div (realOf count)))

def compare (baseline new : Named Output) (threshold meanThreshold : Binary64) : Host Unit := do
  let one := decimal 1 0
  let (before, after) ← new.foldlM (fun (acc : Binary64 × Binary64) (name, o) => do
    let base ← match baseline.lookup name with
      | some b => pure b
      | none => do
        printLine s!"New benchmark {name} not found in baseline"
        refuse .key
    let told (how : String) : Host Unit := printLine
      s!"New benchmark {name} is {how} than baseline: {o.latency.shortest} vs {base.latency.shortest}"
    if o.latency.lt (base.latency.mul (one.sub threshold)) then told "faster"
    else if (base.latency.mul (one.add threshold)).lt o.latency then told "slower"
    return (acc.1.mul base.speedup, acc.2.mul o.speedup)) (one, one)
  let before ← root before baseline.length
  let after ← root after new.length
  printLine ("Baseline geomean: " ++ before.shortest)
  printLine ("New geomean: " ++ after.shortest)
  demand ((before.mul (one.sub meanThreshold)).lt after)
    s!"New geomean is slower than baseline: {after.shortest} vs {before.shortest}"

open CommandLine in
def usage : Usage := {
  options := [
    { Opt.text "--baseline" with required := true }, { Opt.text "--new" with required := true },
    .ofName (some .float) "--threshold", .ofName (some .float) "--geomean-threshold"] }

def setting (s : CommandLine.Settings) (key : String) (otherwise : Binary64) : Binary64 :=
  ((Value.plain (s.value key)).float?).getD otherwise

def run : Host Unit := do
  let s ← check (CommandLine.read usage (← read).arguments)
  let baseline ← outputs ((s.text? "baseline").getD "")
  let new ← outputs ((s.text? "new").getD "")
  compare baseline new (setting s "threshold" (decimal 1 (-1))) (setting s "geomean_threshold" (decimal 2 (-2)))

def program : Program := {
  load := run
  functions := [("parse_output", .plain ["file_path"] fun filePath => do
    return .dict ((← outputs filePath.text).map fun (n, o) => (n, o.value)))] }

end Performance

end TileKernel.Host.BenchmarkChecks

/-! ## Program instances and signatures -/

namespace TileKernel.Host

namespace Instances

def positions (grid : Value) : Host (List Value) := do
  let sizes ← (← items grid).mapM integer
  return (Simulation.programIds sizes).map fun p => .tuple (p.map .int)

def language : Lowering.Scope := Lowering.Library.program.scope .language

def standsFor (name : String) (v : Lowering.Value) : Host Value := do
  match (← get).routing.entries.lookup name, v with
  | some (.routed _), _ => return .named "fun"
  | _, .primitive _ n => return .named n
  | _, .func _ => return .object "JITFunction" [("message", v.shown)]
  | _, v => return .plain v

def simulate (a : Arguments) : Host Value := do
  let fields ← fieldsOf (a.get "self")
  let plain (v : Value) : Host Simulation.Value :=
    match v with
    | .plain v => return .ofPlain v
    | _ => refuse .notImplemented
  let kept ← fieldsOf (.of fields "func")
  match language.find? (((kept.lookup "name").bind Value.str?).getD "") with
  | some (.func f) =>
    let args ← a.rest.mapM plain
    let named ← a.others.mapM fun (n, v) => do return (n, ← plain v)
    let grid ← (← items (.of fields "grid")).mapM integer
    let session : Simulation.Session := { routing := (← get).routing, program := Lowering.Library.program }
    let (outcome, session) := ({ args, named, grid } : Simulation.Launch).run (session.program.func f) session
    modify fun w => { w with routing := session.routing }
    match outcome.fault with
    | some f => throw f
    | none => return .none
  | _ => refuse .missingAttribute

def names : List (String × Host Value) :=
  language.flatMap fun (n, v) => ("tl." ++ n, standsFor n v) ::
    match v with
    | .func _ => [(s!"tl.{n}.fn", pure (.closure n [("name", n)]))]
    | _ => []

def program : Program := {
  load := modify fun w => { w with routing := .initial language.names }
  values := names
  functions := [("program_ids_from_grid", .plain ["grid"] fun grid => do
      sequence "program_ids_from_grid" (← positions grid)),
    ("DebuggerFunction", {
      params := ["func", opt "grid" (.tuple [1])]
      run := fun args => return .object "triton.interpreter.interpreter.DebuggerFunction" args.bound })]
  methods := [("__call__", { params := ["self"], takesRest := true, takesOthers := true, run := simulate })] }

end Instances

namespace StubSignature

def withDescriptors (signature : List (Value × Value)) (count : Nat) : List (Value × Value) :=
  signature ++ (List.range count).map fun i => (.nat (signature.length + i), .str "*CUtensorMap")

def program : Program := {
  functions := [("generate_cu_signature", .plain ["constants", "signature", "ids"] fun _ signature ids => do
    let descriptors ← entry ids "ids_of_tensormaps"
    if descriptors.isNone then return signature
    match signature with
    | .dict es => return .dict (withDescriptors es (← items descriptors).length)
    | _ => refuse .missingAttribute)] }

end StubSignature

end TileKernel.Host

/-! ## Reviews of workloads -/

namespace TileKernel.Host.WorkloadReview

open Workload

def omitted : List String :=
  ["*/microbench.py", "*/_pti_*.py", "*/setup.py", "*/conftest.py", "*/test_*.py", "*/*_test.py", "*/tests/*", "*/test/*",
   "*/__tests__/*", "*/__fixtures__/*", "*/_version.py"]

def coverageFile : String := "_pti_coverage.json"

def roundsFile : String := ".pti_checkpoint.jsonl"

/-- The report of a measurement that is a program of its own; one that is not there, or that writes something else, has none. -/
def measured (script : String) : Host (Option Json) := do
  if !(← fileExists script) then return none
  return Json.read? (← command "run" ["PYTHON", "ROOT/" ++ script]).output

def coverage : Host Coverage := do
  let r ← command "run" ["PYTHON", "ROOT/_pti_cov_runner.py", "ROOT", "microbench", "ROOT/" ++ coverageFile,
    Json.dump {} (.arr (omitted.map .str))]
  if r.status != 0 || !(← fileExists coverageFile) then
    printLine s!"coverage measurement failed (exit {r.status})"
    printLine r.output
    complain .exit (toString (if r.status == 0 then 1 else r.status))
  return .ofJson (← need .value (Json.read? (← readFile coverageFile)))

def edits : Host (List String) := do
  let r ← command "run" ["git", "-C", "ROOT", "status", "--porcelain", "--", ".", ":!microbench.py", ":!_pti_*", ":!.pti_*",
    ":!.coverage"]
  return ((Text.plainLines r.output).filter (· != "")).map fun l => (l.drop 3).toString

def textOr (path : String) : Host String := do if ← fileExists path then readFile path else return ""

/-- Keep a record of a round; unless the earlier records can be read, there is none. The numbers of low workloads of all rounds
are given back. -/
def keepRecord (r : Round) (earlier : List String) (time : Binary64) : Host (List Int) := do
  match earlier.mapM Json.read? with
  | none => return []
  | some records =>
    let since := (records.getLast?).elim Binary64.zero fun last => time.sub (numberIn (last.get "ts"))
    let record := r.record time since
    writeFile roundsFile ((← textOr roundsFile) ++ Json.dump {} record ++ "\n")
    return (records ++ [record]).filterMap fun j => (j.get "n_below_repo_time").int?

def run : Host Unit := do
  let start ← Host.seconds
  let covered ← coverage
  let seconds := (← Host.seconds).sub start
  (covered.table ++ covered.failureLines).forM printLine
  let shares := ((← measured "_pti_repotime.py").map TimeShare.listOfJson).getD []
  (TimeShare.lines shares).forM printLine
  let edited ← if ← fileExists "_pti_semcheck.py" then edits else pure []
  (editLines edited).forM printLine
  let observations := ((← measured "_pti_semcheck.py").map Observation.listOfJson).getD []
  (Observation.lines (!edited.isEmpty) observations).forM printLine
  let earlier := (Text.plainLines (← textOr roundsFile)).filter (· != "")
  let round : Round := {
    number := earlier.length + 1, workloads := Round.countWorkloads (← textOr "microbench.py"), coverage := covered, shares
    observations, edited := !edited.isEmpty, seconds }
  printLine ""
  printLine round.summary
  let low ← keepRecord round earlier (← Host.seconds)
  if (TimeShare.lowCount? shares).isSome then
    if let some why := Round.stop? low then
      printLine ""
      printLine (Round.stopLine why)

def program : Program := { load := run }

def loading : Program := {
  load := do
    if !(← read).hasWorkloads then
      printLine (Json.dump {} (.obj [("_import_error",
        "ModuleNotFoundError: import of microbench halted; None in sys.modules")]))
      complain .exit "0" }

end TileKernel.Host.WorkloadReview
