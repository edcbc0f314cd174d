import TileKernel.Assembly.Listing
import TileKernel.Host.World
import TileKernel.Json

/-! # Workloads

A workload puts one part of the library to work so often as its size says. A review says which statements the workloads reach, how
much of their time is spent in the library, and whether their results depend on what they compute; each review is a round, of
which a record is kept.
-/

namespace TileKernel

structure Workload where
  name : String
  parameter : String
  small : Nat
  usual : Nat
  large : Nat
  run : Nat → Result (List Host.Value)

namespace Workload

open Host (Value)

def each (f : Nat → Result Value) (n : Nat) : Result (List Value) := (List.range n).mapM f

def cycled {α : Type} [Inhabited α] (xs : List α) (i : Nat) : α := (xs[i % xs.length]?).getD default

def scalars : List Scalar :=
  [.int8, .int16, .int32, .int64, .int1, .uint8, .uint16, .uint32, .uint64, .fp8e4b15, .fp8e4b15x4, .fp8e4nv, .fp8e4b8, .fp8e5,
   .fp8e5b16, .fp16, .bf16, .fp32, .fp64, .void]

def constantSum (i : Nat) : Result Value := do return .plain (← Lowering.Constant.arith .add (.int i) (.int 4))

def integers : List Ty := [.int32, .int64, .uint32, .int8]

def castTargets : List Scalar :=
  [.fp64, .fp32, .fp32, .fp16, .fp32, .bf16, .int64, .int32, .int1, .int32, .uint32, .int1, .fp32, .fp32, .fp32, .fp16, .fp8e5]

def castResult (i : Nat) : Result Value :=
  match (Tensor.cast ⟨some 0, .fp32⟩ (.scalar (cycled castTargets i))).run {} with
  | .ok t _ => .ok (.str t.type.text)
  | .error f _ => .error f

/-- The symbol of a routine that is called when arguments of one type can be chosen: single precision first, then double
precision, then integers. -/
def preferred (r : Routine) : Option Symbol :=
  let uniform := [Ty.fp32, .fp64, .int32, .int64].findSome? fun t =>
    r.symbols.find? fun s => s.args.all (· == t)
  uniform.orElse fun _ => r.symbols.head?

def routines : List Routine := MathLibrary.all.mergeSort fun a b => a.name ≤ b.name

def routineResult (i : Nat) : Result Value :=
  let result := ((preferred (cycled routines i)).map Symbol.result).getD .void
  .ok (.str (result.text ++ "[constexpr[16]]"))

def positions (is : List Int) : String := Text.parenthesised (is.map toString)

def knowledgeText (k : Types.Specialization) : String :=
  s!"instance_descriptor(divisible_by_16={positions k.divisibleBy16}, equal_to_1={positions k.equalTo1}, " ++
    s!"ids_of_folded_args={positions k.idsOfFoldedArgs}, divisible_by_8={positions k.divisibleBy8})"

def launchKnowledge (i : Nat) : Value :=
  let args : List Launch.Argument := [.tensor { element := .host "float32", address := 65536, device := "cuda" },
    .value (.int (16 + i)), .value (.int 1), .value (.int 8), .value .none]
  .str (knowledgeText (Launch.knowledge default args))

def stubTypes : List String := ["*fp32", "*fp16", "i32", "i64", "u32", "fp32", "fp64", "*i8"]

def stub (i : Nat) : Result Value := do
  let s : Launch.Signature := (List.range (2 + i % 6)).map fun (j : Nat) => ((j : Int), cycled stubTypes (i + j))
  let text := "\n".intercalate (← Launch.Stub.lines Launch.Stub.cuda (fun _ => false) {} s)
  let key ← Launch.Stub.keyOfTexts "v" s (Text.braced [])
    (Text.braced ["'ids_of_folded_args': []", "'ids_of_const_exprs': []", "'ids_of_tensormaps': []"]) []
  return .list [.nat text.length, .str key]

def mangled : List Ty := [.int32, .fp32, .ptr .fp32, .block .fp32 [4, 4], .uint32]

def configs (n : Nat) : List Tuning.Config :=
  (List.range (max n 2)).map fun i =>
    { options := [("BLOCK", .int (16 * ((i % 8 : Nat) + 1)))], numWarps := (i % 4 : Nat) + 1, numStages := (i % 3 : Nat) + 1 }

def reportLength (i : Nat) : Value :=
  .nat (Fault.compileReport (some "x = 1") ⟨1, 0⟩ (some s!"err{i}")).length

def instruction (i : Nat) : Value :=
  let encoding := i <<< 41 ||| (i % 2) <<< 45 ||| 0x3f <<< 46
  let text := if i % 7 == 0 then s!"BRA 0x{String.ofList (Nat.toDigits 16 (16 * i % 64))};"
    else s!"MOV R{i % 8}, R{(i + 1) % 8};"
  .list [.str (Assembly.Control.ofEncoding encoding).text, .str text]

def all : List Workload := [
  ⟨"bench_dtype_system", "n_types", 50, 200, 800, each fun i => .ok (.str (cycled scalars i).name)⟩,
  ⟨"bench_constexpr_arith", "n_vals", 100, 400, 1600, each constantSum⟩,
  ⟨"bench_tensor_semantic_binops", "n_ops", 20, 80, 300, each fun i => do
    return .str (← Types.computationType (cycled integers i) (cycled integers i) false).text⟩,
  ⟨"bench_semantic_casts", "n_casts", 15, 60, 240, each castResult⟩,
  ⟨"bench_core_builtins", "n_calls", 15, 60, 240, each fun i => .ok (.nat i)⟩,
  ⟨"bench_semantic_memory", "n_iters", 10, 50, 200, each fun _ => .ok (.str (Ty.ptr .fp32).text)⟩,
  ⟨"bench_math_extern", "n_fns", 60, 200, 600, each routineResult⟩,
  ⟨"bench_jit_decorator", "n_iters", 40, 150, 600, each fun i => .ok (launchKnowledge i)⟩,
  ⟨"bench_make_launcher", "n_sigs", 10, 40, 200, each stub⟩,
  ⟨"bench_code_generator_utils", "n_iters", 30, 100, 500, fun n => each (fun i => do
    return .str (← Types.mangleTy (cycled mangled i))) (mangled.length * n)⟩,
  ⟨"bench_tma_utils", "n_iters", 15, 60, 300, each fun i => .ok (.nat i)⟩,
  ⟨"bench_autotuner", "n_cfgs", 10, 40, 200, fun n => .ok ((configs n).map (fun c => .str c.text) ++
    [.str ((Fault.outOfResources "1024" "512" "shared").message?.getD "")])⟩,
  ⟨"bench_compile_passes", "n_iters", 10, 40, 160, each fun i => .ok (.str (toString i))⟩,
  ⟨"bench_compiler_errors", "n_iters", 50, 200, 1000, each fun i => .ok (reportLength i)⟩,
  ⟨"bench_disasm", "n_lines", 50, 200, 1000, each fun i => .ok (instruction i)⟩]

def find? (name : String) : Option Workload := all.find? (·.name == name)

end Workload

end TileKernel

namespace TileKernel.Workload

variable (j : Json)

def numberIn : Binary64 :=
  match j with
  | .int n => (Binary64.ofInt? n).getD .zero
  | .float x => x
  | _ => .zero

def countIn : Int := (j.int?).getD 0

def mean (xs : List Binary64) : Binary64 :=
  match Binary64.ofInt? xs.length with
  | some n => if xs.isEmpty then .zero else (xs.foldl Binary64.add Binary64.zero).div n
  | none => .zero

/-! ## Coverage -/

structure FileCoverage where
  name : String
  statements : Int
  missed : Int
  percent : Binary64
  missing : List Int

structure Coverage where
  percent : Binary64
  covered : Int
  statements : Int
  files : List FileCoverage
  failures : List (String × String)

namespace FileCoverage

def nameLimit : Nat := 60

def lineLimit : Nat := 12

def ofJson (path : String) (j : Json) : FileCoverage :=
  let summary := j.get "summary"
  { name := ((if path.startsWith "/repo/" then (path.drop 6).toString else path).take nameLimit).toString
    statements := countIn (summary.get "num_statements"), missed := countIn (summary.get "missing_lines")
    percent := numberIn (summary.get "percent_covered"), missing := (j.get "missing_lines").items.map countIn }

def missingText (f : FileCoverage) : String :=
  ",".intercalate ((f.missing.take lineLimit).map toString) ++ if lineLimit < f.missing.length then "…" else ""

end FileCoverage

namespace Coverage

def ofJson : Coverage :=
  let totals := j.get "totals"
  { percent := numberIn (totals.get "percent_covered"), covered := countIn (totals.get "covered_lines")
    statements := countIn (totals.get "num_statements")
    files := (j.get "files").members.map fun (path, f) => FileCoverage.ofJson path f
    failures := ((j.get "meta").get "_pti_bench_errors").members.map fun (n, e) => (n, (e.str?).getD "") }

def row (width : Nat) (name statements missed percent : String) : String :=
  s!"{Text.toLeft width name}  {Text.toRight 5 statements}  {Text.toRight 4 missed}  {Text.toRight 5 percent}"

def table (c : Coverage) : List String :=
  let width := c.files.foldl (fun w f => max w f.name.length) 4
  let line := Text.rule (width + 42)
  let files := c.files.mergeSort fun a b => !(b.percent.lt a.percent)
  [row width "Name" "Stmts" "Miss" "Cover" ++ "  Missing", line] ++
    files.map (fun f =>
      row width f.name (toString f.statements) (toString f.missed) (f.percent.fixed 0 ++ "%") ++ "  " ++ f.missingText) ++
    [line, row width "TOTAL" (toString c.statements) (toString (c.statements - c.covered)) (c.percent.fixed 0 ++ "%")]

def failureLines (c : Coverage) : List String :=
  if c.failures.isEmpty then []
  else ["", s!"{c.failures.length} bench error(s):"] ++ c.failures.map fun (n, e) => s!"  {n}: {e}"

end Coverage

/-! ## Time in the library -/

structure TimeShare where
  name : String
  percent : Binary64
  elsewhere : List (String × Binary64)

namespace TimeShare

def enough : Binary64 := .ofDecimal 45 0

def failed (s : TimeShare) : Bool := s.percent.lt .zero

def isLow (s : TimeShare) : Bool := !s.failed && s.percent.lt enough

def listOfJson : List TimeShare :=
  (j.get "repo_time_pct").members.map fun (name, p) =>
    { name, percent := numberIn p
      elsewhere := ((j.get "hot_ext").get name).items.map fun e =>
        (((e.items.getD 1 .null).str?).getD "", numberIn (e.items.getD 0 .null)) }

def line (s : TimeShare) : String :=
  let shown := if s.failed then Binary64.zero else s.percent
  let elsewhere := s.elsewhere.map fun (n, p) => s!"{n} {p.fixed 0}%"
  "  " ++ (if s.isLow then "*" else " ") ++ " " ++ Text.toLeft 32 s.name ++ " " ++ Text.toRight 5 (shown.fixed 1) ++ "%" ++
    (if s.failed then "  <error>" else "") ++
    if elsewhere.isEmpty then "" else " (hot: " ++ " ".intercalate elsewhere ++ ")"

def lines (ss : List TimeShare) : List String :=
  if ss.isEmpty then []
  else ["", "repo_time (target 50%; * = below 45%):"] ++ (ss.mergeSort fun a b => !(b.percent.lt a.percent)).map line

def lowCount? (ss : List TimeShare) : Option Nat := if ss.isEmpty then none else some (ss.filter isLow).length

end TimeShare

/-! ## Results -/

inductive Verdict where
  | fine | failed | returnsNothing | unstable | returnsInput | lowShare | invariant | modified
deriving DecidableEq

namespace Verdict

def text : Verdict → String
  | fine => "ok"
  | failed => "error"
  | returnsNothing => "returns-none"
  | unstable => "unstable"
  | returnsInput => "returns-input"
  | lowShare => "low-repo-time"
  | invariant => "param-invariant"
  | modified => "repo-modified"

def advice : List (Verdict × String) := [
  (returnsNothing, "run() has no return — collect and return the call results"),
  (unstable, "seed RNG in setup; avoid time/uuid/id in the return"),
  (returnsInput, "return repo output, not the parameter value"),
  (lowShare, "<50% of run() time is in repo code — move glue to setup"),
  (invariant, "return something derived from run()'s work, not setup"),
  (modified, "revert edits to repo files (git checkout -- <path>)")]

end Verdict

structure Observation where
  name : String
  kind : String
  repeated : List String
  varied : List String
  times : List Binary64
  shares : List Binary64
  inputs : List String

namespace Observation

def listOfJson : List Observation :=
  (j.get "semcheck").members.filterMap fun
    | (name, .obj fields) =>
      let o := Json.obj fields
      let texts (xs : List Json) : List String := xs.map fun x => (x.str?).getD ""
      some {
        name, kind := ((o.get "ret_type").str?).getD "?", repeated := texts (o.get "fp_stable").items
        varied := texts ((o.get "fp_by_param").members.map (·.2)), times := (o.get "repo_tt_ms").members.map fun (_, t) => numberIn t
        shares := (o.get "repo_frac").members.map fun (_, t) => numberIn t, inputs := texts (o.get "param_fps").items }
    | _ => none

def constant : List String → Bool
  | [] => true
  | x :: xs => xs.all (· == x)

def verdict (edited : Bool) (o : Observation) : Verdict :=
  if edited then .modified
  else if o.kind.startsWith "<" then .failed
  else if o.kind == "NoneType" then .returnsNothing
  else if !constant o.repeated then .unstable
  else if o.repeated.any fun f => o.inputs.contains f then .returnsInput
  else if (mean o.shares).lt (.ofDecimal 5 (-1)) then .lowShare
  else if 1 < o.varied.length && constant o.varied then .invariant
  else .fine

def line (edited : Bool) (o : Observation) : String :=
  let v := o.verdict edited
  "  " ++ (if v = .fine then " " else "*") ++ " " ++ Text.toLeft 32 o.name ++ " " ++ Text.toLeft 16 v.text ++ " (" ++ o.kind ++
    ", repo " ++ ((mean o.shares).mul (.ofDecimal 100 0)).fixed 0 ++ "%) " ++ (mean o.times).fixed 1 ++ "ms"

def lines (edited : Bool) (os : List Observation) : List String :=
  if os.isEmpty then []
  else ["", "self-check (* = fix needed):"] ++ (Verdict.advice.map fun (v, s) => s!"  {v.text}: {s}") ++
    os.map (line edited)

def faultCount (edited : Bool) (os : List Observation) : Nat := (os.filter fun o => o.verdict edited ≠ .fine).length

end Observation

def editLines (files : List String) : List String :=
  if files.isEmpty then []
  else ["", "** repo modified (" ++ toString files.length ++
    " file(s)) — revert these; only microbench.py is yours to edit:"] ++ files.map ("   " ++ ·)

/-! ## Rounds -/

structure Round where
  number : Nat
  workloads : Nat
  coverage : Coverage
  shares : List TimeShare
  observations : List Observation
  edited : Bool
  seconds : Binary64

namespace Round

def countWorkloads (source : String) : Nat :=
  let blank := Text.Pattern.one Text.Pattern.isSpace
  let definition : Text.Pattern := .all [.lineStart, .text "def", .atLeastOne blank, .text "bench_",
    .many (.one Text.Pattern.isWord), .many blank, .text "("]
  (Text.Pattern.findAll definition source).length

def summary (r : Round) : String :=
  let measured := r.shares.filter fun s => !s.failed
  "[round " ++ toString r.number ++ ": " ++ toString r.workloads ++ " benches, " ++ r.coverage.percent.fixed 1 ++ "% covered" ++
    (match TimeShare.lowCount? r.shares with
      | some n => s!", {n}/{measured.length} below repo_time 45%"
      | none => "") ++
    (if r.observations.isEmpty then "" else s!", {Observation.faultCount r.edited r.observations}/{r.observations.length} " ++
      "not self-checking") ++
    ", measured in " ++ r.seconds.fixed 1 ++ "s]"

def record (r : Round) (time since : Binary64) : Json := .obj [
  ("round", .int r.number), ("ts", .float time), ("wall_since_prev_s", .float since), ("coverage_pct", .float r.coverage.percent),
  ("covered_lines", .int r.coverage.covered), ("num_statements", .int r.coverage.statements), ("n_bench_fns", .int r.workloads),
  ("n_bench_errors", .int r.coverage.failures.length), ("cov_measure_s", .float r.seconds),
  ("repo_time_pct", .obj (r.shares.map fun s => (s.name, .float s.percent))),
  ("n_below_repo_time", ((TimeShare.lowCount? r.shares).map fun (n : Nat) => Json.int n).getD .null),
  ("semcheck", .obj (r.observations.map fun o => (o.name, .str (o.verdict r.edited).text))),
  ("n_not_self_checking", .int (Observation.faultCount r.edited r.observations))]

def patience : Nat := 4

def least : List Int → Option Int
  | [] => none
  | x :: xs => some (xs.foldl min x)

/-- Why the reviews may stop: no workload is low any more, or their number did not fall for some rounds. The numbers are those of
all rounds, the last round last. -/
def stop? (low : List Int) : Option String :=
  if low.getLast? = some 0 then some "0 below"
  else
    let earlier := low.take (low.length - patience)
    match least earlier, least (low.drop (low.length - patience)) with
    | some before, some now =>
      if before ≤ now then
        some s!"no improvement in {patience} rounds; best {min before now} below"
      else none
    | _, _ => none

def stopLine (why : String) : String := s!">>> STOP: repo_time converged ({why}). Finalize microbench.py now. <<<"

end Round

end TileKernel.Workload
