import TileKernel.Host.Program
import TileKernel.Simulation.Launch
import TileKernel.Wire.Records
import TileKernel.Workload

/-! # Simulations and host programs as JSON

A floating-point element is written with five significant digits.
-/

namespace TileKernel.Wire

open Strided Simulation

variable (results : Array Host.Value) (j : Json)

/-! ## Tensors -/

def elementOfJson : Json → Element
  | .bool b => Element.ofBool b
  | .int n => .whole n
  | .float x => .real x
  | .str s => .real ((Reading.float? s).getD .nan)
  | _ => .whole 0

def shapeOf : List Nat := (ints j).map Int.toNat

/-- A tensor of a request: its elements, or none; then axes exchanged in turn, and rows dropped. -/
def viewOf : View :=
  let type := ElementType.ofName (ask j "T" "float32")
  let base : View := match j.get? "data" with
    | some d =>
      let es := d.items.map fun e => (elementOfJson e).convert type
      let shape := match j.get? "shape" with
        | some s => shapeOf s
        | none => [es.length]
      if type.hasContents then .ofElements type shape es else .unknown type shape
    | none => .unknown type (shapeOf (j.get "shape"))
  let base := { base with device := ask j "device" "cuda" }
  let swapped := (j.get "swap").items.foldl (fun (t : View) p =>
    match ints p with
    | [a, b] => ((t.transpose a b).toOption).getD t
    | _ => t) base
  match (j.get "off").int? with
  | some n => ((swapped.index [.slice (some n) none none]).toOption).getD swapped
  | none => swapped

def elementJson (type : ElementType) : Element → Json
  | .whole n => if type == .bool then .bool (n != 0) else intJson n
  | .real x => .str (x.general 5)

def dataJson (t : View) : Json := .arr ((t.elements?.getD []).map (elementJson t.type))

def viewJson (t : View) : Json :=
  let shape : Named Json := [("T", t.type.name), ("shape", .arr (t.shape.map fun (n : Nat) => .int n))]
  let strides := if t.isContiguous then [] else [("strides", Json.arr (t.strides.map .int))]
  let elements := if t.cells.isSome && t.count ≤ 4096 then [("data", dataJson t)] else []
  .obj (shape ++ strides ++ elements)

/-! ## Values -/

mutual

def simulated (lookup : Nat → Value) : Json → Result Value
  | .obj ms => do
    match ms with
    | [("v", .int i)] => return lookup i.toNat
    | [("W", x)] =>
      match ← simulated lookup x with
      | .tensor t => return .tile t
      | _ => return .hollow
    | [("X", x)] => return (← simulated lookup x).fix
    | [("d", .str n)] => return .elementType (.ofName n)
    | [("tld", .str n)] => return .plain (.ty (← typeText n))
    | [("tu", .arr xs)] => return .tuple (← simulatedAll lookup xs)
    | [("s", .arr xs)] =>
      match ← simulatedAll lookup xs with
      | [a] => return .slice .none a .none
      | [a, b] => return .slice a b .none
      | [a, b, c] => return .slice a b c
      | _ => return .none
    | ms =>
      if ms.any (·.1 == "T") then return .tensor (viewOf (.obj ms))
      else return .plain (← plainValue (.obj ms))
  | .arr xs => do return .list (← simulatedAll lookup xs)
  | j => do return .plain (← plainValue j)

def simulatedAll (lookup : Nat → Value) : List Json → Result (List Value)
  | [] => .ok []
  | x :: xs => do return (← simulated lookup x) :: (← simulatedAll lookup xs)

end

mutual

def simulatedJson : Value → Json
  | .plain (.float x) => .str (x.general 5)
  | .plain v => plainJson v
  | .tile t => .obj [("W", viewJson t)]
  | .hollow => .obj [("W", .null)]
  | .tensor t => viewJson t
  | .fixed v => .obj [("X", simulatedJson v)]
  | .tuple items | .list items => .arr (simulatedJsons items)
  | .routed name | .method _ name => .str s!"<{name}>"
  | v => .str v.text

def simulatedJsons : List Value → List Json
  | [] => []
  | v :: vs => simulatedJson v :: simulatedJsons vs

end

/-! ## Operations by name -/

def ownerOf (f : String) : Owner × String :=
  let name := (f.splitOn ".").getLastD ""
  match (f.splitOn ".").headD "" with
  | "p" => (.language, name)
  | "mm" => (.memory, name)
  | "m" => (.conversion, name)
  | _ => (.argument, name)

def consoleStep (context : Context) (acc : State × Array Value × List Json) (j : Json) : State × Array Value × List Json :=
  let (s, values, out) := acc
  let lookup (i : Nat) : Value := (values[i]?).getD .none
  let (owner, name) := ownerOf (ask j "f" "")
  let step : Run Value := do
    let args ← Run.check (simulatedAll lookup (j.get "a").items)
    let named ← (j.get "k").members.mapM fun (k, v) => do return (k, ← Run.check (simulated lookup v))
    Console.call owner name args named
  let memory (s : State) : Named Json :=
    if (j.get? "mem").isSome then
      [("mem", .arr (s.memory.regions.map fun r =>
        .arr ((r.cells.getD #[]).toList.map (elementJson r.type))))]
    else []
  match step { context } s with
  | .ok v s => (s, values.push v, out ++ [.obj (("r", simulatedJson v) :: memory s)])
  | .error f s => (s, values.push .none, out ++ [.obj (faultJson f ++ memory s)])

def consoleReport : Json :=
  let sizes (k : String) (dflt : Int) : List Int := (j.get? k).elim [dflt] ints
  let (s, addresses) := Console.place ((j.get "mem").items.map viewOf)
  let context : Context := { position := sizes "pid" 0, grid := sizes "grid" 1 }
  let (_, _, out) := (j.get "steps").items.foldl (consoleStep context) (s, addresses.toArray, [])
  .obj [("steps", .arr out)]

/-! ## Launches -/

def outcomeJson (o : Outcome) (withReturned : Bool) : Json :=
  .obj ([("args", Json.arr (o.tensors.map viewJson))] ++
    (if withReturned then [("ret", Json.arr (o.returned.map simulatedJson))] else []) ++
    (o.fault.map faultJson).getD [])

def launchOf : Result Launch := do
  let lookup (_ : Nat) : Value := .none
  let args ← simulatedAll lookup (j.get "args").items
  let named ← (j.get "kw").members.mapM fun (k, v) => do return (k, ← simulated lookup v)
  return { args, named, grid := match j.get "grid" with
    | .null => [1]
    | g => ints g }

def simulationReport (program : Lowering.Program) (subject : Kernels.Subject) (j : Json) : Result Json := do
  let launch ← launchOf j
  let session := Session.start program
  let withReturned := (j.get? "ret").isSome
  let failed (f : Fault) : Json := outcomeJson { tensors := launch.tensors, fault := some f } withReturned
  match checkVersion (ask j "torch" "2.1.0"), subject with
  | .error f, _ => return failed f
  | .ok (), .operation => return failed .outsideKernel
  | .ok (), .function info =>
    let (o, _) ← match j.get? "configs" with
      | some cs => do pure (launch.runTuned (← cs.items.mapM configOf) info session)
      | none => pure (launch.run info session)
    return outcomeJson o withReturned

/-! ## Host programs -/

open Host

/-! ### Values -/

mutual

def hostJson : Host.Value → Json
  | .plain v => hostPlainJson v
  | .tensor t | .differentiable t _ => viewJson t.view
  | .elementType e => .str e.text
  | .tuple xs | .list xs => .arr (hostJsons xs)
  | .dict es => .obj (hostMembers es)
  | .config c => .str c.text
  | .bytes h => .obj [("bytes", h)]
  | v => .str v.shown

def hostJsons : List Host.Value → List Json
  | [] => []
  | v :: vs => hostJson v :: hostJsons vs

def hostMembers : List (Host.Value × Host.Value) → Named Json
  | [] => []
  | (k, v) :: es => (k.text, hostJson v) :: hostMembers es

def hostPlainJson : Lowering.Value → Json
  | .float x => .str (x.general 5)
  | .tuple xs | .list xs => .arr (hostPlainJsons xs)
  | v => plainJson v

def hostPlainJsons : List Lowering.Value → List Json
  | [] => []
  | v :: vs => hostPlainJson v :: hostPlainJsons vs

end

def itemOf (v : Host.Value) : Json → Host Host.Value
  | .str n => Program.member v n
  | .int i =>
    match v.items? with
    | some xs =>
      let j := if i < 0 then i + xs.length else i
      match if j < 0 then none else xs[j.toNat]? with
      | some x => pure x
      | none => Host.refuse .index
    | none => Host.refuse .type
  | _ => pure .none

/-- What an object of a request stands for, given its entries as values: the form that one of its members tells, or else a
dictionary. -/
def formed (entries : List (Host.Value × Host.Value)) : Host Host.Value := do
  let result (i : Int) : Host.Value := (results[i.toNat]?).getD .none
  if (j.get? "T").isSome then
    let t ← Host.own (viewOf j)
    return .tensor { t with requiresGrad := flag j "grad" false }
  let values : List Host.Value := entries.map (·.2)
  match j.members, values with
  | [("d", .str n)], _ => return .elementType (.ofName n)
  | [("tld", .str n)], _ => return .plain (.ty (← Host.check (typeText n)))
  | [("v", .int i)], _ => return result i
  | [("v", .arr (.int i :: path))], _ => path.foldlM itemOf (result i)
  | [("tu", _)], [.list xs] => return .tuple xs
  | [("f", .str s)], _ => return .float ((Reading.float? s).getD .nan)
  | [("path", .str p)], _ => return .str ("TMP/" ++ p)
  | [("b", .str h)], _ => return .bytes h
  | [("std", .str n)], _ => return .named n
  | [("cfg", c)], _ => return .config (← Host.check (configOf c))
  | [("ns", _)], [v] => return .record "namespace" v.entries
  | [("fn", _)], [v] =>
    let fields := v.entries
    let text (n : String) : Option String := (fields.lookup n).bind Host.Value.str?
    return .given ((text "name").getD "f") (.of fields "ret") (text "get") (Host.Value.of fields "rows").entries (text "raise")
      (((fields.lookup "ms").bind Host.Value.float?).getD .zero) (((fields.lookup "quiet").map Host.Value.truth).getD false)
  | _, _ => return .dict entries

mutual

def hostValue : Json → Host Host.Value
  | .obj ms => do formed results (.obj ms) (← hostEntries ms)
  | .arr xs => do return .list (← hostValues xs)
  | .str s => return .str s
  | .bool b => return .bool b
  | .int n => return .int n
  | .float x => return .float x
  | .null => return .none

def hostValues : List Json → Host (List Host.Value)
  | [] => return []
  | x :: xs => do
    let v ← hostValue x
    return v :: (← hostValues xs)

def hostEntries : Named Json → Host (List (Host.Value × Host.Value))
  | [] => return []
  | (k, x) :: ms => do
    let v ← hostValue x
    return (.plain (keyValue k), v) :: (← hostEntries ms)

end

/-! ### Surroundings -/

def truthy : Json → Bool
  | .bool b => b
  | .int n => n != 0
  | _ => false

def textMembers : Named String := j.members.map fun (k, v) => (k, plainText v)

def replyOf : Json → Reply
  | .str s => { output := s }
  | j => {
      output := ask j "out" "", status := intOr j "rc" 0, failure := (j.get "raise").str?
      product := if flag j "make" true then some (ask j "made" "made") else none, files := textMembers (j.get "files") }

def machineAnswer : Json → String
  | .arr xs => " ".intercalate (xs.map plainText)
  | j => plainText j

/-- Variables that are set unless a request sets them otherwise. -/
def standingEnvironment : Named String := [("TRITON_CACHE_DIR", "TMP/cache"), ("TRITON_LIBDEVICE_PATH", "LIBDEVICE")]

def siteOf : Host Site := do
  let description ← hostValue #[] (j.get "yaml")
  return {
    hip := (j.get "hip").str?, machine := machineOf j, device := deviceOf j, stream := intOr j "stream" 0
    environment := textMembers (j.get "environ") ++ standingEnvironment, description
    available := !truthy (j.get "unavailable"), documents := truthy (j.get "sphinx")
    hasWorkloads := !truthy ((j.get "pti").get "import")
    replies := (j.get "cmds").items.map fun c => (((c.items.getD 0 .null).str?).getD "", replyOf (c.items.getD 1 .null))
    programs := (j.get? "which").elim [("gcc", "/usr/bin/gcc")] textMembers
    parent := ask j "parent" "python", platform := (j.get "platform").members.map fun (k, v) => (k, machineAnswer v)
    attentionFunctions := texts (j.get "flash"), hasFusedNorm := truthy (j.get "apex")
    archive := (j.get? "tar").map textMembers, arguments := texts (j.get "argv"), formTexts := textMembers (j.get "texts") }

def worldOf (files : Named String) : World := { files }

/-! ## Workloads -/

def usualSizes (w : Workload) : Json :=
  .arr ([w.small, w.usual, w.large].map fun (n : Nat) => .obj [(w.parameter, n)])

def differences : List Json → List Json
  | .int a :: .int b :: rest => .int (b - a) :: differences (.int b :: rest)
  | _ => []

/-- The results of a workload: all of them, or their digest and the first five when they are long. -/
def resultsJson (rs : List Json) : Json :=
  let text := Json.render {} (.arr rs)
  if text.length < 6000 then .arr rs else .obj [("sha256", Digest.sha256 text), ("first", .arr (rs.take 5))]

def runWorkload (w : Workload) (sizes : Named Json) : Result (List Json) := do
  let n ← match sizes with
    | [] => pure w.usual
    | [(p, .int n)] => if p == w.parameter then pure n.toNat else refused .type
    | _ => refused .type
  return (← w.run n).map hostJson

def workloadReport : Json :=
  match Workload.find? (ask j "bench" "") with
  | none => .obj (faultJson (.implicit .missingAttribute))
  | some w =>
    match runWorkload w (j.get "params").members with
    | .error f => .obj (faultJson f)
    | .ok rs =>
      let rs := if (j.get? "diff").isSome then differences rs else rs
      .obj [("params", usualSizes w), ("n", rs.length), ("r", resultsJson rs)]

end TileKernel.Wire
