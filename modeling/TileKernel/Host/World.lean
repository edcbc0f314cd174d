import TileKernel.Simulation.Operation
import TileKernel.Tuning

/-! # Values of host programs

A host program works with tensors, plain values, and a few kinds of objects of its own. A tensor is a view of a storage; tensors
share memory when they name the same storage. A tensor that a differentiable function made remembers what its derivative needs.
-/

namespace TileKernel.Host

open Strided

structure Tensor where
  view : View
  storage : Nat := 0
  requiresGrad : Bool := false

namespace Tensor

variable (t : Tensor)

def shape : List Nat := t.view.shape

def size (i : Nat) : Nat := (t.view.shape[i]?).getD 0

def lastSize : Nat := (t.view.shape.getLast?).getD 0

def stride (i : Nat) : Int := (t.view.strides[i]?).getD 0

def type : ElementType := t.view.type

def count : Nat := t.view.count

def isContiguous : Bool := t.view.isContiguous

def onDevice : Bool := t.view.device == "cuda"

end Tensor

inductive Value where
  | plain (v : Lowering.Value)
  | tensor (t : Tensor)
  | elementType (e : ElementType)
  | tuple (items : List Value)
  | list (items : List Value)
  | dict (entries : List (Value × Value))
  | config (c : Tuning.Config)
  | bytes (hex : String)
  | record (label : String) (fields : List (String × Value))
  | named (name : String)
  /-- A function that a caller hands in: what it is called, what it gives, by what it fails, and how long it takes. -/
  | given (name : String) (result : Value) (field : Option String) (rows : List (String × Value)) (failure : Option String)
      (time : Binary64) (quiet : Bool)
  /-- An object that the program made, with its attributes; one with a message first is written as its message. -/
  | object (kind : String) (fields : List (String × Value))
  | entity (kind : String) (number : Nat)
  | differentiable (t : Tensor) (history : Value)
  | closure (name : String) (kept : List (String × Value))
  | sequence (name : String) (number : Nat)
deriving Inhabited

namespace Value

def none : Value := .plain .none
def int (n : Int) : Value := .plain (.int n)
def bool (b : Bool) : Value := .plain (.bool b)
def str (s : String) : Value := .plain (.str s)
def float (x : Binary64) : Value := .plain (.float x)

def nat (n : Nat) : Value := int n

instance (n : Nat) : OfNat Value n := ⟨nat n⟩
instance : Coe Nat Value := ⟨nat⟩
instance : Coe Int Value := ⟨int⟩
instance : Coe Bool Value := ⟨bool⟩
instance : Coe String Value := ⟨str⟩
instance : Coe Binary64 Value := ⟨float⟩
instance : Coe Tensor Value := ⟨tensor⟩

def texts (ts : List String) : Value := .list (ts.map str)

def members (ms : Named Value) : Value := .dict (ms.map fun (n, v) => (n, v))

def bytesOf (s : String) : Value := .bytes (String.join (s.toUTF8.toList.map fun b => Text.hex 2 b.toNat))

/-- The entry of a table, or nothing. -/
def of (fields : Named Value) (name : String) : Value := (fields.lookup name).getD none

def isNone : Value → Bool
  | .plain .none => true
  | _ => false

def int? : Value → Option Int
  | .plain v => v.int?
  | _ => Option.none

def float? : Value → Option Binary64
  | .plain (.float x) => some x
  | .plain v => v.int?.bind Binary64.ofInt?
  | _ => Option.none

def str? : Value → Option String
  | .plain (.str s) => some s
  | _ => Option.none

def tensor? : Value → Option Tensor
  | .tensor t | .differentiable t _ => some t
  | _ => Option.none

def items? : Value → Option (List Value)
  | .tuple xs | .list xs => some xs
  | .plain (.tuple xs) | .plain (.list xs) => some (xs.map .plain)
  | _ => Option.none

def truth : Value → Bool
  | .plain v => v.truth
  | .tensor t => match t.view.elements? with
    | some [e] => e.isTrue
    | _ => true
  | .tuple xs | .list xs => !xs.isEmpty
  | .dict es => !es.isEmpty
  | _ => true

mutual

def shown : Value → String
  | .plain v => v.shown
  | .tensor t | .differentiable t _ => t.view.text
  | .elementType e => e.text
  | .tuple xs => Text.parenthesised (shownAll xs)
  | .list xs => Text.bracketed (shownAll xs)
  | .dict es => Text.braced (shownEntries es)
  | .config c => c.text
  | .bytes h => h
  | .record label fs => label ++ "(" ++ ", ".intercalate (shownFields fs) ++ ")"
  | .named n | .given n _ _ _ _ _ _ | .closure n _ => s!"<{n}>"
  | .object _ (("message", .plain (.str s)) :: _) => s
  | .object k _ | .entity k _ => s!"<{k} object at 0x?>"
  | .sequence n _ => s!"<generator object {n} at 0x?>"

def shownAll : List Value → List String
  | [] => []
  | v :: vs => shown v :: shownAll vs

def shownEntries : List (Value × Value) → List String
  | [] => []
  | (k, v) :: es => s!"{shown k}: {shown v}" :: shownEntries es

def shownFields : Named Value → List String
  | [] => []
  | (k, v) :: fs => s!"{k}={shown v}" :: shownFields fs

end

def text : Value → String
  | .plain v => v.text
  | v => v.shown

def entries : Value → Named Value
  | .dict es => es.map fun (k, v) => (k.text, v)
  | _ => []

def field? (v : Value) (name : String) : Option Value :=
  match v with
  | .object _ fields | .record _ fields | .differentiable _ (.object _ fields) => fields.lookup name
  | .dict es => (es.find? fun (k, _) => k.str? == some name).map (·.2)
  | _ => Option.none

end Value

/-! ## What surrounds host programs

`Site` is what a host program finds and never changes, `World` what it changes.
-/

structure Reply where
  output : String := ""
  status : Int := 0
  failure : Option String := none
  product : Option String := some "made"
  files : Named String := []

structure Site where
  /-- The version of the second platform that the tensor library is built for, if it is. -/
  hip : Option String := none
  machine : Device.Machine := {}
  device : Tuning.Device := {}
  available : Bool := true
  stream : Int := 0
  environment : Named String := []
  replies : Named Reply := []
  programs : Named String := [("gcc", "/usr/bin/gcc")]
  parent : String := "python"
  platform : Named String := []
  attentionFunctions : List String := []
  hasFusedNorm : Bool := false
  documents : Bool := false
  hasWorkloads : Bool := true
  description : Value := .none
  archive : Option (Named String) := none
  arguments : List String := []
  formTexts : Named String := []

namespace Site

def isHip (s : Site) : Bool := s.hip.isSome

def setting? (s : Site) (name : String) : Option String := s.environment.lookup name

end Site

structure Entry where
  what : String
  items : List Value

structure World where
  clock : Binary64 := .zero
  journal : Array Entry := #[]
  printed : String := ""
  files : Named String := []
  storages : Nat := 0
  addresses : List (Nat × Int) := []
  nextAddress : Int := 65536
  kernels : List Launch.Launchable := []
  binaries : Named Launch.Cache := []
  tuned : Named Tuning.Tuner.State := []
  ticks : Nat := 0
  driverPlaces : Option (List String) := none
  sequences : Array (List Value) := #[]
  objects : Array (Named Value) := #[]
  routing : Simulation.Routing := { entries := [] }

end TileKernel.Host

namespace TileKernel

open Host in
abbrev Host := ReaderT Site (EStateM Fault World)

end TileKernel

namespace TileKernel.Host

def check {α : Type} : Result α → Host α
  | .ok a => pure a
  | .error f => throw f

def refuse {α : Type} (kind : FaultKind) : Host α := throw (.implicit kind)

def need {α : Type} (kind : FaultKind) : Option α → Host α
  | some a => pure a
  | none => refuse kind

def complain {α : Type} (kind : FaultKind) (text : String) : Host α := throw (.stated kind text)

def demand (b : Bool) (text : String) : Host Unit := if b then pure () else complain .assertion text

def note (what : String) (items : List Value) : Host Unit :=
  modify fun w => { w with journal := w.journal.push ⟨what, items⟩ }

def printLine (s : String) : Host Unit := modify fun w => { w with printed := w.printed ++ s ++ "\n" }

def printText (s : String) : Host Unit := modify fun w => { w with printed := w.printed ++ s }

def pass (ms : Binary64) : Host Unit := modify fun w => { w with clock := w.clock.add ms }

def attempt {α : Type} (x : Host α) : Host (Result α) := tryCatch (do return .ok (← x)) fun f => pure (.error f)

def ensuring {α : Type} (x : Host α) (last : Host Unit) : Host α := do
  let r ← attempt x
  last
  check r

def isHip : Host Bool := do return (← read).isHip

/-! ### Time -/

def tick : Host Nat := do
  let n := (← get).ticks + 1
  modify fun w => { w with ticks := n }
  return n

def seconds : Host Binary64 := do return ((Binary64.ofInt? (1000 + (← tick))).getD .zero)

/-! ### Files -/

def keptPath (path : String) : String :=
  if path.startsWith "TMP/" then (path.drop 4).toString
  else if path.startsWith "./" then (path.drop 2).toString
  else path

def readFile (path : String) : Host String := do need .missingFile ((← get).files.lookup (keptPath path))

def fileExists (path : String) : Host Bool := do return ((← get).files.lookup (keptPath path)).isSome

def writeFile (path text : String) : Host Unit :=
  modify fun w => { w with files := Table.put w.files (keptPath path) text }

def removeFile (path : String) : Host Unit :=
  modify fun w => { w with files := w.files.filter (·.1 != keptPath path) }

def temporaryPlace : String := "TMPDIR"

def withTemporary {α : Type} (x : Host α) : Host α :=
  ensuring x (modify fun w => { w with files := w.files.filter fun (n, _) => !n.startsWith (temporaryPlace ++ "/") })

/-! ### Lazy sequences -/

def sequence (name : String) (items : List Value) : Host Value := do
  let n := (← get).sequences.size
  modify fun w => { w with sequences := w.sequences.push items }
  return .sequence name n

def next : Value → Host Value
  | .sequence _ n => do
    match ((← get).sequences[n]?).getD [] with
    | [] => refuse .exhausted
    | v :: vs =>
      modify fun w => { w with sequences := w.sequences.setIfInBounds n vs }
      return v
  | _ => refuse .missingAttribute

/-! ### Objects -/

def create (kind : String) (fields : Named Value) : Host Value := do
  let n := (← get).objects.size
  modify fun w => { w with objects := w.objects.push fields }
  return .entity kind n

def fieldsOf : Value → Host (Named Value)
  | .entity _ n => do return ((← get).objects[n]?).getD []
  | .object _ fields | .record _ fields | .closure _ fields => pure fields
  | _ => pure []

def setField (v : Value) (name : String) (x : Value) : Host Unit :=
  match v with
  | .entity _ n =>
    let change (fs : Named Value) : Named Value :=
      if fs.any (fun f => f.1 == name) then fs.map fun (m, y) => if m == name then (m, x) else (m, y) else fs ++ [(name, x)]
    modify fun w => { w with objects := w.objects.modify n change }
  | _ => pure ()

/-! ### Commands -/

def outputPath : List String → Option String
  | "-o" :: p :: _ => some p
  | _ :: ws => outputPath ws
  | [] => none

def command (way : String) (words : List String) : Host Reply := do
  let line := " ".intercalate words
  note way [line]
  let r := (((← read).replies.find? fun (mark, _) => Text.occursIn mark line).map (·.2)).getD {}
  if let some kind := r.failure then complain (FaultKind.ofName kind) "stand-in"
  for (n, t) in r.files do writeFile n t
  if let (some p, some t) := (outputPath (line.splitOn " "), r.product) then writeFile p t
  return r

def shellLines (line : String) : Host (List String) := do return Text.plainLines (← command "run" [line]).output

/-! ### Storages -/

def own (v : Strided.View) : Host Tensor := do
  let n := (← get).storages
  modify fun w => { w with storages := n + 1 }
  return { view := v, storage := n }

def reserved (bytes : Nat) : Int := ((bytes + 511) / 512 * 512 + 512 : Nat)

def addressOf (t : Tensor) : Host Int := do
  let w ← get
  let within : Int := t.view.offset * t.view.type.bytes
  match w.addresses.lookup t.storage with
  | some a => return a + within
  | none =>
    set { w with addresses := (t.storage, w.nextAddress) :: w.addresses
                 nextAddress := w.nextAddress + reserved t.view.storageBytes }
    return w.nextAddress + within

/-! ### Moments -/

structure Moment where
  second : Nat

namespace Moment

def twoDigits (n : Nat) : String := (if n < 10 then "0" else "") ++ toString n

def start : Moment := ⟨86400 + 3 * 3600 + 4 * 60 + 5⟩

variable (m : Moment)

def day : Nat := m.second / 86400 + 1

def timeOfDay : String :=
  let s := m.second % 86400
  ":".intercalate [twoDigits (s / 3600), twoDigits (s / 60 % 60), twoDigits (s % 60)]

def text : String := s!"2024-01-{twoDigits m.day} {m.timeOfDay}"

def label : String := s!"01-{twoDigits m.day}-2024-{m.timeOfDay}"

def since (m earlier : Moment) : String :=
  let s := m.second - earlier.second
  ":".intercalate [toString (s / 3600), twoDigits (s / 60 % 60), twoDigits (s % 60)]

end Moment

def now : Host Moment := do return ⟨Moment.start.second + (← tick)⟩

end TileKernel.Host
