import TileKernel.Lowering.Value

/-! # Options of command lines

An option begins with a dash; it can be shortened while it stays unambiguous, if it begins with two dashes or has no value
behind its single one. A value stands behind its option or in the same word. Numbers below zero and words with blanks are no
options. A command line that cannot be read ends the program with status two.
-/

namespace TileKernel.CommandLine

open Lowering

inductive ValueKind where
  | text
  | int
  | float

def ValueKind.read? (k : ValueKind) (s : String) : Option Value :=
  match k with
  | .text => some (.str s)
  | .int => (Reading.int? s).map .int
  | .float => (Reading.float? s).map .float

structure Opt where
  names : List String
  key : String
  kind : Option ValueKind := some .text
  required : Bool := false

namespace Opt

def ofName (kind : Option ValueKind) (name : String) : Opt where
  names := [name]
  key := String.ofList ((name.toList.dropWhile (· == '-')).map fun c => if c == '-' then '_' else c)
  kind

def text : String → Opt := ofName (some .text)
def int : String → Opt := ofName (some .int)
def switch : String → Opt := ofName none

end Opt

inductive Operands where
  | none
  | one (key : String)
  | atLeastOne (key : String)

structure Usage where
  options : List Opt
  operands : Operands := .none
  shortens : Bool := true

def exit {α : Type} (status : String) : Result α := .error (.stated .exit status)

def unreadable {α : Type} : Result α := exit "2"

inductive Word where
  | operand (s : String)
  | option (o : Opt) (name : String) (value : Option String)
  | unknown

def isNegativeNumber (s : String) : Bool :=
  match s.toList with
  | '-' :: rest =>
    let digits := rest.takeWhile Char.isDigit
    match rest.dropWhile Char.isDigit with
    | [] => !digits.isEmpty
    | '.' :: more => !more.isEmpty && more.all Char.isDigit
    | _ => false
  | _ => false

def atEquals (s : String) : String × Option String :=
  let (a, b) := s.toList.span (· != '=')
  match b with
  | [] => (s, none)
  | _ :: v => (String.ofList a, some (String.ofList v))

def candidates (options : List Opt) (shortens : Bool) (s : String) : List Word :=
  let named := options.flatMap fun o => o.names.map fun n => (o, n)
  if s.startsWith "--" then
    let (start, value) := atEquals s
    (named.filter fun (_, n) => shortens && n.startsWith start).map fun (o, n) => .option o n value
  else
    let short := String.ofList (s.toList.take 2)
    named.filterMap fun (o, n) =>
      if n == short then some (.option o n (some (String.ofList (s.toList.drop 2))))
      else if n.startsWith s then some (.option o n none)
      else none

def classify (options : List Opt) (shortens : Bool) (s : String) : Result Word :=
  let exact (n : String) : Option Opt := options.find? (·.names.contains n)
  if !s.startsWith "-" || s == "-" then .ok (.operand s)
  else match exact s, atEquals s with
    | some o, _ => .ok (.option o s none)
    | none, (n, value) =>
      match if value.isSome then exact n else none with
      | some o => .ok (.option o n value)
      | none =>
        match candidates options shortens s with
        | [w] => .ok w
        | _ :: _ => unreadable
        | [] => if isNegativeNumber s || s.toList.contains ' ' then .ok (.operand s) else .ok .unknown

def classifyAll (options : List Opt) (shortens : Bool) : List String → Result (List Word)
  | [] => .ok []
  | "--" :: rest => .ok (rest.map .operand)
  | s :: rest => do return (← classify options shortens s) :: (← classifyAll options shortens rest)

/-- Values of options and operands by their keys; the last value of a key counts. -/
abbrev Settings := Named Value

variable (s : Settings)

def Settings.value (key : String) : Value := (s.lookup key).getD .none

def Settings.text? (key : String) : Option String := match s.value key with
  | .str t => some t
  | _ => none

def Settings.int (key : String) (dflt : Int) : Int := ((s.value key).int?).getD dflt

def Settings.switch (key : String) : Bool := (s.value key).truth

/-- Switches in one word behind the first one, the last one first; the last one may have a value. -/
def switches (options : List Opt) : List Char → Result Settings
  | [] => .ok []
  | c :: rest =>
    match options.find? (·.names.contains (String.ofList ['-', c])) with
    | none => unreadable
    | some o =>
      match o.kind with
      | none => do return (← switches options rest) ++ [(o.key, .bool true)]
      | some k => match k.read? (String.ofList rest) with
        | some v => if rest.isEmpty then unreadable else .ok [(o.key, v)]
        | none => unreadable

structure Progress where
  found : Settings := []
  awaiting : Option (Opt × ValueKind) := none
  operands : List String := []
  closed : Bool := false

def Progress.set (p : Progress) (o : Opt) (k : ValueKind) (s : String) : Result Progress :=
  match k.read? s with
  | some v => .ok { p with found := (o.key, v) :: p.found, awaiting := none }
  | none => unreadable

def Progress.step (u : Usage) (p : Progress) (w : Word) : Result Progress :=
  match p.awaiting, w with
  | some (o, k), .operand s => p.set o k s
  | some _, _ => unreadable
  | none, .unknown => unreadable
  | none, .operand s =>
    let room := match u.operands with
      | .none => false
      | .one _ => p.operands.isEmpty
      | .atLeastOne _ => !p.closed
    if room then .ok { p with operands := p.operands ++ [s] } else unreadable
  | none, .option o name value =>
    let p := { p with closed := !p.operands.isEmpty }
    match o.kind, value with
    | some k, some s => p.set o k s
    | some k, none => .ok { p with awaiting := some (o, k) }
    | none, none => .ok { p with found := (o.key, .bool true) :: p.found }
    | none, some more =>
      if name.startsWith "--" then unreadable
      else do return { p with found := (← switches u.options more.toList) ++ (o.key, .bool true) :: p.found }

def read (u : Usage) (argv : List String) : Result Settings := do
  let p ← (← classifyAll u.options u.shortens argv).foldlM (Progress.step u) {}
  if p.awaiting.isSome then unreadable
  if u.options.any fun o => o.required && (p.found.lookup o.key).isNone then unreadable
  match u.operands, p.operands with
  | .none, _ => return p.found
  | .one key, [s] => return (key, .str s) :: p.found
  | .atLeastOne key, s :: ss => return (key, .list ((s :: ss).map .str)) :: p.found
  | _, _ => unreadable

end TileKernel.CommandLine
