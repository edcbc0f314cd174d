import TileKernel.Fault

/-! # Listings of machine code

A disassembler prints a function as pairs of lines: an instruction with the first half of its encoding, and the second half. A
listing shows instructions behind the control fields of their encoding, and branch targets as labels, numbered as branches
mention them.
-/

namespace TileKernel.Assembly

open Text Text.Pattern

private def blanks : Pattern := many (one isSpace)

private def words16 : Pattern := all (List.replicate 16 (one isWord))

/-- The line of an instruction: its text up to the semicolon, and the first half of its encoding. -/
def instructionLine : Pattern :=
  all [blanks, text "/*", all (List.replicate 4 (one isWord)), text "*/", blanks,
    capture 1 (all [many (one (· != ';')), text ";"]), blanks, text "/* 0x", capture 2 words16,
    text " */", blanks]

def encodingLine : Pattern := all [blanks, text "/* 0x", capture 1 words16, text " */", blanks]

def functionLine : Pattern := all [blanks, text "Function : ", capture 1 (atLeastOne (one isWord)), blanks]

def branch : Pattern :=
  all [capture 1 (all [many (one isOnLine), text "BRA", optional (text ".U"), text " "]),
    capture 2 (all [text "0x", atLeastOne (one isWord)]), text ";"]

def hexDigit? (c : Char) : Option Nat :=
  if c.isDigit then some (c.toNat - '0'.toNat)
  else if 'a' ≤ c && c ≤ 'f' then some (c.toNat - 'a'.toNat + 10)
  else if 'A' ≤ c && c ≤ 'F' then some (c.toNat - 'A'.toNat + 10)
  else none

/-- Hexadecimal digits; single underscores may stand between them. -/
def hexDigits? : List Char → Option (List Nat)
  | [] => none
  | [c] => (hexDigit? c).map ([·])
  | c :: '_' :: rest => do return (← hexDigit? c) :: (← hexDigits? rest)
  | c :: rest => do return (← hexDigit? c) :: (← hexDigits? rest)

def hex (s : String) : Result Nat :=
  let digits := match s.toList with
    | '0' :: 'x' :: '_' :: rest | '0' :: 'X' :: '_' :: rest | '0' :: 'x' :: rest | '0' :: 'X' :: rest => rest
    | cs => cs
  match hexDigits? digits with
  | some ds => .ok (ds.foldl (fun n d => n * 16 + d) 0)
  | none => refused .value

private def required (p : Pattern) (line : String) : Result MatchState :=
  match p.matchStart? line with
  | some m => .ok m
  | none => refused .missingAttribute

structure Control where
  wait : Nat
  readBarrier : Nat
  writeBarrier : Nat
  yields : Bool
  stall : Nat

namespace Control

def ofEncoding (enc : Nat) : Control :=
  { stall := (enc >>> 41) % 16, yields := (enc >>> 45) % 2 == 0, writeBarrier := (enc >>> 46) % 8
    readBarrier := (enc >>> 49) % 8, wait := (enc >>> 52) % 64 }

def text (c : Control) : String :=
  let barrier (n : Nat) : String := if n == 7 then "-" else toString n
  let wait := if c.wait == 0 then "--" else if c.wait < 10 then s!"0{c.wait}" else toString c.wait
  wait ++ ":" ++ barrier c.readBarrier ++ ":" ++ barrier c.writeBarrier ++ ":" ++ (if c.yields then "Y" else "-") ++ ":" ++
    String.ofList (Nat.toDigits 16 c.stall)

def ofLine (line : String) : Result Control := do
  return ofEncoding (← hex ((← required encodingLine line).group 1))

end Control

structure Instruction where
  control : Control
  text : String
  target : Option Nat := none

abbrev Labels := List Nat

variable (ls : Labels)

def Labels.number? (address : Nat) : Option Nat := ls.findIdx? (· == address)

def Labels.add (address : Nat) : Labels := if ls.contains address then ls else ls ++ [address]

def Instruction.ofLines (first second : String) : Result Instruction := do
  let text := (← required instructionLine first).group 1
  let text := if text.endsWith " ;" then (text.dropEnd 2).toString ++ ";" else text
  let control ← Control.ofLine second
  match branch.matchStart? text with
  | none => return { control, text }
  | some m => return { control, text, target := some (← hex (m.group 2)) }

def labelName (n : Nat) : String := s!"LBB{n}"

def labels (is : List Instruction) : Labels := is.foldl (fun ls i => i.target.elim ls ls.add) []

def Instruction.labelled (i : Instruction) : String :=
  match i.target.bind ls.number? with
  | none => i.text
  | some n => replaceAll branch (fun m => m.group 1 ++ labelName n ++ ";") i.text

/-- The lines of an instruction at its place: its label, if a branch goes there, and the instruction itself. Each instruction
takes sixteen bytes. -/
def Instruction.shown (place : Nat) (i : Instruction) : String :=
  let label := match ls.number? (place * 16) with
    | some n => labelName n ++ ":\n"
    | none => ""
  label ++ i.control.text ++ "\t" ++ i.labelled ls ++ "\n"

def instructions : Nat → List String → Result (List Instruction)
  | _, [] => refused .index
  | 0, _ => refused .index
  | fuel + 1, line :: rest =>
    if (instructionLine.matchStart? line).isNone then .ok []
    else match rest with
      | [] => refused .index
      | second :: rest => do
        let i ← Instruction.ofLines line second
        return i :: (← instructions fuel rest)

def listing (disassembly : String) : Result (Option String) :=
  match (plainLines disassembly).dropWhile fun l => (functionLine.matchStart? l).isNone with
  | [] => .ok none
  | header :: rest => do
    let name := ((functionLine.matchStart? header).map (·.group 1)).getD ""
    let is ← instructions (rest.length + 1) (rest.drop 1)
    let ls := labels is
    return some ("Function:" ++ name ++ "\n" ++ String.join (is.zipIdx.map fun (i, n) => i.shown ls n) ++ "\n")

def disassembleCommand (file : String) (function : Option String) : List String :=
  ["cuobjdump"] ++ (function.elim [] fun f => ["-fun", f]) ++ ["-sass", file]

end TileKernel.Assembly
