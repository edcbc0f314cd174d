/-! # Lines and parts of texts

A break at the very end of a text does not start another line, and two characters that make up one break count once. Plain
texts know only carriage returns and line feeds as breaks, others also form feeds, separators and the line breaks beyond ASCII.
-/

namespace TileKernel.Text

def isPlainBreak (c : Char) : Bool := c == '\n' || c == '\r'

def isBreak (c : Char) : Bool :=
  (10 ≤ c.toNat && c.toNat ≤ 13) || (0x1c ≤ c.toNat && c.toNat ≤ 0x1e) || c.toNat == 0x85 || c.toNat == 0x2028 ||
    c.toNat == 0x2029

def linesFrom (isBreak : Char → Bool) (line : List Char) : List Char → List (List Char)
  | [] => if line.isEmpty then [] else [line.reverse]
  | '\r' :: '\n' :: rest => line.reverse :: linesFrom isBreak [] rest
  | c :: rest => if isBreak c then line.reverse :: linesFrom isBreak [] rest else linesFrom isBreak (c :: line) rest

def lines (s : String) : List String := (linesFrom isBreak [] s.toList).map String.ofList

def code (s : String) : List String :=
  (lines s).map fun line => String.ofList (line.toList.takeWhile (· == ' ')) ++ line

def indented (lines : List String) : List String := lines.map ("    " ++ ·)

def plainLines (s : String) : List String := (linesFrom isPlainBreak [] s.toList).map String.ofList

def parts (separator : Char) (s : String) : List String := (s.toList.splitOn separator).map String.ofList

/-- The parts of a text between the doubled occurrences of a character, with `part` in front of the first one, its
characters in reverse. -/
def pairPartsFrom (separator : Char) (part : List Char) : List Char → List (List Char)
  | [] => [part.reverse]
  | [c] => [(c :: part).reverse]
  | c :: d :: rest =>
    if c == separator && d == separator then part.reverse :: pairPartsFrom separator [] rest
    else pairPartsFrom separator (c :: part) (d :: rest)

def pairParts (separator : Char) (s : String) : List String := (pairPartsFrom separator [] s.toList).map String.ofList

/-! ## Columns -/

def toLeft (width : Nat) (s : String) : String := s ++ String.ofList (List.replicate (width - s.length) ' ')

def toRight (width : Nat) (s : String) : String := String.ofList (List.replicate (width - s.length) ' ') ++ s

def rule (width : Nat) : String := String.ofList (List.replicate width '-')

/-! ## Common indentation -/

def isIndent (c : Char) : Bool := c == ' ' || c == '\t'

def commonStart : List Char → List Char → List Char
  | a :: as, b :: bs => if a == b then a :: commonStart as bs else []
  | _, _ => []

def margin (lines : List (List Char)) : List Char :=
  let indents := (lines.filter fun l => l.any (!isIndent ·)).map (·.takeWhile isIndent)
  match indents with
  | [] => []
  | first :: rest => rest.foldl commonStart first

def clearBlank (line : List Char) : List Char := if line.all isIndent then [] else line

def dedent (s : String) : String :=
  let lines := (s.splitOn "\n").map fun l => clearBlank l.toList
  let n := (margin lines).length
  "\n".intercalate (lines.map fun l => String.ofList (l.drop n))

def fromFirst (word s : String) : String := String.ofList (go s.toList)
where
  go : List Char → List Char
    | [] => (s.toList.getLast?.map fun c => [c]).getD []
    | c :: cs => if word.toList.isPrefixOf (c :: cs) then c :: cs else go cs

end TileKernel.Text

/-! ## Comma-separated values

A field that begins with a quote goes on to the closing one, over commas and line breaks; a quote inside it is written twice. An
empty line is a row without fields.
-/

namespace TileKernel.Text.Csv

inductive Place where
  | rowStart
  | fieldStart
  | inField
  | inQuotes
  | afterQuote
deriving DecidableEq

structure Reader where
  place : Place := .rowStart
  field : List Char := []
  row : List String := []
  rows : List (List String) := []

namespace Reader

variable (r : Reader)

def endField : Reader :=
  { r with place := .fieldStart, field := [], row := String.ofList r.field.reverse :: r.row }

def endRow : Reader := { rows := r.row.reverse :: r.rows }

def add (place : Place) (c : Char) : Reader := { r with place, field := c :: r.field }

def plain (c : Char) : Reader :=
  if c == '\n' then r.endField.endRow else if c == ',' then r.endField else r.add .inField c

def step (c : Char) : Reader :=
  match r.place with
  | .rowStart => if c == '\n' then r.endRow else if c == '"' then { r with place := .inQuotes } else r.plain c
  | .fieldStart => if c == '"' then { r with place := .inQuotes } else r.plain c
  | .inField => r.plain c
  | .inQuotes => if c == '"' then { r with place := .afterQuote } else r.add .inQuotes c
  | .afterQuote => if c == '"' then r.add .inQuotes c else r.plain c

def finish : List (List String) :=
  (if r.place = .rowStart then r.rows else r.endField.endRow.rows).reverse

end Reader

def rows (s : String) : List (List String) := ((s.replace "\r\n" "\n").toList.foldl Reader.step {}).finish

end TileKernel.Text.Csv

/-! ## Quoted text

`Text.quoted` is the form used in messages: it prefers single quotes and falls back to double ones when only those avoid an
escape. `Text.jsonQuoted` is the form of string operands in printed modules.
-/

namespace TileKernel.Text

def hex (width n : Nat) : String :=
  let ds := Nat.toDigits 16 n
  String.ofList (List.replicate (width - ds.length) '0' ++ ds)

/-- Ranges of characters without a visible form: controls, format characters, separators other than the plain space. -/
def invisibleRanges : List (Nat × Nat) :=
  [(0x00, 0x1f), (0x7f, 0xa0), (0xad, 0xad), (0x600, 0x605), (0x61c, 0x61c), (0x6dd, 0x6dd), (0x70f, 0x70f),
   (0x1680, 0x1680), (0x180e, 0x180e), (0x2000, 0x200f), (0x2028, 0x202f), (0x205f, 0x206f), (0x3000, 0x3000),
   (0xd800, 0xf8ff), (0xfeff, 0xfeff), (0xfff0, 0xfffb), (0xfffe, 0xffff), (0xe0000, 0x10ffff)]

def visible (c : Char) : Bool := !invisibleRanges.any fun (a, b) => a ≤ c.toNat && c.toNat ≤ b

def quotedChar (quote c : Char) : String :=
  if c == '\\' then "\\\\"
  else if c == quote then String.ofList ['\\', c]
  else if c == '\n' then "\\n"
  else if c == '\r' then "\\r"
  else if c == '\t' then "\\t"
  else if visible c then String.ofList [c]
  else if c.toNat < 0x100 then "\\x" ++ hex 2 c.toNat
  else if c.toNat < 0x10000 then "\\u" ++ hex 4 c.toNat
  else "\\U" ++ hex 8 c.toNat

def quoted (s : String) : String :=
  let quote := if s.contains '\'' && !s.contains '"' then '"' else '\''
  let body := s.toList.foldl (fun acc c => acc ++ quotedChar quote c) ""
  quote.toString ++ body ++ quote.toString

def jsonChar (c : Char) : String :=
  if c == '"' then "\\\""
  else if c == '\\' then "\\\\"
  else if c == '\n' then "\\n"
  else if c == '\r' then "\\r"
  else if c == '\t' then "\\t"
  else if c.toNat == 8 then "\\b"
  else if c.toNat == 12 then "\\f"
  else if c.toNat < 0x20 then "\\u" ++ hex 4 c.toNat
  else c.toString

def jsonQuoted (s : String) : String :=
  "\"" ++ s.toList.foldl (fun acc c => acc ++ jsonChar c) "" ++ "\""

def commaSeparated (parts : List String) : String := ", ".intercalate parts

def bracketed (parts : List String) : String := "[" ++ commaSeparated parts ++ "]"

def braced (parts : List String) : String := "\x7b" ++ commaSeparated parts ++ "\x7d"

def parenthesised (parts : List String) : String :=
  match parts with
  | [p] => "(" ++ p ++ ",)"
  | _ => "(" ++ commaSeparated parts ++ ")"

def occursIn (needle s : String) : Bool := go needle.toList s.toList
where
  go (n : List Char) : List Char → Bool
    | [] => n.isEmpty
    | c :: cs => n.isPrefixOf (c :: cs) || go n cs

/-! ## Patterns

Matchers with a continuation: alternatives are tried in order, repetitions take as much as they can, as long as they make progress, and the
first way in which the whole pattern succeeds is the match.
-/

structure MatchState where
  previous : Option Char := none
  rest : List Char
  position : Nat := 0
  captures : List (Nat × List Char) := []

namespace MatchState

def step (s : MatchState) (c : Char) (rest : List Char) : MatchState :=
  { s with previous := some c, rest, position := s.position + 1 }

def group? (s : MatchState) (n : Nat) : Option String := (s.captures.lookup n).map String.ofList

def group (s : MatchState) (n : Nat) : String := (s.group? n).getD ""

end MatchState

abbrev Pattern := MatchState → (MatchState → Option MatchState) → Option MatchState

namespace Pattern

def one (p : Char → Bool) : Pattern := fun s k =>
  match s.rest with
  | c :: rest => if p c then k (s.step c rest) else none
  | [] => none

def nothing : Pattern := fun s k => k s

def andThen (a b : Pattern) : Pattern := fun s k => a s fun s => b s k

def all (ps : List Pattern) : Pattern := ps.foldr andThen nothing

def either (a b : Pattern) : Pattern := fun s k => (a s k).orElse fun _ => b s k

def firstOf : List Pattern → Pattern
  | [] => fun _ _ => none
  | [p] => p
  | p :: ps => either p (firstOf ps)

def text (s : String) : Pattern := all (s.toList.map fun c => one (· == c))

def upTo (a : Pattern) : Nat → Pattern
  | 0 => nothing
  | n + 1 => fun s k =>
    (a s fun s' => if s'.position > s.position then upTo a n s' k else none).orElse fun _ => k s

def many (a : Pattern) : Pattern := fun s k => upTo a (s.rest.length + 1) s k

def atLeastOne (a : Pattern) : Pattern := andThen a (many a)

def optional (a : Pattern) : Pattern := upTo a 1

def capture (n : Nat) (a : Pattern) : Pattern := fun s k =>
  a s fun s' => k { s' with captures := (n, s.rest.take (s'.position - s.position)) :: s'.captures }

def lineStart : Pattern := fun s k =>
  match s.previous with
  | none | some '\n' => k s
  | some _ => none

def lineEnd : Pattern := fun s k =>
  match s.rest with
  | [] | '\n' :: _ => k s
  | _ => none

def textEnd : Pattern := fun s k =>
  match s.rest with
  | [] | ['\n'] => k s
  | _ => none

def isAnyBut (cs : List Char) (c : Char) : Bool := !cs.contains c

def wideSpaces : List Nat := [0x85, 0xa0, 0x1680, 0x2028, 0x2029, 0x202f, 0x205f, 0x3000]

def isSpace (c : Char) : Bool :=
  c == ' ' || (9 ≤ c.toNat && c.toNat ≤ 13) || (0x1c ≤ c.toNat && c.toNat ≤ 0x1f) ||
    (0x2000 ≤ c.toNat && c.toNat ≤ 0x200a) || wideSpaces.contains c.toNat

/-- Letters, digits and the underscore; characters beyond ASCII count as letters unless they are blanks. -/
def isWord (c : Char) : Bool := c.isAlphanum || c == '_' || (c.toNat ≥ 0xaa && !isSpace c)

def isOnLine (c : Char) : Bool := c != '\n'

def matchStart? (p : Pattern) (s : String) : Option MatchState := p { rest := s.toList } some

/-- Places from which a pattern can be tried, in order: the match at the first one that succeeds, with the place itself. -/
def searchFrom (p : Pattern) : Nat → MatchState → Option (MatchState × MatchState)
  | 0, _ => none
  | fuel + 1, s =>
    match p s some with
    | some e => some (s, e)
    | none =>
      match s.rest with
      | [] => none
      | c :: rest => searchFrom p fuel (s.step c rest)

def search? (p : Pattern) (s : String) : Option MatchState :=
  (searchFrom p (s.length + 1) { rest := s.toList }).map (·.2)

def findAll (p : Pattern) (s : String) : List MatchState := go (s.length + 1) { rest := s.toList }
where
  go : Nat → MatchState → List MatchState
    | 0, _ => []
    | fuel + 1, s =>
      match searchFrom p (s.rest.length + 1) s with
      | none => []
      | some (start, e) =>
        let next := { e with captures := [] }
        if e.position > start.position then e :: go fuel next
        else match e.rest with
          | [] => [e]
          | c :: rest => e :: go fuel (next.step c rest)

def replaceAll (p : Pattern) (f : MatchState → String) (s : String) : String :=
  String.ofList (go (s.length + 1) { rest := s.toList })
where
  go : Nat → MatchState → List Char
    | 0, s => s.rest
    | fuel + 1, s =>
      match searchFrom p (s.rest.length + 1) s with
      | none => s.rest
      | some (start, e) =>
        let before := s.rest.take (start.position - s.position)
        let next := { e with captures := [] }
        if e.position > start.position then before ++ (f e).toList ++ go fuel next
        else match e.rest with
          | [] => before ++ (f e).toList
          | c :: rest => before ++ (f e).toList ++ c :: go fuel (next.step c rest)

end Pattern

end TileKernel.Text
