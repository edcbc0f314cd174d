import TileKernel.Number
import TileKernel.Text

/-! # JSON values

Signatures, metadata and measurements are kept in this format. Integers are exact and apart from floating-point numbers, and
objects keep the order of their members.
-/

namespace TileKernel

inductive Json where
  | null
  | bool (b : Bool)
  | int (n : Int)
  | float (x : Binary64)
  | str (s : String)
  | arr (items : List Json)
  | obj (members : List (String × Json))
deriving Inhabited

namespace Json

instance (n : Nat) : OfNat Json n := ⟨int n⟩
instance : Coe Nat Json := ⟨fun n => int n⟩
instance : Coe Int Json := ⟨int⟩
instance : Coe Bool Json := ⟨bool⟩
instance : Coe String Json := ⟨str⟩

def get? : Json → String → Option Json
  | .obj ms, k => ms.lookup k
  | _, _ => none

def get (j : Json) (k : String) : Json := (j.get? k).getD .null

def isNull : Json → Bool
  | .null => true
  | _ => false

def str? : Json → Option String
  | .str s => some s
  | _ => none

def int? : Json → Option Int
  | .int n => some n
  | _ => none

def bool? : Json → Option Bool
  | .bool b => some b
  | _ => none

def items : Json → List Json
  | .arr xs => xs
  | _ => []

def members : Json → List (String × Json)
  | .obj ms => ms
  | _ => []

structure Style where
  itemSeparator : String := ", "
  keySeparator : String := ": "
  asciiOnly : Bool := true
  sortKeys : Bool := false

def Style.compact : Style := { itemSeparator := ",", keySeparator := ":", asciiOnly := false }

def escapeUnits (c : Char) : String :=
  let n := c.toNat
  if n < 0x10000 then "\\u" ++ Text.hex 4 n
  else
    let m := n - 0x10000
    "\\u" ++ Text.hex 4 (0xd800 + m / 0x400) ++ "\\u" ++ Text.hex 4 (0xdc00 + m % 0x400)

def quote (ascii : Bool) (s : String) : String :=
  let q := Text.jsonQuoted s
  if ascii then q.toList.foldl (fun acc c => if c.toNat < 0x7f then acc.push c else acc ++ escapeUnits c) "" else q

/-- A floating-point number: the shortest decimal, or the words for what is no number. -/
def floatText (x : Binary64) : String :=
  if x.isNaN then "NaN" else if x.isInf then (if x.negative then "-Infinity" else "Infinity") else x.shortest

mutual

def render (style : Style) : Json → String
  | .null => "null"
  | .bool b => if b then "true" else "false"
  | .int n => toString n
  | .float x => floatText x
  | .str s => quote style.asciiOnly s
  | .arr xs => "[" ++ style.itemSeparator.intercalate (renderItems style xs) ++ "]"
  | .obj ms => "\x7b" ++ style.itemSeparator.intercalate (renderMembers style ms) ++ "\x7d"

def renderItems (style : Style) : List Json → List String
  | [] => []
  | x :: xs => render style x :: renderItems style xs

def renderMembers (style : Style) : List (String × Json) → List String
  | [] => []
  | (k, v) :: ms => (quote style.asciiOnly k ++ style.keySeparator ++ render style v) :: renderMembers style ms

end

mutual

def sorted : Json → Json
  | .arr xs => .arr (sortedItems xs)
  | .obj ms => .obj ((sortedMembers ms).mergeSort fun a b => a.1 ≤ b.1)
  | v => v

def sortedItems : List Json → List Json
  | [] => []
  | x :: xs => sorted x :: sortedItems xs

def sortedMembers : List (String × Json) → List (String × Json)
  | [] => []
  | (k, v) :: ms => (k, sorted v) :: sortedMembers ms

end

def dump (style : Style) (v : Json) : String := render style (if style.sortKeys then sorted v else v)

end Json

end TileKernel

/-! ## Reading

A number with a point or an exponent is a floating-point number. `fuel` bounds the nesting and is at most the length of the text.
-/

namespace TileKernel.Json

namespace Reader

def blanks : List Char → List Char
  | c :: cs => if c == ' ' || c == '\n' || c == '\t' || c == '\r' then blanks cs else c :: cs
  | [] => []

def unit? : List Char → Option (Nat × List Char)
  | a :: b :: c :: d :: rest => do
    let digit (c : Char) : Option Nat :=
      if c.isDigit then some (c.toNat - 48)
      else if 'a' ≤ c && c ≤ 'f' then some (c.toNat - 87)
      else if 'A' ≤ c && c ≤ 'F' then some (c.toNat - 55) else none
    return ((← digit a) * 4096 + (← digit b) * 256 + (← digit c) * 16 + (← digit d), rest)
  | _ => none

def text (acc : List Char) : Nat → List Char → Option (List Char × List Char)
  | 0, _ => none
  | fuel + 1, cs =>
    match cs with
    | [] => none
    | '"' :: rest => some (acc, rest)
    | '\\' :: 'u' :: rest => do
      let (n, rest) ← unit? rest
      if 0xd800 ≤ n && n < 0xdc00 then
        match rest with
        | '\\' :: 'u' :: more =>
          let (m, more) ← unit? more
          if 0xdc00 ≤ m && m < 0xe000 then
            text (Char.ofNat (0x10000 + (n - 0xd800) * 0x400 + (m - 0xdc00)) :: acc) fuel more
          else text (Char.ofNat 0xfffd :: acc) fuel rest
        | _ => text (Char.ofNat 0xfffd :: acc) fuel rest
      else text (Char.ofNat n :: acc) fuel rest
    | '\\' :: c :: rest =>
      let c := match c with
        | 'n' => '\n'
        | 't' => '\t'
        | 'r' => '\r'
        | 'b' => Char.ofNat 8
        | 'f' => Char.ofNat 12
        | c => c
      text (c :: acc) fuel rest
    | c :: rest => text (c :: acc) fuel rest

def string (fuel : Nat) (cs : List Char) : Option (String × List Char) := do
  let (acc, rest) ← text [] (fuel + 1) cs
  return (String.ofList acc.reverse, rest)

def isNumberChar (c : Char) : Bool := c.isDigit || c == '-' || c == '+' || c == '.' || c == 'e' || c == 'E'

def number (cs : List Char) : Option (Json × List Char) := do
  let word := cs.takeWhile isNumberChar
  let rest := cs.drop word.length
  let s := String.ofList word
  if word.any fun c => c == '.' || c == 'e' || c == 'E' then
    return (.float (← Reading.float? s), rest)
  else return (.int (← Reading.int? s), rest)

def word (w : String) (cs : List Char) : Option (List Char) :=
  if w.toList.isPrefixOf cs then some (cs.drop w.length) else none

/-- The parts of a list up to the mark that closes it; the commas between them are passed over. -/
def elements {α : Type} (close : Char) (part : List Char → Option (α × List Char)) :
    Nat → List α → List Char → Option (List α × List Char)
  | fuel + 1, acc, c :: cs =>
    if c = close then some (acc.reverse, cs)
    else if c = ',' then elements close part fuel acc (blanks cs)
    else do
      let (v, rest) ← part (c :: cs)
      elements close part fuel (v :: acc) (blanks rest)
  | _, _, _ => none

def member (value : List Char → Option (Json × List Char)) (fuel : Nat) : List Char → Option ((String × Json) × List Char)
  | '"' :: cs => do
    let (k, rest) ← string fuel cs
    let ':' :: rest := blanks rest | none
    let (v, rest) ← value rest
    return ((k, v), rest)
  | _ => none

def value : Nat → List Char → Option (Json × List Char)
  | 0, _ => none
  | fuel + 1, cs =>
    match blanks cs with
    | '\x7b' :: rest => do
      let (ms, rest) ← elements '\x7d' (member (value fuel) fuel) fuel [] (blanks rest)
      return (.obj ms, rest)
    | '[' :: rest => do
      let (xs, rest) ← elements ']' (value fuel) fuel [] (blanks rest)
      return (.arr xs, rest)
    | '"' :: rest => do
      let (s, rest) ← string fuel rest
      return (.str s, rest)
    | 'n' :: rest => do return (.null, ← word "ull" rest)
    | 't' :: rest => do return (.bool true, ← word "rue" rest)
    | 'f' :: rest => do return (.bool false, ← word "alse" rest)
    | 'N' :: rest => do return (.float .nan, ← word "aN" rest)
    | 'I' :: rest => do return (.float .infinity, ← word "nfinity" rest)
    | '-' :: 'I' :: rest => do return (.float Binary64.infinity.neg, ← word "nfinity" rest)
    | cs => number cs

end Reader

def read? (s : String) : Option Json :=
  let cs := s.toList
  match Reader.value (2 * cs.length + 2) cs with
  | some (v, rest) => if (Reader.blanks rest).isEmpty then some v else none
  | none => none

end TileKernel.Json
