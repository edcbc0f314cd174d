import TileKernel.Fault
import TileKernel.Number

/-! # Tokens of kernel sources

Reading a source text into tokens: names, numbers, texts, operators, and the line ends and indentations that delimit
statements. Formatted texts keep the characters of their embedded expressions, with their place, for the parser.
-/

namespace TileKernel.Source

/-- A piece of a formatted text: fixed text, or the characters of an expression with its place, conversion and format. -/
inductive FormatPiece where
  | text (s : String)
  | expr (chars : List Char) (pos : SourcePos) (label : Option String) (conversion : Option Char)
      (format : List FormatPiece)

inductive TokenKind where
  | name (s : String)
  | int (n : Nat)
  | float (x : Binary64)
  | imaginary (x : Binary64)
  | str (s : String)
  | bytes (s : String)
  | formatted (pieces : List FormatPiece)
  | op (s : String)
  | newline
  | indent
  | dedent
  | finish

structure Token where
  kind : TokenKind
  pos : SourcePos

namespace Lexer

structure Cursor where
  rest : List Char
  line : Int
  column : Int

namespace Cursor

def pos (c : Cursor) : SourcePos := ⟨c.line, c.column⟩

def step (c : Cursor) : Cursor :=
  match c.rest with
  | [] => c
  | '\n' :: cs => ⟨cs, c.line + 1, 0⟩
  | ch :: cs => ⟨cs, c.line, c.column + ch.utf8Size⟩

def skip : Nat → Cursor → Cursor
  | 0, c => c
  | n + 1, c => skip n c.step

end Cursor

def isNameStart (c : Char) : Bool := c.isAlpha || c == '_' || c.toNat ≥ 0x80

def isNameChar (c : Char) : Bool := isNameStart c || c.isDigit

def operators : List String :=
  ["**=", "//=", ">>=", "<<=", "...", "!=", "->", ":=", "==", "<=", ">=", "**", "//", "<<", ">>", "+=", "-=", "*=", "/=",
   "%=", "&=", "|=", "^=", "@=", "+", "-", "*", "/", "%", "@", "&", "|", "^", "~", "<", ">", "(", ")", "[", "]", "\x7b",
   "\x7d", ",", ":", ".", ";", "="]

def digitValue (c : Char) : Nat :=
  if c.isDigit then c.toNat - '0'.toNat
  else if 'a' ≤ c && c ≤ 'f' then c.toNat - 'a'.toNat + 10
  else if 'A' ≤ c && c ≤ 'F' then c.toNat - 'A'.toNat + 10
  else 99

def digitsValue (base : Nat) (cs : List Char) : Nat :=
  cs.foldl (fun n c => if c == '_' then n else n * base + digitValue c) 0

def spanDigits (base : Nat) (cs : List Char) : List Char × List Char :=
  cs.span fun c => c == '_' || digitValue c < base

def number (cs : List Char) : TokenKind × List Char :=
  match cs with
  | '0' :: 'x' :: rest | '0' :: 'X' :: rest =>
    let (ds, rest) := spanDigits 16 rest
    (.int (digitsValue 16 ds), rest)
  | '0' :: 'o' :: rest | '0' :: 'O' :: rest =>
    let (ds, rest) := spanDigits 8 rest
    (.int (digitsValue 8 ds), rest)
  | '0' :: 'b' :: rest | '0' :: 'B' :: rest =>
    let (ds, rest) := spanDigits 2 rest
    (.int (digitsValue 2 ds), rest)
  | _ =>
    let (whole, rest) := spanDigits 10 cs
    let (fraction, rest, hasPoint) := match rest with
      | '.' :: more =>
        let (f, more) := spanDigits 10 more
        (f, more, true)
      | _ => ([], rest, false)
    let (exponent, rest, hasExponent) : Int × List Char × Bool :=
      let after (sign : Int) (more : List Char) : Option (Int × List Char) :=
        match more with
        | d :: _ =>
          if d.isDigit then
            let (ds, more) := spanDigits 10 more
            some (sign * digitsValue 10 ds, more)
          else none
        | [] => none
      let found := match rest with
        | e :: more =>
          if e == 'e' || e == 'E' then
            match more with
            | '+' :: more => after 1 more
            | '-' :: more => after (-1) more
            | more => after 1 more
          else none
        | [] => none
      match found with
      | some (n, more) => (n, more, true)
      | none => (0, rest, false)
    let digits := (fraction.filter (· ≠ '_')).length
    let value := Binary64.ofDecimal (digitsValue 10 (whole ++ fraction)) (exponent - digits)
    match rest with
    | 'j' :: rest | 'J' :: rest => (.imaginary value, rest)
    | _ => if hasPoint || hasExponent then (.float value, rest) else (.int (digitsValue 10 whole), rest)

structure TextStyle where
  raw : Bool := false
  bytes : Bool := false
  formatted : Bool := false

def textStyle? (letters : List Char) : Option TextStyle :=
  match (letters.map Char.toLower) with
  | [] => some {}
  | ['r'] => some { raw := true }
  | ['u'] => some {}
  | ['b'] => some { bytes := true }
  | ['f'] => some { formatted := true }
  | ['b', 'r'] | ['r', 'b'] => some { raw := true, bytes := true }
  | ['f', 'r'] | ['r', 'f'] => some { raw := true, formatted := true }
  | _ => none

def escape (cs : List Char) : Option (List Char × Nat) :=
  let hexEscape (width : Nat) (rest : List Char) : Option (List Char × Nat) :=
    let ds := rest.take width
    if ds.length == width && ds.all (digitValue · < 16) then some ([Char.ofNat (digitsValue 16 ds)], width + 1) else none
  match cs with
  | '\n' :: _ => some ([], 1)
  | '\\' :: _ => some (['\\'], 1)
  | '\'' :: _ => some (['\''], 1)
  | '"' :: _ => some (['"'], 1)
  | 'n' :: _ => some (['\n'], 1)
  | 't' :: _ => some (['\t'], 1)
  | 'r' :: _ => some (['\r'], 1)
  | 'a' :: _ => some ([Char.ofNat 7], 1)
  | 'b' :: _ => some ([Char.ofNat 8], 1)
  | 'f' :: _ => some ([Char.ofNat 12], 1)
  | 'v' :: _ => some ([Char.ofNat 11], 1)
  | 'x' :: rest => hexEscape 2 rest
  | 'u' :: rest => hexEscape 4 rest
  | 'U' :: rest => hexEscape 8 rest
  | _ =>
    let ds := (cs.take 3).takeWhile (digitValue · < 8)
    if ds.isEmpty then none else some ([Char.ofNat (digitsValue 8 ds)], ds.length)

def textBody (quote : Char) (triple : Bool) : Nat → Cursor → List Char → Option (List Char × Cursor)
  | 0, _, _ => none
  | fuel + 1, c, acc =>
    match c.rest with
    | [] => none
    | '\\' :: ch :: _ => textBody quote triple fuel (c.skip 2) (ch :: '\\' :: acc)
    | ch :: rest =>
      if ch == quote && !triple then some (acc.reverse, c.step)
      else if ch == quote && rest.take 2 == [quote, quote] then some (acc.reverse, c.skip 3)
      else if ch == '\n' && !triple then none
      else textBody quote triple fuel c.step (ch :: acc)

def unescape : Nat → List Char → List Char → List Char
  | 0, _, acc => acc.reverse
  | _, [], acc => acc.reverse
  | fuel + 1, '\\' :: rest, acc =>
    match escape rest with
    | some (cs, n) => unescape fuel (rest.drop n) (cs.reverse ++ acc)
    | none => unescape fuel rest ('\\' :: acc)
  | fuel + 1, c :: rest, acc => unescape fuel rest (c :: acc)

/-- The characters of an embedded expression, up to the closing brace, conversion mark, format or label sign that ends it. -/
def embedded : Nat → Nat → Option Char → Cursor → List Char → Option (List Char × Cursor)
  | 0, _, _, _, _ => none
  | fuel + 1, depth, inQuote, c, acc =>
    match c.rest with
    | [] => none
    | ch :: rest =>
      match inQuote with
      | some q => embedded fuel depth (if ch == q then none else inQuote) c.step (ch :: acc)
      | none =>
        if ch == '\'' || ch == '"' then embedded fuel depth (some ch) c.step (ch :: acc)
        else if ch == '(' || ch == '[' || ch == '\x7b' then embedded fuel (depth + 1) none c.step (ch :: acc)
        else if depth > 0 && (ch == ')' || ch == ']' || ch == '\x7d') then
          embedded fuel (depth - 1) none c.step (ch :: acc)
        else if depth == 0 && (ch == '\x7d' || ch == ':') then some (acc.reverse, c)
        else if depth == 0 && ch == '!' && rest.head? ≠ some '=' then some (acc.reverse, c)
        else if depth == 0 && ch == '!' then embedded fuel depth none (c.skip 2) ('=' :: ch :: acc)
        else if depth == 0 && (ch == '=' || ch == '<' || ch == '>') && rest.head? == some '=' then
          embedded fuel depth none (c.skip 2) ('=' :: ch :: acc)
        else if depth == 0 && ch == '=' then some (acc.reverse, c)
        else embedded fuel depth none c.step (ch :: acc)

def formatPieces (raw : Bool) (nested : Bool) : Nat → Cursor → List Char → List FormatPiece → Option (List FormatPiece × Cursor)
  | 0, _, _, _ => none
  | fuel + 1, c, text, acc =>
    let flush (acc : List FormatPiece) : List FormatPiece :=
      if text.isEmpty then acc
      else
        let cs := text.reverse
        .text (String.ofList (if raw then cs else unescape (cs.length + 1) cs [])) :: acc
    match c.rest with
    | [] => if nested then none else some ((flush acc).reverse, c)
    | '\x7b' :: '\x7b' :: _ =>
      if nested then none else formatPieces raw nested fuel (c.skip 2) ('\x7b' :: text) acc
    | '\x7d' :: '\x7d' :: _ =>
      if nested then some ((flush acc).reverse, c) else formatPieces raw nested fuel (c.skip 2) ('\x7d' :: text) acc
    | '\x7d' :: _ => if nested then some ((flush acc).reverse, c) else none
    | '\x7b' :: _ =>
      let start := c.step
      match embedded fuel 0 none start [] with
      | none => none
      | some (chars, c) =>
        let (label, c) : Option String × Cursor := match c.rest with
          | '=' :: rest =>
            let blanks := rest.takeWhile (· == ' ')
            (some (String.ofList (chars ++ '=' :: blanks)), c.skip (1 + blanks.length))
          | _ => (none, c)
        let (conversion, c) : Option Char × Cursor := match c.rest with
          | '!' :: k :: _ => (some k, c.skip 2)
          | _ => (none, c)
        let close (format : List FormatPiece) (hasFormat : Bool) (c : Cursor) : Option (List FormatPiece × Cursor) :=
          match c.rest with
          | '\x7d' :: _ =>
            let conversion := if label.isSome && conversion.isNone && !hasFormat then some 'r' else conversion
            formatPieces raw nested fuel c.step [] (.expr chars start.pos label conversion format :: flush acc)
          | _ => none
        match c.rest with
        | ':' :: _ =>
          match formatPieces raw true fuel c.step [] [] with
          | some (format, c) => close format true c
          | none => none
        | _ => close [] false c
    | '\\' :: ch :: _ =>
      if raw then formatPieces raw nested fuel c.step ('\\' :: text) acc
      else formatPieces raw nested fuel (c.skip 2) (ch :: '\\' :: text) acc
    | ch :: _ => formatPieces raw nested fuel c.step (ch :: text) acc

def textLiteral (style : TextStyle) (c : Cursor) : Option (TokenKind × Cursor) :=
  match c.rest with
  | [] => none
  | quote :: rest =>
    let triple := rest.take 2 == [quote, quote]
    let start := if triple then c.skip 3 else c.step
    match textBody quote triple (start.rest.length + 1) start [] with
    | none => none
    | some (body, after) =>
      if style.formatted then
        let inner : Cursor := { start with rest := body }
        match formatPieces style.raw false (2 * body.length + 4) inner [] [] with
        | some (pieces, _) => some (.formatted pieces, after)
        | none => none
      else
        let cs := if style.raw then body else unescape (body.length + 1) body []
        some (if style.bytes then .bytes (String.ofList cs) else .str (String.ofList cs), after)

structure State where
  cursor : Cursor
  depth : Nat := 0
  indents : List Nat := [0]
  lineStart : Bool := true
  tokens : Array Token := #[]

/-- The width of the blanks at the start of a line; a tab goes to the next multiple of eight. -/
def indentWidth : List Char → Nat → Nat
  | ' ' :: cs, n => indentWidth cs (n + 1)
  | '\t' :: cs, n => indentWidth cs ((n / 8 + 1) * 8)
  | _, n => n

def closeIndents (pos : SourcePos) (width : Nat) : List Nat → Array Token → List Nat × Array Token × Bool
  | [], ts => ([0], ts, width == 0)
  | i :: is, ts =>
    if i > width then closeIndents pos width is (ts.push ⟨.dedent, pos⟩) else (i :: is, ts, i == width)

def unreadable : Fault := .implicit .badSource

def step (s : State) : Result (Option State) :=
  let c := s.cursor
  if s.lineStart && s.depth == 0 then
    let blanks := c.rest.takeWhile fun ch => ch == ' ' || ch == '\t' || ch.toNat == 12
    let after := c.skip blanks.length
    match after.rest with
    | [] => .ok (some { s with cursor := after, lineStart := false })
    | '\n' :: _ => .ok (some { s with cursor := after.step })
    | '\r' :: '\n' :: _ => .ok (some { s with cursor := after.skip 2 })
    | '#' :: rest =>
      let n := (rest.takeWhile (· ≠ '\n')).length
      .ok (some { s with cursor := after.skip (n + 1) })
    | _ =>
      let width := indentWidth blanks 0
      let current := s.indents.headD 0
      if width > current then
        .ok (some { s with
          cursor := after, lineStart := false, indents := width :: s.indents
          tokens := s.tokens.push ⟨.indent, after.pos⟩ })
      else
        let (indents, tokens, known) := closeIndents after.pos width s.indents s.tokens
        if known then .ok (some { s with cursor := after, lineStart := false, indents, tokens })
        else .error unreadable
  else
    match c.rest with
    | [] => .ok none
    | '\n' :: _ =>
      if s.depth > 0 then .ok (some { s with cursor := c.step })
      else .ok (some { s with cursor := c.step, lineStart := true, tokens := s.tokens.push ⟨.newline, c.pos⟩ })
    | '\\' :: '\n' :: _ => .ok (some { s with cursor := c.skip 2 })
    | '\\' :: '\r' :: '\n' :: _ => .ok (some { s with cursor := c.skip 3 })
    | '#' :: rest =>
      let n := (rest.takeWhile (· ≠ '\n')).length
      .ok (some { s with cursor := c.skip (n + 1) })
    | ch :: rest =>
      if ch == ' ' || ch == '\t' || ch == '\r' || ch.toNat == 12 then .ok (some { s with cursor := c.step })
      else if ch.isDigit || (ch == '.' && (rest.head?.map Char.isDigit).getD false) then
        let (kind, rest') := number c.rest
        let n := c.rest.length - rest'.length
        .ok (some { s with cursor := c.skip n, tokens := s.tokens.push ⟨kind, c.pos⟩ })
      else if ch == '\'' || ch == '"' then
        match textLiteral {} c with
        | some (kind, after) => .ok (some { s with cursor := after, tokens := s.tokens.push ⟨kind, c.pos⟩ })
        | none => .error unreadable
      else if isNameStart ch then
        let word := c.rest.takeWhile isNameChar
        let after := c.skip word.length
        let quote := after.rest.headD ' '
        match (if quote == '\'' || quote == '"' then textStyle? word else none) with
        | some style =>
          match textLiteral style after with
          | some (kind, after) => .ok (some { s with cursor := after, tokens := s.tokens.push ⟨kind, c.pos⟩ })
          | none => .error unreadable
        | none =>
          .ok (some { s with cursor := after, tokens := s.tokens.push ⟨.name (String.ofList word), c.pos⟩ })
      else
        match operators.find? fun o => o.toList.isPrefixOf c.rest with
        | none => .error unreadable
        | some o =>
          let depth := if o == "(" || o == "[" || o == "\x7b" then s.depth + 1
            else if o == ")" || o == "]" || o == "\x7d" then s.depth - 1 else s.depth
          .ok (some { s with cursor := c.skip o.length, depth, tokens := s.tokens.push ⟨.op o, c.pos⟩ })

def run : Nat → State → Result State
  | 0, s => .ok s
  | fuel + 1, s =>
    match step s with
    | .error f => .error f
    | .ok none => .ok s
    | .ok (some s') => run fuel s'

end Lexer

def tokensFrom (cs : List Char) (pos : SourcePos) (midLine : Bool) : Result (List Token) := do
  let start : Lexer.State :=
    { cursor := ⟨cs, pos.line, pos.column⟩, lineStart := !midLine, depth := if midLine then 1 else 0 }
  let s ← Lexer.run (2 * cs.length + 8) start
  let finish := s.cursor.pos
  let endsLine := match s.tokens.back? with
    | some ⟨.newline, _⟩ | none => true
    | _ => false
  let tokens := if endsLine || midLine then s.tokens else s.tokens.push ⟨.newline, finish⟩
  let dedents := (s.indents.filter (· > 0)).map fun _ => (⟨.dedent, finish⟩ : Token)
  return tokens.toList ++ dedents ++ [⟨.finish, finish⟩]

def tokens (source : String) : Result (List Token) := tokensFrom source.toList ⟨1, 0⟩ false

end TileKernel.Source
