import TileKernel.Source.Tree

/-! # Reading sources

A recursive-descent parser from tokens to trees. The rules that a rule may nest are handed to it in a `Rules` record, and the
nesting depth bounds the recursion. The place of a tree is that of its first token, an opening parenthesis included.
-/

namespace TileKernel.Source

abbrev Parse := StateT (List Token) Result

namespace Parse

def fail {α : Type} : Parse α := throw Lexer.unreadable

def peek : Parse TokenKind := do
  return match ← get with
    | t :: _ => t.kind
    | [] => .finish

def here : Parse SourcePos := do
  return match ← get with
    | t :: _ => t.pos
    | [] => default

def advance : Parse Unit := modify (·.drop 1)

def atOp (s : String) : Parse Bool := do
  return match ← peek with
    | .op o => o == s
    | _ => false

def atWord (s : String) : Parse Bool := do
  return match ← peek with
    | .name o => o == s
    | _ => false

def past {α : Type} (a : α) : Parse α := do
  advance
  return a

def acceptOp (s : String) : Parse Bool := do if ← atOp s then past true else return false

def acceptWord (s : String) : Parse Bool := do if ← atWord s then past true else return false

def expectOp (s : String) : Parse Unit := do if !(← acceptOp s) then fail

def expectWord (s : String) : Parse Unit := do if !(← acceptWord s) then fail

def reserved : List String :=
  ["False", "None", "True", "and", "as", "assert", "async", "await", "break", "class", "continue", "def", "del", "elif",
   "else", "except", "finally", "for", "from", "global", "if", "import", "in", "is", "lambda", "nonlocal", "not", "or",
   "pass", "raise", "return", "try", "while", "with", "yield"]

def identifier : Parse String := do
  match ← peek with
  | .name s => if reserved.contains s then fail else past s
  | _ => fail

def loop {α : Type} (step : α → Parse (Option α)) : Nat → α → Parse α
  | 0, _ => fail
  | fuel + 1, a => do
    match ← step a with
    | none => pure a
    | some a => loop step fuel a

def plenty : Nat := 1000000

def collect {α : Type} (step : Parse (Option α)) : Parse (List α) := do
  let items ← loop (fun (acc : List α) => do
    match ← step with
    | none => pure none
    | some a => pure (some (a :: acc))) plenty []
  return items.reverse

def optional {α : Type} (accept : Parse Bool) (item : Parse α) : Parse (Option α) := do
  if ← accept then return some (← item) else return none

def many {α : Type} (accept : Parse Bool) (item : Parse α) : Parse (List α) := collect (optional accept item)

end Parse

open Parse

structure Rules where
  test : Parse Expr
  disjunct : Parse Expr
  notTest : Parse Expr
  factor : Parse Expr
  suite : Parse (List Stmt)

variable (p : SourcePos)

namespace Rules

variable (r : Rules)

def starOrTest : Parse Expr := do
  let p ← here
  if ← acceptOp "*" then return .starred p (← r.test) .load
  let e ← r.test
  if ← acceptOp ":=" then return .named p (e.withAccess .store) (← r.test)
  return e

/-- Items separated by commas up to one of the closing tokens; the flag tells whether there was any comma. -/
def items (item : Parse Expr) (closes : Parse Bool) : Parse (List Expr × Bool) := do
  let (acc, comma, _) ← loop (fun ((acc, comma, more) : List Expr × Bool × Bool) => do
    if !more || (← closes) then return none
    let e ← item
    let c ← acceptOp ","
    return some (e :: acc, comma || c, c)) plenty ([], false, true)
  return (acc.reverse, comma)

def listEnds : Parse Bool := do
  match ← peek with
  | .newline | .finish | .dedent | .indent => return true
  | .op o => return [")", "]", "\x7d", "=", ":", ";", "+=", "-=", "*=", "/=", "//=", "%=", "**=", "&=", "|=", "^=", "<<=",
      ">>=", "@="].contains o
  | .name w => return ["in", "for", "if", "else"].contains w
  | _ => return false

def asTuple (es : List Expr) (comma : Bool) : Expr :=
  match es, comma with
  | [e], false => e
  | es, _ => .tuple p es .load

def testList : Parse Expr := do
  let p ← here
  let (es, comma) ← items r.starOrTest listEnds
  if es.isEmpty then fail else return asTuple p es comma

def targets (item : Parse Expr) : Parse Expr := do
  let p ← here
  let (ts, comma) ← items (do
    let q ← here
    if ← acceptOp "*" then return .starred q (← r.factor) .load
    item) (atWord "in")
  expectWord "in"
  return (asTuple p ts comma).withAccess .store

def atClause : Parse Bool := do return (← atWord "for") || (← atWord "async")

def clauses : Parse (List Clause) := collect do
  if ← acceptWord "async" then pure ()
  if !(← acceptWord "for") then return none
  let target ← r.targets r.factor
  -- the source of a clause is a disjunction, so that a condition may follow
  let iter ← r.disjunct
  return some (.mk target iter (← many (acceptWord "if") r.disjunct))

def bracketed (close : String) : Parse (List Expr × Bool × List Clause) := do
  if ← acceptOp close then return ([], false, [])
  let first ← r.starOrTest
  if ← atClause then
    let cs ← r.clauses
    expectOp close
    return ([first], false, cs)
  if ← acceptOp "," then
    let (rest, _) ← items r.starOrTest (atOp close)
    expectOp close
    return (first :: rest, true, [])
  expectOp close
  return ([first], false, [])

def braces : Parse Expr := do
  if ← acceptOp "\x7d" then return .dict p [] []
  let spread ← acceptOp "**"
  if spread then
    let v ← r.test
    let _ ← acceptOp ","
    dictRest p [(none, v)]
  else
    let first ← r.starOrTest
    if ← acceptOp ":" then
      let v ← r.test
      if ← atClause then
        let cs ← r.clauses
        expectOp "\x7d"
        return .comprehension p "DictComp" first (some v) cs
      let _ ← acceptOp ","
      dictRest p [(some first, v)]
    else if ← atClause then
      let cs ← r.clauses
      expectOp "\x7d"
      return .comprehension p "SetComp" first none cs
    else
      let rest ← if ← acceptOp "," then (do return (← items r.starOrTest (atOp "\x7d")).1) else pure []
      expectOp "\x7d"
      return .set p (first :: rest)
where
  dictRest (p : SourcePos) (seed : List (Option Expr × Expr)) : Parse Expr := do
    let rest ← collect do
      if ← atOp "\x7d" then return none
      if ← acceptOp "**" then
        let v ← r.test
        let _ ← acceptOp ","
        return some ((none : Option Expr), v)
      let k ← r.test
      expectOp ":"
      let v ← r.test
      let _ ← acceptOp ","
      return some (some k, v)
    expectOp "\x7d"
    let all := seed ++ rest
    return .dict p (all.map (·.1)) (all.map (·.2))

def params (annotated : Bool) (closes : Parse Bool) : Parse Params := do
  let one : Parse Param := do
    let p ← here
    let n ← identifier
    let a ← if annotated then optional (acceptOp ":") r.test else pure none
    return .mk p n a
  let step : (Params × Bool) → Parse (Option (Params × Bool)) := fun (ps, starred) => do
    if ← closes then return none
    let .mk args defaults vararg kwonly kwDefaults kwarg := ps
    let next : Params × Bool ← do
      if ← acceptOp "**" then
        pure (.mk args defaults vararg kwonly kwDefaults (some (← one)), starred)
      else if ← acceptOp "*" then
        if ← atOp "," then pure (ps, true)
        else pure (.mk args defaults (some (← one)) kwonly kwDefaults kwarg, true)
      else if ← acceptOp "/" then pure (ps, starred)
      else
        let a ← one
        let d ← optional (acceptOp "=") r.test
        if starred then pure (.mk args defaults vararg (kwonly ++ [a]) (kwDefaults ++ [d]) kwarg, starred)
        else pure (.mk (args ++ [a]) (defaults ++ d.toList) vararg kwonly kwDefaults kwarg, starred)
    if !(← acceptOp ",") then
      if !(← closes) then fail
    return some next
  let (ps, _) ← loop step plenty (default, false)
  return ps

def arguments (openPos : SourcePos) : Parse (List Expr × List Keyword) := do
  let (args, kws, _) ← loop (fun ((args, kws, more) : List Expr × List Keyword × Bool) => do
    if !more || (← atOp ")") then return none
    let p ← here
    if ← acceptOp "**" then
      let v ← r.test
      return some (args, .mk p none v :: kws, ← acceptOp ",")
    if ← acceptOp "*" then
      let v ← r.test
      return some (.starred p v .load :: args, kws, ← acceptOp ",")
    let e ← r.starOrTest
    match e, ← atOp "=" with
    | .name _ n _, true =>
      advance
      let v ← r.test
      return some (args, .mk p (some n) v :: kws, ← acceptOp ",")
    | _, true => fail
    | _, false =>
      if ← atClause then
        let cs ← r.clauses
        return some (.comprehension openPos "GeneratorExp" e none cs :: args, kws, ← acceptOp ",")
      return some (e :: args, kws, ← acceptOp ",")) plenty ([], [], true)
  expectOp ")"
  return (args.reverse, kws.reverse)

def subscriptItem : Parse Expr := do
  let p ← here
  let ends : Parse Bool := do return (← atOp ":") || (← atOp "]") || (← atOp ",")
  let lower ← if ← ends then pure none else some <$> r.starOrTest
  if ← acceptOp ":" then
    let upper ← if ← ends then pure none else some <$> r.test
    let step ← if ← acceptOp ":" then (if ← ends then pure none else some <$> r.test) else pure none
    return .slice p lower upper step
  match lower with
  | some e => return e
  | none => fail

def subscriptIndex : Parse Expr := do
  let p ← here
  let (es, comma) ← items r.subscriptItem (atOp "]")
  expectOp "]"
  if es.isEmpty then fail else return asTuple p es comma

end Rules

def textParts (read : List Char → SourcePos → Result Expr) : Nat → List FormatPiece → Result (List TextPart)
  | 0, _ => .ok []
  | _, [] => .ok []
  | fuel + 1, .text s :: rest => do return .text s :: (← textParts read fuel rest)
  | fuel + 1, .expr cs pos label conversion format :: rest => do
    let e ← read cs pos
    let f ← textParts read fuel format
    let rest ← textParts read fuel rest
    let value := TextPart.value e conversion f
    return match label with
      | some l => .text l :: value :: rest
      | none => value :: rest

def joinTexts : List TextPart → List TextPart
  | .text a :: rest =>
    match joinTexts rest with
    | .text b :: rest => .text (a ++ b) :: rest
    | rest => .text a :: rest
  | part :: rest => part :: joinTexts rest
  | [] => []

namespace Rules

variable (r : Rules)

def embeddedExpr (cs : List Char) (pos : SourcePos) : Result Expr := do
  let ts ← tokensFrom cs pos true
  let (e, _) ← r.testList.run ts
  return e

def textLiterals : Parse Expr := do
  let pieces ← collect do
    match ← peek with
    | .str s => past (some (Sum.inl (s, false)))
    | .bytes s => past (some (.inl (s, true)))
    | .formatted fs => past (some (.inr fs))
    | _ => return none
  let isFormatted := pieces.any fun
    | .inr _ => true
    | _ => false
  if isFormatted then
    let parts ← pieces.mapM fun
      | .inl (s, _) => pure [TextPart.text s]
      | .inr fs =>
        match textParts r.embeddedExpr (fs.length + 8) fs with
        | .ok ps => pure ps
        | .error f => throw f
    let parts := joinTexts (parts.flatten)
    return .formatted p (parts.filter fun
      | .text s => !s.isEmpty
      | _ => true)
  else
    let isBytes := pieces.any fun
      | .inl (_, b) => b
      | _ => false
    let s := String.join (pieces.map fun
      | .inl (s, _) => s
      | _ => "")
    return .literal p (if isBytes then .bytes s else .str s)

def atom : Parse Expr := do
  let p ← here
  match ← peek with
  | .int n => past (.literal p (.int n))
  | .float x => past (.literal p (.float x))
  | .imaginary x => past (.literal p (.imaginary x))
  | .str _ | .bytes _ | .formatted _ => r.textLiterals p
  | .name "None" => past (.literal p .none)
  | .name "True" => past (.literal p (.bool true))
  | .name "False" => past (.literal p (.bool false))
  | .name "yield" =>
    advance
    if ← acceptWord "from" then return .yield p "YieldFrom" (some (← r.test))
    if ← listEnds then return .yield p "Yield" none
    return .yield p "Yield" (some (← r.testList))
  | .name _ => return .name p (← identifier) .load
  | .op "..." => past (.literal p .ellipsis)
  | .op "(" =>
    advance
    if ← acceptOp ")" then return .tuple p [] .load
    let (es, comma, cs) ← r.bracketed ")"
    match es, comma, cs with
    | [e], false, [] => return e
    | [e], false, cs => return .comprehension p "GeneratorExp" e none cs
    | es, _, _ => return .tuple p es .load
  | .op "[" =>
    advance
    let (es, _, cs) ← r.bracketed "]"
    match es, cs with
    | [e], c :: cs => return .comprehension p "ListComp" e none (c :: cs)
    | es, _ => return .list p es .load
  | .op "\x7b" =>
    advance
    r.braces p
  | _ => fail

def primary : Parse Expr := do
  let p ← here
  if ← atWord "await" then fail
  let a ← r.atom
  loop (fun e => do
    if ← acceptOp "." then return some (.attr p e (← identifierOrWord) .load)
    let q ← here
    if ← acceptOp "(" then
      let (args, kws) ← r.arguments q
      return some (.call p e args kws)
    if ← acceptOp "[" then return some (.subscript p e (← r.subscriptIndex) .load)
    return none) plenty a
where
  identifierOrWord : Parse String := do
    match ← peek with
    | .name s => past s
    | _ => fail

def factorRule : Parse Expr := do
  let p ← here
  if ← acceptOp "-" then return .unary p .uSub (← r.factor)
  if ← acceptOp "+" then return .unary p .uAdd (← r.factor)
  if ← acceptOp "~" then return .unary p .invert (← r.factor)
  let base ← r.primary
  if ← acceptOp "**" then return .binary p base .pow (← r.factor)
  return base

def binaryLevels : List (Named BinaryOp) :=
  [[("*", .mult), ("/", .div), ("//", .floorDiv), ("%", .mod), ("@", .matMult)], [("+", .add), ("-", .sub)],
   [("<<", .lShift), (">>", .rShift)], [("&", .bitAnd)], [("^", .bitXor)], [("|", .bitOr)]]

def leftChain (ops : Named BinaryOp) (operand : Parse Expr) : Parse Expr := do
  let p ← here
  let first ← operand
  loop (fun e => do
    match ← peek with
    | .op o =>
      match ops.lookup o with
      | some op =>
        advance
        return some (.binary p e op (← operand))
      | none => return none
    | _ => return none) plenty first

def arithmetic : Parse Expr := binaryLevels.foldl (fun inner ops => leftChain ops inner) r.factorRule

def compareOps : Named CompareOp :=
  [("==", .eq), ("!=", .notEq), ("<", .lt), ("<=", .ltE), (">", .gt), (">=", .gtE)]

def compareOp : Parse (Option CompareOp) := do
  match ← get with
  | ⟨.name "not", _⟩ :: ⟨.name "in", _⟩ :: _ =>
    advance
    past (some .notIn)
  | ⟨.name "in", _⟩ :: _ => past (some .isIn)
  | ⟨.name "is", _⟩ :: _ =>
    advance
    return some (if ← acceptWord "not" then .isNot else .is)
  | ⟨.op o, _⟩ :: _ =>
    match compareOps.lookup o with
    | some op => past (some op)
    | none => return none
  | _ => return none

def notTestRule : Parse Expr := do
  let p ← here
  if ← acceptWord "not" then return .unary p .not (← r.notTest)
  let first ← r.arithmetic
  let rest ← collect do
    match ← compareOp with
    | some op => return some (op, ← r.arithmetic)
    | none => return none
  if rest.isEmpty then return first
  return .compare p first (rest.map (·.1)) (rest.map (·.2))

def connective (word : String) (op : BoolOp) (operand : Parse Expr) : Parse Expr := do
  let p ← here
  let first ← operand
  let rest ← many (acceptWord word) operand
  if rest.isEmpty then return first
  return .bool p op (first :: rest)

def disjunction : Parse Expr := connective "or" .or (connective "and" .and r.notTestRule)

def testRule : Parse Expr := do
  let p ← here
  if ← acceptWord "lambda" then
    let ps ← r.params false (atOp ":")
    expectOp ":"
    return .lambda p ps (← r.test)
  let body ← r.disjunction
  if ← acceptWord "if" then
    let test ← r.disjunction
    expectWord "else"
    return .conditional p test body (← r.test)
  return body

def augmented : Named BinaryOp :=
  [("+=", .add), ("-=", .sub), ("*=", .mult), ("/=", .div), ("//=", .floorDiv), ("%=", .mod), ("**=", .pow),
   ("&=", .bitAnd), ("|=", .bitOr), ("^=", .bitXor), ("<<=", .lShift), (">>=", .rShift), ("@=", .matMult)]

def dottedName : Parse String := do
  let first ← identifier
  return ".".intercalate (first :: (← many (acceptOp ".") identifier))

def aliased (name : Parse String) : Parse (String × Option String) := do
  let n ← name
  return (n, ← optional (acceptWord "as") identifier)

def commaList {α : Type} (item : Parse α) : Parse (List α) := do
  let first ← item
  return first :: (← many (acceptOp ",") item)

def exprStmt : Parse Stmt := do
  let first ← r.testList
  match ← peek with
  | .op "=" =>
    let all := first :: (← many (acceptOp "=") r.testList)
    let value := all.getLastD first
    return .assign p (all.dropLast.map (·.withAccess .store)) value
  | .op ":" =>
    advance
    let declared ← r.test
    let value ← optional (acceptOp "=") r.testList
    return .annAssign p (first.withAccess .store) declared value
  | .op o =>
    match augmented.lookup o with
    | some op =>
      advance
      return .augAssign p (first.withAccess .store) op (← r.testList)
    | none => return .expr p first
  | _ => return .expr p first

def stmtEnds : Parse Bool := do
  match ← peek with
  | .newline | .finish | .op ";" => return true
  | _ => return false

def smallStmt : Parse Stmt := do
  let p ← here
  match ← peek with
  | .name "pass" => past (.pass p)
  | .name "break" => past (.break p)
  | .name "continue" => past (.continue p)
  | .name "return" =>
    advance
    if ← stmtEnds then return .ret p none
    return .ret p (some (← r.testList))
  | .name "raise" =>
    advance
    if ← stmtEnds then return .raising p none none
    let v ← r.test
    let cause ← optional (acceptWord "from") r.test
    return .raising p (some v) cause
  | .name "assert" =>
    advance
    let test ← r.test
    let message ← optional (acceptOp ",") r.test
    return .check p test message
  | .name "del" =>
    advance
    let target ← r.testList
    return .delete p (match target with
      | .tuple _ items _ => items.map (·.withAccess .del)
      | e => [e.withAccess .del])
  | .name "global" =>
    advance
    return .scope p "Global" (← commaList identifier)
  | .name "nonlocal" =>
    advance
    return .scope p "Nonlocal" (← commaList identifier)
  | .name "import" =>
    advance
    return .importing p (← commaList (aliased dottedName))
  | .name "from" =>
    advance
    let dots ← collect do
      if ← acceptOp "." then return some 1
      if ← acceptOp "..." then return some 3
      return none
    let module ← if ← atWord "import" then pure none else some <$> dottedName
    expectWord "import"
    if ← acceptOp "*" then return .importFrom p module [("*", none)] (dots.foldl (· + ·) 0)
    let names ← if ← acceptOp "(" then do
        let (ns, _) ← loop (fun ((ns, more) : List (String × Option String) × Bool) => do
          if !more || (← atOp ")") then return none
          let n ← aliased identifier
          return some (n :: ns, ← acceptOp ",")) plenty ([], true)
        expectOp ")"
        pure ns.reverse
      else commaList (aliased identifier)
    return .importFrom p module names (dots.foldl (· + ·) 0)
  | _ => r.exprStmt p

def lineEnd : Parse Unit := do
  match ← peek with
  | .newline => advance
  | .finish => pure ()
  | _ => fail

def simpleLine : Parse (List Stmt) := do
  let first ← r.smallStmt
  let rest ← collect do
    if ← acceptOp ";" then
      match ← peek with
      | .newline | .finish => return none
      | _ => return some (← r.smallStmt)
    else return none
  lineEnd
  return first :: rest

def otherwise : Parse (List Stmt) := do
  if ← acceptWord "else" then
    expectOp ":"
    r.suite
  else return []

def condRest : Nat → SourcePos → Parse Stmt
  | 0, _ => fail
  | fuel + 1, p => do
    let test ← r.starOrTest
    expectOp ":"
    let body ← r.suite
    let q ← here
    if ← acceptWord "elif" then
      let inner ← condRest fuel q
      return .cond p test body [inner]
    return .cond p test body (← r.otherwise)

def funcRest (decorators : List Expr) : Parse Stmt := do
  let name ← identifier
  expectOp "("
  let ps ← r.params true (atOp ")")
  expectOp ")"
  let returns ← optional (acceptOp "->") r.test
  expectOp ":"
  let body ← r.suite
  return .func p (.mk name ps returns decorators body)

def classRest (decorators : List Expr) : Parse Stmt := do
  let name ← identifier
  let bases ← if ← acceptOp "(" then (do return (← r.arguments p).1) else pure []
  expectOp ":"
  let body ← r.suite
  return .klass p name bases body decorators

def passPattern : Nat → Nat → Parse Unit
  | 0, _ => fail
  | fuel + 1, depth => do
    match ← peek with
    | .newline | .finish => fail
    | .op o =>
      if o == ":" && depth == 0 then return
      advance
      passPattern fuel (if ["(", "[", "\x7b"].contains o then depth + 1
        else if [")", "]", "\x7d"].contains o then depth - 1 else depth)
    | _ =>
      advance
      passPattern fuel depth

def choiceRest : Parse Stmt := do
  let subject ← r.testList
  expectOp ":"
  match ← peek with
  | .newline => advance
  | _ => fail
  match ← peek with
  | .indent => advance
  | _ => fail
  let bodies ← collect do
    if ← acceptWord "case" then
      passPattern plenty 0
      expectOp ":"
      return some (← r.suite)
    else return none
  match ← peek with
  | .dedent => advance
  | .finish => pure ()
  | _ => fail
  if bodies.isEmpty then fail
  return .choice p subject bodies

def statement : Parse (List Stmt) := do
  let p ← here
  match ← peek with
  | .name "if" =>
    advance
    return [← r.condRest plenty p]
  | .name "while" =>
    advance
    let test ← r.starOrTest
    expectOp ":"
    let body ← r.suite
    return [.loop p test body (← r.otherwise)]
  | .name "for" =>
    advance
    let target ← r.targets r.arithmetic
    let iter ← r.testList
    expectOp ":"
    let body ← r.suite
    return [.iterate p target iter body (← r.otherwise)]
  | .name "def" =>
    advance
    return [← r.funcRest p []]
  | .name "class" =>
    advance
    return [← r.classRest p []]
  | .name "with" =>
    advance
    let withItems ← commaList do
      let e ← r.test
      if ← acceptWord "as" then return (e, some ((← r.arithmetic).withAccess .store))
      return (e, none)
    expectOp ":"
    return [.scoped p withItems (← r.suite)]
  | .name "try" =>
    advance
    expectOp ":"
    let body ← r.suite
    let handlers ← collect do
      if ← acceptWord "except" then
        if ← acceptOp ":" then return some (.mk none none (← r.suite))
        let type ← r.test
        let name ← optional (acceptWord "as") identifier
        expectOp ":"
        return some (Handler.mk (some type) name (← r.suite))
      else return none
    let orelse ← r.otherwise
    let final ← if ← acceptWord "finally" then (do
        expectOp ":"
        r.suite) else pure []
    return [.attempt p body handlers orelse final]
  | .name "match" => tryCatch (do
      advance
      return [← r.choiceRest p]) fun _ => r.simpleLine
  | .op "@" =>
    let decorators ← collect do
      if ← acceptOp "@" then
        let e ← r.starOrTest
        lineEnd
        return some e
      else return none
    let q ← here
    if ← acceptWord "def" then return [← r.funcRest q decorators]
    if ← acceptWord "class" then return [← r.classRest q decorators]
    fail
  | _ => r.simpleLine

def statements : Parse (List Stmt) := do
  let groups ← collect do
    match ← peek with
    | .dedent | .finish => return none
    | .newline => past (some [])
    | _ => return some (← r.statement)
  return groups.flatten

def suiteRule : Parse (List Stmt) := do
  match ← peek with
  | .newline =>
    advance
    match ← peek with
    | .indent =>
      advance
      let body ← r.statements
      match ← peek with
      | .dedent => past body
      | _ => return body
    | _ => fail
  | _ => r.simpleLine

end Rules

/-- The rules, nested up to a depth. -/
def rulesAt : Nat → Rules
  | 0 => ⟨fail, fail, fail, fail, fail⟩
  | fuel + 1 =>
    let r := rulesAt fuel
    ⟨r.testRule, r.disjunction, r.notTestRule, r.factorRule, r.suiteRule⟩

def grammar : Rules := rulesAt 10000

def Parse.runAll {α : Type} (x : Parse α) (ts : List Token) : Result α := do
  let (a, rest) ← x.run ts
  match rest with
  | [] | ⟨.finish, _⟩ :: _ => return a
  | _ => throw Lexer.unreadable

def parse (source : String) : Result (List Stmt) := do grammar.statements.runAll (← tokens source)

def parseExpr (source : String) : Result Expr := do grammar.testList.runAll (← tokensFrom source.toList ⟨1, 0⟩ true)

end TileKernel.Source
