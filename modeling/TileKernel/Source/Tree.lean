import TileKernel.Source.Token

/-! # Trees of kernel sources

Kernels are written in an indentation-based language of assignments, loops, conditionals and calls. Every expression and
statement knows its place, because failures are reported by place. Constructs that no kernel may use are read as well, so
that they can be refused by name.
-/

namespace TileKernel.Source

inductive BinaryOp where
  | add | sub | mult | matMult | div | mod | pow | lShift | rShift | bitOr | bitXor | bitAnd | floorDiv
deriving DecidableEq

inductive UnaryOp where
  | invert | not | uAdd | uSub

inductive BoolOp where
  | and | or
deriving DecidableEq

inductive CompareOp where
  | eq | notEq | lt | ltE | gt | gtE | is | isNot | isIn | notIn
deriving DecidableEq

def CompareOp.name : CompareOp → String
  | .eq => "Eq"
  | .notEq => "NotEq"
  | .lt => "Lt"
  | .ltE => "LtE"
  | .gt => "Gt"
  | .gtE => "GtE"
  | .is => "Is"
  | .isNot => "IsNot"
  | .isIn => "In"
  | .notIn => "NotIn"

inductive Literal where
  | none
  | bool (b : Bool)
  | int (n : Int)
  | float (x : Binary64)
  | imaginary (x : Binary64)
  | str (s : String)
  | bytes (s : String)
  | ellipsis
deriving DecidableEq

inductive Access where
  | load | store | del
deriving DecidableEq

mutual

inductive Expr where
  | literal (pos : SourcePos) (value : Literal)
  | name (pos : SourcePos) (id : String) (access : Access)
  | attr (pos : SourcePos) (value : Expr) (name : String) (access : Access)
  | subscript (pos : SourcePos) (value index : Expr) (access : Access)
  | slice (pos : SourcePos) (lower upper step : Option Expr)
  | tuple (pos : SourcePos) (items : List Expr) (access : Access)
  | list (pos : SourcePos) (items : List Expr) (access : Access)
  | set (pos : SourcePos) (items : List Expr)
  | dict (pos : SourcePos) (keys : List (Option Expr)) (values : List Expr)
  | starred (pos : SourcePos) (value : Expr) (access : Access)
  | binary (pos : SourcePos) (left : Expr) (op : BinaryOp) (right : Expr)
  | unary (pos : SourcePos) (op : UnaryOp) (operand : Expr)
  | bool (pos : SourcePos) (op : BoolOp) (values : List Expr)
  | compare (pos : SourcePos) (left : Expr) (ops : List CompareOp) (rights : List Expr)
  | call (pos : SourcePos) (func : Expr) (args : List Expr) (keywords : List Keyword)
  | conditional (pos : SourcePos) (test body orelse : Expr)
  | lambda (pos : SourcePos) (params : Params) (body : Expr)
  | formatted (pos : SourcePos) (parts : List TextPart)
  | comprehension (pos : SourcePos) (kind : String) (element : Expr) (value : Option Expr) (clauses : List Clause)
  | yield (pos : SourcePos) (kind : String) (value : Option Expr)
  | named (pos : SourcePos) (target value : Expr)

inductive Keyword where
  | mk (pos : SourcePos) (name : Option String) (value : Expr)

inductive TextPart where
  | text (s : String)
  | value (e : Expr) (conversion : Option Char) (format : List TextPart)

inductive Clause where
  | mk (target iter : Expr) (conditions : List Expr)

inductive Param where
  | mk (pos : SourcePos) (name : String) (declared : Option Expr)

/-- Parameters: positional ones, defaults of the last of them, extra positional, keyword-only with defaults, extra keyword. -/
inductive Params where
  | mk (args : List Param) (defaults : List Expr) (vararg : Option Param) (kwonly : List Param)
      (kwDefaults : List (Option Expr)) (kwarg : Option Param)

end

mutual

inductive Stmt where
  | expr (pos : SourcePos) (value : Expr)
  | assign (pos : SourcePos) (targets : List Expr) (value : Expr)
  | augAssign (pos : SourcePos) (target : Expr) (op : BinaryOp) (value : Expr)
  | annAssign (pos : SourcePos) (target declared : Expr) (value : Option Expr)
  | ret (pos : SourcePos) (value : Option Expr)
  | cond (pos : SourcePos) (test : Expr) (body orelse : List Stmt)
  | loop (pos : SourcePos) (test : Expr) (body orelse : List Stmt)
  | iterate (pos : SourcePos) (target iter : Expr) (body orelse : List Stmt)
  | pass (pos : SourcePos)
  | break (pos : SourcePos)
  | continue (pos : SourcePos)
  | check (pos : SourcePos) (test : Expr) (message : Option Expr)
  | func (pos : SourcePos) (def_ : FuncDef)
  | klass (pos : SourcePos) (name : String) (bases : List Expr) (body : List Stmt) (decorators : List Expr)
  | importing (pos : SourcePos) (names : List (String × Option String))
  | importFrom (pos : SourcePos) (module : Option String) (names : List (String × Option String)) (level : Nat)
  | raising (pos : SourcePos) (value cause : Option Expr)
  | scoped (pos : SourcePos) (items : List (Expr × Option Expr)) (body : List Stmt)
  | attempt (pos : SourcePos) (body : List Stmt) (handlers : List Handler) (orelse final : List Stmt)
  /-- A choice by the form of a value; of its cases only the statements are kept. -/
  | choice (pos : SourcePos) (subject : Expr) (bodies : List (List Stmt))
  | scope (pos : SourcePos) (kind : String) (names : List String)
  | delete (pos : SourcePos) (targets : List Expr)

inductive Handler where
  | mk (type : Option Expr) (name : Option String) (body : List Stmt)

inductive FuncDef where
  | mk (name : String) (params : Params) (returns : Option Expr) (decorators : List Expr) (body : List Stmt)

end

instance : Inhabited Expr := ⟨.literal default .none⟩
instance : Inhabited Stmt := ⟨.pass default⟩
instance : Inhabited Params := ⟨.mk [] [] none [] [] none⟩
instance : Inhabited FuncDef := ⟨.mk "" default none [] []⟩

namespace Expr

def pos : Expr → SourcePos
  | .literal p _ | .name p _ _ | .attr p _ _ _ | .subscript p _ _ _ | .slice p _ _ _ | .tuple p _ _ | .list p _ _
  | .set p _ | .dict p _ _ | .starred p _ _ | .binary p _ _ _ | .unary p _ _ | .bool p _ _ | .compare p _ _ _
  | .call p _ _ _ | .conditional p _ _ _ | .lambda p _ _ | .formatted p _ | .comprehension p _ _ _ _ | .yield p _ _
  | .named p _ _ => p

def kindName : Expr → String
  | .literal _ _ => "Constant"
  | .name _ _ _ => "Name"
  | .attr _ _ _ _ => "Attribute"
  | .subscript _ _ _ _ => "Subscript"
  | .slice _ _ _ _ => "Slice"
  | .tuple _ _ _ => "Tuple"
  | .list _ _ _ => "List"
  | .set _ _ => "Set"
  | .dict _ _ _ => "Dict"
  | .starred _ _ _ => "Starred"
  | .binary _ _ _ _ => "BinOp"
  | .unary _ _ _ => "UnaryOp"
  | .bool _ _ _ => "BoolOp"
  | .compare _ _ _ _ => "Compare"
  | .call _ _ _ _ => "Call"
  | .conditional _ _ _ _ => "IfExp"
  | .lambda _ _ _ => "Lambda"
  | .formatted _ _ => "JoinedStr"
  | .comprehension _ k _ _ _ => k
  | .yield _ k _ => k
  | .named _ _ _ => "NamedExpr"

mutual

def withAccess (a : Access) : Expr → Expr
  | .name p id _ => .name p id a
  | .attr p v n _ => .attr p v n a
  | .subscript p v i _ => .subscript p v i a
  | .tuple p items _ => .tuple p (withAccessAll a items) a
  | .list p items _ => .list p (withAccessAll a items) a
  | .starred p v _ => .starred p (withAccess a v) a
  | e => e

def withAccessAll (a : Access) : List Expr → List Expr
  | [] => []
  | e :: es => withAccess a e :: withAccessAll a es

end

end Expr

namespace Stmt

def pos : Stmt → SourcePos
  | .expr p _ | .assign p _ _ | .augAssign p _ _ _ | .annAssign p _ _ _ | .ret p _ | .cond p _ _ _ | .loop p _ _ _
  | .iterate p _ _ _ _ | .pass p | .break p | .continue p | .check p _ _ | .func p _ | .klass p _ _ _ _
  | .importing p _ | .importFrom p _ _ _ | .raising p _ _ | .scoped p _ _ | .attempt p _ _ _ _ | .choice p _ _ | .scope p _ _
  | .delete p _ => p

def kindName : Stmt → String
  | .expr _ _ => "Expr"
  | .assign _ _ _ => "Assign"
  | .augAssign _ _ _ _ => "AugAssign"
  | .annAssign _ _ _ _ => "AnnAssign"
  | .ret _ _ => "Return"
  | .cond _ _ _ _ => "If"
  | .loop _ _ _ _ => "While"
  | .iterate _ _ _ _ _ => "For"
  | .pass _ => "Pass"
  | .break _ => "Break"
  | .continue _ => "Continue"
  | .check _ _ _ => "Assert"
  | .func _ _ => "FunctionDef"
  | .klass _ _ _ _ _ => "ClassDef"
  | .importing _ _ => "Import"
  | .importFrom _ _ _ _ => "ImportFrom"
  | .raising _ _ _ => "Raise"
  | .scoped _ _ _ => "With"
  | .attempt _ _ _ _ _ => "Try"
  | .choice _ _ _ => "Match"
  | .scope _ k _ => k
  | .delete _ _ => "Delete"

end Stmt

namespace Param

def name : Param → String
  | .mk _ n _ => n

def pos : Param → SourcePos
  | .mk p _ _ => p

def declared : Param → Option Expr
  | .mk _ _ a => a

end Param

namespace Params

def args : Params → List Param
  | .mk a _ _ _ _ _ => a

def defaults : Params → List Expr
  | .mk _ d _ _ _ _ => d

def vararg : Params → Option Param
  | .mk _ _ v _ _ _ => v

def kwonly : Params → List Param
  | .mk _ _ _ k _ _ => k

def kwDefaults : Params → List (Option Expr)
  | .mk _ _ _ _ d _ => d

def kwarg : Params → Option Param
  | .mk _ _ _ _ _ k => k

def names (p : Params) : List String := p.args.map Param.name

end Params

namespace FuncDef

def name : FuncDef → String
  | .mk n _ _ _ _ => n

def params : FuncDef → Params
  | .mk _ p _ _ _ => p

def decorators : FuncDef → List Expr
  | .mk _ _ _ d _ => d

def body : FuncDef → List Stmt
  | .mk _ _ _ _ b => b

end FuncDef

/-! ## Extents and parts

The lines of a definition are those up to the last line of its body, decorators included, and comments behind it that are
indented like the body. The immediate parts of a tree stand in the order in which a walk meets them.
-/

structure ExtentState where
  indent : Nat := 0
  isLambda : Bool := false
  started : Bool := false
  skipping : Bool := false
  inDecorator : Bool := false
  hasArgs : Bool := false
  last : Int := 0
  bodyColumn : Option Int := none

namespace ExtentState

def step (s : ExtentState) (t : Token) : ExtentState × Bool :=
  if !s.started && !s.inDecorator then
    let s := match t.kind with
      | .op "@" => { s with inDecorator := true }
      | .name "def" | .name "class" => { s with started := true }
      | .name "lambda" => { s with started := true, isLambda := true }
      | _ => s
    ({ s with skipping := true }, false)
  else
    match t.kind with
    | .op "(" => (if s.inDecorator then { s with hasArgs := true } else s, false)
    | .op ")" => (if s.inDecorator then { s with inDecorator := false, hasArgs := false } else s, false)
    | .newline =>
      let s := { s with skipping := false, last := t.pos.line }
      ({ s with inDecorator := s.inDecorator && s.hasArgs }, s.isLambda)
    | .indent =>
      if s.skipping then (s, false)
      else
        ({ s with bodyColumn := if s.bodyColumn.isNone && s.started then some t.pos.column else s.bodyColumn
                  indent := s.indent + 1, skipping := true }, false)
    | .dedent =>
      if s.skipping then (s, false) else ({ s with indent := s.indent - 1 }, s.indent ≤ 1)
    | _ => (s, ends s)
where
  /-- A token at the outermost level behind the first line ends the definition. -/
  ends (s : ExtentState) : Bool := !s.skipping && s.indent == 0

def run : ExtentState → List Token → ExtentState
  | s, [] => s
  | s, t :: ts =>
    let (s, ended) := s.step t
    if ended then s else run s ts

end ExtentState

/-- The last of the lines behind a definition that are comments indented like its body; blank lines do not end them. -/
def trailingComments (column : Nat) : Nat → Nat → List (List Char) → Nat
  | last, _, [] => last
  | last, n, line :: rest =>
    let blanks := line.takeWhile Text.isIndent
    match line.drop blanks.length with
    | [] => trailingComments column last (n + 1) rest
    | '#' :: _ => trailingComments column (if blanks.length ≥ column then n else last) (n + 1) rest
    | _ => last

def sourceLines (source : String) : List String :=
  let lines := source.splitOn "\n"
  if lines.getLast? == some "" then lines.dropLast else lines

def definitionEnd (source : String) (tokens : List Token) (first : Nat) : Nat :=
  let s := ExtentState.run {} (tokens.dropWhile (·.pos.line < first))
  let last := s.last.toNat
  match s.bodyColumn with
  | some c => trailingComments c.toNat last (last + 1) (((sourceLines source).drop last).map (·.toList))
  | none => last

def definitionLines (source : String) (tokens : List Token) (first : Nat) : List String :=
  ((sourceLines source).drop (first - 1)).take (definitionEnd source tokens first + 1 - first)

def definitionText (lines : List String) : String :=
  Text.fromFirst "def" (Text.dedent (String.join (lines.map (· ++ "\n"))))

def isDecoratorLine (line : String) : Bool := (line.toList.dropWhile Text.isIndent).head? == some '@'

/-- The line at which a definition is taken to begin: behind the lines of its first decorators that begin with their mark. -/
def definitionBegin (lines : List String) (first : Nat) : Nat := first + (lines.takeWhile isDecoratorLine).length

inductive Part where
  | expr (e : Expr)
  | stmt (s : Stmt)

namespace Part

def exprs (es : List Expr) : List Part := es.map .expr

def stmts (ss : List Stmt) : List Part := ss.map .stmt

def optional (e : Option Expr) : List Part := exprs e.toList

def ofParams (ps : Params) : List Part :=
  let declared (p : Param) : List Part := optional p.declared
  ps.args.flatMap declared ++ ps.vararg.toList.flatMap declared ++ ps.kwonly.flatMap declared ++
    ps.kwDefaults.flatMap optional ++ ps.kwarg.toList.flatMap declared ++ exprs ps.defaults

mutual

def ofTextPart : TextPart → List Part
  | .text _ => []
  | .value e _ format => .expr e :: ofTextParts format

def ofTextParts : List TextPart → List Part
  | [] => []
  | p :: ps => ofTextPart p ++ ofTextParts ps

end

def ofClause : Clause → List Part
  | .mk target iter conditions => exprs (target :: iter :: conditions)

def ofKeyword : Keyword → Part
  | .mk _ _ value => .expr value

def ofFunc (f : FuncDef) : List Part :=
  let returns := match f with
    | .mk _ _ returns _ _ => returns
  ofParams f.params ++ stmts f.body ++ exprs f.decorators ++ optional returns

def ofHandler : Handler → List Part
  | .mk type _ body => optional type ++ stmts body

def ofExpr : Expr → List Part
  | .literal _ _ | .name _ _ _ => []
  | .attr _ v _ _ | .starred _ v _ => [.expr v]
  | .subscript _ v i _ => [.expr v, .expr i]
  | .slice _ a b c => optional a ++ optional b ++ optional c
  | .tuple _ items _ | .list _ items _ | .set _ items => exprs items
  | .dict _ keys values => keys.flatMap optional ++ exprs values
  | .binary _ a _ b => [.expr a, .expr b]
  | .unary _ _ a => [.expr a]
  | .bool _ _ values => exprs values
  | .compare _ a _ bs => exprs (a :: bs)
  | .call _ f args ks => .expr f :: exprs args ++ ks.map ofKeyword
  | .conditional _ test body orelse => exprs [test, body, orelse]
  | .lambda _ params body => ofParams params ++ [.expr body]
  | .formatted _ parts => ofTextParts parts
  | .comprehension _ _ element value clauses => .expr element :: optional value ++ clauses.flatMap ofClause
  | .yield _ _ value => optional value
  | .named _ target value => exprs [target, value]

def ofStmt : Stmt → List Part
  | .expr _ v => [.expr v]
  | .assign _ targets v => exprs (targets ++ [v])
  | .augAssign _ t _ v => exprs [t, v]
  | .annAssign _ t d v => exprs [t, d] ++ optional v
  | .ret _ v => optional v
  | .cond _ test body orelse | .loop _ test body orelse => .expr test :: stmts (body ++ orelse)
  | .iterate _ target iter body orelse => exprs [target, iter] ++ stmts (body ++ orelse)
  | .pass _ | .break _ | .continue _ | .importing _ _ | .importFrom _ _ _ _ | .scope _ _ _ => []
  | .check _ test message => .expr test :: optional message
  | .func _ f => ofFunc f
  | .klass _ _ bases body decorators => exprs bases ++ stmts body ++ exprs decorators
  | .raising _ v cause => optional v ++ optional cause
  | .scoped _ items body => items.flatMap (fun (e, as) => .expr e :: optional as) ++ stmts body
  | .attempt _ body handlers orelse final =>
    stmts body ++ handlers.flatMap ofHandler ++ stmts (orelse ++ final)
  | .choice _ e bodies => .expr e :: stmts bodies.flatten
  | .delete _ targets => exprs targets

def parts : Part → List Part
  | .expr e => ofExpr e
  | .stmt s => ofStmt s

end Part

end TileKernel.Source
