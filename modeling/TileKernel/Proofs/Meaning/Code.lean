import TileKernel.Lowering.Library
import Mathlib.Data.List.Forall2

/-! # Code of kernels

The part of the kernel language that index arithmetic and random numbers are written in, without places and without what a
definition says beside its body. Code is read from the tree of a definition; whatever lies outside of this part is not read.
-/

namespace TileKernel.Meaning

open Source

/-- Expressions. The arguments of a call and the items of a tuple are a chain that ends with `done`. -/
inductive Code where
  | name (id : String)
  | literal (v : Literal)
  /-- An attribute, which stands for its name: kernels take only types from attributes. -/
  | symbol (name : String)
  | item (c i : Code)
  | whole
  | tuple (items : Code)
  | negative (c : Code)
  | binary (op : BinaryOp) (a b : Code)
  | compare (op : CompareOp) (a b : Code)
  | call (f : String) (args : Code)
  | done
  | arg (c rest : Code)
  | keyword (key : String) (c rest : Code)
deriving DecidableEq

namespace Code

instance : Coe String Code := ⟨name⟩
instance : Add Code := ⟨binary .add⟩
instance : Sub Code := ⟨binary .sub⟩
instance : Mul Code := ⟨binary .mult⟩
instance : Div Code := ⟨binary .floorDiv⟩
instance : Mod Code := ⟨binary .mod⟩
instance : XorOp Code := ⟨binary .bitXor⟩
instance : AndOp Code := ⟨binary .bitAnd⟩

variable (a b : Code)

@[simp] theorem add_def : a + b = binary .add a b := rfl
@[simp] theorem sub_def : a - b = binary .sub a b := rfl
@[simp] theorem mul_def : a * b = binary .mult a b := rfl
@[simp] theorem div_def : a / b = binary .floorDiv a b := rfl
@[simp] theorem mod_def : a % b = binary .mod a b := rfl
@[simp] theorem xor_def : a ^^^ b = binary .bitXor a b := rfl
@[simp] theorem and_def : a &&& b = binary .bitAnd a b := rfl

abbrev num (n : Int) : Code := literal (.int n)

def apply (f : String) (args : List Code) (named : Named Code := []) : Code :=
  call f (args.foldr arg (named.foldr (fun k => keyword k.1 k.2) done))

def several (cs : List Code) : Code := tuple (cs.foldr arg done)

def upright (c : Code) : Code := item c (several [whole, literal .none])

def level (c : Code) : Code := item c (several [literal .none, whole])

end Code

inductive Step where
  | skip
  | seq (first rest : Step)
  | assign (x : String) (c : Code)
  | unpack (xs : List String) (c : Code)
  | update (x : String) (op : BinaryOp) (c : Code)
  /-- An expression that is evaluated for what it does. -/
  | effect (c : Code)
  | cond (test : Code) (body orelse : Step)
  | loop (x : String) (range : Code) (body : Step)
deriving DecidableEq

/-- A function: its parameters, its body, and what it gives back in the end. -/
structure Procedure where
  params : List String
  body : Step
  result : Option Code := none
deriving DecidableEq

/-! ## Reading -/

namespace Code

/-- Names of the namespaces of the language. Other names before a dot are values. -/
def namespaces : List String := ["tl", "core", "math", "standard"]

mutual

/-- The code of an expression. A method gets the value before the dot as its first argument. -/
def ofExpr : Expr → Option Code
  | .literal _ v => some (.literal v)
  | .name _ id _ => some (.name id)
  | .attr _ _ n _ => some (.symbol n)
  | .subscript _ e i _ => do return .item (← ofExpr e) (← ofExpr i)
  | .slice _ none none none => some .whole
  | .tuple _ es _ => do return .tuple (← ofExprs es .done)
  | .unary _ .uSub e => do return .negative (← ofExpr e)
  | .binary _ a op b => do return .binary op (← ofExpr a) (← ofExpr b)
  | .bool _ op [a, b] => do return .binary (if op = .and then .bitAnd else .bitOr) (← ofExpr a) (← ofExpr b)
  | .compare _ a [op] [b] => do return .compare op (← ofExpr a) (← ofExpr b)
  | .call _ (.name _ f _) args ks => do return .call f (← ofExprs args (← ofKeywords ks))
  | .call _ (.attr _ (.name _ x _) f _) args ks => do
    let args ← ofExprs args (← ofKeywords ks)
    return .call f (if namespaces.contains x then args else .arg (.name x) args)
  | .call _ (.attr _ e f _) args ks => do return .call f (.arg (← ofExpr e) (← ofExprs args (← ofKeywords ks)))
  | _ => none

/-- The chain of several expressions, in front of a chain. -/
def ofExprs : List Expr → Code → Option Code
  | [], rest => some rest
  | e :: es, rest => do return .arg (← ofExpr e) (← ofExprs es rest)

/-- The chain of arguments by name. -/
def ofKeywords : List Keyword → Option Code
  | [] => some .done
  | .mk _ (some key) e :: ks => do return .keyword key (← ofExpr e) (← ofKeywords ks)
  | .mk _ none _ :: _ => none

end

end Code

namespace Step

def targetName : Expr → Option String
  | .name _ x _ => some x
  | _ => none

mutual

def ofStmt : Stmt → Option Step
  | .expr _ e => do return .effect (← Code.ofExpr e)
  | .assign _ [.name _ x _] e => do return .assign x (← Code.ofExpr e)
  | .assign _ [.tuple _ ts _] e => do return .unpack (← ts.mapM targetName) (← Code.ofExpr e)
  | .augAssign _ (.name _ x _) op e => do return .update x op (← Code.ofExpr e)
  | .cond _ c body orelse => do return .cond (← Code.ofExpr c) (← ofStmts body) (← ofStmts orelse)
  | .iterate _ (.name _ x _) c body [] => do return .loop x (← Code.ofExpr c) (← ofStmts body)
  | _ => none

/-- The code of statements in order. -/
def ofStmts : List Stmt → Option Step
  | [] => some skip
  | s :: ss => do return .seq (← ofStmt s) (← ofStmts ss)

end

def block (ss : List Step) : Step := ss.foldr seq skip

end Step

namespace Procedure

/-- Whether a line of a body begins a statement of its own: it is neither nested nor an alternative. -/
def begins (cs : List Char) : Bool :=
  cs.take 4 == [' ', ' ', ' ', ' '] && cs[4]? != some ' ' && cs.drop 4 != ['e', 'l', 's', 'e', ':']

/-- The statements of a body, each as a text that is not indented. -/
def texts : List (List Char) → List (List Char)
  | [] => []
  | line :: rest =>
    match texts rest with
    | t :: ts => if (rest.head?.map begins).getD true then (line.drop 4 ++ ['\n']) :: t :: ts else (line.drop 4 ++ '\n' :: t) :: ts
    | [] => [line.drop 4 ++ ['\n']]

/-- The code of statements of which the last one may give something back. -/
def ofBody (params : List String) (ss : List Stmt) : Option Procedure :=
  match ss.getLast? with
  | some (.ret _ (some e)) => do return { params, body := ← Step.ofStmts ss.dropLast, result := ← Code.ofExpr e }
  | _ => do return { params, body := ← Step.ofStmts ss }

/-- The code of a definition, by a way to read texts. Its first lines, up to the first colon at an end, are the header. -/
def ofLinesBy (read : List Char → Option (List Stmt)) (lines : List (List Char)) : Option Procedure := do
  let header := lines.takeWhile (·.getLast? != some ':')
  let body := lines.drop header.length
  let params ← match ← read ((header ++ body.take 1 ++ [[' ', 'p', 'a', 's', 's']]).flatMap (· ++ ['\n'])) with
    | [.func _ f] => some f.params.names
    | _ => none
  ofBody params (← (texts (body.drop 1)).mapM read).flatten

def ofLines (lines : List String) : Option Procedure :=
  ofLinesBy (fun text => (parse (String.ofList text)).toOption) (lines.map String.toList)

/-- The lines with numbers in a range. -/
def between (first last : Nat) (lines : List (Nat × String)) : List String :=
  lines.filterMap fun (i, text) => if first ≤ i && i ≤ last then some text else none

def statements (text : List Char) : Except Fault (List Stmt) := do
  grammar.statements.runAll (← tokensFrom text ⟨1, 0⟩ false)

theorem parse_ofList (text : List Char) : parse (String.ofList text) = statements text := by
  rw [parse, tokens, String.toList_ofList]
  rfl

/-- The lines of code, as lists of characters. -/
def codeLines (cs : List Char) : List (List Char) :=
  (Text.linesFrom Text.isBreak [] cs).map fun line => line.takeWhile (· == ' ') ++ line

theorem code_eq {s : String} {cs : List Char} (h : s = String.ofList cs) : Text.code s = (codeLines cs).map String.ofList := by
  subst h
  simp [Text.code, Text.lines, codeLines, String.toList_ofList, Function.comp_def, String.ofList_append]

theorem ofLines_map (texts : List (List Char)) :
    ofLines (texts.map String.ofList) = ofLinesBy (fun text => (statements text).toOption) texts := by
  simp [ofLines, parse_ofList, Function.comp_def]

theorem ofLines_eq {lines : List String} {texts : List (List Char)}
    (h : List.Forall₂ (fun line text => line = String.ofList text) lines texts) :
    ofLines lines = ofLinesBy (fun text => (statements text).toOption) texts := by
  have hmap : lines.map String.toList = texts := by
    induction h with
    | nil => rfl
    | cons hline _ ih => rw [List.map_cons, hline, String.toList_ofList, ih]
  simp only [ofLines, hmap, parse_ofList]

end Procedure

end TileKernel.Meaning
