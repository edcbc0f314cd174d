import TileKernel.Source.Tree

/-! # Evaluating bodies

Expressions and statements are evaluated in one way, whatever the values are; a `Domain` says what they are, and where names are
looked up and defined. The steps take the recursion as an argument; `Evaluator.upTo` ties it, with a bound on its depth.
-/

namespace TileKernel.Source

structure Domain (m : Type → Type) (ε ν : Type) where
  refuse {α : Type} : FaultKind → m α
  lookup : ε → String → m ν
  define : ε → String → ν → m ε
  declares : ε → Bool := fun _ => false
  literal : Literal → ν
  tuple : List ν → ν
  list : List ν → ν
  slice : ν → ν → ν → ν
  text : ν → Option Char → String
  truth : ν → m Bool
  items : ν → m (List ν)
  member : ν → String → m ν
  item : ν → ν → m ν
  unary : UnaryOp → ν → m ν
  operate : BinaryOp → ν → ν → m ν
  compare : CompareOp → ν → ν → m ν

inductive Flow (ε ν : Type) where
  | next (env : ε)
  | returned (v : ν)
  | broke (env : ε)
  | continued (env : ε)

structure Evaluator (m : Type → Type) (ε ν : Type) extends Domain m ε ν where
  expr : ε → Expr → m ν
  stmt : ε → Stmt → m (Flow ε ν)
  call : ν → List ν → Named ν → m ν

namespace Evaluator

variable {m : Type → Type} [Monad m] {ε ν : Type} (r : Evaluator m ε ν) (env : ε)

def compareChain (a : ν) : List (CompareOp × Expr) → m ν
  | [] => pure (r.literal (.bool true))
  | [(op, e)] => do r.compare op a (← r.expr env e)
  | (op, e) :: rest => do
    let b ← r.expr env e
    let v ← r.compare op a b
    if ← r.truth v then compareChain b rest else return v

def connect (op : BoolOp) : List Expr → m ν
  | [] => pure (r.literal .none)
  | [e] => r.expr env e
  | e :: rest => do
    let v ← r.expr env e
    if (← r.truth v) == (op matches .or) then return v else connect op rest

def optional : Option Expr → m ν
  | some e => r.expr env e
  | none => pure (r.literal .none)

def keywords (ks : List Keyword) : m (Named ν) :=
  ks.mapM fun
    | .mk _ (some name) e => do return (name, ← r.expr env e)
    | .mk _ none _ => r.refuse .type

def formatted (parts : List TextPart) : m String := do
  let texts ← parts.mapM fun
    | .text s => pure s
    | .value e c _ => do return r.text (← r.expr env e) c
  return String.join texts

def exprStep : Expr → m ν
  | .literal _ v => pure (r.literal v)
  | .name _ id _ => r.lookup env id
  | .attr _ e name _ => do r.member (← r.expr env e) name
  | .subscript _ e i _ => do r.item (← r.expr env e) (← r.expr env i)
  | .slice _ a b c => do return r.slice (← r.optional env a) (← r.optional env b) (← r.optional env c)
  | .tuple _ es _ => do return r.tuple (← es.mapM (r.expr env))
  | .list _ es _ => do return r.list (← es.mapM (r.expr env))
  | .binary _ a op b => do r.operate op (← r.expr env a) (← r.expr env b)
  | .unary _ op a => do r.unary op (← r.expr env a)
  | .bool _ op es => r.connect env op es
  | .compare _ a ops es => do r.compareChain env (← r.expr env a) (ops.zip es)
  | .call _ f args ks => do r.call (← r.expr env f) (← args.mapM (r.expr env)) (← r.keywords env ks)
  | .conditional _ c a b => do if ← r.truth (← r.expr env c) then r.expr env a else r.expr env b
  | .formatted _ parts => do return r.literal (.str (← r.formatted env parts))
  | _ => r.refuse .notImplemented

def assignName (target : Expr) (v : ν) : m ε :=
  match target with
  | .name _ id _ => r.define env id v
  | _ => r.refuse .type

def assign (target : Expr) (v : ν) : m ε :=
  match target with
  | .tuple _ ts _ | .list _ ts _ => do
    let items ← r.items v
    if items.length ≠ ts.length then r.refuse .value
    (ts.zip items).foldlM (fun env (t, v) => r.assignName env t v) env
  | target => r.assignName env target v

def block : List Stmt → ε → m (Flow ε ν)
  | [], env => pure (.next env)
  | s :: rest, env => do
    match ← r.stmt env s with
    | .next env => block rest env
    | flow => return flow

def whileLoop (test : Expr) (body : List Stmt) : Nat → ε → m (Flow ε ν)
  | 0, _ => r.refuse .recursion
  | fuel + 1, env => do
    if ← r.truth (← r.expr env test) then
      match ← r.block body env with
      | .next env | .continued env => whileLoop test body fuel env
      | .broke env => return .next env
      | flow => return flow
    else return .next env

def forLoop (target : Expr) (body : List Stmt) : List ν → ε → m (Flow ε ν)
  | [], env => pure (.next env)
  | v :: rest, env => do
    let env ← r.assign env target v
    match ← r.block body env with
    | .next env | .continued env => forLoop target body rest env
    | .broke env => return .next env
    | flow => return flow

def afterLoop (orelse : List Stmt) (loop : m (Flow ε ν)) : m (Flow ε ν) := do
  match ← loop with
  | .next env => r.block orelse env
  | flow => return flow

def raised : Option Expr → FaultKind
  | some (.name _ id _) | some (.call _ (.name _ id _) _ _) =>
    ([.value, .type, .assertion, .missingAttribute, .key, .index, .zeroDivision, .overflow, .runtime, .notImplemented,
      .exception].find? (·.name == id)).getD .exception
  | _ => .runtime

def stmtStep : Stmt → m (Flow ε ν)
  | .expr _ e => do
    let _ ← r.expr env e
    return .next env
  | .assign _ targets e => do
    let v ← r.expr env e
    return .next (← targets.foldlM (fun env t => r.assign env t v) env)
  | .augAssign _ target op e => do
    let old ← r.expr env (target.withAccess .load)
    let v ← r.operate op old (← r.expr env e)
    return .next (← r.assign env target v)
  | .annAssign _ target declared e => do
    let v ← e.mapM (r.expr env)
    if r.declares env then let _ ← r.expr env declared
    match v with
    | some v => return .next (← r.assign env target v)
    | none => return .next env
  | .ret _ e => do return .returned (← r.optional env e)
  | .cond _ c body orelse => do if ← r.truth (← r.expr env c) then r.block body env else r.block orelse env
  | .loop _ c body orelse => r.afterLoop orelse (r.whileLoop c body 1000000 env)
  | .iterate _ target iter body orelse => do
    let items ← r.items (← r.expr env iter)
    r.afterLoop orelse (r.forLoop target body items env)
  | .pass _ => pure (.next env)
  | .break _ => pure (.broke env)
  | .continue _ => pure (.continued env)
  | .check _ test _ => do if ← r.truth (← r.expr env test) then return .next env else r.refuse .assertion
  | .raising _ e _ => r.refuse (raised e)
  | _ => r.refuse .notImplemented

def body (b : List Stmt) (env : ε) : m ν := do
  match ← r.block b env with
  | .returned v => return v
  | _ => return r.literal .none

def upTo (d : Domain m ε ν) (callStep : Evaluator m ε ν → ν → List ν → Named ν → m ν) : Nat → Evaluator m ε ν
  | 0 =>
    { d with
      expr := fun _ _ => d.refuse .recursion
      stmt := fun _ _ => d.refuse .recursion
      call := fun _ _ _ => d.refuse .recursion }
  | fuel + 1 =>
    let r := upTo d callStep fuel
    { d with
      expr := r.exprStep
      stmt := r.stmtStep
      call := callStep r }

end Evaluator

end TileKernel.Source
