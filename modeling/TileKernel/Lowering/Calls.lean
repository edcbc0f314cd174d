import TileKernel.Lowering.Evaluate

/-! # Calls in kernels

What a call does depends on what is called: checks and prints of constants are done at once, primitives build operations,
functions of the program are lowered when an instance of them is first needed, and all else is evaluated.
-/

namespace TileKernel.Lowering

open IR Source Lower

namespace Calls

variable (r : Visitors)

def keywords (ks : List Keyword) : Lower (List (Option String × Value)) :=
  ks.mapM fun
    | .mk pos name e => visiting pos do return (name, ← r.expr e)

/-- The last value of each keyword, in the order of first occurrence; a spread one is refused when it is used. -/
def named (ks : List (Option String × Value)) : Lower (Named Value) :=
  ks.foldlM (fun acc (name, v) =>
    match name with
    | some n => pure (Scope.set acc n v)
    | none => refuse .type) []

def staticPrint (args : List Expr) (ks : List Keyword) : Lower Value := do
  let ks ← named (← keywords r ks)
  let args ← args.mapM r.expr
  Builtins.print (args.map Value.unwrap) (ks.map fun (n, v) => (n, v.unwrap))

def assertMessage : List Expr → Lower Value
  | e :: _ => r.expr e
  | [] => pure (.str "")

variable (pos : SourcePos)

/-- The failure of a check with a message; one that cannot be evaluated is replaced. -/
def assertFailure : Result Value → Fault
  | .error f =>
    .compile .staticAssertion none pos (some s!"<failed to evaluate assertion message: {f.embedded}>")
  | .ok message =>
    match message.unwrap with
    | .str s => .compile .staticAssertion none pos (some s)
    | v => if v.truth then .implicit .type else .compile .staticAssertion none pos none

def staticAssert (args : List Expr) (ks : List Keyword) : Lower Value := do
  match args, ks with
  | [], _ | _ :: _ :: _ :: _, _ | _, _ :: _ => throw .staticAssertArgs
  | test :: more, [] =>
    match (← r.expr test).unwrap with
    | .bool true => return .none
    | .bool false => failing (assertMessage r more) (assertFailure pos)
    | _ => throw .staticAssertUnknown

def isScalar : Value → Bool
  | .tensor t => !t.type.isBlock || t.numel == 1
  | _ => false

def checkArg (info : FuncInfo) (v : Value) (i : Nat) : Lower Unit := do
  let names := match info.tree with
    | .ok f => f.params.names
    | .error _ => []
  if !v.isConst && !isScalar v then
    match names[i]? with
    | some name =>
      throw (.compile .unsupportedConstruct (some info.text) pos
        (some s!"Function {info.name} is marked noinline, but was called with non-scalar argument {name}:{v.text}"))
    | none => throw (.evaluation .index (some "list index out of range"))

def checkArgs (info : FuncInfo) (args : List Value) : Lower Unit :=
  if info.noinline.getD false then args.zipIdx.forM fun (v, i) => checkArg pos info v i else pure ()

def isHashable : Value → Bool
  | .list _ | .tensor _ | .slice _ _ _ | .const _ => false
  | .tuple items => items.all fun
    | .list _ | .tensor _ | .slice _ _ _ | .const _ => false
    | _ => true
  | _ => true

def surroundings : Surroundings :=
  { callFunction := fun f args =>
      match f with
      | .func f => if f.isJit then r.call f args [] else refuse .missingAttribute
      | _ => refuse .missingAttribute }

def takesBare : Value → Bool
  | .kind .range | .kind .float | .kind .int => true
  | .primitive .builtins _ => true
  | _ => false

def dispatch (f : Value) (args : List Value) (ks : List (Option String × Value)) : Lower Value := do
  match f with
  | .func ref =>
    if ref.isJit then
      checkArgs pos ((← read).program.func ref) args
      r.call ref args (← named ks)
    else evaluator.call f args (← named ks)
  | .method (.tensor t) name =>
    match Operators.method? name with
    | some p => p.call (surroundings r) true (.tensor t :: args) (← named ks)
    | none => refuse .type
  | .primitive space name =>
    match Primitive.find? space name with
    | some p =>
      let ks ← named ks
      if p.guarded then p.call (surroundings r) true args ks
      else evaluator.call f (if takesBare f then args.map Value.unwrap else args) ks
    | none => refuse .type
  | f => evaluator.call f (if takesBare f then args.map Value.unwrap else args) (← named ks)

/-- A call whose arguments are known; checks on the device are left out unless they are asked for. -/
def apply (f : Value) (args : List Value) (ks : List (Option String × Value)) : Lower Value := do
  if (f matches .primitive .core "device_assert") && !(← frame).debug then return .none
  else dispatch r pos f args ks

def call (callee : Expr) (args : List Expr) (ks : List Keyword) : Lower Value := do
  let f := (← r.expr callee).unwrap
  if !isHashable f then refuse .type
  match f with
  | .primitive .core "static_print" => staticPrint r args ks
  | .primitive .core "static_assert" => staticAssert r pos args ks
  | f =>
    let ks ← keywords r ks
    let args ← args.mapM r.expr
    apply r pos f args ks

end Calls

/-! ## Expressions -/

namespace Expression

/-- Apply the method that an operator stands for: of the left operand, or of the right one if only that is a tensor. -/
def applyMethod (name : String) (l r : Value) : Lower Value := do
  let onTensor (t : Tensor) (name : String) (other : Value) : Lower Value := do
    match Operators.method? name with
    | some p => p.call .none true [.tensor t, other] []
    | none => refuse .missingAttribute
  match l, r with
  | .tensor t, _ => onTensor t name r
  | _, .tensor t => onTensor t (Methods.reflected name) l
  | _, _ => Lower.ofExcept (Methods.applyBinary name l r)

/-- Whether two values are the same object: numbers of everyday size are, texts and larger numbers made twice are not. -/
def identical (a b : Value) : Bool :=
  match a, b with
  | .int m, .int n => m == n && -5 ≤ m && m ≤ 256
  | .str s, .str t => s == t && s.length ≤ 1
  | .ty (.scalar s), .ty (.scalar t) => s == t
  | .ty _, _ | .float _, _ | .list _, _ | .slice _ _ _, _ => false
  | .tuple xs, .tuple ys => xs.isEmpty && ys.isEmpty
  | a, b => Constant.same a b

def conditionClasses : String := "\x7bNoneType, bool, int\x7d"

def knownCondition (pos : SourcePos) (v : Value) : Lower Bool :=
  match v.unwrap with
  | .none => pure false
  | .bool b => pure b
  | .int n => pure (n != 0)
  | v =>
    unsupported (some pos) ("`if` conditionals can only accept values of type " ++ conditionClasses ++
      ", not objects of type " ++ v.className)

def unnamed {α : Type} (operator : String) : Lower α :=
  throw (.evaluation .missingAttribute (some s!"'{operator}' object has no attribute '__name__'"))

variable (r : Visitors)

def binary (op : BinaryOp) (a b : Lower Value) : Lower Value := do
  let x ← a
  let y ← b
  match Methods.ofBinary op with
  | some name => applyMethod name x y
  | none => unnamed "MatMult"

def compare (op : CompareOp) (a b : Expr) : Lower Value := do
  let x ← r.expr a
  let y ← r.expr b
  match op with
  | .is => return .const (.bool (identical x.unwrap y.unwrap))
  | .isNot => return .const (.bool (!identical x.unwrap y.unwrap))
  | op =>
    match Methods.ofCompare op with
    | some name => applyMethod name x y
    | none => unnamed op.name

def unary (op : UnaryOp) (e : Expr) : Lower Value := do
  let v ← r.expr e
  let name := Methods.ofUnary op
  match v with
  | .tensor t =>
    match Operators.method? name with
    | some p => p.call .none true [.tensor t] []
    | none => refuse .missingAttribute
  | v => Lower.ofExcept (Methods.applyUnary name v)

def textPart (pos : SourcePos) : TextPart → Lower String
  | .text s => pure s
  | .value e conversion _ => do
    match ← r.expr e with
    | .const v => return Evaluator.convert v conversion
    | v =>
      unsupported (some pos)
        ("Cannot evaluate f-string containing non-constexpr conversion values, found conversion of type " ++ v.classText)

def optional : Option Expr → Lower Value
  | some e => r.expr e
  | none => pure .none

def step : Expr → Lower Value
  | .literal _ v => pure (.const (Evaluator.literal v))
  | .name _ id access => if access matches .store then pure (.str id) else dereference id
  | .attr _ e name _ => do
    match name, ← r.expr e with
    | "T", .tensor t => Rule.result (Tensor.trans t)
    | name, v => Attribute.get v name
  | .subscript _ e i access => do
    if !(access matches .load) then throw .assertion
    let v ← r.expr e
    let index ← r.expr i
    match v with
    | .tensor t => Operators.getItem t index
    | v => Lower.ofExcept (Methods.item v index)
  | .slice _ a b c => do
    let a ← optional r a
    let b ← optional r b
    let c ← optional r c
    return .slice a b c
  | .tuple _ es _ => do return .tuple (← es.mapM r.expr)
  | .list _ es _ => do
    visitingUnplaced (pure ())
    return .list (← es.mapM r.expr)
  | .binary _ a op b => binary op (r.expr a) (r.expr b)
  | .unary _ op e => unary r op e
  | .bool pos op es => do
    match es with
    | [a, b] =>
      let x ← r.expr a
      let y ← r.expr b
      applyMethod (if op matches .and then "logical_and" else "logical_or") x y
    | _ =>
      unsupported (some pos)
        "chained boolean operators (A or B or C) are not supported; use parentheses to split the chain."
  | .compare pos a ops es => do
    match ops, es with
    | [op], [b] => compare r op a b
    | _, _ => unsupported (some pos) "simultaneous multiple comparison is not supported"
  | .call pos f args ks => Calls.call r pos f args ks
  | .conditional pos c a b => do
    match ← r.expr c with
    | .tensor _ =>
      unsupported (some pos) ("Triton does not support `if` expressions (ternary operators) with dynamic " ++
        "conditions, use `if` statements instead")
    | v => if ← knownCondition pos v then r.expr a else r.expr b
  | .formatted pos parts => do return .str (String.join (← parts.mapM (textPart r pos)))
  | e => unsupportedNode e.pos e.kindName

end Expression

end TileKernel.Lowering
