import TileKernel.Lowering.State
import TileKernel.Parameters

/-! # Primitives

A primitive of the language has named parameters, some with a default, and a rule that builds operations from its arguments:
values that are read as tensors, shapes and types, and functions that are lowered into a region.
-/

namespace TileKernel.Lowering

open IR

namespace Rule

def leastSingle : Binary64 := ⟨0x3810000000000000⟩

def greatestSingle : Binary64 := ⟨0x47efffffe0000000⟩

/-- The type that a floating-point constant gets: single precision if it is in its range, else double precision. -/
def floatType (x : Binary64) : Ty :=
  if x.isNaN || x.isInf || x.isZero || (leastSingle.le x.abs && x.abs.le greatestSingle) then .fp32 else .fp64

/-- The type that an integer constant gets: the narrowest of 32 bits signed, 32 unsigned, 64 signed, 64 unsigned. -/
def intType (n : Int) : Result Ty :=
  if -Int.pow 2 31 ≤ n ∧ n < Int.pow 2 31 then .ok .int32
  else if Int.pow 2 31 ≤ n ∧ n < Int.pow 2 32 then .ok .uint32
  else if -Int.pow 2 63 ≤ n ∧ n < Int.pow 2 63 then .ok .int64
  else if Int.pow 2 63 ≤ n ∧ n < Int.pow 2 64 then .ok .uint64
  else .error (.integerTooLarge n)

def toTensor (v : Value) : Rule Tensor :=
  match v.unwrap with
  | .bool b => Tensor.build .getInt1 [.bool b] .int1
  | .int n => do
    let ty ← ofExcept (intType n)
    Tensor.build (if ty == .int32 || ty == .uint32 then .getInt32 else .getInt64) [.int n] ty (by split <;> rfl)
  | .float x =>
    let ty := floatType x
    Tensor.build (if ty == .fp32 then .getFp32 else .getFp64) [.float x] ty (by split <;> rfl)
  | .tensor t => pure t
  | v => throw (.notATensor v.text v.classText)

def toTensors (vs : List Value) : Rule (List Tensor) := vs.mapM toTensor

def asTensor : Value → Rule Tensor
  | .tensor t => pure t
  | _ => refuse .missingAttribute

def asTy : Value → Rule Ty
  | .ty t => pure t
  | _ => refuse .missingAttribute

def iterate : Value → Rule (List Value)
  | .tuple items | .list items => pure items
  | .str s => pure (s.toList.map fun c => .str c.toString)
  | _ => refuse .type

def tensors (v : Value) : Rule (List Tensor) := do (← iterate v).mapM asTensor

def constants (what : String) (items : List Value) : Rule (List Int) :=
  items.zipIdx.mapM fun (v, i) =>
    match v with
    | .const c =>
      match c.int? with
      | some n => pure n
      | none => throw (.elementNotInt what i c.classText)
    | _ => throw (.elementNotConstant what i)

def shape (v : Value) : Rule (List Int) := do constants "Shape" (← iterate v.unwrap)

def result (x : Emit Tensor) : Rule Value := do return .tensor (← emit x)

end Rule

inductive Combination where
  | reduce | scan

namespace Combination

def opcode : Combination → Opcode
  | .reduce => .reduce
  | .scan => .scan

def ending : Combination → Opcode
  | .reduce => .reduceRet
  | .scan => .scanRet

end Combination

structure Surroundings where
  callFunction : Value → List Value → Lower Value

namespace Surroundings

def combined : Value → Rule (List Operand)
  | .tensor t => pure [t.operand]
  | v => do return (← Rule.tensors v).map (·.operand)

def combineRegion (env : Surroundings) (c : Combination) (function : Value) (elements : List Ty) (region : RegionId) :
    Lower Unit := do
  let cursor ← Lower.ofBuild Build.cursor
  let types := elements ++ elements
  let block ← Lower.ofBuild (Build.blockIn region (types.map fun t => some (.known t)))
  let args ← types.zipIdx.mapM fun (t, i) => do
    return Value.tensor ⟨some (← Lower.ofBuild (Build.blockArg block i)), t⟩
  let results ← env.callFunction function args
  let handles ← combined results
  Lower.ofBuild (Build.emitEffect c.ending [.list handles])
  Lower.ofBuild (Build.restore cursor)

def combine (env : Surroundings) (c : Combination) (operands : List Operand) (axis : Operand) (function : Value)
    (elements : List Ty) : Lower (List ValueId) := do
  let (op, region) ← Lower.ofBuild (Build.combining c.opcode operands axis)
  env.combineRegion c function elements region
  Lower.ofBuild (Build.resultsOf op)

end Surroundings

/-- What primitives do: besides what rules do, they may combine operands by functions of the program. -/
inductive Combines (env : Surroundings) : LowerState → LowerState → Prop
  | quiet {s s' : LowerState} (h : Quiet s s') : Combines env s s'
  | next {s s₁ s' : LowerState} (h : Combines env s s₁) (h' : Combines env s₁ s') : Combines env s s'
  | combined {s s' : LowerState} {c : Combination} {operands : List Operand} {axis : Operand} {function : Value}
      {elements : List Ty} {values : List ValueId}
      (h : (env.combine c operands axis function elements).run s = .ok values s') : Combines env s s'

instance (env : Surroundings) : Composes (Combines env) where
  refl s := .quiet (Composes.refl s)
  trans := .next

theorem Combines.onward {env : Surroundings} {s s' : LowerState} (h : Combines env s s') : Onward s s' := by
  induction h with
  | quiet h => exact h.onward
  | next _ _ ih ih' => exact Composes.trans ih ih'
  | combined h => exact Within.within _ h

abbrev Combining (env : Surroundings) := Within (Combines env)

namespace Combining

variable {α : Type} {env : Surroundings}

def ofRule (x : Rule α) : Combining env α where
  run := x.run
  within h := .quiet (x.within h)

instance : MonadLift Rule (Combining env) := ⟨ofRule⟩

instance : MonadLiftT (Combining env) Lower := ⟨fun x => ⟨x.run, fun h => (x.within h).onward⟩⟩

def combine (c : Combination) (operands : List Operand) (axis : Operand) (function : Value) (elements : List Ty) :
    Combining env (List ValueId) where
  run := (env.combine c operands axis function elements).run
  within := .combined

end Combining

structure Primitive where
  space : Space
  name : String
  params : List (Parameter Value)
  variadic : Bool := false
  /-- Whether the primitive refuses to run outside a kernel before it looks at its arguments. -/
  guarded : Bool := true
  builds : Bool := true
  run : (env : Surroundings) → List Value → Combining env Value

namespace Primitive

def prim (name : String) (params : List (Parameter Value)) (run : Curried Value (Rule Value) params) : Primitive :=
  { space := .core, name, params, run := fun _ args => Combining.ofRule (Curried.apply (Rule.refuse .type) run args) }

def combining (name : String) (params : List (Parameter Value))
    (run : {env : Surroundings} → Curried Value (Combining env Value) params) : Primitive :=
  { space := .core, name, params, run := fun _ args => Curried.apply (Rule.refuse .type) run args }

/-- Match arguments with parameters; a variadic primitive gets those beyond them as one more. -/
def bind (params : List (Parameter Value)) (variadic : Bool) (args : List Value) (keywords : Named Value) :
    Result (List Value) := do
  if !variadic then Parameter.bind params args keywords
  else return (← Parameter.bind params (args.take params.length) keywords) ++ [.tuple (args.drop params.length)]

def call (p : Primitive) (env : Surroundings) (inKernel : Bool) (args : List Value) (keywords : Named Value) :
    Combining env Value := do
  if p.guarded && !inKernel then throw .outsideKernel
  let values ← Rule.ofExcept (bind p.params p.variadic args keywords)
  p.run env values

end Primitive

end TileKernel.Lowering
