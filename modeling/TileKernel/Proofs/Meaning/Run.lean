import TileKernel.Proofs.Meaning.Code
import Mathlib.Data.BitVec

/-! # What code does

One program instance runs code on blocks of cells. Integers have no bounds, words wrap around, and numbers stay symbolic: a
loaded number is known by its address, and a sum by the products that were added up, round by round. So a run says which
products go where, whatever the numbers are.
-/

namespace TileKernel.Meaning

open Source

def highWord {bits : Nat} (x y : BitVec bits) : BitVec bits := .ofNat bits (x.toNat * y.toNat / 2 ^ bits)

structure Address where
  tensor : String
  offset : Int

/-- An element of a block. -/
inductive Cell where
  | undefined
  | int (n : Int)
  | bool (b : Bool)
  | word (bits : Nat) (x : BitVec bits)
  | pointer (a : Address)
  /-- A number that was read from memory. -/
  | number (a : Address)
  /-- A sum of products; each round of a loop adds the products of one more inner product. -/
  | sum (rounds : List (List (Cell × Cell)))

/-- A value: a block, whose cells are found by at most two coordinates, or what is no block. Along an axis of extent one all
cells are the same. -/
inductive Value where
  | block (shape : List Nat) (at_ : Nat → Nat → Cell)
  | tuple (items : List Value)
  | nothing
  | whole
  | symbol (name : String)

variable (op : BinaryOp) (n : Int) (c : Cell)

namespace Cell

def zero : Cell := sum []

/-- Operators on integers. Quotients are cut off toward zero. -/
@[simp] def ofInts (a b : Int) : BinaryOp → Cell
  | .add => int (a + b)
  | .sub => int (a - b)
  | .mult => int (a * b)
  | .floorDiv => int (a.tdiv b)
  | .mod => int (a.tmod b)
  | _ => undefined

@[simp] def ofWords {bits : Nat} (x y : BitVec bits) : BinaryOp → Cell
  | .add => word bits (x + y)
  | .mult => word bits (x * y)
  | .bitXor => word bits (x ^^^ y)
  | .bitAnd => word bits (x &&& y)
  | .rShift => word bits (x >>> y.toNat)
  | _ => undefined

/-- Two cells as words of one width: a number beside a word takes its width. -/
def words {α : Type} (f : {bits : Nat} → BitVec bits → BitVec bits → α) (otherwise : α) : Cell → Cell → α
  | word v x, word w y => if h : w = v then f x (h ▸ y) else otherwise
  | word _ x, int n => f x (BitVec.ofInt _ n)
  | int n, word _ y => f (BitVec.ofInt _ n) y
  | _, _ => otherwise

def binary : Cell → Cell → Cell
  | int a, int b => ofInts a b op
  | pointer a, int n => if op = .add then pointer { a with offset := a.offset + n } else undefined
  | bool a, bool b =>
    match op with
    | .bitAnd => bool (a && b)
    | .bitOr => bool (a || b)
    | _ => undefined
  | sum a, sum b => if op = .add then sum (a ++ b) else undefined
  | a, b => words (fun x y => ofWords x y op) undefined a b

@[simp] def compare (op : CompareOp) : Cell → Cell → Cell
  | int a, int b =>
    match op with
    | .eq => bool (a = b)
    | .lt => bool (a < b)
    | .gt => bool (b < a)
    | _ => undefined
  | _, _ => undefined

def highWord : Cell → Cell → Cell := words (fun {bits} x y => word bits (Meaning.highWord x y)) undefined

@[simp] def resize (bits : Nat) : Cell → Cell
  | word _ x => word bits (x.setWidth bits)
  | _ => undefined

/-- The lesser of two integers. -/
@[simp] def least : Cell → Cell → Cell
  | int a, int b => int (min a b)
  | _, _ => undefined

end Cell

/-! ## Values -/

namespace Value

def cell : Value := block [] fun _ _ => c

abbrev int : Value := cell (.int n)

def extent (m n : Nat) : Option Nat := if m = n ∨ n = 1 then some m else if m = 1 then some n else none

/-- The shape that two blocks share. -/
def broadcast : List Nat → List Nat → Option (List Nat)
  | [], t => some t
  | s, [] => some s
  | [m], [n] => do return [← extent m n]
  | [m, m'], [n, n'] => do return [← extent m n, ← extent m' n']
  | _, _ => none

def zip (f : Cell → Cell → Cell) : Value → Value → Option Value
  | block s a, block t b => do return block (← broadcast s t) fun i j => f (a i j) (b i j)
  | _, _ => none

/-- A vector along one of two axes. -/
@[simp] def item : Value → Value → Option Value
  | block [n] f, tuple [whole, nothing] => some (block [n, 1] fun i _ => f i 0)
  | block [n] f, tuple [nothing, whole] => some (block [1, n] fun _ j => f j 0)
  | _, _ => none

@[simp] def ofLiteral : Literal → Option Value
  | .none => some nothing
  | .bool b => some (cell (.bool b))
  | .int n => some (int n)
  | _ => none

def truth : Value → Option Bool
  | block [] f =>
    match f 0 0 with
    | .bool b => some b
    | _ => none
  | _ => none

def integer : Value → Option Int
  | block [] f =>
    match f 0 0 with
    | .int n => some n
    | _ => none
  | _ => none

@[simp] def items : Value → Option (List Value)
  | tuple vs => some vs
  | _ => none

end Value

/-! ## Running -/

abbrev Env := String → Option Value

namespace Env

def empty : Env := fun _ => none

def set (env : Env) (x : String) (v : Value) : Env := fun y => if y = x then some v else env y

def setAll (env : Env) : List String → List Value → Option Env
  | [], [] => some env
  | x :: xs, v :: vs => setAll (env.set x v) xs vs
  | _, _ => none

end Env

/-- What a function of the language gives for arguments by position and by name. -/
abbrev Call := String → List Value → Named Value → Option Value

mutual

def eval (call : Call) (env : Env) : Code → Option Value
  | .name x => env x
  | .literal v => Value.ofLiteral v
  | .symbol name => some (.symbol name)
  | .item c i => do (← eval call env c).item (← eval call env i)
  | .whole => some .whole
  | .tuple items => do return .tuple (← evalArgs call env items).1
  | .negative c => do Value.zip (Cell.binary .sub) (.int 0) (← eval call env c)
  | .binary op a b => do Value.zip (Cell.binary op) (← eval call env a) (← eval call env b)
  | .compare op a b => do Value.zip (Cell.compare op) (← eval call env a) (← eval call env b)
  | .call f args => do
    let (vs, ks) ← evalArgs call env args
    call f vs ks
  | .done | .arg _ _ | .keyword _ _ _ => none

def evalArgs (call : Call) (env : Env) : Code → Option (List Value × Named Value)
  | .done => some ([], [])
  | .arg c rest => do
    let v ← eval call env c
    let (vs, ks) ← evalArgs call env rest
    return (v :: vs, ks)
  | .keyword key c rest => do
    let v ← eval call env c
    let (vs, ks) ← evalArgs call env rest
    return (vs, (key, v) :: ks)
  | _ => none

end

/-- Where a run stands: its names, and what was evaluated for its effect. -/
structure State where
  env : Env
  effects : List Value := []

def exec (call : Call) : Step → State → Option State
  | .skip, s => some s
  | .seq a b, s => (exec call a s).bind (exec call b)
  | .assign x c, s => do return { s with env := s.env.set x (← eval call s.env c) }
  | .unpack xs c, s => do return { s with env := ← s.env.setAll xs (← (← eval call s.env c).items) }
  | .update x op c, s => do
    return { s with env := s.env.set x (← Value.zip (Cell.binary op) (← s.env x) (← eval call s.env c)) }
  | .effect c, s => do return { s with effects := s.effects ++ [← eval call s.env c] }
  | .cond c a b, s => do if ← (← eval call s.env c).truth then exec call a s else exec call b s
  | .loop x c body, s => do
    (← (← eval call s.env c).items).foldlM (fun s v => exec call body { s with env := s.env.set x v }) s

namespace Procedure

def effects (r : Procedure) (call : Call) (args : List Value) : Option (List Value) := do
  return (← exec call r.body { env := ← Env.setAll (fun _ => none) r.params args }).effects

def run (r : Procedure) (call : Call) (globals : Env) (args : List Value) : Option Value := do
  let s ← exec call r.body { env := ← globals.setAll r.params args }
  eval call s.env (← r.result)

end Procedure

/-! ## The language -/

/-- Where a program instance runs: its place among the instances, their numbers, and the contents of tables of integers. -/
structure Setting where
  position : List Int := []
  programs : List Int := []
  tables : String → Option (List Int) := fun _ => none

namespace Setting

variable (s : Setting)

def read (a : Address) : Cell :=
  match s.tables a.tensor with
  | none => .number a
  | some cells => if 0 ≤ a.offset then ((cells[a.offset.toNat]?).map Cell.int).getD .undefined else .undefined

def load (mask other : Nat → Nat → Cell) (p : Nat → Nat → Cell) (i j : Nat) : Cell :=
  match mask i j, p i j with
  | .bool true, .pointer a => s.read a
  | .bool false, _ => other i j
  | _, _ => .undefined

def along (ns : List Int) (axis : Value) : Option Value := do
  let i ← axis.integer
  return .int (← ns[i.toNat]?)

/-- The integers that a counted loop goes over. -/
def range (a b s : Int) : List Int :=
  let count := if 0 < s then ((b - a + s - 1) / s).toNat else ((a - b - s - 1) / -s).toNat
  (List.range count).map fun (i : Nat) => a + s * i

/-- The operations of the language. A hint gives its first argument, and so does the conversion of a number. -/
def call : Call
  | "program_id", [axis], [] => along s.position axis
  | "num_programs", [axis], [] => along s.programs axis
  | "cdiv", [x, y], [] => do
    Value.zip (Cell.binary .floorDiv) (← Value.zip (Cell.binary .sub) (← Value.zip (Cell.binary .add) x y) (.int 1)) y
  | "min", [x, y], [] | "minimum", [x, y], [] => Value.zip Cell.least x y
  | "where", [c, x, y], [] => do if ← c.truth then some x else some y
  | "umulhi", [x, y], [] => Value.zip Cell.highWord x y
  | "arange", [a, b], [] => do
    let a ← a.integer
    return .block [((← b.integer) - a).toNat] fun i _ => .int (a + i)
  | "zeros", [.tuple [m, n]], [_] => do
    return .block [(← m.integer).toNat, (← n.integer).toNat] fun _ _ => .zero
  | "multiple_of", [x, _], [] | "max_contiguous", [x, _], [] => some x
  | "to", [.block t f, .symbol "uint64"], [] => some (.block t fun i j => (f i j).resize 64)
  | "to", [.block t f, .symbol "uint32"], _ => some (.block t fun i j => (f i j).resize 32)
  | "to", [x, .symbol "element_ty"], [] => some x
  | "load", [.block t p], [] => some (.block t (s.load (fun _ _ => .bool true) (fun _ _ => .undefined) p))
  | "load", [.block t p], [("mask", .block _ m), ("other", .block _ o)] => some (.block t (s.load m o p))
  | "dot", [.block [m, k] f, .block [k', n] g], _ =>
    if k = k' then some (.block [m, n] fun i j => .sum [(List.range k).map fun x => (f i x, g x j)]) else none
  | "store", [p, v], [("mask", m)] => some (.tuple [.symbol "store", p, v, m])
  | "atomic_add", [p, v], [("mask", m)] => some (.tuple [.symbol "atomic_add", p, v, m])
  | "static_range", [n], [] => do return .tuple ((range 0 (← n.integer) 1).map .int)
  | "range", [a, b], [] => do return .tuple ((range (← a.integer) (← b.integer) 1).map .int)
  | "range", [a, b, c], [] => do return .tuple ((range (← a.integer) (← b.integer) (← c.integer)).map .int)
  | _, _, _ => none

end Setting

def Call.give (call : Call) (name : String) (v : Value) : Call := fun f args named => if f = name then some v else call f args named

def Call.define (call : Call) (globals : Env) (name : String) (r : Procedure) : Call := fun f args named =>
  if f = name ∧ named = [] then r.run call globals args else call f args named

def Call.defineLines (call : Call) (globals : Env) (name : String) (lines : List String) : Call :=
  match Procedure.ofLines lines with
  | some r => call.define globals name r
  | none => call

/-! ## Laws of running -/

@[simp] theorem Env.set_self (env : Env) (x : String) (v : Value) : env.set x v x = some v := if_pos rfl

@[simp] theorem Env.set_of_ne (env : Env) {x y : String} (v : Value) (h : y ≠ x) : env.set x v y = env y := if_neg h

def Env.Has (env : Env) (bs : Named Value) : Prop := ∀ b ∈ bs, env b.1 = some b.2

@[simp] theorem Env.has_nil (env : Env) : env.Has [] := fun _ hb => absurd hb List.not_mem_nil

@[simp] theorem Env.has_cons (env : Env) (x : String) (v : Value) (bs : Named Value) :
    env.Has ((x, v) :: bs) ↔ env x = some v ∧ env.Has bs := List.forall_mem_cons

/-- A run without effects so far, where names stand for the values beside them. -/
structure State.Knows (s : State) (bs : Named Value) : Prop where
  env : s.env.Has bs
  effects : s.effects = []

theorem Env.exists_setAll (env : Env) (xs : List String) (vs : List Value) (hxs : xs.Nodup) (hlength : xs.length = vs.length) :
    ∃ env', env.setAll xs vs = some env' ∧ env'.Has (xs.zip vs) ∧ ∀ y ∉ xs, env' y = env y := by
  induction xs generalizing env vs with
  | nil =>
    obtain rfl : vs = [] := List.length_eq_zero_iff.1 hlength.symm
    exact ⟨env, rfl, has_nil env, fun _ _ => rfl⟩
  | cons x xs ih =>
    obtain ⟨v, vs, rfl⟩ := List.exists_cons_of_length_eq_add_one hlength.symm
    obtain ⟨hx, hxs⟩ := List.nodup_cons.1 hxs
    obtain ⟨env', henv', hhas, hother⟩ := ih (env.set x v) vs hxs (Nat.succ.inj hlength)
    refine ⟨env', henv', (has_cons ..).2 ⟨(hother x hx).trans (set_self ..), hhas⟩, fun y hy => ?_⟩
    obtain ⟨hyx, hys⟩ := not_or.1 fun h => hy (List.mem_cons.2 h)
    rw [hother y hys, set_of_ne env v hyx]

namespace Value

@[simp] theorem truth_bool (b : Bool) : (cell (.bool b)).truth = some b := rfl

@[simp] theorem extent_self (n : Nat) : extent n n = some n := if_pos (.inl rfl)

@[simp] theorem extent_one_right (n : Nat) : extent n 1 = some n := if_pos (.inr rfl)

@[simp] theorem extent_one_left (n : Nat) : extent 1 n = some n := by
  by_cases h : n = 1
  · rw [h, extent_self]
  · simp [extent, h, Ne.symm h]

section

variable (f : Cell → Cell → Cell) (a b : Cell) (t : List Nat) (g h : Nat → Nat → Cell)

@[simp] theorem zip_cell : zip f (cell a) (cell b) = some (cell (f a b)) := rfl

@[simp] theorem zip_cell_left : zip f (cell a) (block t g) = some (block t fun i j => f a (g i j)) := rfl

@[simp] theorem zip_cell_right : zip f (block t g) (cell b) = some (block t fun i j => f (g i j) b) := by cases t <;> rfl

@[simp] theorem zip_matrices (m n m' n' : Nat) : zip f (block [m, n] g) (block [m', n'] h) =
    (extent m m').bind fun k => (extent n n').bind fun l => some (block [k, l] fun i j => f (g i j) (h i j)) := by
  cases hk : extent m m' <;> cases hl : extent n n' <;> simp [zip, broadcast, hk, hl]

end

end Value

namespace Cell

@[simp] theorem binary_ints (a b : Int) : binary op (int a) (int b) = ofInts a b op := rfl

@[simp] theorem pointer_add (a : Address) (n : Int) :
    binary .add (pointer a) (int n) = pointer { a with offset := a.offset + n } := rfl

@[simp] theorem sum_add (a b : List (List (Cell × Cell))) : binary .add (sum a) (sum b) = sum (a ++ b) := rfl

@[simp] theorem bool_and (a b : Bool) : binary .bitAnd (bool a) (bool b) = bool (a && b) := rfl

@[simp] theorem bool_or (a b : Bool) : binary .bitOr (bool a) (bool b) = bool (a || b) := rfl

variable {bits : Nat}

@[simp] theorem binary_words (x y : BitVec bits) : binary op (word bits x) (word bits y) = ofWords x y op := dif_pos rfl

@[simp] theorem binary_word_int (x : BitVec bits) (n : Int) : binary op (word bits x) (int n) = ofWords x (.ofInt bits n) op := rfl

@[simp] theorem binary_int_word (y : BitVec bits) : binary op (int n) (word bits y) = ofWords (.ofInt bits n) y op := rfl

@[simp] theorem highWord_int_word (y : BitVec bits) :
    highWord (int n) (word bits y) = word bits (Meaning.highWord (.ofInt bits n) y) := rfl

end Cell

section

variable {call : Call} {env : Env} {s : State}

attribute [simp] eval evalArgs exec Step.block Code.apply Code.several Env.setAll

@[simp] theorem eval_upright (c : Code) : eval call env c.upright =
    (eval call env c).bind fun v => v.item (.tuple [.whole, .nothing]) := rfl

@[simp] theorem eval_level (c : Code) : eval call env c.level =
    (eval call env c).bind fun v => v.item (.tuple [.nothing, .whole]) := rfl

theorem exec_block_cons (a : Step) (as : List Step) : exec call (.block (a :: as)) s =
    (exec call a s).bind (exec call (.block as)) := rfl

theorem exec_block_append (as bs : List Step) : exec call (.block (as ++ bs)) s =
    (exec call (.block as) s).bind (exec call (.block bs)) := by
  induction as generalizing s with
  | nil => rfl
  | cons a as ih =>
    have h : exec call (.block (as ++ bs)) = fun s => (exec call (.block as) s).bind (exec call (.block bs)) := funext fun _ => ih
    rw [List.cons_append, exec_block_cons, exec_block_cons, h, Option.bind_assoc]

theorem exec_block_singleton (a : Step) : exec call (.block [a]) s = exec call a s := Option.bind_fun_some _

end

/-- Code runs from every state that satisfies `P`, to one that satisfies `Q`. -/
def Runs (call : Call) (a : Step) (P Q : State → Prop) : Prop := ∀ s, P s → ∃ s', exec call a s = some s' ∧ Q s'

namespace Runs

variable {call : Call} {P Q R : State → Prop} {a : Step} {as bs : List Step}

theorem append (h : Runs call (.block as) P Q) (h' : Runs call (.block bs) Q R) : Runs call (.block (as ++ bs)) P R := by
  intro s hs
  obtain ⟨s₁, hexec₁, h₁⟩ := h s hs
  obtain ⟨s₂, hexec₂, h₂⟩ := h' s₁ h₁
  exact ⟨s₂, by rw [exec_block_append, hexec₁, Option.bind_some, hexec₂], h₂⟩

theorem singleton (h : Runs call a P Q) : Runs call (.block [a]) P Q := fun _ hs => exec_block_singleton a ▸ h _ hs

/-- Code that has no effects. -/
theorem quiet {xs ys : Named Value} (h : ∀ s : State, s.env.Has xs → ∃ env, exec call a s = some { s with env } ∧ env.Has ys) :
    Runs call a (·.Knows xs) (·.Knows ys) := by
  intro s hs
  obtain ⟨env, hexec, henv⟩ := h s hs.env
  exact ⟨_, hexec, henv, hs.effects⟩

end Runs

namespace Setting

variable (t : Setting) (v w : Value)

/-! ### Operations -/

@[simp] theorem call_program_id : t.call "program_id" [.int n] [] = (t.position[n.toNat]?).bind fun i => some (.int i) := rfl
@[simp] theorem call_num_programs : t.call "num_programs" [.int n] [] = (t.programs[n.toNat]?).bind fun i => some (.int i) := rfl
@[simp] theorem call_cdiv (a b : Int) : t.call "cdiv" [.int a, .int b] [] = some (.int ((a + b - 1).tdiv b)) := rfl
@[simp] theorem call_min (a b : Int) : t.call "min" [.int a, .int b] [] = some (.int (min a b)) := rfl

@[simp] theorem call_where (b : Bool) (v w : Value) :
    t.call "where" [.cell (.bool b), v, w] [] = some (if b then v else w) := by cases b <;> rfl

@[simp] theorem call_umulhi : t.call "umulhi" [v, w] [] = Value.zip Cell.highWord v w := rfl

@[simp] theorem call_arange (n : Nat) : t.call "arange" [.int 0, .int n] [] = some (.block [n] fun i _ => .int i) := by
  have hcall : t.call "arange" [.int 0, .int n] [] = some (.block [((n : Int) - 0).toNat] fun i _ => .int (0 + i)) := rfl
  simpa using hcall

@[simp] theorem call_zeros (m n : Int) (k : String × Value) : t.call "zeros" [.tuple [.int m, .int n]] [k] =
    some (.block [m.toNat, n.toNat] fun _ _ => .zero) := rfl

@[simp] theorem call_multiple_of : t.call "multiple_of" [v, w] [] = some v := rfl
@[simp] theorem call_max_contiguous : t.call "max_contiguous" [v, w] [] = some v := rfl
@[simp] theorem call_to_uint64 : t.call "to" [.cell c, .symbol "uint64"] [] = some (.cell (c.resize 64)) := rfl

@[simp] theorem call_to_uint32 (named : Named Value) :
    t.call "to" [.cell c, .symbol "uint32"] named = some (.cell (c.resize 32)) := rfl

@[simp] theorem call_to_element (shape : List Nat) (f : Nat → Nat → Cell) :
    t.call "to" [.block shape f, .symbol "element_ty"] [] = some (.block shape f) := rfl

@[simp] theorem call_load (shape : List Nat) (p : Nat → Nat → Cell) : t.call "load" [.block shape p] [] =
    some (.block shape (t.load (fun _ _ => .bool true) (fun _ _ => .undefined) p)) := rfl

@[simp] theorem call_load_cell (a : Address) : t.call "load" [.cell (.pointer a)] [] = some (.cell (t.read a)) := rfl

@[simp] theorem call_load_masked (shape u v : List Nat) (p m o : Nat → Nat → Cell) :
    t.call "load" [.block shape p] [("mask", .block u m), ("other", .block v o)] = some (.block shape (t.load m o p)) := rfl

@[simp] theorem load_bool (b : Nat → Nat → Bool) (o : Nat → Nat → Cell) (a : Nat → Nat → Address) :
    t.load (fun i j => .bool (b i j)) o (fun i j => .pointer (a i j)) = fun i j => if b i j then t.read (a i j) else o i j := by
  funext i j
  cases h : b i j <;> simp [load, h]

@[simp] theorem call_dot (m k n : Nat) (f g : Nat → Nat → Cell) (named : Named Value) :
    t.call "dot" [.block [m, k] f, .block [k, n] g] named =
      some (.block [m, n] fun i j => .sum [(List.range k).map fun x => (f i x, g x j)]) := if_pos rfl

@[simp] theorem call_store (p v m : Value) : t.call "store" [p, v] [("mask", m)] = some (.tuple [.symbol "store", p, v, m]) := rfl

@[simp] theorem call_atomic_add (p v m : Value) :
    t.call "atomic_add" [p, v] [("mask", m)] = some (.tuple [.symbol "atomic_add", p, v, m]) := rfl

theorem range_zero : (range 0 n 1).map Value.int = (List.range n.toNat).map fun (i : Nat) => .int i := by
  simp [range, Function.comp_def]

@[simp] theorem call_static_range :
    t.call "static_range" [.int n] [] = some (.tuple ((List.range n.toNat).map fun (i : Nat) => .int i)) := by
  rw [← range_zero]
  rfl

@[simp] theorem call_range :
    t.call "range" [.int 0, .int n] [] = some (.tuple ((List.range n.toNat).map fun (i : Nat) => .int i)) := by
  rw [← range_zero]
  rfl

theorem call_range_down (n : Nat) {k : Nat} (hk : 0 < k) : t.call "range" [.int (n * k), .int 0, .int (-k)] [] =
    some (.tuple ((List.range n).map fun (i : Nat) => .int (n * k + -k * i))) := by
  have hcall : t.call "range" [.int (n * k), .int 0, .int (-k)] [] = some (.tuple ((range (n * k) 0 (-k)).map .int)) := rfl
  have hdown : ¬ (0 : Int) < -k := by omega
  have hsum : (n : Int) * k - 0 - -k - 1 = (k - 1) + n * k := by omega
  have hcount : (((k : Int) - 1 + n * k) / - -k).toNat = n := by
    rw [neg_neg, Int.add_mul_ediv_right _ _ (by omega), Int.ediv_eq_zero_of_lt (by omega) (by omega), zero_add, Int.toNat_natCast]
  rw [hcall, range, if_neg hdown, hsum, hcount, List.map_map]
  rfl

end Setting

/-! ### Procedures -/

@[simp] theorem Procedure.run_mk (params : List String) (body : Step) (result : Code) (call : Call) (globals : Env)
    (args : List Value) : run ⟨params, body, some result⟩ call globals args =
      (globals.setAll params args).bind fun env => (exec call body { env }).bind fun s => eval call s.env result := rfl

@[simp] theorem Call.give_self (call : Call) (name : String) (v : Value) (args : List Value) (named : Named Value) :
    call.give name v name args named = some v := if_pos rfl

variable {name : String}

@[simp] theorem Call.give_of_ne (call : Call) {f : String} (v : Value) (args : List Value) (named : Named Value)
    (h : f ≠ name) : call.give name v f args named = call f args named := if_neg h

@[simp] theorem Call.define_self (call : Call) (globals : Env) (name : String) (r : Procedure) (args : List Value) :
    call.define globals name r name args [] = r.run call globals args := if_pos ⟨rfl, rfl⟩

@[simp] theorem Call.define_of_ne (call : Call) (globals : Env) {f : String} (r : Procedure) (args : List Value)
    (named : Named Value) (h : f ≠ name) : call.define globals name r f args named = call f args named :=
  if_neg fun hf => h hf.1

theorem Call.defineLines_eq {call : Call} {globals : Env} {lines : List String} {r : Procedure}
    (h : Procedure.ofLines lines = some r) : call.defineLines globals name lines = call.define globals name r := by
  rw [defineLines, h]

/-- A loop whose body leads from what is known before a round, with the name that is counted, to what is known before the next. -/
theorem Runs.loop {call : Call} {x : String} {c : Code} {body : Step} {g : Nat → Value} {n : Nat} (known : Nat → Named Value)
    (hx : ∀ i, x ∉ (known i).map Prod.fst) (hc : ∀ env : Env, env.Has (known 0) → eval call env c = some (.tuple ((List.range n).map g)))
    (hbody : ∀ i < n, Runs call body (·.Knows ((x, g i) :: known i)) (·.Knows (known (i + 1)))) :
    Runs call (.loop x c body) (·.Knows (known 0)) (·.Knows (known n)) := by
  intro s hs
  simp only [exec, hc s.env hs.env, Option.bind_eq_bind, Option.bind_some, Value.items]
  clear hc
  induction n with
  | zero => exact ⟨s, rfl, hs⟩
  | succ n ih =>
    obtain ⟨t, ht, hknown⟩ := ih fun i hi => hbody i (Nat.lt_succ_of_lt hi)
    have hset : State.Knows { t with env := t.env.set x (g n) } ((x, g n) :: known n) := by
      refine ⟨(Env.has_cons ..).2 ⟨Env.set_self .., fun b hb => ?_⟩, hknown.effects⟩
      have hne : b.1 ≠ x := fun heq => hx n (heq ▸ List.mem_map_of_mem hb)
      exact (Env.set_of_ne _ _ hne).trans (hknown.env b hb)
    obtain ⟨s', hs', hknown'⟩ := hbody n n.lt_succ_self _ hset
    refine ⟨s', ?_, hknown'⟩
    rw [List.range_succ, List.map_append, List.foldlM_append, ht]
    simp [hs']

theorem Procedure.exists_knows {r : Procedure} {bs : Named Value} (hparams : r.params = bs.map Prod.fst) (hnodup : r.params.Nodup) :
    ∃ env, Env.setAll (fun _ => none) r.params (bs.map Prod.snd) = some env ∧ State.Knows { env } bs := by
  obtain ⟨env, henv, hhas, -⟩ := Env.exists_setAll (fun _ => none) r.params (bs.map Prod.snd) hnodup (by simp [hparams])
  rw [← List.zip_of_prod hparams.symm rfl] at hhas
  exact ⟨env, henv, hhas, rfl⟩

theorem Procedure.effects_eq {r : Procedure} {call : Call} {bs : Named Value} {es : List Value} (hparams : r.params = bs.map Prod.fst)
    (hnodup : r.params.Nodup) (h : Runs call r.body (·.Knows bs) (·.effects = es)) : r.effects call (bs.map Prod.snd) = some es := by
  obtain ⟨env, henv, hknows⟩ := exists_knows hparams hnodup
  obtain ⟨s, hexec, heffects⟩ := h _ hknows
  rw [effects, henv]
  exact (congrArg (Option.bind · _) hexec).trans (congrArg some heffects)

end TileKernel.Meaning
