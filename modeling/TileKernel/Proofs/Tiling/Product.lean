import TileKernel.Host.Programs.SplitProducts
import TileKernel.Proofs.Meaning.Run
import TileKernel.Proofs.Tiling.Grouped
import Mathlib.Tactic.Linarith
import Mathlib.Tactic.Positivity
import Mathlib.Tactic.Ring

/-! # Tiles of a matrix product

Every instance of the kernel works on one tile of the result, and along the inner axis on every block that is its turn. A run
of an instance ends with one write: the sum of the products of all its rounds, at the elements of its tile. What lies behind
the ends of the operands is either masked or wraps around to rows and columns that are not written.
-/

namespace TileKernel.Tiling

open Meaning Meaning.Code

/-! ## The kernel -/

/-- Which tile an instance works on. -/
def placing : List Step := [
  .assign "pid" (apply "program_id" [num 0]),
  .assign "pid_z" (apply "program_id" [num 1]),
  .assign "grid_m" (apply "cdiv" ["M", "BLOCK_M"]),
  .assign "grid_n" (apply "cdiv" ["N", "BLOCK_N"]),
  .assign "width" ("GROUP_M" * "grid_n"),
  .assign "group_id" ("pid" / "width"),
  .assign "group_size" (apply "min" ["grid_m" - "group_id" * "GROUP_M", "GROUP_M"]),
  .assign "pid_m" ("group_id" * "GROUP_M" + "pid" % "group_size"),
  .assign "pid_n" ("pid" % "width" / "group_size")]

/-- Where the factors of a tile begin. -/
def preparing : List Step := [
  .assign "rm" ("pid_m" * "BLOCK_M" + apply "arange" [num 0, "BLOCK_M"]),
  .assign "rn" ("pid_n" * "BLOCK_N" + apply "arange" [num 0, "BLOCK_N"]),
  .assign "ram" (apply "max_contiguous" [apply "multiple_of" ["rm" % "M", "BLOCK_M"], "BLOCK_M"]),
  .assign "rbn" (apply "max_contiguous" [apply "multiple_of" ["rn" % "N", "BLOCK_N"], "BLOCK_N"]),
  .assign "rk" ("pid_z" * "BLOCK_K" + apply "arange" [num 0, "BLOCK_K"]),
  .assign "A" ("A" + (upright "ram" * "stride_am" + level "rk" * "stride_ak")),
  .assign "B" ("B" + (upright "rk" * "stride_bk" + level "rbn" * "stride_bn")),
  .assign "acc" (apply "zeros" [several ["BLOCK_M", "BLOCK_N"]] [("dtype", "dot_out_dtype")])]

def loading : Step := .block [.assign "a" (apply "load" ["A"]), .assign "b" (apply "load" ["B"])]

/-- The loads of a round that leave out what lies behind the end. -/
def maskedLoading : Step := .block [
  .assign "k_remaining" ("K" - "k" * ("BLOCK_K" * "SPLIT_K")),
  .assign "_0" (apply "zeros" [several [num 1, num 1]] [("dtype", .symbol "element_ty")]),
  .assign "a" (apply "load" ["A"] [("mask", .compare .lt (level "rk") "k_remaining"), ("other", "_0")]),
  .assign "b" (apply "load" ["B"] [("mask", .compare .lt (upright "rk") "k_remaining"), ("other", "_0")])]

def converting : Step := .block [
  .assign "a" (apply "to" ["a", .symbol "element_ty"]), .assign "b" (apply "to" ["b", .symbol "element_ty"])]

def accumulating : List Step := [
  .update "acc" .add (apply "dot" ["a", "b"] [("out_dtype", "dot_out_dtype"), ("allow_tf32", "allow_tf32")]),
  .update "A" .add ("BLOCK_K" * "SPLIT_K" * "stride_ak"),
  .update "B" .add ("BLOCK_K" * "SPLIT_K" * "stride_bk")]

def productRound : Step := .block ([.cond "EVEN_K" loading maskedLoading, .cond "AB_DTYPE" converting .skip] ++ accumulating)

def productLoop : Step := .loop "k" (apply "range" [num 0, apply "cdiv" ["K", "BLOCK_K" * "SPLIT_K"]]) productRound

def writing : List Step := [
  .assign "acc" (apply "to" ["acc", .symbol "element_ty"]),
  .assign "rm" ("pid_m" * "BLOCK_M" + apply "arange" [num 0, "BLOCK_M"]),
  .assign "rn" ("pid_n" * "BLOCK_N" + apply "arange" [num 0, "BLOCK_N"]),
  .assign "C" ("C" + (upright "rm" * "stride_cm" + level "rn" * "stride_cn")),
  .assign "mask" (upright (.compare .lt "rm" "M") &&& level (.compare .lt "rn" "N")),
  .cond (.compare .eq "SPLIT_K" (num 1))
    (.block [.effect (apply "store" ["C", "acc"] [("mask", "mask")])])
    (.block [.effect (apply "atomic_add" ["C", "acc"] [("mask", "mask")])])]

def productKernel : Procedure where
  params := ["A", "B", "C", "M", "N", "K", "stride_am", "stride_ak", "stride_bk", "stride_bn", "stride_cm", "stride_cn",
    "dot_out_dtype", "allow_tf32", "BLOCK_M", "BLOCK_N", "BLOCK_K", "GROUP_M", "SPLIT_K", "EVEN_K", "AB_DTYPE"]
  body := .block (placing ++ preparing ++ [productLoop] ++ writing)

set_option maxRecDepth 8000 in
theorem ofLines_product : Procedure.ofLines Kernels.tunedProduct = some productKernel := by
  rw [Kernels.tunedProduct, Procedure.code_eq rfl, Procedure.ofLines_map]
  decide +kernel

/-- The least number of blocks that cover an axis. -/
def blocks (n block : Nat) : Nat := (n + block - 1) / block

/-- The sizes of a product and of its tiles. -/
structure Sizes where
  m : Nat
  n : Nat
  k : Nat
  blockM : Nat
  blockN : Nat
  blockK : Nat
  group : Nat
  split : Nat
  m_pos : 0 < m
  n_pos : 0 < n
  k_pos : 0 < k
  blockM_pos : 0 < blockM
  blockN_pos : 0 < blockN
  blockK_pos : 0 < blockK
  group_pos : 0 < group
  split_pos : 0 < split

/-- The distances between neighbours in the matrices. -/
structure Strides where
  am : Int
  ak : Int
  bk : Int
  bn : Int
  cm : Int
  cn : Int

/-- Further arguments: two types, and whether factors are converted. -/
structure Options where
  accumulated : Value
  precision : Value
  converts : Bool

namespace Sizes

variable (s : Sizes)

def tiles : Nat := blocks s.m s.blockM * blocks s.n s.blockN

/-- The number of rounds along the inner axis. -/
def rounds : Nat := blocks s.k (s.blockK * s.split)

def tile (p : Nat) : Nat × Nat := Grouped.tile (blocks s.m s.blockM) (blocks s.n s.blockN) s.group p

def row (p i : Nat) : Nat := (s.tile p).1 * s.blockM + i

def column (p j : Nat) : Nat := (s.tile p).2 * s.blockN + j

/-- The inner index of a lane in a round of an instance. -/
def inner (z u x : Nat) : Nat := u * (s.blockK * s.split) + z * s.blockK + x

/-- Whether the rounds of all instances end with the inner axis. -/
def even : Bool := s.k % (s.blockK * s.split) = 0

end Sizes

variable {s : Sizes} {t : Strides} {o : Options} {even : Bool} {p z u : Nat}

section

variable (s t o even p z u)

def left (i x : Nat) : Cell :=
  if even ∨ s.inner z u x < s.k then .number ⟨"A", (s.row p i % s.m : Nat) * t.am + s.inner z u x * t.ak⟩ else .zero

def right (x j : Nat) : Cell :=
  if even ∨ s.inner z u x < s.k then .number ⟨"B", s.inner z u x * t.bk + (s.column p j % s.n : Nat) * t.bn⟩ else .zero

def setting : Setting where
  position := [p, z]
  programs := [s.tiles, s.split]

/-- The arguments that stay as they are. -/
@[simp] def constants : Named Value := [
  ("C", .cell (.pointer ⟨"C", 0⟩)), ("M", .int s.m), ("N", .int s.n), ("K", .int s.k),
  ("stride_am", .int t.am), ("stride_ak", .int t.ak), ("stride_bk", .int t.bk), ("stride_bn", .int t.bn),
  ("stride_cm", .int t.cm), ("stride_cn", .int t.cn), ("dot_out_dtype", o.accumulated), ("allow_tf32", o.precision),
  ("BLOCK_M", .int s.blockM), ("BLOCK_N", .int s.blockN), ("BLOCK_K", .int s.blockK), ("GROUP_M", .int s.group),
  ("SPLIT_K", .int s.split), ("EVEN_K", .cell (.bool even)), ("AB_DTYPE", .cell (.bool o.converts))]

@[simp] def arguments : Named Value :=
  ("A", .cell (.pointer ⟨"A", 0⟩)) :: ("B", .cell (.pointer ⟨"B", 0⟩)) :: constants s t o even

@[simp] def placed : Named Value := [
  ("pid_z", .int z), ("pid_m", .int (s.tile p).1), ("pid_n", .int (s.tile p).2)]

/-- What names stand for all through the rounds of an instance. -/
@[simp] def fixed : Named Value :=
  constants s t o even ++ placed s p z ++ [("rk", .block [s.blockK] fun x _ => .int (s.inner z 0 x))]

/-- What names stand for before a round. -/
@[simp] def moving : Named Value := [
  ("A", .block [s.blockM, s.blockK] fun i x => .pointer ⟨"A", (s.row p i % s.m : Nat) * t.am + s.inner z u x * t.ak⟩),
  ("B", .block [s.blockK, s.blockN] fun x j => .pointer ⟨"B", s.inner z u x * t.bk + (s.column p j % s.n : Nat) * t.bn⟩),
  ("acc", .block [s.blockM, s.blockN] fun i j => .sum ((List.range u).map fun u =>
    (List.range s.blockK).map fun x => (left s t even p z u i x, right s t even p z u x j)))]

@[simp] def loaded : Named Value := [
  ("a", .block [s.blockM, s.blockK] fun i x => left s t even p z u i x),
  ("b", .block [s.blockK, s.blockN] fun x j => right s t even p z u x j)]

theorem mask_iff (x : Nat) : ((s.inner z 0 x : Nat) : Int) < s.k - u * (s.blockK * s.split) ↔ s.inner z u x < s.k := by
  rw [← Int.ofNat_lt]
  simp only [Sizes.inner]
  push_cast
  constructor <;> intro h <;> linarith

@[simp] theorem setting_read (a : Address) : (setting s p z).read a = .number a := rfl

@[simp] def before : Named Value := fixed s t o even p z ++ moving s t even p z u

/-- What an instance knows after the loads of a round. -/
@[simp] def within : Named Value := before s t o even p z u ++ loaded s t even p z u

end

theorem load_run : Runs (setting s p z).call (.cond "EVEN_K" loading maskedLoading)
    (·.Knows (("k", .int u) :: before s t o even p z u)) (·.Knows (within s t o even p z u)) := by
  refine .quiet fun st henv => ?_
  simp at henv
  cases even with
  | true => exact ⟨_, by simp [loading, henv]; rfl, by simp [left, right, henv]⟩
  | false => exact ⟨_, by simp [maskedLoading, henv, mask_iff]; rfl, by simp [left, right, henv]⟩

theorem convert_run : Runs (setting s p z).call (.cond "AB_DTYPE" converting .skip) (·.Knows (within s t o even p z u))
    (·.Knows (within s t o even p z u)) := by
  refine .quiet fun st h => ?_
  have henv := h
  simp at henv
  cases hc : o.converts with
  | true => exact ⟨_, by simp [converting, henv, hc]; rfl, by simp [henv]⟩
  | false => exact ⟨st.env, by simp [henv, hc], h⟩

theorem inner_succ (s : Sizes) (z u x : Nat) : ((s.inner z (u + 1) x : Nat) : Int) = s.inner z u x + s.blockK * s.split := by
  simp only [Sizes.inner]
  push_cast
  ring

theorem accumulate_run : Runs (setting s p z).call (.block accumulating) (·.Knows (within s t o even p z u))
    (·.Knows (before s t o even p z (u + 1))) := by
  refine .quiet fun st henv => ?_
  simp at henv
  refine ⟨_, by simp [accumulating, henv]; rfl, ?_⟩
  simp [henv, List.range_succ, inner_succ, add_mul, add_assoc, add_comm, add_left_comm]

theorem tdiv_blocks {n : Nat} (hn : 0 < n) (block : Nat) : ((n : Int) + block - 1).tdiv block = blocks n block := by
  have hcast : (n : Int) + block - 1 = (n + block - 1 : Nat) := by omega
  rw [hcast, ← Int.ofNat_tdiv, blocks]

theorem loop_run : Runs (setting s p z).call productLoop (·.Knows (before s t o even p z 0)) (·.Knows (before s t o even p z s.rounds)) := by
  have hrounds := tdiv_blocks s.k_pos (s.blockK * s.split)
  push_cast at hrounds
  refine .loop (g := fun u => .int u) (before s t o even p z) (by simp) (fun env henv => ?_) fun u _ =>
    (load_run.singleton.append convert_run.singleton).append accumulate_run
  simp at henv
  simp [henv, hrounds, Sizes.rounds]

/-! ### The place of an instance -/

theorem cast_size {rows columns group : Nat} (hp : p < rows * columns) :
    ((Grouped.size rows columns group p : Nat) : Int) = min ((rows : Int) - p / (group * columns) * group) group := by
  have hfirst : Grouped.first columns group p ≤ rows := (Grouped.first_lt hp).le
  rw [Grouped.size, Nat.cast_min, Nat.cast_sub hfirst, Grouped.first]
  push_cast
  rfl

theorem cast_row (rows columns group p : Nat) : (p : Int) / (group * columns) * group +
    (p : Int).tmod (Grouped.size rows columns group p) = (Grouped.tile rows columns group p).1 := by
  rw [← Int.ofNat_tmod]
  rfl

theorem cast_column (rows columns group p : Nat) : ((p : Int).tmod (group * columns)).tdiv (Grouped.size rows columns group p) =
    (Grouped.tile rows columns group p).2 := by
  rw [← Int.natCast_mul, ← Int.ofNat_tmod, ← Int.ofNat_tdiv]
  rfl

theorem placing_run (hp : p < s.tiles) : Runs (setting s p z).call (.block placing) (·.Knows (arguments s t o even))
    (·.Knows (arguments s t o even ++ placed s p z)) := by
  refine .quiet fun st henv => ?_
  simp at henv
  refine ⟨_, by
    simp [placing, henv, setting, tdiv_blocks s.m_pos, tdiv_blocks s.n_pos, ← cast_size hp, cast_row, cast_column]
    rfl, ?_⟩
  simp [henv, Sizes.tile]

theorem preparing_run : Runs (setting s p z).call (.block preparing) (·.Knows (arguments s t o even ++ placed s p z))
    (·.Knows (before s t o even p z 0)) := by
  refine .quiet fun st henv => ?_
  simp at henv
  have hmod (a b i m : Nat) : ((a : Int) * b + i).tmod m = (a * b + i) % m := Int.tmod_eq_emod_of_nonneg (by positivity)
  refine ⟨_, by simp [preparing, henv, hmod]; rfl, ?_⟩
  simp [henv, Sizes.row, Sizes.column, Sizes.inner, Cell.zero]

def write (s : Sizes) (t : Strides) (even : Bool) (p z : Nat) : Value := .tuple [
  .symbol (if s.split = 1 then "store" else "atomic_add"),
  .block [s.blockM, s.blockN] fun i j => .pointer ⟨"C", s.row p i * t.cm + s.column p j * t.cn⟩,
  .block [s.blockM, s.blockN] fun i j => .sum ((List.range s.rounds).map fun u =>
    (List.range s.blockK).map fun x => (left s t even p z u i x, right s t even p z u x j)),
  .block [s.blockM, s.blockN] fun i j => .bool (s.row p i < s.m && s.column p j < s.n)]

theorem writing_run : Runs (setting s p z).call (.block writing) (·.Knows (before s t o even p z s.rounds))
    (·.effects = [write s t even p z]) := by
  intro st h
  have henv := h.env
  simp at henv
  have hrow (i : Nat) : ((s.tile p).1 * s.blockM + i : Int) < s.m ↔ s.row p i < s.m := by
    rw [← Int.ofNat_lt]
    simp [Sizes.row]
  have hcolumn (j : Nat) : ((s.tile p).2 * s.blockN + j : Int) < s.n ↔ s.column p j < s.n := by
    rw [← Int.ofNat_lt]
    simp [Sizes.column]
  by_cases hsplit : s.split = 1
  all_goals
    refine ⟨_, by simp [writing, henv, hsplit, hrow, hcolumn]; rfl, ?_⟩
    simp [h.effects, write, hsplit, Sizes.row, Sizes.column]

def writes (s : Sizes) (t : Strides) (o : Options) (even : Bool) (p z : Nat) : Option (List Value) := do
  (← Procedure.ofLines Kernels.tunedProduct).effects (setting s p z).call ((arguments s t o even).map Prod.snd)

/-- Every instance of the launch makes one write. -/
theorem writes_eq (hp : p < s.tiles) (z : Nat) : writes s t o even p z = some [write s t even p z] := by
  rw [writes, ofLines_product]
  exact Procedure.effects_eq (r := productKernel) rfl (by decide) (((placing_run hp).append preparing_run).append loop_run.singleton |>.append writing_run)

end TileKernel.Tiling
