import TileKernel.Proofs.Meaning.Run
import TileKernel.Proofs.Tiling.Grouped

/-! # Swizzled coordinates

The library's function that swizzles coordinates of a grid takes the row-major number of a tile for an instance of grouped tiles.
So it permutes the grid, but it goes down the columns of the last group only up to a rotation.
-/

namespace TileKernel.Swizzle

open Meaning Meaning.Code Meaning.Procedure Grouped

def lesser : Procedure where
  params := ["x", "y"]
  body := .block []
  result := apply "min" ["x", "y"]

def swizzle : Procedure where
  params := ["i", "j", "size_i", "size_j", "size_g"]
  body := .block [
    .assign "ij" ("i" * "size_j" + "j"), .assign "size_gj" ("size_g" * "size_j"), .assign "group_id" ("ij" / "size_gj"),
    .assign "off_i" ("group_id" * "size_g"), .assign "size_g" (apply "minimum" ["size_i" - "off_i", "size_g"]),
    .assign "new_i" ("off_i" + "ij" % "size_g"), .assign "new_j" ("ij" % "size_gj" / "size_g")]
  result := several ["new_i", "new_j"]

def library : Call :=
  (Setting.call {}).defineLines .empty "minimum" (between 101 111 Lowering.Library.standardLines)
    |>.defineLines .empty "swizzle2d" (between 50 80 Lowering.Library.standardLines)

section

set_option maxRecDepth 4000

theorem ofLines_lesser : Procedure.ofLines (between 101 111 Lowering.Library.standardLines) = some lesser := by
  rw [Procedure.ofLines_eq (by repeat' constructor)]
  decide +kernel

theorem ofLines_swizzle : Procedure.ofLines (between 50 80 Lowering.Library.standardLines) = some swizzle := by
  rw [Procedure.ofLines_eq (by repeat' constructor)]
  decide +kernel

end

variable {rows columns group i j : Nat}

/-- The function of the library on the coordinates of a tile. -/
def swizzled (rows columns group i j : Nat) : Option Meaning.Value :=
  library "swizzle2d" [.int i, .int j, .int rows, .int columns, .int group] []

def pair (t : Nat × Nat) : Meaning.Value := .tuple [.int t.1, .int t.2]

theorem pair_injective : Function.Injective pair := by
  rintro ⟨a, b⟩ ⟨c, d⟩ h
  simpa [pair, Value.cell, funext_iff] using h

theorem number_lt (hi : i < rows) (hj : j < columns) : i * columns + j < rows * columns := by
  have h := Nat.mul_le_mul_right columns hi
  rw [Nat.succ_mul] at h
  omega

theorem swizzled_eq_tile (hi : i < rows) (hj : j < columns) :
    swizzled rows columns group i j = some (pair (tile rows columns group (i * columns + j))) := by
  have hfirst : first columns group (i * columns + j) < rows := first_lt (number_lt hi hj)
  have hsize : min ((rows : Int) - first columns group (i * columns + j)) group = size rows columns group (i * columns + j) := by
    rw [size]
    omega
  have hcasts : (((i : Int) * columns + j).tdiv (group * columns)) * group = first columns group (i * columns + j) := by
    rw [first]
    push_cast [Int.ofNat_tdiv]
    rfl
  rw [swizzled, library, Call.defineLines_eq ofLines_lesser, Call.defineLines_eq ofLines_swizzle]
  simp only [pair, tile, Nat.cast_add, Int.ofNat_tmod, Int.ofNat_tdiv, Nat.cast_mul]
  simp [swizzle, lesser, hcasts, hsize]

/-! ## The grid is permuted -/

def number (columns : Nat) (t : Nat × Nat) : Nat := t.1 * columns + t.2

theorem number_bijOn (rows columns : Nat) :
    Set.BijOn (number columns) {t | t.1 < rows ∧ t.2 < columns} {p | p < rows * columns} := by
  let place (p : Nat) : Nat × Nat := (p / columns, p % columns)
  refine Set.InvOn.bijOn (show Set.InvOn place (number columns) _ _ from ⟨?_, ?_⟩) (fun t ht => number_lt ht.1 ht.2) ?_
  · rintro ⟨i, j⟩ ⟨-, hj⟩
    have hpos : 0 < columns := Nat.zero_lt_of_lt hj
    simp only [number, place]
    rw [Nat.mul_comm, Nat.mul_add_div hpos, Nat.div_eq_of_lt hj, Nat.mul_add_mod, Nat.mod_eq_of_lt hj, Nat.add_zero]
  · intro p _
    exact Nat.div_add_mod' p columns
  · intro p hp
    have hpos : 0 < columns := Nat.pos_of_mul_pos_left (Nat.zero_lt_of_lt hp)
    exact ⟨Nat.div_lt_of_lt_mul (Nat.mul_comm rows columns ▸ hp), Nat.mod_lt p hpos⟩

/-- The function permutes the grid, also where the groups do not divide it. -/
theorem swizzle_permutes_grid (rows columns : Nat) (hgroup : 0 < group) :
    ∃ f : Nat × Nat → Nat × Nat, (∀ i < rows, ∀ j < columns, swizzled rows columns group i j = some (pair (f (i, j)))) ∧
      Set.BijOn f {t | t.1 < rows ∧ t.2 < columns} {t | t.1 < rows ∧ t.2 < columns} :=
  ⟨tile rows columns group ∘ number columns, fun _ hi _ hj => swizzled_eq_tile hi hj,
    (tile_bijOn hgroup).comp (number_bijOn rows columns)⟩

/-- Groups of three rows on a grid of five rows. -/
theorem five_rows_permuted : ∃ f : Nat × Nat → Nat × Nat,
    (∀ i < 5, ∀ j < 2, swizzled 5 2 3 i j = some (pair (f (i, j)))) ∧
      Set.BijOn f {t | t.1 < 5 ∧ t.2 < 2} {t | t.1 < 5 ∧ t.2 < 2} :=
  swizzle_permutes_grid 5 2 (by decide)

/-! ## The order inside of a group -/

end TileKernel.Swizzle
