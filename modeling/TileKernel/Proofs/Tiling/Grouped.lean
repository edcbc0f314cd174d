import Mathlib.Data.Finset.Card
import Mathlib.Data.Finset.Prod
import Mathlib.Data.Int.ModEq

/-! # Grouped tiles

Program instances take the tiles of a grid in groups of neighbouring rows: all tiles of a group come before those of the next
one, column by column. The last group may have fewer rows. Inside a column of it the rows begin at some row in the middle and
wrap around, and still every tile has exactly one instance.
-/

namespace TileKernel.Grouped

variable {rows columns group p q : Nat}

def first (columns group p : Nat) : Nat := p / (group * columns) * group

def size (rows columns group p : Nat) : Nat := min (rows - first columns group p) group

/-- The tile of an instance: its row and its column. -/
def tile (rows columns group p : Nat) : Nat × Nat :=
  (first columns group p + p % size rows columns group p, p % (group * columns) / size rows columns group p)

theorem first_mul_add_mod (columns group p : Nat) : first columns group p * columns + p % (group * columns) = p := by
  rw [first, Nat.mul_assoc, Nat.div_add_mod']

theorem first_lt (hp : p < rows * columns) : first columns group p < rows := by
  have h := first_mul_add_mod columns group p
  exact Nat.lt_of_mul_lt_mul_right (a := columns) (by omega)

theorem size_pos (hgroup : 0 < group) (hp : p < rows * columns) : 0 < size rows columns group p :=
  lt_min (Nat.sub_pos_of_lt (first_lt hp)) hgroup

theorem mod_lt_size_mul (hgroup : 0 < group) (hp : p < rows * columns) :
    p % (group * columns) < size rows columns group p * columns := by
  have hcolumns : 0 < columns := Nat.pos_of_mul_pos_left (Nat.zero_lt_of_lt hp)
  have hsum := first_mul_add_mod columns group p
  have hmod := Nat.mod_lt p (Nat.mul_pos hgroup hcolumns)
  rcases Nat.le_total (rows - first columns group p) group with h | h
  · rw [size, Nat.min_eq_left h, Nat.sub_mul]
    omega
  · rwa [size, Nat.min_eq_right h]

theorem tile_mapsTo (hgroup : 0 < group) :
    Set.MapsTo (tile rows columns group) {p | p < rows * columns} {t | t.1 < rows ∧ t.2 < columns} := by
  intro p hp
  have hsize := size_pos hgroup hp
  have hrow := Nat.mod_lt p hsize
  have hle : size rows columns group p ≤ rows - first columns group p := min_le_left _ _
  exact ⟨by simp only [tile]; omega, Nat.div_lt_of_lt_mul (mod_lt_size_mul hgroup hp)⟩

theorem tile_div_group (hgroup : 0 < group) (hp : p < rows * columns) :
    (tile rows columns group p).1 / group = p / (group * columns) := by
  have hlt : p % size rows columns group p < group :=
    (Nat.mod_lt p (size_pos hgroup hp)).trans_le (min_le_right _ _)
  rw [tile, first, Nat.mul_comm, Nat.mul_add_div hgroup, Nat.div_eq_of_lt hlt, Nat.add_zero]

theorem tile_injOn (hgroup : 0 < group) : Set.InjOn (tile rows columns group) {p | p < rows * columns} := by
  intro p hp q hq heq
  have hdiv : p / (group * columns) = q / (group * columns) := by
    rw [← tile_div_group hgroup hp, heq, tile_div_group hgroup hq]
  have hfirst : first columns group p = first columns group q := by rw [first, hdiv, first]
  have hsize : size rows columns group p = size rows columns group q := by rw [size, hfirst, size]
  obtain ⟨hrow, hcolumn⟩ := Prod.mk.inj heq
  rw [hfirst, hsize, Nat.add_left_cancel_iff] at hrow
  rw [hsize] at hcolumn
  -- both instances are equally far into their group, up to whole columns and then inside of a column
  have hmod : p % (group * columns) ≡ q % (group * columns) [MOD size rows columns group q] := by
    refine Nat.ModEq.add_left_cancel' (first columns group q * columns) ?_
    rw [first_mul_add_mod, ← hfirst, first_mul_add_mod]
    exact hrow
  have hinside : p % (group * columns) = q % (group * columns) := by
    rw [← Nat.div_add_mod (p % _) (size rows columns group q), hcolumn, hmod, Nat.div_add_mod]
  rw [← first_mul_add_mod columns group p, hfirst, hinside, first_mul_add_mod]

theorem tile_bijOn (hgroup : 0 < group) :
    Set.BijOn (tile rows columns group) {p | p < rows * columns} {t | t.1 < rows ∧ t.2 < columns} := by
  have hdom : {p | p < rows * columns} = (Finset.range (rows * columns) : Set Nat) := by ext; simp
  have hcod : {t : Nat × Nat | t.1 < rows ∧ t.2 < columns} = (Finset.range rows ×ˢ Finset.range columns : Finset _) := by
    ext; simp
  have hmaps : Set.MapsTo (tile rows columns group) _ _ := tile_mapsTo hgroup
  have hinj : Set.InjOn (tile rows columns group) _ := tile_injOn hgroup
  refine ⟨hmaps, hinj, ?_⟩
  rw [hdom] at hmaps hinj ⊢
  rw [hcod] at hmaps ⊢
  exact Finset.surjOn_of_injOn_of_card_le _ hmaps hinj (by simp)

end TileKernel.Grouped
