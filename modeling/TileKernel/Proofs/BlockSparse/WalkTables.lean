import TileKernel.BlockSparse.Tables
import TileKernel.Proofs.Steps
import Mathlib.Data.List.Nodup
import Mathlib.Tactic.Linarith
import Mathlib.Tactic.Ring

/-! # Tables for walks over stored blocks

A step of a walk has a spot: the place of its block, and how far it is into the block. Inside of a row every increment of a
table is the way from one spot to the next, so the increments that were added up give the spot of the step. Only the first
increment of a row is the place itself, and no block inside of a row begins another one: the numbers of the blocks before each
row are increasing. Headers of rows without blocks point at some block, and they are walked along for no step.
-/

namespace TileKernel.BlockSparse

open List

/-! ## Lists -/

variable {α β : Type} {xs : List α} {a : α} (f : α → List β) {ns : List Int}

theorem getElem?_flatMap {r k : Nat} (hr : xs[r]? = some a)
    (hk : k < (f a).length) : (xs.flatMap f)[((xs.take r).flatMap f).length + k]? = (f a)[k]? := by
  induction xs generalizing r with
  | nil => simp at hr
  | cons x xs ih =>
    cases r with
    | zero =>
      obtain rfl : x = a := by simpa using hr
      simp [getElem?_append_left hk]
    | succ r =>
      rw [flatMap_cons, take_succ_cons, flatMap_cons, length_append, Nat.add_assoc,
        getElem?_append_right (Nat.le_add_right ..), Nat.add_sub_cancel_left]
      exact ih (by simpa using hr)

theorem length_flatMap_of_length {n : Nat} (hn : ∀ a, (f a).length = n) (xs : List α) : (xs.flatMap f).length = xs.length * n := by
  simp [length_flatMap, hn]

theorem getElem?_flatMap_of_length {n : Nat} (hn : ∀ a, (f a).length = n)
    {r k : Nat} (hr : xs[r]? = some a) (hk : k < n) : (xs.flatMap f)[r * n + k]? = (f a)[k]? := by
  have hle : r ≤ xs.length := (List.getElem?_eq_some_iff.1 hr).1.le
  rw [← getElem?_flatMap f hr (by rwa [hn]), length_flatMap_of_length f hn, length_take_of_le hle]

@[simp] theorem length_sumsBefore (start : Int) (ns : List Int) : (sumsBefore start ns).length = ns.length := by
  induction ns generalizing start with
  | nil => rfl
  | cons n ns ih => simp [sumsBefore, ih]

theorem getElem?_sumsBefore (start : Int) {i : Nat} (hi : i < ns.length) :
    (sumsBefore start ns)[i]? = some (start + (ns.take i).sum) := by
  induction ns generalizing start i with
  | nil => simp at hi
  | cons n ns ih =>
    cases i with
    | zero => simp [sumsBefore]
    | succ i => simp [sumsBefore, ih (start + n) (by simpa using hi), add_assoc]

theorem sum_eq_countP {es : List Int} (hes : ∀ e ∈ es, e = 0 ∨ e = 1) : es.foldr (· + ·) 0 = (es.countP (· != 0) : Int) := by
  induction es with
  | nil => rfl
  | cons e es ih =>
    have hrest := ih fun e he => hes e (mem_cons_of_mem _ he)
    rcases hes e mem_cons_self with rfl | rfl
    · simpa using hrest
    · simp [hrest, add_comm]

namespace WalkTable

/-! ## Increments -/

theorem getElem?_waysFrom (last : Int) {i : Nat} {n : Int} (hi : ns[i]? = some n) :
    (waysFrom last ns)[i]? = some (n - (last :: ns).getD i 0) := by
  induction ns generalizing last i with
  | nil => simp at hi
  | cons a ns ih =>
    cases i with
    | zero => simpa [waysFrom] using hi
    | succ i => simpa [waysFrom] using ih a (by simpa using hi)

/-- Where a step is: in which block, and how far into it. -/
def spot (parts : Nat) (step scale : Int) (places : List Int) (t : Nat) : Int :=
  places.getD (t / parts) 0 * scale + (t % parts : Nat) * step

variable {parts : Nat} {step scale : Int} {begins places : List Int} {as bs : List Int}

theorem length_waysFrom (last : Int) (ns : List Int) : (waysFrom last ns).length = ns.length := by
  induction ns generalizing last with
  | nil => rfl
  | cons n ns ih => simp [waysFrom, ih]

theorem getElem?_increments {i s : Nat} {a : Int} (hi : places[i]? = some a) (hs : s < parts) :
    (increments parts step scale begins places)[i * parts + s]? =
      some (if s = 0 then
        if (i : Int) ∈ begins then a else (a - (0 :: places).getD i 0) * scale - (parts - 1) * step
      else step) := by
  have hway : ((places.zip (waysFrom 0 places)).zipIdx)[i]? = some ((a, a - (0 :: places).getD i 0), i) := by
    simp [getElem?_zip_eq_some, hi, getElem?_waysFrom 0 hi]
  rw [increments, getElem?_flatMap_of_length _ (by simp [steps]; omega) hway hs]
  cases s with
  | zero => simp [steps]
  | succ s => simp [steps, show s < parts - 1 by omega]

theorem length_increments (hparts : 0 < parts) : (increments parts step scale begins places).length = places.length * parts := by
  rw [increments, length_flatMap_of_length (n := parts) _ (by simp [steps]; omega)]
  simp [length_waysFrom]

theorem spot_mul_add (i : Nat) {s : Nat} (hs : s < parts) :
    spot parts step scale places (i * parts + s) = places.getD i 0 * scale + s * step := by
  rw [spot, Nat.add_comm, Nat.add_mul_div_right _ _ (by omega), Nat.add_mul_mod_self_right, Nat.div_eq_of_lt hs,
    Nat.mod_eq_of_lt hs, Nat.zero_add]

theorem getElem?_increments_succ {t : Nat} (hparts : 0 < parts) (ht : t + 1 < places.length * parts)
    (hbegins : ∀ i : Nat, t + 1 = i * parts → (i : Int) ∉ begins) :
    (increments parts step scale begins places)[t + 1]? =
      some (spot parts step scale places (t + 1) - spot parts step scale places t) := by
  obtain ⟨i, s, hs, heq⟩ : ∃ i s, s < parts ∧ t + 1 = i * parts + s :=
    ⟨_, _, Nat.mod_lt (t + 1) hparts, (Nat.div_add_mod' ..).symm⟩
  have hi : i < places.length := by
    by_contra hi
    have := Nat.mul_le_mul_right parts (Nat.le_of_not_lt hi)
    omega
  rw [heq, getElem?_increments (getElem?_eq_getElem hi) hs, spot_mul_add i hs]
  cases s with
  | succ s =>
    have ht : t = i * parts + s := by omega
    rw [ht, spot_mul_add i (by omega)]
    simp
    ring
  | zero =>
    -- the step before is the last one of the block before
    obtain ⟨j, rfl⟩ : ∃ j, i = j + 1 := Nat.exists_eq_succ_of_ne_zero (by rintro rfl; simp at heq)
    have ht : t = j * parts + (parts - 1) := by rw [Nat.succ_mul] at heq; omega
    rw [if_pos rfl, if_neg (hbegins _ heq), ht, spot_mul_add j (by omega), Nat.cast_sub hparts]
    simp [hi]
    ring

theorem getElem?_pairs (h : as.length = bs.length) (t : Nat) :
    (pairs as bs)[2 * t]? = as[t]? ∧ (pairs as bs)[2 * t + 1]? = bs[t]? := by
  induction as generalizing bs t with
  | nil =>
    obtain rfl : bs = [] := length_eq_zero_iff.1 h.symm
    simp [pairs]
  | cons a as ih =>
    obtain ⟨b, bs, rfl⟩ := exists_cons_of_length_eq_add_one h.symm
    cases t with
    | zero => simp [pairs]
    | succ t => simpa [pairs, Nat.mul_succ] using ih (Nat.succ.inj h) t

theorem length_pairs (h : as.length = bs.length) : (pairs as bs).length = 2 * as.length := by
  induction as generalizing bs with
  | nil => simp [pairs]
  | cons a as ih =>
    obtain ⟨b, bs, rfl⟩ := exists_cons_of_length_eq_add_one h.symm
    simp [pairs, ih (Nat.succ.inj h), Nat.mul_succ]

end WalkTable

/-! ## Rows -/

namespace Layout

def Binary (l : Layout) : Prop := ∀ h m n, l.entry h m n = 0 ∨ l.entry h m n = 1

def row (l : Layout) (p : Nat × Nat) : List Block := (l.line p.1 p.2).map fun n => ⟨p.1, p.2, n⟩

theorem blocks_eq (l : Layout) : l.blocks = l.lines.flatMap l.row := rfl

def start (l : Layout) (r : Nat) : Nat := ((l.lines.take r).flatMap l.row).length

variable {l : Layout} {r : Nat} {p : Nat × Nat}

theorem getElem?_blocks (hr : l.lines[r]? = some p) {k : Nat} (hk : k < (l.row p).length) :
    l.blocks[l.start r + k]? = (l.row p)[k]? := getElem?_flatMap l.row hr hk

theorem start_succ (hr : l.lines[r]? = some p) : l.start (r + 1) = l.start r + (l.row p).length := by
  simp [start, take_add_one, hr]

theorem start_mono {r' : Nat} (h : r ≤ r') : l.start r ≤ l.start r' := by
  obtain ⟨d, rfl⟩ := Nat.exists_eq_add_of_le h
  simp [start, take_add]

theorem start_le (r : Nat) : l.start r ≤ l.blocks.length :=
  (start_mono (Nat.le_max_left r l.lines.length)).trans_eq (by rw [start, take_of_length_le (Nat.le_max_right ..), blocks_eq])

theorem start_add_le (hr : l.lines[r]? = some p) : l.start r + (l.row p).length ≤ l.blocks.length :=
  start_succ hr ▸ start_le (r + 1)

theorem sizes_eq (hl : l.Binary) : l.sizes = l.lines.map fun p => ((l.row p).length : Int) := by
  refine map_congr_left fun p _ => ?_
  change l.lineSum p.1 p.2 = _
  rw [lineSum, sum_eq_countP (by simpa using fun n _ => hl p.1 p.2 n), countP_map, row, length_map, line,
    countP_eq_length_filter]
  rfl

theorem sum_take_sizes (hl : l.Binary) (r : Nat) : (l.sizes.take r).sum = l.start r := by
  rw [sizes_eq hl, ← map_take, start, length_flatMap]
  induction l.lines.take r with
  | nil => rfl
  | cons p ps ih => simp [ih]

end Layout

namespace WalkTable

variable {l : Layout} {r : Nat} {p : Nat × Nat} {parts : Nat} {step : Int}

/-! ## Headers -/

def firstOf (l : Layout) (r : Nat) : Nat := min (l.start r) (l.blocks.length - 1)

theorem firstOf_add_le (hblocks : l.blocks ≠ []) (hr : l.lines[r]? = some p) :
    firstOf l r + (l.row p).length ≤ l.blocks.length := by
  have hlength := length_pos_iff.2 hblocks
  have hend := Layout.start_add_le hr
  rw [firstOf]
  omega

theorem firstOf_eq (hr : l.lines[r]? = some p) (hp : l.row p ≠ []) : firstOf l r = l.start r := by
  have hlength := length_pos_iff.2 hp
  have hend := Layout.start_add_le hr
  rw [firstOf]
  omega

theorem getElem?_firsts (hl : l.Binary) (hblocks : l.blocks ≠ []) (hr : l.lines[r]? = some p) :
    (firsts l)[r]? = some (firstOf l r : Int) := by
  have hlength := length_pos_iff.2 hblocks
  have hlt : r < l.sizes.length := by simpa [Layout.sizes] using (List.getElem?_eq_some_iff.1 hr).1
  rw [firsts, getElem?_map, getElem?_sumsBefore 0 hlt, Layout.sum_take_sizes hl, firstOf]
  simp [Nat.cast_sub hlength]

theorem getElem?_sizes (hl : l.Binary) (hr : l.lines[r]? = some p) : l.sizes[r]? = some ((l.row p).length : Int) := by
  rw [Layout.sizes_eq hl, getElem?_map, hr, Option.map_some]

def headerOf (l : Layout) (parts : Nat) (step : Int) (r : Nat) (p : Nat × Nat) : List Int :=
  [(firstOf l r : Int) * 2 * parts + 4 * l.lines.length, (l.row p).length * step * parts, p.2, p.1]

theorem getElem?_headers (hl : l.Binary) (hblocks : l.blocks ≠ []) (hr : l.lines[r]? = some p) {j : Nat} (hj : j < 4) :
    (headers l parts step)[r * 4 + j]? = (headerOf l parts step r p)[j]? := by
  have hzip : ((firsts l).zip (l.sizes.zip l.lines))[r]? = some ((firstOf l r : Int), ((l.row p).length : Int), p) := by
    simp [getElem?_zip_eq_some, getElem?_firsts hl hblocks hr, getElem?_sizes hl hr, hr]
  rw [headers, getElem?_flatMap_of_length (n := 4) _ (by simp) hzip hj, headerOf]

theorem length_headers : (headers l parts step).length = l.lines.length * 4 := by
  rw [headers, length_flatMap_of_length (n := 4) _ (by simp)]
  simp [firsts, Layout.sizes]

theorem mem_begins (hl : l.Binary) (hblocks : l.blocks ≠ []) (hstep : 0 < step) {i : Int} :
    i ∈ begins l step ↔ ∃ r p, l.lines[r]? = some p ∧ l.row p ≠ [] ∧ i = l.start r := by
  have hpositive (p : Nat × Nat) : 0 < ((l.row p).length : Int) * step ↔ l.row p ≠ [] := by
    rw [mul_pos_iff_of_pos_right hstep, Int.natCast_pos, length_pos_iff]
  have hposition (n : Nat) : positionIn l.blocks.length n = n := if_neg (by omega)
  rw [begins, mem_filterMap]
  constructor
  · rintro ⟨⟨first, size⟩, hmem, hi⟩
    obtain ⟨r, hzip⟩ := mem_iff_getElem?.1 hmem
    obtain ⟨hfirst, hsize⟩ := getElem?_zip_eq_some.1 hzip
    have hsize' := hsize
    rw [Layout.sizes_eq hl, getElem?_map] at hsize'
    obtain ⟨p, hr, rfl⟩ := Option.map_eq_some_iff.1 hsize'
    obtain rfl : (firstOf l r : Int) = first := Option.some.inj ((getElem?_firsts hl hblocks hr).symm.trans hfirst)
    rw [Option.ite_none_right_eq_some, hpositive, hposition] at hi
    obtain ⟨hp, hi⟩ := hi
    exact ⟨r, p, hr, hp, by rw [← Option.some.inj hi, firstOf_eq hr hp]⟩
  · rintro ⟨r, p, hr, hp, rfl⟩
    refine ⟨(firstOf l r, (l.row p).length), mem_iff_getElem?.2 ⟨r, ?_⟩, ?_⟩
    · exact getElem?_zip_eq_some.2 ⟨getElem?_firsts hl hblocks hr, getElem?_sizes hl hr⟩
    · simp [hpositive, hp, hposition, firstOf_eq hr hp]

theorem notMem_begins (hl : l.Binary) (hblocks : l.blocks ≠ []) (hstep : 0 < step) (hr : l.lines[r]? = some p) {k : Nat}
    (hk : k + 1 < (l.row p).length) : ((l.start r + (k + 1) : Nat) : Int) ∉ begins l step := by
  rw [mem_begins hl hblocks hstep]
  rintro ⟨r', p', hr', hp', heq⟩
  have hsucc := Layout.start_succ hr
  have hsucc' := Layout.start_succ hr'
  have hlength := length_pos_iff.2 hp'
  rcases lt_trichotomy r r' with hlt | rfl | hlt
  · have hle : l.start (r + 1) ≤ l.start r' := Layout.start_mono hlt
    omega
  · omega
  · have hle : l.start (r' + 1) ≤ l.start r := Layout.start_mono hlt
    omega

/-! ## Walks -/

/-- Where a walk stands in the dense operand after some rounds: its increments are found from `o` on. -/
def denseAt (cells : List Int) (o : Nat) : Nat → Int
  | 0 => cells.getD o 0
  | u + 1 => denseAt cells o u + cells.getD (o + 2 * (u + 1)) 0

/-- Where a walk stands in the stored blocks after some rounds. -/
def storedAt (cells : List Int) (o : Nat) (scale : Int) : Nat → Int
  | 0 => cells.getD (o + 1) 0 * scale
  | u + 1 => storedAt cells o scale u + cells.getD (o + 2 * (u + 1) + 1) 0

def walk (cells : List Int) (o : Nat) (scale : Int) (rounds : Nat) : List (Int × Int) :=
  (List.range rounds).map fun u => (denseAt cells o u, storedAt cells o scale u)

/-- What the header of a row says: where its increments begin, how many rounds there are, and which row it is. -/
structure Header (cells : List Int) (row o rounds step : Nat) (m h : Int) : Prop where
  offset : cells.getD (4 * row) 0 = o
  length : cells.getD (4 * row + 1) 0 = rounds * step
  column : cells.getD (4 * row + 2) 0 = m
  head : cells.getD (4 * row + 3) 0 = h
  header_bound : 4 * row + 3 < cells.length
  bound : o + 2 * (rounds + 1) + 1 < cells.length

theorem getD_increments_succ (hl : l.Binary) (hblocks : l.blocks ≠ []) (hstep : 0 < step) (hr : l.lines[r]? = some p)
    (hparts : 0 < parts) {places : List Int} (hplaces : places.length = l.blocks.length) (way scale : Int) {u : Nat}
    (hu : u + 1 < (l.row p).length * parts) :
    (increments parts way scale (begins l step) places).getD (l.start r * parts + (u + 1)) 0 =
      spot parts way scale places (l.start r * parts + (u + 1)) - spot parts way scale places (l.start r * parts + u) := by
  have hend := Nat.mul_le_mul_right parts (Layout.start_add_le hr)
  rw [Nat.add_mul] at hend
  rw [getD_eq_getElem?_getD, ← Nat.add_assoc, getElem?_increments_succ hparts (by rw [hplaces]; omega), Option.getD_some]
  intro i hi
  obtain ⟨k, rfl⟩ : ∃ k, i = l.start r + (k + 1) := by
    have hlt : l.start r < i := Nat.lt_of_mul_lt_mul_right (a := parts) (by omega)
    exact ⟨i - l.start r - 1, by omega⟩
  refine notMem_begins hl hblocks hstep hr (Nat.lt_of_mul_lt_mul_right (a := parts) ?_)
  rw [Nat.add_mul] at hi
  omega

variable {block : Int} {s : Stride} {stored : List Int}

def densePlaces (l : Layout) (block : Int) : List Int := l.blocks.map fun b => (b.column : Int) * block

theorem cells_eq : (ofPlaces l block step s stored).cells = headers l s.parts step ++
    (pairs (increments s.parts s.dense 1 (begins l step) (densePlaces l block))
      (increments s.parts s.stored (block * block) (begins l step) stored) ++ padding) := append_assoc ..

section

variable (block step) (hparts : 0 < s.parts) (hstored : stored.length = l.blocks.length)

include hparts hstored

theorem length_places : (increments s.parts s.dense 1 (begins l step) (densePlaces l block)).length =
    (increments s.parts s.stored (block * block) (begins l step) stored).length := by
  rw [length_increments hparts, length_increments hparts, hstored, densePlaces, length_map]

theorem length_cells :
    (ofPlaces l block step s stored).cells.length = 4 * l.lines.length + 2 * (l.blocks.length * s.parts) + 20 := by
  rw [cells_eq, length_append, length_append, length_headers, length_pairs (length_places step block hparts hstored),
    length_increments hparts, densePlaces, length_map, padding, length_replicate]
  omega

theorem getD_cells {t : Nat} (ht : t < l.blocks.length * s.parts) :
    (ofPlaces l block step s stored).cells.getD (4 * l.lines.length + 2 * t) 0 =
        (increments s.parts s.dense 1 (begins l step) (densePlaces l block)).getD t 0 ∧
      (ofPlaces l block step s stored).cells.getD (4 * l.lines.length + 2 * t + 1) 0 =
        (increments s.parts s.stored (block * block) (begins l step) stored).getD t 0 := by
  have hlength := length_places step block hparts hstored
  have hpairs := length_pairs hlength
  have hget := getElem?_pairs hlength t
  rw [length_increments hparts, densePlaces, length_map] at hpairs
  have hskip (i : Nat) (hi : i < 2 * (l.blocks.length * s.parts)) :
      (ofPlaces l block step s stored).cells[4 * l.lines.length + i]? =
        (pairs (increments s.parts s.dense 1 (begins l step) (densePlaces l block))
          (increments s.parts s.stored (block * block) (begins l step) stored))[i]? := by
    rw [cells_eq, getElem?_append_right (by rw [length_headers]; omega), length_headers, Nat.mul_comm,
      Nat.add_sub_cancel_left, getElem?_append_left (hpairs ▸ hi)]
  simp only [getD_eq_getElem?_getD, Nat.add_assoc, hskip (2 * t) (by omega), hskip (2 * t + 1) (by omega), hget, and_self]

end

variable {step : Nat}

theorem header_ofPlaces (block : Int) (s : Stride) (hl : l.Binary) (hblocks : l.blocks ≠ []) (hparts : 0 < s.parts)
    (hstored : stored.length = l.blocks.length) (hr : l.lines[r]? = some p) : Header (ofPlaces l block step s stored).cells r
      (4 * l.lines.length + 2 * (firstOf l r * s.parts)) ((l.row p).length * s.parts) step p.2 p.1 := by
  have hlength := length_cells step block hparts hstored
  have hlt : r < l.lines.length := (List.getElem?_eq_some_iff.1 hr).1
  have hget {j : Nat} (hj : j < 4) : (ofPlaces l block step s stored).cells.getD (4 * r + j) 0 =
      ((headerOf l s.parts step r p)[j]?).getD 0 := by
    rw [getD_eq_getElem?_getD, cells_eq, getElem?_append_left (by rw [length_headers]; omega), Nat.mul_comm,
      getElem?_headers hl hblocks hr hj]
  have hend := Nat.mul_le_mul_right s.parts (firstOf_add_le hblocks hr)
  rw [Nat.add_mul] at hend
  constructor
  · exact (hget (by decide : 0 < 4)).trans (by simp [headerOf]; ring)
  · exact (hget (by decide : 1 < 4)).trans (by simp [headerOf]; ring)
  · exact hget (by decide : 2 < 4)
  · exact hget (by decide : 3 < 4)
  · omega
  · omega

theorem walk_ofPlaces (block : Int) (s : Stride) (hl : l.Binary) (hblocks : l.blocks ≠ []) (hparts : 0 < s.parts)
    (hstep : 0 < step) (hstored : stored.length = l.blocks.length) (hr : l.lines[r]? = some p) {u : Nat}
    (hu : u < (l.row p).length * s.parts) :
    denseAt (ofPlaces l block step s stored).cells (4 * l.lines.length + 2 * (firstOf l r * s.parts)) u =
        spot s.parts s.dense 1 (densePlaces l block) (l.start r * s.parts + u) ∧
      storedAt (ofPlaces l block step s stored).cells (4 * l.lines.length + 2 * (firstOf l r * s.parts)) (block * block) u =
        spot s.parts s.stored (block * block) stored (l.start r * s.parts + u) := by
  have hstep' : (0 : Int) < step := Int.natCast_pos.2 hstep
  have hp : l.row p ≠ [] := by rintro hp; simp [hp] at hu
  have hplaces : (densePlaces l block).length = l.blocks.length := length_map ..
  have hend := Nat.mul_le_mul_right s.parts (Layout.start_add_le hr)
  rw [Nat.add_mul] at hend
  rw [firstOf_eq hr hp]
  induction u with
  | zero =>
    have hlt : l.start r < l.blocks.length :=
      (Nat.lt_add_of_pos_right (length_pos_iff.2 hp)).trans_le (Layout.start_add_le hr)
    have hbegin : (l.start r : Int) ∈ begins l step := (mem_begins hl hblocks hstep').2 ⟨r, p, hr, hp, rfl⟩
    have hfirst (way scale : Int) {places : List Int} (h : places.length = l.blocks.length) :
        (increments s.parts way scale (begins l step) places).getD (l.start r * s.parts) 0 = places.getD (l.start r) 0 := by
      have hget := getElem?_eq_getElem (h ▸ hlt)
      rw [← Nat.add_zero (_ * _), getD_eq_getElem?_getD, getElem?_increments hget hparts]
      simp [hbegin, hget]
    obtain ⟨hdense, hsparse⟩ := getD_cells step block hparts hstored (t := l.start r * s.parts) (by omega)
    rw [denseAt, storedAt, hdense, hsparse, hfirst _ _ hplaces, hfirst _ _ hstored, spot_mul_add _ hparts, spot_mul_add _ hparts]
    simp
  | succ u ih =>
    obtain ⟨hdense, hsparse⟩ := getD_cells step block hparts hstored (t := l.start r * s.parts + (u + 1)) (by omega)
    obtain ⟨ihdense, ihsparse⟩ := ih (by omega)
    rw [Nat.mul_add, ← Nat.add_assoc] at hdense hsparse
    rw [denseAt, storedAt, hdense, hsparse, ihdense, ihsparse, getD_increments_succ hl hblocks hstep' hr hparts hplaces _ _ hu,
      getD_increments_succ hl hblocks hstep' hr hparts hstored _ _ hu]
    constructor <;> ring

end WalkTable

/-! ## Storage -/

namespace Layout

variable {l : Layout}

def holds (l : Layout) (b : Block) : Bool := l.entry b.head b.row b.column != 0

def places (l : Layout) : List Block := l.lines.flatMap fun p => (List.range l.columns).map fun n => ⟨p.1, p.2, n⟩

theorem blocks_eq_filter (l : Layout) : l.blocks = l.places.filter l.holds := by
  simp only [blocks_eq, places, filter_flatMap, filter_map]
  rfl

theorem entries_eq_map (l : Layout) : l.entries = l.places.map fun b => l.entry b.head b.row b.column := by
  simp only [entries, places, map_flatMap, map_map, Function.comp_def]

variable {b : Block}

theorem mem_blocks : b ∈ l.blocks ↔ b.head < l.heads ∧ b.row < l.rows ∧ b.column < l.columns ∧ l.holds b := by
  cases b
  simp [blocks_eq_filter, places, lines, and_assoc]

theorem getElem?_places (hh : b.head < l.heads) (hm : b.row < l.rows) (hn : b.column < l.columns) :
    l.places[(b.head * l.rows + b.row) * l.columns + b.column]? = some b := by
  have hline : l.lines[b.head * l.rows + b.row]? = some (b.head, b.row) := by
    rw [lines, getElem?_flatMap_of_length (n := l.rows) (a := b.head) _ (by simp) (by simp [hh]) hm]
    simp [hm]
  rw [places, getElem?_flatMap_of_length (n := l.columns) _ (by simp) hline hn]
  simp [hn]

theorem getElem?_storageIndex (hb : b ∈ l.blocks) : ∃ i : Nat, l.storageIndex l.storedBefore b = i ∧ l.blocks[i]? = some b := by
  obtain ⟨hh, hm, hn, hholds⟩ := mem_blocks.1 hb
  have hplace := getElem?_places hh hm hn
  have hlt := (List.getElem?_eq_some_iff.1 hplace).1
  refine ⟨_, ?_, blocks_eq_filter l ▸ Steps.getElem?_filter l.holds hplace hholds⟩
  have hsum (bs : List Block) : ((bs.map fun b => l.entry b.head b.row b.column).map fun e => if e != 0 then 1 else 0).sum =
      (bs.countP l.holds : Int) := by
    induction bs with
    | nil => rfl
    | cons b bs ih =>
      rw [map_cons, map_cons, sum_cons, ih, countP_cons, holds, add_comm]
      split <;> simp
  rw [storageIndex, storedBefore, getElem?_toArray, entries_eq_map, getElem?_sumsBefore 0 (by simpa using hlt), ← map_take,
    ← map_take, hsum, zero_add, Option.getD_some]

theorem counts_of_binary (hl : l.Binary) : l.counts := by
  simp only [counts, all_eq_true, beq_iff_eq]
  intro h _
  have hes : ∀ e ∈ (range l.rows).flatMap fun m => (range l.columns).map (l.entry h m), e = 0 ∨ e = 1 := by
    simp only [mem_flatMap, mem_map]
    rintro e ⟨m, -, n, -, rfl⟩
    exact hl h m n
  rw [sum_eq_countP hes, max_eq_left (Int.natCast_nonneg _), Int.natCast_inj]
  refine countP_congr fun e he => ?_
  rcases hes e he with rfl | rfl <;> decide

end Layout

namespace WalkTable

/-- A table to be made: a layout of zeros and ones that are not all zero, the number of steps of a block and their width, and
whether walks go along rows. -/
structure Plan where
  layout : Layout
  binary : layout.Binary
  nonempty : layout.blocks ≠ []
  parts : Nat
  step : Nat
  byRows : Bool
  parts_pos : 0 < parts
  step_pos : 0 < step

namespace Plan

variable (q : Plan)

def block : Nat := q.parts * q.step

def oriented : Layout := if q.byRows then q.layout else q.layout.transpose

def place (b : Block) : Block := if q.byRows then b else ⟨b.head, b.column, b.row⟩

/-- The way of a step in a stored block, whose elements lie by rows. -/
def stride : Int := if q.byRows then q.step else q.step * q.block

theorem oriented_binary : q.oriented.Binary := by
  unfold oriented
  split
  · exact q.binary
  · exact fun h m n => q.binary h n m

theorem place_mem {b : Block} (hb : b ∈ q.oriented.blocks) : q.place b ∈ q.layout.blocks := by
  unfold oriented at hb
  unfold place
  split at hb <;> simp_all [Layout.mem_blocks, Layout.transpose, Layout.holds]

theorem oriented_nonempty : q.oriented.blocks ≠ [] := by
  obtain ⟨b, hb⟩ := exists_mem_of_ne_nil _ q.nonempty
  have hmem : q.place b ∈ q.oriented.blocks := by
    unfold oriented place
    split <;> simp_all [Layout.mem_blocks, Layout.transpose, Layout.holds]
  exact ne_nil_of_mem hmem

/-- A table can be made, and its blocks are known by where they are stored. -/
theorem exists_make : ∃ stored : List Int,
    make q.layout q.block q.step q.byRows = .ok (ofPlaces q.oriented q.block q.step ⟨q.parts, q.step, q.stride⟩ stored) ∧
      stored.length = q.oriented.blocks.length ∧ ∀ i b, q.oriented.blocks[i]? = some b →
        ∃ j : Nat, stored.getD i 0 = j ∧ q.layout.blocks[j]? = some (q.place b) := by
  have hstep : (q.step : Int) ≠ 0 := by have := q.step_pos; omega
  have hparts : (q.block : Int).fdiv q.step = q.parts := by
    rw [block, Nat.cast_mul, Int.mul_fdiv_cancel _ hstep]
  have hpos := q.parts_pos
  have hbegins : (begins q.oriented q.step).any (fun p => p < 0 || q.oriented.blocks.length ≤ p.toNat) = false := by
    rw [any_eq_false]
    intro i hi
    obtain ⟨r, p, hr, hp, rfl⟩ := (mem_begins q.oriented_binary q.oriented_nonempty (Int.natCast_pos.2 q.step_pos)).1 hi
    have := Layout.start_add_le hr
    have := length_pos_iff.2 hp
    simp
    omega
  have hneg : ¬ (q.parts : Int) < 0 := by omega
  have hzero : ¬ (q.parts : Int) = 0 := by omega
  cases hrows : q.byRows with
  | true =>
    simp only [oriented, hrows, if_true] at hbegins ⊢
    refine ⟨(range q.layout.blocks.length).map fun (i : Nat) => (i : Int), ?_, by simp, fun i b hb => ⟨i, ?_, ?_⟩⟩
    · simp only [make, hstep, hparts, hneg, hzero, hbegins, stride, hrows, if_true, if_false, Int.toNat_natCast,
        Bool.false_eq_true]
      rfl
    · simp [(List.getElem?_eq_some_iff.1 hb).1]
    · rw [hb, place, hrows, if_pos rfl]
  | false =>
    have hplace (b : Block) : q.place b = ⟨b.head, b.column, b.row⟩ := by rw [place, hrows, if_neg Bool.false_ne_true]
    have hmem (b : Block) (hb : b ∈ q.oriented.blocks) := q.place_mem hb
    simp only [oriented, hrows, Bool.false_eq_true, if_false] at hbegins hmem ⊢
    refine ⟨q.layout.transpose.blocks.map fun b => q.layout.storageIndex q.layout.storedBefore ⟨b.head, b.column, b.row⟩, ?_,
      by simp, fun i b hb => ?_⟩
    · simp only [make, hstep, hparts, hneg, hzero, hbegins, stride, hrows, if_false, Int.toNat_natCast, Bool.false_eq_true,
        Layout.counts_of_binary q.binary, Bool.not_true]
      rfl
    · obtain ⟨j, hj, hblock⟩ := Layout.getElem?_storageIndex (hmem b (mem_of_getElem? hb))
      refine ⟨j, ?_, hblock⟩
      rw [getD_eq_getElem?_getD, getElem?_map, hb, Option.map_some, Option.getD_some, ← hplace, hj]

theorem exists_rounds : ∃ t, make q.layout q.block q.step q.byRows = .ok t ∧ t.width = q.oriented.lines.length ∧
    ∀ r h m, q.oriented.lines[r]? = some (h, m) →
      ∃ o, Header t.cells r o (q.parts * (q.oriented.line h m).length) q.step m h ∧
        ∀ k c, (q.oriented.line h m)[k]? = some c → ∃ b : Nat, q.layout.blocks[b]? = some (q.place ⟨h, m, c⟩) ∧
          ∀ s < q.parts, k * q.parts + s < q.parts * (q.oriented.line h m).length ∧
            denseAt t.cells o (k * q.parts + s) = c * q.block + s * q.step ∧
            storedAt t.cells o (q.block * q.block) (k * q.parts + s) = b * (q.block * q.block) + s * q.stride := by
  obtain ⟨stored, hmake, hstored, hblocks⟩ := q.exists_make
  have hlength (p : Nat × Nat) : (q.oriented.row p).length = (q.oriented.line p.1 p.2).length := length_map ..
  refine ⟨_, hmake, rfl, fun r h m hr =>
    ⟨4 * q.oriented.lines.length + 2 * (firstOf q.oriented r * q.parts), ?_, fun k c hc => ?_⟩⟩
  · rw [Nat.mul_comm q.parts, ← hlength (h, m)]
    exact header_ofPlaces q.block _ q.oriented_binary q.oriented_nonempty q.parts_pos hstored hr
  · have hk : k < (q.oriented.row (h, m)).length := hlength (h, m) ▸ (List.getElem?_eq_some_iff.1 hc).1
    have hblock : q.oriented.blocks[q.oriented.start r + k]? = some ⟨h, m, c⟩ := by
      rw [Layout.getElem?_blocks hr hk, Layout.row, getElem?_map, hc, Option.map_some]
    obtain ⟨b, hb, hstorage⟩ := hblocks _ _ hblock
    refine ⟨b, hstorage, fun s hs => ?_⟩
    have hu : k * q.parts + s < (q.oriented.row (h, m)).length * q.parts := by
      have := Nat.mul_le_mul_right q.parts (Nat.succ_le_of_lt hk)
      rw [Nat.succ_mul] at this
      omega
    obtain ⟨hdense, hsparse⟩ := walk_ofPlaces q.block ⟨q.parts, q.step, q.stride⟩ q.oriented_binary
      q.oriented_nonempty q.parts_pos q.step_pos hstored hr hu
    refine ⟨by rwa [hlength, Nat.mul_comm (length _)] at hu, hdense.trans ?_, hsparse.trans ?_⟩
    · rw [← Nat.add_assoc, ← Nat.add_mul, spot_mul_add _ hs]
      simp [densePlaces, hblock]
    · rw [← Nat.add_assoc, ← Nat.add_mul, spot_mul_add _ hs, hb]

end Plan

end WalkTable

end TileKernel.BlockSparse
