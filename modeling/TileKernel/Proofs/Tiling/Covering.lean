import TileKernel.Proofs.Tiling.Product

/-! # What a product adds up

Every instance, round and pair of lanes of a launch adds at most one product to the result. The products that are added to an
element are exactly those of its row and its column, each from one place only: tiles, blocks of the inner axis and lanes are
found from the indices by division.
-/

namespace TileKernel.Tiling

open Meaning

variable {s : Sizes} {t : Strides} {o : Options}

/-! ## Contributions -/

/-- A product that is added to an element. -/
structure Contribution where
  left : Address
  right : Address
  target : Address

/-- The product that a write adds in a round, at a lane of its block, for an inner lane. -/
def contribution (w : Value) (u i j x : Nat) : Option Contribution :=
  match w with
  | .tuple [.symbol _, .block [m, n] target, .block _ value, .block _ mask] =>
    if i < m ∧ j < n then
      match mask i j, target i j, value i j with
      | .bool true, .pointer c, .sum rounds =>
        match (rounds[u]?).bind (·[x]?) with
        | some (.number a, .number b) => some ⟨a, b, c⟩
        | _ => none
      | _, _, _ => none
    else none
  | _ => none

/-- Where in a launch a product can be added: an instance, a round, and the lanes. -/
@[ext] structure Place where
  program : Nat
  part : Nat
  round : Nat
  row : Nat
  column : Nat
  inner : Nat

def added (s : Sizes) (t : Strides) (o : Options) (even : Bool) (l : Place) : Option Contribution :=
  if l.program < s.tiles ∧ l.part < s.split then do
    contribution (← (← writes s t o even l.program l.part).head?) l.round l.row l.column l.inner
  else none

/-- The product of an element of the left factor and one of the right factor, for an element of the result. -/
def product (t : Strides) (m n k : Nat) : Contribution :=
  ⟨⟨"A", m * t.am + k * t.ak⟩, ⟨"B", k * t.bk + n * t.bn⟩, ⟨"C", m * t.cm + n * t.cn⟩⟩

/-- The places that add something. -/
structure Active (s : Sizes) (l : Place) : Prop where
  program : l.program < s.tiles
  part : l.part < s.split
  round : l.round < s.rounds
  lane : l.row < s.blockM ∧ l.column < s.blockN ∧ l.inner < s.blockK
  row : s.row l.program l.row < s.m
  column : s.column l.program l.column < s.n
  inner : s.inner l.part l.round l.inner < s.k

variable {z n block k : Nat} {l : Place}

theorem inner_lt_of_even (h : s.even) {u x : Nat} (hz : z < s.split) (hu : u < s.rounds) (hx : x < s.blockK) :
    s.inner z u x < s.k := by
  have hwidth : 0 < s.blockK * s.split := Nat.mul_pos s.blockK_pos s.split_pos
  obtain ⟨q, hq⟩ := Nat.dvd_of_mod_eq_zero (of_decide_eq_true h)
  have hrounds : s.rounds ≤ q := by
    rw [Sizes.rounds, blocks, hq, Nat.add_sub_assoc hwidth, Nat.mul_add_div hwidth, Nat.div_eq_of_lt (by omega), Nat.add_zero]
  calc s.inner z u x
    _ < u * (s.blockK * s.split) + (z * s.blockK + s.blockK) := by simp only [Sizes.inner]; omega
    _ = u * (s.blockK * s.split) + (z + 1) * s.blockK := by ring
    _ ≤ u * (s.blockK * s.split) + s.split * s.blockK := by gcongr; exact hz
    _ = (u + 1) * (s.blockK * s.split) := by ring
    _ ≤ q * (s.blockK * s.split) := by gcongr; omega
    _ = s.k := by rw [hq, Nat.mul_comm]

theorem added_eq_some (h : Active s l) : added s t o s.even l =
    some (product t (s.row l.program l.row) (s.column l.program l.column) (s.inner l.part l.round l.inner)) := by
  have hrow : (s.row l.program l.row : Int) % s.m = s.row l.program l.row := by exact_mod_cast Nat.mod_eq_of_lt h.row
  have hcolumn : (s.column l.program l.column : Int) % s.n = s.column l.program l.column := by
    exact_mod_cast Nat.mod_eq_of_lt h.column
  simp [added, h.program, h.part, writes_eq h.program, write, contribution, h.lane, h.row, h.column, h.round, left, right, h.inner,
    hrow, hcolumn, product]

theorem active_of_added (h : added s t o s.even l ≠ none) : Active s l := by
  by_cases hinstance : l.program < s.tiles ∧ l.part < s.split
  · rw [added, if_pos hinstance, writes_eq hinstance.1] at h
    have hlane : l.row < s.blockM ∧ l.column < s.blockN := by
      by_contra hn
      simp [contribution, write, hn] at h
    have hrow : s.row l.program l.row < s.m := by
      by_contra hn
      simp [contribution, write, hlane, hn] at h
    have hcolumn : s.column l.program l.column < s.n := by
      by_contra hn
      simp [contribution, write, hlane, hn] at h
    have hround : l.round < s.rounds := by
      by_contra hn
      have hnone : (List.range s.rounds)[l.round]? = none := List.getElem?_eq_none (by simpa using hn)
      simp [contribution, write, hlane, hrow, hcolumn, hnone] at h
    have hx : l.inner < s.blockK := by
      by_contra hn
      simp [contribution, write, hlane, hrow, hcolumn, hround, hn] at h
    have hinner : s.inner l.part l.round l.inner < s.k := by
      by_cases heven : s.even
      · exact inner_lt_of_even heven hinstance.2 hround hx
      · by_contra hn
        simp [contribution, write, hlane, hrow, hcolumn, hround, hx, left, right, heven, hn, Cell.zero] at h
    exact ⟨hinstance.1, hinstance.2, hround, ⟨hlane.1, hlane.2, hx⟩, hrow, hcolumn, hinner⟩
  · simp [added, hinstance] at h

/-! ## Every product once -/

theorem div_lt_blocks {i : Nat} (hblock : 0 < block) (hi : i < n) : i / block < blocks n block := by
  rw [blocks, Nat.div_lt_iff_lt_mul hblock]
  have h := Nat.lt_div_mul_add hblock (a := n + block - 1)
  omega

theorem mul_add_eq_iff {a i : Nat} (hi : i < block) : a * block + i = n ↔ a = n / block ∧ i = n % block := by
  constructor
  · rintro rfl
    rw [Nat.mul_comm, Nat.mul_add_div (Nat.zero_lt_of_lt hi), Nat.mul_add_mod, Nat.div_eq_of_lt hi, Nat.mod_eq_of_lt hi]
    exact ⟨rfl, rfl⟩
  · rintro ⟨rfl, rfl⟩
    exact Nat.div_add_mod' n block

theorem inner_eq_iff (s : Sizes) {u x : Nat} (hz : z < s.split) (hx : x < s.blockK) :
    s.inner z u x = k ↔ u = k / (s.blockK * s.split) ∧ z = k % (s.blockK * s.split) / s.blockK ∧
      x = k % (s.blockK * s.split) % s.blockK := by
  have hrest : z * s.blockK + x < s.blockK * s.split := by
    calc z * s.blockK + x < (z + 1) * s.blockK := by rw [Nat.add_mul]; omega
      _ ≤ s.blockK * s.split := by rw [Nat.mul_comm]; exact Nat.mul_le_mul_left _ hz
  rw [Sizes.inner, Nat.add_assoc, mul_add_eq_iff hrest, mul_add_eq_iff hx]

theorem product_injective {m m' n' k' : Nat} (h : ∀ t, product t m n k = product t m' n' k') : m = m' ∧ n = n' ∧ k = k' := by
  have hm := congrArg (·.target.offset) (h ⟨0, 0, 0, 0, 1, 0⟩)
  have hn := congrArg (·.target.offset) (h ⟨0, 0, 0, 0, 0, 1⟩)
  have hk := congrArg (·.left.offset) (h ⟨0, 1, 0, 0, 0, 0⟩)
  simp only [product] at hm hn hk
  omega

theorem exists_active {m : Nat} (hm : m < s.m) (hn : n < s.n) (hk : k < s.k) :
    ∃ l, Active s l ∧ s.row l.program l.row = m ∧ s.column l.program l.column = n ∧ s.inner l.part l.round l.inner = k := by
  have hwidth : 0 < s.blockK * s.split := Nat.mul_pos s.blockK_pos s.split_pos
  obtain ⟨p, hp, htile⟩ := (Grouped.tile_bijOn s.group_pos).surjOn
    (show (m / s.blockM, n / s.blockN) ∈ _ from ⟨div_lt_blocks s.blockM_pos hm, div_lt_blocks s.blockN_pos hn⟩)
  have hrow : s.row p (m % s.blockM) = m := by rw [Sizes.row, Sizes.tile, htile, Nat.div_add_mod']
  have hcolumn : s.column p (n % s.blockN) = n := by rw [Sizes.column, Sizes.tile, htile, Nat.div_add_mod']
  have hz : k % (s.blockK * s.split) / s.blockK < s.split := Nat.div_lt_of_lt_mul (Nat.mod_lt _ hwidth)
  have hx : k % (s.blockK * s.split) % s.blockK < s.blockK := Nat.mod_lt _ s.blockK_pos
  have hinner := (inner_eq_iff s hz hx).2 ⟨rfl, rfl, rfl⟩
  refine ⟨⟨p, k % (s.blockK * s.split) / s.blockK, k / (s.blockK * s.split), m % s.blockM, n % s.blockN,
    k % (s.blockK * s.split) % s.blockK⟩, ⟨hp, hz, div_lt_blocks hwidth hk, ⟨Nat.mod_lt _ s.blockM_pos, Nat.mod_lt _ s.blockN_pos, hx⟩,
      hrow.trans_lt hm, hcolumn.trans_lt hn, ?_⟩, hrow, hcolumn, hinner⟩
  exact hinner.trans_lt hk

theorem active_unique {l' : Place} (h : Active s l) (h' : Active s l')
    (hrow : s.row l.program l.row = s.row l'.program l'.row) (hcolumn : s.column l.program l.column = s.column l'.program l'.column)
    (hinner : s.inner l.part l.round l.inner = s.inner l'.part l'.round l'.inner) : l = l' := by
  obtain ⟨htile₁, hi⟩ := (mul_add_eq_iff h.lane.1).1 hrow
  obtain ⟨htile₁', hi'⟩ := (mul_add_eq_iff h'.lane.1).1 (rfl : s.row l'.program l'.row = _)
  obtain ⟨htile₂, hj⟩ := (mul_add_eq_iff h.lane.2.1).1 hcolumn
  obtain ⟨htile₂', hj'⟩ := (mul_add_eq_iff h'.lane.2.1).1 (rfl : s.column l'.program l'.column = _)
  obtain ⟨hu, hz, hx⟩ := (inner_eq_iff s h.part h.lane.2.2).1 hinner
  obtain ⟨hu', hz', hx'⟩ := (inner_eq_iff s h'.part h'.lane.2.2).1 rfl
  have hp : l.program = l'.program := (Grouped.tile_bijOn s.group_pos).injOn h.program h'.program
    (Prod.ext (htile₁.trans htile₁'.symm) (htile₂.trans htile₂'.symm))
  ext1
  exacts [hp, hz.trans hz'.symm, hu.trans hu'.symm, hi.trans hi'.symm, hj.trans hj'.symm, hx.trans hx'.symm]

/-! ## The launch -/

/-- A launch has the sizes among its arguments. -/
structure Bound (s : Sizes) (bs : Launch.Bindings) : Prop where
  k : bs.lookup "K" = some (.value (.int s.k))
  blockM : bs.lookup "BLOCK_M" = some (.value (.int s.blockM))
  blockN : bs.lookup "BLOCK_N" = some (.value (.int s.blockN))
  blockK : bs.lookup "BLOCK_K" = some (.value (.int s.blockK))
  split : bs.lookup "SPLIT_K" = some (.value (.int s.split))

theorem ceilDiv_eq (hn : 0 < n) (hblock : 0 < block) : Host.Grid.ceilDiv n block = .ok ((blocks n block : Nat) : Int) := by
  have hne : ¬ ((block : Int) == 0) := by simp; omega
  have hcast : (n : Int) + block - 1 = (n + block - 1 : Nat) := by omega
  rw [Host.Grid.ceilDiv, if_neg hne, hcast, ← Int.ofNat_fdiv, blocks]

theorem grid_eq (s : Sizes) : ∃ f, Host.TunedProducts.grid s.m s.n = .computed f ∧
    ∀ bs, Bound s bs → f bs = .ok [(s.tiles : Int), (s.split : Int)] := by
  refine ⟨_, rfl, fun bs h => ?_⟩
  have harg {x : String} {n : Nat} (hx : bs.lookup x = some (.value (.int n))) : Host.Grid.argument bs x = .ok (n : Int) := by
    rw [Host.Grid.argument, hx]
    rfl
  simp only [harg h.blockM, harg h.blockN, harg h.split, bind, Except.bind, ceilDiv_eq s.m_pos s.blockM_pos,
    ceilDiv_eq s.n_pos s.blockN_pos, Sizes.tiles, Nat.cast_mul]
  rfl

/-- The mask is left out just where the rounds end with the inner axis. -/
theorem evenParts_eq {bs : Launch.Bindings} (h : Bound s bs) :
    Host.SplitProducts.evenParts "BLOCK_K" bs = .ok (.value (.bool s.even)) := by
  have hne : ¬ ((s.blockK : Int) * s.split = 0) := by
    have := Nat.mul_pos s.blockK_pos s.split_pos
    omega
  have hknown {x : String} {n : Nat} (hx : bs.lookup x = some (.value (.int n))) :
      Tuning.Heuristic.known bs x = .ok (.int (n : Int)) := by
    rw [Tuning.Heuristic.known, hx]
  have hmul (a b : Int) : Lowering.Methods.operate .mult (.int a) (.int b) = .ok (.int (a * b)) := rfl
  have hmod (a : Int) {b : Int} (hb : ¬ b = 0) : Lowering.Methods.operate .mod (.int a) (.int b) = .ok (.int (a.fmod b)) :=
    if_neg hb
  have hequal (a : Int) : Lowering.Constant.equal (.int a) (.int 0) = decide (a = 0) := by
    show (some (compare a 0) == some Ordering.eq) = _
    rw [Bool.eq_iff_iff]
    simp
  have hcast : Int.fmod s.k (s.blockK * s.split) = (s.k % (s.blockK * s.split) : Nat) := by
    rw [Int.fmod_eq_emod_of_nonneg _ (by positivity)]
    push_cast
    rfl
  simp only [Host.SplitProducts.evenParts, hknown h.blockK, hknown h.split, hknown h.k, bind, Except.bind, hmul, hmod _ hne, hequal,
    hcast, Int.natCast_eq_zero, Sizes.even]
  rfl

theorem write_true_eq (h : s.even) {p : Nat} (hz : z < s.split) : write s t true p z = write s t false p z := by
  have hround (u i j : Nat) (hu : u ∈ List.range s.rounds) :
      (List.range s.blockK).map (fun x => (left s t true p z u i x, right s t true p z u x j)) =
        (List.range s.blockK).map fun x => (left s t false p z u i x, right s t false p z u x j) := by
    refine List.map_congr_left fun x hx => ?_
    have hinner := inner_lt_of_even h hz (List.mem_range.1 hu) (List.mem_range.1 hx)
    simp only [left, right, hinner, or_true]
  have hsum : (fun i j => Cell.sum ((List.range s.rounds).map fun u =>
      (List.range s.blockK).map fun x => (left s t true p z u i x, right s t true p z u x j))) = fun i j =>
        Cell.sum ((List.range s.rounds).map fun u =>
          (List.range s.blockK).map fun x => (left s t false p z u i x, right s t false p z u x j)) := by
    funext i j
    exact congrArg Cell.sum (List.map_congr_left fun u hu => hround u i j hu)
  rw [write, hsum, write]

/-- The launch of a product adds every product of two elements exactly once, and nothing else. -/
theorem product_launch_exact (s : Sizes) (o : Options) :
    (∃ f, Host.TunedProducts.grid s.m s.n = .computed f ∧ ∀ bs, Bound s bs → f bs = .ok [(s.tiles : Int), (s.split : Int)]) ∧
    (∀ bs, Bound s bs → Host.SplitProducts.evenParts "BLOCK_K" bs = .ok (.value (.bool s.even))) ∧
    (∀ t, ∀ p < s.tiles, ∀ z < s.split, ∃ target value mask, writes s t o s.even p z =
      some [.tuple [.symbol (if s.split = 1 then "store" else "atomic_add"), target, value, mask]]) ∧
    (∀ m < s.m, ∀ n < s.n, ∀ k < s.k, ∃! l, ∀ t, added s t o s.even l = some (product t m n k)) ∧
    (∀ l, (∀ t, added s t o s.even l = none) ∨
      ∃ m < s.m, ∃ n < s.n, ∃ k < s.k, ∀ t, added s t o s.even l = some (product t m n k)) ∧
    (s.even = true → ∀ t, ∀ p < s.tiles, ∀ z < s.split, writes s t o true p z = writes s t o false p z) := by
  refine ⟨grid_eq s, fun bs h => evenParts_eq h, fun t p hp z _ => ⟨_, _, _, writes_eq hp z⟩, ?_, fun l => ?_, ?_⟩
  · intro m hm n hn k hk
    obtain ⟨l, hl, hrow, hcolumn, hinner⟩ := exists_active hm hn hk
    refine ⟨l, fun t => by rw [added_eq_some hl, hrow, hcolumn, hinner], fun l' hl' => ?_⟩
    have hactive : Active s l' := active_of_added (t := ⟨0, 0, 0, 0, 0, 0⟩) (by rw [hl']; simp)
    obtain ⟨hrow', hcolumn', hinner'⟩ := product_injective fun t => Option.some.inj ((added_eq_some hactive).symm.trans (hl' t))
    exact active_unique hactive hl (hrow'.trans hrow.symm) (hcolumn'.trans hcolumn.symm) (hinner'.trans hinner.symm)
  · by_cases hl : Active s l
    · exact .inr ⟨_, hl.row, _, hl.column, _, hl.inner, fun t => added_eq_some hl⟩
    · exact .inl fun t => by_contra fun h => hl (active_of_added h)
  · intro h t p hp z hz
    rw [writes_eq hp, writes_eq hp, write_true_eq h hz]

end TileKernel.Tiling
