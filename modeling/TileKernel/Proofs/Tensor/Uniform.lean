import TileKernel.Proofs.Tensor.Broadcasting

/-! # Operands of library routines

The operands of a routine meet one after the other, and each of them meets what has come out. Whatever their number, they end
up with one type and the shape that they have together. -/

namespace TileKernel

open IR List

theorem Scalar.eq_of_rank : ∀ a b : Scalar, a.isPlain → b.isPlain → a.rank = b.rank → a = b := by decide +kernel

/-- Whether numbers of a type can be converted to some plain type on a device. -/
def Tensor.convertible (target : Target) (e : Scalar) : Bool :=
  e.isPlain || e.isFp8 && !needsNewerDevice target (.scalar e)

namespace Tensor.Converts

variable {target : Target} {a p q : Scalar}

theorem convertible (h : Converts target a p) : Tensor.convertible target a := by
  rcases h with h | ⟨hfp8, -, hnew⟩
  · simp [Tensor.convertible, h]
  · simp [Tensor.convertible, hfp8, hnew]

theorem mono (h : Converts target a p) (hq : q.isPlain) (hrank : p.rank ≤ q.rank) : Converts target a q := by
  have hstandard : ∀ p q : Scalar, p.isStandardFloating → q.isPlain → p.rank ≤ q.rank →
      q.isStandardFloating := by
    decide +kernel
  exact h.imp_right fun ha => ⟨ha.1, hstandard p q ha.2.1 hq hrank, ha.2.2⟩

end Tensor.Converts

namespace Types

theorem promote?_above {a b p : Scalar} (h : promote? a b false = some p) :
    a.rank ≤ p.rank ∧ b.rank ≤ p.rank ∧ (p = .bf16 → a = .bf16 ∧ b = .bf16) := by
  have hall : ∀ a b : Scalar, (promote? a b false).all (fun p =>
      a.rank ≤ p.rank ∧ b.rank ≤ p.rank ∧ (p = .bf16 → a = .bf16 ∧ b = .bf16)) := by
    decide +kernel
  have hp := hall a b
  rw [h] at hp
  exact of_decide_eq_true hp

theorem promote?_absorbs : ∀ a p : Scalar, p.isPlain → a.rank ≤ p.rank → (p = .bf16 → a = .bf16) →
    promote? a p false = some p := by
  decide +kernel

/-- The types up to `p`, of which those of one kind are left out where promotion would leave them: beside a half-precision `p`
the integers if there are brain floats, else the brain floats. -/
def belongs (p : Scalar) (brain : Bool) (e : Scalar) : Bool :=
  e.isPlain && e.rank ≤ p.rank && (p != .bf16 || e == .bf16) && (p != .fp16 || if brain then !e.isInt else e != .bf16)

theorem exists_promote? {p a b : Scalar} {brain : Bool} (ha : belongs p brain a) (hb : belongs p brain b) :
    ∃ q, promote? a b false = some q ∧ belongs p brain q := by
  have hall : ∀ (p : Scalar) (brain : Bool) (a b : Scalar), belongs p brain a → belongs p brain b →
      (promote? a b false).any (belongs p brain) := by
    decide +kernel
  exact Option.any_eq_true _ _ |>.mp (hall p brain a b ha hb)

/-- Types that are met, and types that may be there already: each is promoted beside each, to one that may be there. -/
def Closed (target : Target) (there met : Scalar → Prop) : Prop :=
  ∀ a b, met a → there b →
    ∃ p, promote? a b false = some p ∧ there p ∧ Tensor.Converts target a p ∧ Tensor.Converts target b p

/-- Types among which the order of promotions does not show: some of them is never converted, or 8-bit floats are not beside
standard ones, and integers not beside floats of both 16-bit formats unless there is a wider float. -/
def Settled (target : Target) (es : List Scalar) : Prop :=
  (∃ e ∈ es, Tensor.convertible target e = false) ∨
    (∀ e ∈ es, e.isFp8 = true → ∀ f ∈ es, f.isStandardFloating = false) ∧
      (.bf16 ∈ es → .fp16 ∈ es → .fp32 ∈ es ∨ .fp64 ∈ es ∨ ∀ e ∈ es, e.isInt = false)

theorem Settled.congr {target : Target} {es fs : List Scalar} (hmem : ∀ e, e ∈ es ↔ e ∈ fs) (h : Settled target es) :
    Settled target fs := by
  simpa only [Settled, hmem] using h

end Types

namespace Tile

variable {target : Target} {x y z c w : Tile} {xs ys zs : List Tile}

theorem type_injective (h : x.type = y.type) : x = y := by
  have hshape (x : Tile) : x.type.shape?.getD [] = x.shape := by
    unfold type
    split <;> simp_all [Ty.shape?]
  have helement := x.element_type.symm.trans ((congrArg Ty.element h).trans y.element_type)
  exact Tile.ext (Ty.scalar.inj helement) (by rw [← hshape x, h, hshape y])

/-- The tile that comes out when tiles meet `c` one after the other. -/
def Folds (target : Target) : List Tile → Tile → Tile → Prop
  | [], c, z => z = c
  | x :: xs, c, z => ∃ w, Meets target false x c w ∧ Folds target xs w z

/-- All tiles can be brought to `z`: it has their joint shape, and a type that each of them is promoted to beside it. -/
structure Covers (target : Target) (z : Tile) (xs : List Tile) : Prop where
  shape : Shape.Joins (xs.map (·.shape)) z.shape
  plain : z.element.isPlain = true
  rank_le : ∀ y ∈ xs, y.element.rank ≤ z.element.rank
  brain : z.element = .bf16 → ∀ y ∈ xs, y.element = .bf16
  converts : ∀ y ∈ xs, Tensor.Converts target y.element z.element

theorem Covers.congr (hmem : ∀ y, y ∈ xs ↔ y ∈ ys) (h : Covers target z xs) : Covers target z ys := by
  obtain ⟨hshape, hplain, hrank, hbrain, hconverts⟩ := h
  simp only [hmem] at hrank hbrain hconverts
  exact ⟨hshape.congr (by simp [hmem]), hplain, hrank, hbrain, hconverts⟩

theorem Covers.of_meets (h : Meets target false x x w) : Covers target w [x] where
  shape := h.shape.congr (by simp)
  plain := Types.isPlain_of_promote? h.element
  rank_le := by simpa using (Types.promote?_above h.element).1
  brain hw := by simpa using ((Types.promote?_above h.element).2.2 hw).1
  converts := by simpa using h.left

theorem Covers.step (h : Covers target c xs) (hmeets : Meets target false y c w) : Covers target w (y :: xs) := by
  have hplain := Types.isPlain_of_promote? hmeets.element
  obtain ⟨hy, hc, hbrain⟩ := Types.promote?_above hmeets.element
  refine ⟨(Shape.Joins.cons_iff_of_joins h.shape).2 hmeets.shape, hplain, ?_, fun hw => ?_, ?_⟩
  · exact forall_mem_cons.2 ⟨hy, fun v hv => (h.rank_le v hv).trans hc⟩
  · exact forall_mem_cons.2 ⟨(hbrain hw).1, h.brain (hbrain hw).2⟩
  · exact forall_mem_cons.2 ⟨hmeets.left, fun v hv => (h.converts v hv).mono hplain hc⟩

theorem Covers.run (h : Covers target c xs) (hfolds : Folds target ys c z) : Covers target z (ys.reverse ++ xs) := by
  induction ys generalizing c xs with
  | nil => exact hfolds ▸ h
  | cons y ys ih =>
    obtain ⟨w, hmeets, hrest⟩ := hfolds
    simpa using ih (h.step hmeets) hrest

theorem Folds.covers (h : Folds target (x :: xs) x z) : Covers target z (x :: xs) := by
  obtain ⟨w, hmeets, hrest⟩ := h
  exact ((Covers.of_meets hmeets).run hrest).congr (by simp [or_comm])

theorem Covers.meets_iff (h : Covers target z xs) (hy : y ∈ xs) : Meets target false y z w ↔ w = z := by
  have hself : Meets target false y z z :=
    ⟨(h.shape.absorb (mem_map_of_mem hy)).2 rfl,
      Types.promote?_absorbs _ _ h.plain (h.rank_le y hy) (fun hz => h.brain hz y hy), h.converts y hy, .inl h.plain⟩
  exact ⟨fun hmeets => hmeets.unique hself, fun hw => hw ▸ hself⟩

theorem Folds.rank_le (h : Folds target xs c z) : c.element.rank ≤ z.element.rank := by
  induction xs generalizing c with
  | nil => exact h ▸ Nat.le_refl _
  | cons x xs ih =>
    obtain ⟨w, hmeets, h⟩ := h
    exact (Types.promote?_above hmeets.element).2.1.trans (ih h)

theorem Folds.unique (h : Folds target xs c z) (h' : Folds target xs c w) : z = w := by
  induction xs generalizing c with
  | nil => exact h.trans h'.symm
  | cons x xs ih =>
    obtain ⟨v, hv, h⟩ := h
    obtain ⟨v', hv', h'⟩ := h'
    obtain rfl := hv.unique hv'
    exact ih h h'

theorem Folds.keeps {k : Scalar → Bool} (hk : ∀ a b, k a → k b → (Types.promote? a b false).all k)
    (h : Folds target xs c z) (hc : k c.element) (hxs : ∀ y ∈ xs, k y.element) : k z.element := by
  induction xs generalizing c with
  | nil => exact h ▸ hc
  | cons x xs ih =>
    obtain ⟨w, hmeets, h⟩ := h
    obtain ⟨hx, hxs⟩ := forall_mem_cons.1 hxs
    exact ih h (by simpa [hmeets.element] using hk x.element c.element hx hc) hxs

theorem exists_belongs (h : Folds target (x :: xs) x z) (hsettled : Types.Settled target ((x :: xs).map (·.element))) :
    ∃ brain, ∀ y ∈ x :: xs, Types.belongs z.element brain y.element := by
  have hcovers := h.covers
  have hin (k : Scalar → Bool) (hk : ∀ a b, k a → k b → (Types.promote? a b false).all k)
      (hall : ∀ y ∈ x :: xs, k y.element) : k z.element := h.keeps hk (hall x (.head _)) hall
  simp only [Types.Settled, mem_map, exists_exists_and_eq_and, forall_exists_index, and_imp,
    forall_apply_eq_imp_iff₂] at hsettled
  obtain ⟨y, hy, hnever⟩ | ⟨hnarrow, hmixed⟩ := hsettled
  · cases hnever.symm.trans (hcovers.converts y hy).convertible
  have hplain (y : Tile) (hy : y ∈ x :: xs) : y.element.isPlain := by
    -- an 8-bit float is promoted only beside a standard float, and none comes out unless one goes in
    refine (hcovers.converts y hy).resolve_right fun hfp8 => ?_
    have hnone := hin (!·.isStandardFloating) (by decide +kernel) fun v hv => by simp [hnarrow y hy hfp8.1 v hv]
    simp [hfp8.2.1] at hnone
  have hhalf (hz : z.element = .fp16) (v : Tile) (hv : v ∈ x :: xs) (hvb : v.element = .bf16) (y : Tile) (hy : y ∈ x :: xs) :
      y.element.isInt = false := by
    obtain ⟨w, hw, hwh⟩ : ∃ v ∈ x :: xs, v.element = .fp16 := by
      by_contra hnot
      simp only [not_exists, not_and] at hnot
      have hne := hin (· != .fp16) (by decide +kernel) fun v hv => by simpa using hnot v hv
      simp [hz] at hne
    have hno (e : Scalar) (he : Scalar.fp16.rank < e.rank) (u : Tile) (hu : u ∈ x :: xs) : u.element ≠ e := by
      rintro rfl
      exact absurd (hz ▸ hcovers.rank_le u hu) (Nat.not_le.2 he)
    rcases hmixed v hv hvb w hw hwh with ⟨u, hu, hue⟩ | ⟨u, hu, hue⟩ | hno
    · exact absurd hue (hno _ (by decide) u hu)
    · exact absurd hue (hno _ (by decide) u hu)
    · exact hno y hy
  refine ⟨decide (∃ y ∈ x :: xs, y.element = .bf16), fun y hy => ?_⟩
  have hrank := hcovers.rank_le y hy
  have hbrain (hz : z.element = .bf16) : y.element = .bf16 := hcovers.brain hz y hy
  simp only [Types.belongs, Bool.and_eq_true, Bool.or_eq_true, decide_eq_true_eq, bne_iff_ne, beq_iff_eq]
  refine ⟨⟨⟨hplain y hy, hrank⟩, by tauto⟩, or_iff_not_imp_left.2 fun hz => ?_⟩
  split
  · rename_i hsome
    obtain ⟨v, hv, hvb⟩ := hsome
    simpa using hhalf (not_not.1 hz) v hv hvb y hy
  · rename_i hnone
    simp only [not_exists, not_and] at hnone
    simpa using hnone y hy

theorem exists_folds {there met : Scalar → Prop} (hclosed : Types.Closed target there met) {done : List (List Int)}
    (hc : there c.element) (hys : ∀ y ∈ ys, met y.element) (hdone : Shape.Joins done c.shape)
    (hfits : Shape.Fits ((ys.map (·.shape)).reverse ++ done))
    (hpos : ∀ s ∈ (ys.map (·.shape)).reverse ++ done, ∀ d ∈ s, 0 < d) : ∃ w, Folds target ys c w ∧ there w.element := by
  induction ys generalizing c done with
  | nil => exact ⟨c, rfl, hc⟩
  | cons y ys ih =>
    obtain ⟨hy, hys⟩ := forall_mem_cons.1 hys
    rw [map_cons, reverse_cons, append_assoc, singleton_append] at hfits hpos
    obtain ⟨joint, hjoint, hsmall⟩ := hfits.of_append (by simp) hpos
    obtain ⟨q, hq, hthere, hleft, hright⟩ := hclosed _ _ hy hc
    have hmeets : Meets target false y c ⟨q, joint, hsmall⟩ :=
      ⟨(Shape.Joins.cons_iff_of_joins hdone).1 hjoint, hq, hleft, hright⟩
    obtain ⟨w, hw, hthere'⟩ := ih (c := ⟨q, joint, hsmall⟩) hthere hys hjoint hfits hpos
    exact ⟨w, ⟨_, hmeets, hw⟩, hthere'⟩

theorem exists_folds_perm {there met : Scalar → Prop} (hclosed : Types.Closed target there met)
    (hfits : Shape.Fits (xs.map (·.shape))) (hpos : ∀ v ∈ xs, ∀ d ∈ v.shape, 0 < d) (hperm : xs.Perm (y :: ys))
    (hy : there y.element) (hxs : ∀ v ∈ xs, met v.element) : ∃ w, Folds target (y :: ys) y w ∧ there w.element := by
  have hmem (s : List Int) : s ∈ xs.map (·.shape) ↔ s ∈ ((y :: ys).map (·.shape)).reverse ++ [y.shape] := by
    rw [(hperm.map _).mem_iff]
    simp [or_comm]
  refine exists_folds hclosed hy (fun v hv => hxs v (hperm.mem_iff.2 hv)) (Shape.Joins.singleton _) (hfits.congr hmem)
    fun s hs => ?_
  obtain ⟨v, hv, rfl⟩ := mem_map.1 ((hmem s).2 hs)
  exact hpos v hv

theorem Folds.fits (h : Folds target (x :: xs) x z) : Shape.Fits ((x :: xs).map (·.shape)) :=
  ⟨z.shape, h.covers.shape, z.small⟩

theorem Folds.exists_perm (h : Folds target (x :: xs) x z) (hperm : (x :: xs).Perm (y :: ys))
    (hpos : ∀ v ∈ x :: xs, ∀ d ∈ v.shape, 0 < d) (hsettled : Types.Settled target ((x :: xs).map (·.element))) :
    ∃ w, Folds target (y :: ys) y w ∧ w.element.rank ≤ z.element.rank := by
  obtain ⟨brain, hbelongs⟩ := exists_belongs h hsettled
  have hplain {e : Scalar} (he : Types.belongs z.element brain e) : e.isPlain ∧ e.rank ≤ z.element.rank := by
    simp only [Types.belongs, Bool.and_eq_true, decide_eq_true_eq] at he
    exact he.1.1
  have hclosed : Types.Closed target (Types.belongs z.element brain ·) (Types.belongs z.element brain ·) := by
    intro a b ha hb
    obtain ⟨q, hq, hqz⟩ := Types.exists_promote? ha hb
    exact ⟨q, hq, hqz, .inl (hplain ha).1, .inl (hplain hb).1⟩
  obtain ⟨w, hw, hwz⟩ := exists_folds_perm hclosed h.fits hpos hperm (hbelongs y (hperm.mem_iff.2 (.head _))) hbelongs
  exact ⟨w, hw, (hplain hwz).2⟩

theorem Folds.perm (h : Folds target (x :: xs) x z) (hperm : (x :: xs).Perm (y :: ys))
    (hpos : ∀ v ∈ x :: xs, ∀ d ∈ v.shape, 0 < d) (hsettled : Types.Settled target ((x :: xs).map (·.element))) :
    Folds target (y :: ys) y z := by
  obtain ⟨w, hw, hwz⟩ := h.exists_perm hperm hpos hsettled
  obtain ⟨v, hv, hvw⟩ := hw.exists_perm hperm.symm (fun v hv => hpos v (hperm.mem_iff.2 hv))
    (hsettled.congr fun _ => (hperm.map _).mem_iff)
  obtain rfl := h.unique hv
  have helement : w.element = z.element := Scalar.eq_of_rank _ _ hw.covers.plain h.covers.plain (Nat.le_antisymm hwz hvw)
  have hshape : w.shape = z.shape := hw.covers.shape.unique (h.covers.shape.perm (hperm.map _))
  exact Tile.ext helement hshape ▸ hw

/-! ## Orders that show -/

theorem narrow_order_shows (hfits : Shape.Fits (xs.map (·.shape))) (hpos : ∀ v ∈ xs, ∀ d ∈ v.shape, 0 < d)
    (hxs : ∀ v ∈ xs, Tensor.convertible target v.element) (hx : x.element.isFp8)
    (hperm : xs.Perm (y :: zs)) (hy : y.element.isStandardFloating) :
    (∀ ys z, ¬ Folds target (x :: ys) x z) ∧ ∃ z, Folds target (y :: zs) y z := by
  constructor
  · rintro ys z ⟨w, hmeets, -⟩
    have hnone : ∀ e : Scalar, e.isFp8 → Types.promote? e e false = none := by decide +kernel
    cases (hnone _ hx).symm.trans hmeets.element
  · have hclosed : Types.Closed target (·.isStandardFloating) (Tensor.convertible target ·) := by
      intro a b ha hb
      have hall : ∀ a b : Scalar, (a.isPlain || a.isFp8) → b.isStandardFloating →
          b.isPlain ∧ (Types.promote? a b false).any Scalar.isStandardFloating := by
        decide +kernel
      have hconverts : a.isPlain ∨ a.isFp8 ∧ Tensor.needsNewerDevice target (.scalar a) = false := by
        simpa [Tensor.convertible] using ha
      obtain ⟨hplain, hsome⟩ := hall a b (by rcases hconverts with h | h <;> simp [h]) hb
      obtain ⟨p, hp, hstandard⟩ := (Option.any_eq_true _ _).1 hsome
      exact ⟨p, hp, hstandard, hconverts.imp_right fun h => ⟨h.1, hstandard, h.2⟩, .inl hplain⟩
    obtain ⟨z, hz, -⟩ := exists_folds_perm hclosed hfits hpos hperm hy hxs
    exact ⟨z, hz⟩

theorem mixed_order_shows (hfits : Shape.Fits (xs.map (·.shape))) (hpos : ∀ v ∈ xs, ∀ d ∈ v.shape, 0 < d)
    (hxs : ∀ v ∈ xs, v.element.isPlain ∧ v.element.rank ≤ Scalar.fp16.rank)
    (hx : x.element.isInt) (hy : y.element = .bf16) (hperm : xs.Perm (c :: zs)) (hc : c.element = .fp16) :
    (∃ z, Folds target (c :: zs) c z ∧ z.element = .fp16) ∧ ∀ ys z, Folds target (x :: y :: ys) x z → z.element ≠ .fp16 := by
  constructor
  · have hclosed : Types.Closed target (· = .fp16) (fun e => e.isPlain = true ∧ e.rank ≤ Scalar.fp16.rank) := by
      rintro a _ ⟨ha, hrank⟩ rfl
      exact ⟨.fp16, Types.promote?_absorbs a .fp16 rfl hrank (by simp), rfl, .inl ha, .inl rfl⟩
    exact exists_folds_perm hclosed hfits hpos hperm hc hxs
  · rintro ys z ⟨v, hv, w, hw, hrest⟩ hz
    have hall : ∀ e : Scalar, e.isInt →
        (Types.promote? e e false).all (Types.promote? .bf16 · false == some .fp32) := by
      decide +kernel
    have hsingle : w.element = .fp32 := by
      have hx := hall _ hx
      rw [hv.element, Option.all_some, beq_iff_eq, ← hy, hw.element] at hx
      exact Option.some.inj hx
    have hle := hrest.rank_le
    rw [hsingle, hz] at hle
    exact absurd hle (by decide)

end Tile

namespace Tensor

open IR.Emit Shape

variable {target : Target} {tile : Tensor → Tile} {first : Tensor} {rest : List Tensor}

theorem meet_gives {l r : Tensor} {x y : Tile} (hl : l.Is x) (hr : r.Is y) :
    Gives (operands {} l r) target (Tile.Meets target false x y) (fun p z => p.1.Is z ∧ p.2.Is z) := operands_gives rfl hl hr

theorem commonOperand_gives {ts : List Tensor} (h : ∀ t ∈ ts, t.Is (tile t)) {common : Tensor} {c : Tile} (hc : common.Is c) :
    Gives (commonOperand {} ts common) target (Tile.Folds target (ts.map tile) c) Is := by
  induction ts generalizing common c with
  | nil => exact .pure hc
  | cons t ts ih =>
    exact (meet_gives (h t (.head _)) hc).bind fun p w _ hp => ih (fun t ht => h t (.tail _ ht)) hp.2

theorem uniform_gives (h : ∀ t ∈ first :: rest, t.Is (tile t)) :
    Gives (uniform {} first rest) target (Tile.Folds target ((first :: rest).map tile) (tile first))
      (fun p z => (p.1.length = (first :: rest).length ∧ ∀ t ∈ p.1, t.Is z) ∧ p.2.Is z) := by
  refine ((commonOperand_gives h (h first (.head _))).bind fun common z hz hcommon =>
    (Gives.mapM (v := z) (S := Is) fun t ht => ?_).bind fun args w hw hargs =>
      Gives.pure (v := z) ⟨hw ▸ hargs, hcommon⟩).congr fun z => by simp
  refine ((meet_gives (h t ht) hcommon).bind fun p w hw hp => Gives.pure hp.1).congr fun w => ?_
  have hcovers : Tile.Covers target z ((first :: rest).map tile) := hz.covers
  simp [hcovers.meets_iff (mem_map_of_mem ht)]

/-- The operands of a routine none of whose symbols takes their types as they are. If they are accepted, they all get one
type, with the shape that they have together, and they are what the symbols are looked up for. -/
theorem operands_uniform (h : ∀ t ∈ first :: rest, t.Is (tile t)) (library path : String) (symbols : List Symbol)
    (hnone : findSymbol symbols ((first :: rest).map (·.dtype)) = none) (isPure : Bool) (b : Builder) :
    ∀ p b', (uniform {} first rest).run b = .ok p b' → ∃ z : Tile,
      Joins ((first :: rest).map fun t => (tile t).shape) z.shape ∧ p.1.length = (first :: rest).length ∧ (∀ t ∈ p.1, t.Is z) ∧
      (elementwise library path (first :: rest) symbols isPure).run b =
        (dispatch library path p.1 symbols (if z.shape = [] then none else some z.shape) isPure).run b' := by
  intro p b' hrun
  obtain ⟨z, hz, ⟨hlength, hargs⟩, hcommon⟩ := (uniform_gives h b rfl).2 p b' hrun
  refine ⟨z, by simpa [Function.comp_def] using hz.covers.shape, hlength, hargs, ?_⟩
  have hnumbers : ((first :: rest).map (·.dtype)).any (·.isPtr) = false := by
    simp only [any_map, any_eq_false, Function.comp_apply, Bool.not_eq_true]
    intro t ht
    rw [dtype, element_eq (h t ht)]
    rfl
  have hblock : p.1.any (·.type.isBlock) ↔ z.shape ≠ [] := by
    rw [any_eq_true]
    constructor
    · rintro ⟨t, ht, hblock⟩
      exact (isBlock_iff (hargs t ht)).1 hblock
    · intro hne
      obtain ⟨t, ts, hp⟩ := exists_cons_of_length_eq_add_one hlength
      have ht : t ∈ p.1 := hp ▸ .head _
      exact ⟨t, ht, (isBlock_iff (hargs t ht)).2 hne⟩
  have hshape : (if p.1.any (·.type.isBlock) then some p.2.shape else none) =
      if z.shape = [] then none else some z.shape := by
    by_cases hz : z.shape = []
    · rw [if_neg (by simpa [hz] using hblock), if_pos hz]
    · rw [if_pos (hblock.2 hz), if_neg hz, shape_eq hcommon hz]
  unfold elementwise
  simp only [hnumbers, hnone, Option.isNone_none]
  rw [← hshape]
  exact Within.bind_run hrun _

theorem columnOrRow_is : ∀ t ∈ ([⟨some 0, column.type⟩, ⟨some 1, row.type⟩] : List Tensor),
    t.Is (if t.handle = some 0 then column else row) := by
  simp [Is]

/-- A column of half-precision numbers and a row of integers. -/
theorem column_and_row_uniform : ∃ p b' e,
    (uniform {} ⟨some 0, column.type⟩ [⟨some 1, row.type⟩]).run default = .ok p b' ∧
      ∀ t ∈ p.1, t.type = .block (.scalar e) [4, 2] := by
  obtain ⟨p, b', hrun⟩ : ∃ p b', (uniform {} ⟨some 0, column.type⟩ [⟨some 1, row.type⟩]).run default = .ok p b' := ⟨_, _, rfl⟩
  obtain ⟨⟨e, shape, hsmall⟩, hz, -, hargs, -⟩ := operands_uniform columnOrRow_is "" "" [] rfl true default p b' hrun
  obtain rfl : shape = [4, 2] := hz.unique column_joins_row
  exact ⟨p, b', e, hrun, hargs⟩

/-- Operands are accepted in both cases or in none, and if they are, they all get one type. -/
def SameOutcome (x y : Emit (List Tensor × Tensor)) (b c : Builder) : Prop :=
  ((∃ p b', x.run b = .ok p b') ↔ ∃ q c', y.run c = .ok q c') ∧
    ∀ p b' q c', x.run b = .ok p b' → y.run c = .ok q c' → ∃ ty : Ty, ∀ t ∈ p.1 ++ q.1, t.type = ty

theorem sameOutcome_iff {first' : Tensor} {rest' : List Tensor} (h : ∀ t ∈ first :: rest, t.Is (tile t))
    (h' : ∀ t ∈ first' :: rest', t.Is (tile t)) {b c : Builder} (hc : c.target = b.target) :
    SameOutcome (uniform {} first rest) (uniform {} first' rest') b c ↔
      ∀ z, Tile.Folds b.target ((first :: rest).map tile) (tile first) z ↔
        Tile.Folds b.target ((first' :: rest').map tile) (tile first') z := by
  have hleft : Gives (uniform {} first rest) b.target _ _ := uniform_gives h
  have hright : Gives (uniform {} first' rest') b.target _ _ := uniform_gives h'
  constructor
  · rintro ⟨hiff, htypes⟩
    have hboth {z w : Tile} {p q : List Tensor × Tensor} {b' c' : Builder} (hp : (uniform {} first rest).run b = .ok p b')
        (hq : (uniform {} first' rest').run c = .ok q c') (hz : p.1.length = (first :: rest).length ∧ ∀ t ∈ p.1, t.Is z)
        (hw : q.1.length = (first' :: rest').length ∧ ∀ t ∈ q.1, t.Is w) : z = w := by
      obtain ⟨ty, hty⟩ := htypes p b' q c' hp hq
      obtain ⟨t, ts, ht⟩ := exists_cons_of_length_eq_add_one hz.1
      obtain ⟨u, us, hu⟩ := exists_cons_of_length_eq_add_one hw.1
      have htz := hz.2 t (ht ▸ .head _)
      have huw := hw.2 u (hu ▸ .head _)
      exact Tile.type_injective (htz.symm.trans ((hty t (by simp [ht])).trans ((hty u (by simp [hu])).symm.trans huw)))
    intro z
    constructor
    · intro hz
      obtain ⟨p, b', hp, hpz, -⟩ := (hleft b rfl).1 z hz
      obtain ⟨q, c', hq⟩ := hiff.1 ⟨p, b', hp⟩
      obtain ⟨w, hw, hqw, -⟩ := (hright c hc).2 q c' hq
      exact hboth hp hq hpz hqw ▸ hw
    · intro hz
      obtain ⟨q, c', hq, hqz, -⟩ := (hright c hc).1 z hz
      obtain ⟨p, b', hp⟩ := hiff.2 ⟨q, c', hq⟩
      obtain ⟨w, hw, hpw, -⟩ := (hleft b rfl).2 p b' hp
      exact (hboth hp hq hpw hqz).symm ▸ hw
  · intro hfolds
    refine ⟨by rw [hleft.ok_iff rfl, hright.ok_iff hc]; exact exists_congr hfolds, fun p b' q c' hp hq => ?_⟩
    obtain ⟨z, hz, hpz, -⟩ := (hleft b rfl).2 p b' hp
    obtain ⟨w, hw, hqw, -⟩ := (hright c hc).2 q c' hq
    obtain rfl := hz.unique ((hfolds w).2 hw)
    exact ⟨z.type, fun t ht => (mem_append.1 ht).elim (hpz.2 t) (hqw.2 t)⟩

/-- Whatever operand comes first, and whatever order the others have, the same comes out. -/
def OrderHidden (target : Target) (tile : Tensor → Tile) (ts : List Tensor) : Prop :=
  ∀ t us u vs, ts.Perm (t :: us) → ts.Perm (u :: vs) →
    ∀ z, Tile.Folds target ((t :: us).map tile) (tile t) z → Tile.Folds target ((u :: vs).map tile) (tile u) z

section

variable {ts : List Tensor} (hhidden : OrderHidden target tile ts) (hfits : Fits ((ts.map tile).map (·.shape)))
  (hpos : ∀ v ∈ ts.map tile, ∀ d ∈ v.shape, 0 < d) (hconverts : ∀ t ∈ ts, convertible target (tile t).element = true)
include hhidden hfits hpos hconverts

theorem narrow_apart (t : Tensor) (ht : t ∈ ts) (hnarrow : (tile t).element.isFp8) (u : Tensor) (hu : u ∈ ts) :
    (tile u).element.isStandardFloating = false := by
  by_contra hstandard
  obtain ⟨hnone, z, hz⟩ := Tile.narrow_order_shows hfits hpos (by simpa using hconverts) hnarrow
    ((perm_cons_erase hu).map tile) (by simpa using hstandard)
  exact hnone _ z (hhidden u _ t _ (perm_cons_erase hu) (perm_cons_erase ht) z hz)

theorem mixed_apart {u v : Tensor} (hv : v ∈ ts) (hbrain : (tile v).element = .bf16) (hu : u ∈ ts)
    (hhalf : (tile u).element = .fp16) (hsingle : ∀ t ∈ ts, (tile t).element ≠ .fp32)
    (hdouble : ∀ t ∈ ts, (tile t).element ≠ .fp64) (t : Tensor) (ht : t ∈ ts) : (tile t).element.isInt = false := by
  by_contra hint
  have hlow (w : Tensor) (hw : w ∈ ts) : (tile w).element.isPlain ∧ (tile w).element.rank ≤ Scalar.fp16.rank := by
    have hfp8 : (tile w).element.isFp8 = false := by
      by_contra hfp8
      have hstandard := narrow_apart hhidden hfits hpos hconverts w hw (by simpa using hfp8) v hv
      simp [hbrain, Scalar.isStandardFloating] at hstandard
    have hplain : (tile w).element.isPlain := by simpa [convertible, hfp8] using hconverts w hw
    have hrank : ∀ e : Scalar, e.isPlain → e ≠ .fp32 → e ≠ .fp64 → e.rank ≤ Scalar.fp16.rank := by decide
    exact ⟨hplain, hrank _ hplain (hsingle w hw) (hdouble w hw)⟩
  have hne : v ≠ t := by
    rintro rfl
    simp [hbrain, Scalar.isInt, Scalar.signedness?] at hint
  have hperm : ts.Perm (t :: v :: (ts.erase t).erase v) :=
    (perm_cons_erase ht).trans ((perm_cons_erase ((mem_erase_of_ne hne).2 hv)).cons t)
  obtain ⟨⟨z, hz, hzh⟩, hother⟩ := Tile.mixed_order_shows hfits hpos (by simpa using hlow) (by simpa using hint)
    hbrain ((perm_cons_erase hu).map tile) hhalf
  exact hother _ z (hhidden u _ t _ (perm_cons_erase hu) hperm z hz) hzh

end

theorem orderHidden_iff {ts : List Tensor} (hpos : ∀ v ∈ ts.map tile, ∀ d ∈ v.shape, 0 < d) : OrderHidden target tile ts ↔
    (Fits ((ts.map tile).map (·.shape)) → Types.Settled target ((ts.map tile).map (·.element))) := by
  constructor
  · intro hhidden hfits
    refine or_iff_not_imp_left.2 fun hconverts => ?_
    simp only [not_exists, not_and, Bool.not_eq_false, forall_mem_map] at hconverts
    have hnarrow := narrow_apart hhidden hfits hpos hconverts
    refine ⟨by simpa using hnarrow, fun hbrain hhalf => ?_⟩
    simp only [mem_map, exists_exists_and_eq_and] at hbrain hhalf ⊢
    obtain ⟨v, hv, hbrain⟩ := hbrain
    obtain ⟨u, hu, hhalf⟩ := hhalf
    by_contra hnot
    simp only [not_or, not_exists, not_and] at hnot
    refine hnot.2.2 ?_
    rintro _ ⟨t, ht, rfl⟩
    exact mixed_apart hhidden hfits hpos hconverts hv hbrain hu hhalf hnot.1 hnot.2.1 t ht
  · intro hsettled t us u vs ht hu z hz
    have hmem (v : Tile) : v ∈ ts.map tile ↔ v ∈ (t :: us).map tile := (ht.map tile).mem_iff
    have hfits : Fits ((ts.map tile).map (·.shape)) := hz.fits.congr fun _ => ((ht.map tile).map _).symm.mem_iff
    refine Tile.Folds.perm hz ((ht.symm.trans hu).map tile) (fun v hv => hpos v ((hmem v).2 hv)) ?_
    exact (hsettled hfits).congr fun _ => ((ht.map tile).map _).mem_iff

/-- The order of the operands of a routine does not show exactly if their types are settled, or their shapes do not fit
together in any order. -/
theorem operand_order_hidden_iff (h : ∀ t ∈ first :: rest, t.Is (tile t))
    (hpos : ∀ t ∈ first :: rest, ∀ d ∈ (tile t).shape, 0 < d) (b : Builder) :
    (∀ first' rest', (first :: rest).Perm (first' :: rest') → ∀ c : Builder, c.target = b.target →
      SameOutcome (uniform {} first rest) (uniform {} first' rest') b c) ↔
    (Fits ((first :: rest).map fun t => (tile t).shape) →
      Types.Settled b.target ((first :: rest).map fun t => (tile t).element)) := by
  have hmap {β : Type} (f : Tile → β) : ((first :: rest).map tile).map f = (first :: rest).map fun t => f (tile t) :=
    map_map
  have hsame {first' : Tensor} {rest' : List Tensor} (hperm : (first :: rest).Perm (first' :: rest')) {c : Builder}
      (hc : c.target = b.target) : SameOutcome (uniform {} first rest) (uniform {} first' rest') b c ↔ _ :=
    sameOutcome_iff h (fun t ht => h t (hperm.mem_iff.2 ht)) hc
  rw [← hmap, ← hmap, ← orderHidden_iff (by simpa using hpos)]
  constructor
  · intro hall t us u vs ht hu z hz
    exact ((hsame hu rfl).1 (hall u vs hu b rfl) z).1 (((hsame ht rfl).1 (hall t us ht b rfl) z).2 hz)
  · intro hhidden first' rest' hperm c hc
    exact (hsame hperm hc).2 fun z => ⟨hhidden _ _ _ _ (.refl _) hperm z, hhidden _ _ _ _ hperm (.refl _) z⟩

/-- A column of half-precision numbers and a row of integers come out alike in both orders. -/
theorem column_and_row_either_first :
    SameOutcome (uniform {} ⟨some 0, column.type⟩ [⟨some 1, row.type⟩])
      (uniform {} ⟨some 1, row.type⟩ [⟨some 0, column.type⟩]) default default := by
  refine (operand_order_hidden_iff columnOrRow_is (by simp [column, row]) default).2 (fun _ => .inr ?_) _ _
    (.swap _ _ _) _ rfl
  simp [column, row, Scalar.isFp8, Scalar.isStandardFloating]

/-- An integer, a brain float and a half-precision float come out in single precision; with the integer moved to the end,
they come out in half precision. -/
theorem integer_order_shows :
    ¬ SameOutcome (uniform {} ⟨some 0, .int32⟩ [⟨some 1, .bf16⟩, ⟨some 2, .fp16⟩])
      (uniform {} ⟨some 1, .bf16⟩ [⟨some 2, .fp16⟩, ⟨some 0, .int32⟩]) default default := by
  rintro ⟨-, htypes⟩
  obtain ⟨ty, hty⟩ := htypes _ _ _ _ rfl rfl
  have hsingle : Ty.fp32 = ty := hty _ (.head _)
  have hhalf : Ty.fp16 = ty := hty _ (.tail _ (.tail _ (.tail _ (.head _))))
  exact absurd (hsingle.trans hhalf.symm) (by decide)

end Tensor
end TileKernel
