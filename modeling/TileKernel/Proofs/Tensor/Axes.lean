import TileKernel.Lowering.Primitives.Blocks
import TileKernel.Proofs.Lowering.LoopBounds
import TileKernel.Proofs.Tensor.Shapes

/-! # Axes that come and go

New axes are named by their places in the final shape and inserted one at a time, and a reduction takes one axis out. What both
do to a shape is said by the axes that are left when some are deleted.
-/

namespace TileKernel

open List

open Within (bind_eq_ok bind_run bind_run_error)

namespace Shape

/-! ## Distinct axes in order -/

theorem pairwise_lt_mergeSort {l : List Int} (h : l.Nodup) : (l.mergeSort (· ≤ ·)).Pairwise (· < ·) := by
  have hle : (l.mergeSort (· ≤ ·)).Pairwise (· ≤ ·) := sortedLE_mergeSort.pairwise
  exact (hle.and ((mergeSort_perm l _).nodup_iff.2 h)).imp fun h => lt_of_le_of_ne h.1 h.2

/-! ## Inserted and deleted axes -/

/-- What is left of a shape, whose axes are counted from `n`, without some of its axes. -/
def without (axes : List Int) (shape : List Int) (n : Nat := 0) : List Int :=
  ((shape.zipIdx n).filter fun p => (p.2 : Int) ∉ axes).map (·.1)

variable {axes s : List Int} {n : Nat} {a : Nat}

theorem without_cons (axes : List Int) (d : Int) (s : List Int) (n : Nat) :
    without axes (d :: s) n = if (n : Int) ∈ axes then without axes s (n + 1) else d :: without axes s (n + 1) := by
  by_cases h : (n : Int) ∈ axes <;> simp [without, h]

theorem without_of_outside (h : ∀ a ∈ axes, a < n ∨ (n + s.length : Nat) ≤ a) : without axes s n = s := by
  induction s generalizing n with
  | nil => rfl
  | cons d s ih =>
    rw [length_cons] at h
    rw [without_cons, if_neg fun hn => absurd (h _ hn) (by omega), ih fun a ha => (h a ha).imp (by omega) (by omega)]

theorem without_eraseIdx (hlast : ∀ x ∈ axes, x < (n + a : Nat)) :
    without (axes ++ [((n + a : Nat) : Int)]) s n = without axes (s.eraseIdx a) n := by
  induction a generalizing s n with
  | zero =>
    cases s with
    | nil => rfl
    | cons d s =>
      rw [Nat.add_zero] at hlast ⊢
      rw [eraseIdx_cons_zero, without_cons, if_pos (by simp), without_of_outside, without_of_outside fun x hx => .inl (hlast x hx)]
      simp only [forall_mem_append, forall_mem_singleton]
      exact ⟨fun x hx => .inl ((hlast x hx).trans (by omega)), .inl (by omega)⟩
  | succ a ih =>
    cases s with
    | nil => rfl
    | cons e s =>
      have hsum : n + (a + 1) = n + 1 + a := by omega
      rw [eraseIdx_cons_succ, without_cons, without_cons, hsum, ih (hsum ▸ hlast)]
      congr 1
      simp
      omega

theorem elements_insertIdx (ha : a ≤ s.length) : Ty.elements (s.insertIdx a 1) = Ty.elements s := by
  induction a generalizing s with
  | zero => rw [insertIdx_zero, elements_cons, Int.one_mul]
  | succ a ih =>
    obtain ⟨e, s, rfl⟩ := exists_cons_of_length_pos (Nat.lt_of_lt_of_le a.succ_pos ha)
    rw [insertIdx_succ_cons, elements_cons, elements_cons, ih (Nat.le_of_succ_le_succ ha)]

theorem without_one (a : Int) (s : List Int) : without [a] s = if 0 ≤ a ∧ a < s.length then s.eraseIdx a.toNat else s := by
  split
  · rename_i h
    obtain ⟨k, rfl⟩ := Int.eq_ofNat_of_zero_le h.1
    have herase : without ([] ++ [((0 + k : Nat) : Int)]) s = without [] (s.eraseIdx k) := without_eraseIdx (by simp)
    rw [Nat.zero_add, nil_append] at herase
    rw [herase, without_of_outside (by simp), Int.toNat_natCast]
  · rw [without_of_outside (by simp; omega)]

theorem elements_le_of_sublist {s' : List Int} (h : s.Sublist s') (hpos : ∀ d ∈ s', 0 < d) :
    0 < Ty.elements s ∧ Ty.elements s ≤ Ty.elements s' := by
  induction h with
  | slnil => decide
  | cons d _ ih =>
    obtain ⟨hd, hpos⟩ := forall_mem_cons.1 hpos
    rw [elements_cons]
    obtain ⟨hone, hle⟩ := ih hpos
    exact ⟨hone, hle.trans (le_mul_of_one_le_left (hone.le.trans hle) hd)⟩
  | cons_cons d _ ih =>
    obtain ⟨hd, hpos⟩ := forall_mem_cons.1 hpos
    rw [elements_cons, elements_cons]
    exact ⟨Int.mul_pos hd (ih hpos).1, Int.mul_le_mul_of_nonneg_left (ih hpos).2 hd.le⟩

end Shape

open IR

/-! ## Elements of blocks -/

/-- The blocks that ranges, new axes and broadcasts make: a shape, and elements by their positions. -/
inductive IR.Graph.Holds (g : Graph) : Operand → List Int → (List Int → Int) → Prop
  | range {start stop : Int} {v : ValueId} (made : g.Makes .makeRange [.int start, .int stop] v) :
      Holds g (.value v) [stop - start] fun p => start + p.getD 0 0
  | expanded {x : Operand} {v : ValueId} {a : Nat} {s : List Int} {f : List Int → Int} (made : g.Makes .expandDims [x, .int a] v)
      (source : Holds g x s f) : Holds g (.value v) (s.insertIdx a 1) fun p => f (p.eraseIdx a)
  | broadcast {x : Operand} {v : ValueId} {s s' : List Int} {f : List Int → Int} (made : g.Makes .broadcast [x, .ofShape s'] v)
      (source : Holds g x s f) : Holds g (.value v) s' fun p => f (zipWith (fun d i => if d = 1 then 0 else i) s p)

section

variable {b : Builder} {s : List Int} {opcode : Opcode} {args : List Operand}

theorem IR.Graph.Makes.append {v : ValueId} (h : b.graph.Makes opcode args v) (opcode' : Opcode) (args' : List Operand) :
    (b.append opcode' args' 1).2.graph.Makes opcode args v := by
  obtain ⟨i, o, hv, ho, hop⟩ := h
  refine ⟨i, o, (b.append_later opcode' args' 1).values hv, ?_, hop⟩
  have hi := (Array.getElem?_eq_some_iff.1 ho).1
  rw [← ho]
  unfold Builder.append
  cases b.cursor <;> simp [Graph.newOp, Graph.place, Array.getElem?_push, Nat.ne_of_lt hi]

theorem IR.Graph.Holds.append {x : Operand} {f : List Int → Int} (h : b.graph.Holds x s f) :
    (b.append opcode args 1).2.graph.Holds x s f := by
  induction h with
  | range made => exact .range (made.append opcode args)
  | expanded made _ ih => exact .expanded (made.append opcode args) ih
  | broadcast made _ ih => exact .broadcast (made.append opcode args) ih

end

namespace Tensor

open Shape

variable {t : Tensor} {e : Ty} {s : List Int} {n a : Int} {axes : List Int}

theorem blockTy_eq (hne : s ≠ []) (hsmall : Ty.elements s ≤ Ty.maxElements) : blockTy e s = pure (.block e s) := by
  simp [blockTy, Ty.makeBlock, hne, Int.not_lt.2 hsmall]

theorem expandDims_run (hblock : t.type = .block e s) (hsmall : Ty.elements s ≤ Ty.maxElements) {a : Nat} (ha : a ≤ s.length)
    (b : Builder) : ∃ u b', (expandDims t a).run b = .ok u b' ∧ u.type = .block e (s.insertIdx a 1) ∧
      ∀ f, b.graph.Holds t.operand s f → b'.graph.Holds u.operand (s.insertIdx a 1) fun p => f (p.eraseIdx a) := by
  have hindex : insertionIndex s.length a = a := by simp [insertionIndex, ha]
  have hne : s.insertIdx a 1 ≠ [] := ne_nil_of_length_eq_add_one (length_insertIdx_of_le_length ha 1)
  unfold expandDims
  simp only [hblock, hindex, blockTy_eq hne (elements_insertIdx ha ▸ hsmall), pure_bind]
  exact ⟨_, _, build_run _ _ b, rfl, fun f hf => .expanded (b.append_makes .expandDims _) hf.append⟩

/-- A block with axes that were inserted one after the other, and the block before. -/
structure Expanded (axes s s' : List Int) (b b' : Builder) (t u : Tensor) : Prop where
  length : s'.length = s.length + axes.length
  ones : ∀ a ∈ axes, s'[a.toNat]? = some 1
  rest : without axes s' = s
  elements : Ty.elements s' = Ty.elements s
  holds : ∀ f, b.graph.Holds t.operand s f → b'.graph.Holds u.operand s' fun p => f (without axes p)

theorem foldlM_expandDims (hblock : t.type = .block e s) (hsmall : Ty.elements s ≤ Ty.maxElements)
    (hnonneg : ∀ a ∈ axes, 0 ≤ a) (hsorted : axes.Pairwise (· < ·)) (hlt : ∀ a ∈ axes, a < s.length + axes.length)
    (b : Builder) : ∃ u b', (axes.foldlM expandDims t).run b = .ok u b' ∧ ∃ s', u.type = .block e s' ∧
      Expanded axes s s' b b' t u := by
  -- the last axis is inserted behind all others, whose places it leaves alone
  induction axes using reverseRecOn with
  | nil =>
    have hall (s : List Int) : without [] s = s := without_of_outside (by simp)
    exact ⟨t, b, rfl, s, hblock, rfl, by simp, hall s, rfl, fun f hf => by simpa only [hall] using hf⟩
  | append_singleton axes a ih =>
    simp only [forall_mem_append, forall_mem_singleton, length_append, length_singleton] at hnonneg hlt
    obtain ⟨hsorted, -, hbefore⟩ := pairwise_append.1 hsorted
    simp only [mem_singleton, forall_eq] at hbefore
    obtain ⟨u, b₁, hrun, s', hu, hs'⟩ := ih hnonneg.1 hsorted fun x hx => by
      have hx := hbefore x hx
      omega
    obtain ⟨a, rfl⟩ := Int.eq_ofNat_of_zero_le hnonneg.2
    have ha : a ≤ s'.length := by
      have hlength := hs'.length
      omega
    obtain ⟨v, b₂, hrun', hv, hnext⟩ := expandDims_run hu (hs'.elements ▸ hsmall) ha b₁
    have herase (p : List Int) : without (axes ++ [(a : Int)]) p = without axes (p.eraseIdx a) := by
      simpa using without_eraseIdx (n := 0) (by simpa using hbefore)
    refine ⟨v, b₂, ?_, _, hv, ?_, fun x hx => ?_, ?_, (elements_insertIdx ha).trans hs'.elements, fun f hf => ?_⟩
    · rw [foldlM_append, bind_run hrun]
      simpa using hrun'
    · rw [length_insertIdx_of_le_length ha, hs'.length]
      simp
      omega
    · rw [getElem?_insertIdx]
      rcases mem_append.1 hx with hx | hx
      · have hlt := hbefore x hx
        have hge := hnonneg.1 x hx
        rw [if_pos (by omega), hs'.ones x hx]
      · obtain rfl := mem_singleton.1 hx
        simp [ha]
    · rw [herase, eraseIdx_insertIdx_self, hs'.rest]
    · simpa only [herase] using hnext _ (hs'.holds f hf)

theorem place_le {r : Nat} (hsorted : axes.Pairwise (· < ·)) (hlt : ∀ a ∈ axes, a < r + axes.length) {i : Nat}
    {a : Int} (ha : axes[i]? = some a) : a ≤ r + i := by
  induction axes using reverseRecOn with
  | nil => simp at ha
  | append_singleton axes b ih =>
    simp only [forall_mem_append, forall_mem_singleton, length_append, length_singleton] at hlt
    obtain ⟨hsorted, -, hbefore⟩ := pairwise_append.1 hsorted
    simp only [mem_singleton, forall_eq] at hbefore
    rw [getElem?_append] at ha
    split at ha
    · exact ih hsorted (fun x hx => by have hx := hbefore x hx; omega) ha
    · rw [getElem?_singleton] at ha
      split at ha
      · obtain rfl := Option.some.inj ha
        omega
      · cases ha

def InRange (n a : Int) : Prop := -n ≤ a ∧ a < n

/-- The place among `n` axes that an axis names, counted from the end if it is negative. -/
def wrapped (n a : Int) : Int := if 0 ≤ a then a else a + n

theorem wrapped_bounds (h : InRange n a) : 0 ≤ wrapped n a ∧ wrapped n a < n := by
  unfold wrapped InRange at *
  split <;> omega

theorem wrapAxis_of_inRange (h : InRange n a) : wrapAxis a n = .ok (wrapped n a) := if_pos h

theorem wrapAxis_of_not_inRange (h : ¬ InRange n a) : wrapAxis a n = .error (.invalidAxis a n) := if_neg h

end Tensor

namespace Lowering.Blocks

open Tensor Shape

variable {t : Tensor} {e : Ty} {shape : List Int} {axis : Value} {axes : List Int} {items : List Value}

theorem wrapAxes_run {n : Int} (h : items.map (·.unwrap.int?) = axes.map some) (s : LowerState) :
    (∀ a ∈ axes, InRange n a) ∧ (wrapAxes items n).run s = .ok (axes.map (wrapped n)) s ∨
      ∃ a ∈ axes, ¬ InRange n a ∧ (wrapAxes items n).run s = .error (.invalidAxis a n) s := by
  induction axes generalizing items with
  | nil =>
    obtain rfl : items = [] := by simpa using h
    exact .inl ⟨by simp, rfl⟩
  | cons a axes ih =>
    obtain ⟨v, items, rfl⟩ : ∃ v vs, items = v :: vs := by cases items <;> simp at h ⊢
    obtain ⟨hv, h⟩ := cons.inj h
    have hfirst : wrapAxes (v :: items) n = (ofExcept (wrapAxis a n) : Rule Int) >>= fun x => wrapAxes items n >>= fun xs =>
        pure (x :: xs) := by
      have hv : v.unwrap.int? = some a := hv
      rw [wrapAxes, mapM_cons, hv]
      rfl
    by_cases ha : InRange n a
    · have hwrap : (ofExcept (wrapAxis a n) : Rule Int).run s = .ok (wrapped n a) s := by
        rw [wrapAxis_of_inRange ha]
        rfl
      rw [hfirst, bind_run hwrap]
      rcases ih h with ⟨hall, hrun⟩ | ⟨x, hx, hbad, hrun⟩
      · refine .inl ⟨forall_mem_cons.2 ⟨ha, hall⟩, ?_⟩
        rw [bind_run hrun]
        rfl
      · exact .inr ⟨x, .tail _ hx, hbad, bind_run_error hrun _⟩
    · refine .inr ⟨a, .head _, ha, hfirst ▸ bind_run_error ?_ _⟩
      rw [wrapAxis_of_not_inRange ha]
      rfl

/-- New axes are inserted like those of arrays: the axes are refused exactly if one of them is out of range or two are the
same, and otherwise each axis is inserted, in ascending order, at a place that the block has by then. The result has the new
axes of size 1 at the places that were given, and without them it has the shape of the block. -/
theorem expandDims_inserts_axes (hblock : t.type = .block e shape) (hsmall : Ty.elements shape ≤ Ty.maxElements)
    (haxes : (axesOf axis).map (·.unwrap.int?) = axes.map some) {n : Int} (hn : n = shape.length + axes.length)
    (s : LowerState) :
    ((∃ f s', (expandDims (.tensor t) axis).run s = .error f s' ∧ f.kind = .value) ↔
      (∃ a ∈ axes, ¬ InRange n a) ∨ ¬ (axes.map (wrapped n)).Nodup) ∧
    ((∀ a ∈ axes, InRange n a) → (axes.map (wrapped n)).Nodup →
      ∃ (places : List Int) (u : Tensor) (s' : LowerState) (shape' : List Int), places.Perm (axes.map (wrapped n)) ∧ places.Pairwise (· < ·) ∧
        (∀ (i : Nat) (a : Int), places[i]? = some a → 0 ≤ a ∧ a ≤ shape.length + i) ∧
        (places.foldlM Tensor.expandDims t).run s.builder = .ok u s'.builder ∧
        (expandDims (.tensor t) axis).run s = .ok (.tensor u) s' ∧
        u.type = .block e shape' ∧ shape'.length = n ∧ (∀ a ∈ axes, shape'[(wrapped n a).toNat]? = some 1) ∧
        without (axes.map (wrapped n)) shape' = shape) := by
  have hlength : (axesOf axis).length = axes.length := by simpa using congrArg length haxes
  have hshape : t.shape = shape := by rw [Tensor.shape, hblock]; rfl
  have hrank : (rankOf (.tensor t)).run s = .ok shape.length s := by rw [← hshape]; rfl
  have hrun : (expandDims (.tensor t) axis).run s = (do
      let axes ← wrapAxes (axesOf axis) n
      if ¬ axes.Nodup then throw (Fault.duplicateAxes axes)
      Rule.result ((axes.mergeSort (· ≤ ·)).foldlM Tensor.expandDims t)).run s := by
    rw [hn, ← hlength]
    exact bind_run hrank _
  rcases wrapAxes_run (n := n) haxes s with ⟨hall, hwrap⟩ | ⟨a, ha, hbad, hwrap⟩
  · rw [hrun, bind_run hwrap]
    by_cases hdistinct : (axes.map (wrapped n)).Nodup
    · rw [if_neg (not_not_intro hdistinct)]
      have hperm := mergeSort_perm (axes.map (wrapped n)) (· ≤ ·)
      have hsorted := pairwise_lt_mergeSort hdistinct
      have hbounds : ∀ a ∈ (axes.map (wrapped n)).mergeSort (· ≤ ·), 0 ≤ a ∧ a < n := fun a ha => by
        obtain ⟨x, hx, rfl⟩ := mem_map.1 (hperm.mem_iff.1 ha)
        exact wrapped_bounds (hall x hx)
      have hlt : ∀ a ∈ (axes.map (wrapped n)).mergeSort (· ≤ ·),
          a < shape.length + ((axes.map (wrapped n)).mergeSort (· ≤ ·)).length := fun a ha => by
        rw [length_mergeSort, length_map, ← hn]
        exact (hbounds a ha).2
      obtain ⟨u, b, hfold, shape', hu, hexpanded⟩ := foldlM_expandDims hblock hsmall (fun a ha => (hbounds a ha).1) hsorted hlt
        s.builder
      have hresult : (Rule.result (((axes.map (wrapped n)).mergeSort (· ≤ ·)).foldlM Tensor.expandDims t)).run s =
          .ok (.tensor u) { s with builder := b } := bind_run (Rule.emit_run hfold) _
      refine ⟨⟨?_, ?_⟩, fun _ _ => ⟨_, u, { s with builder := b }, shape', hperm, hsorted, fun i a ha =>
        ⟨(hbounds a (mem_of_getElem? ha)).1, place_le hsorted hlt ha⟩, hfold, hresult, hu, ?_, fun a ha => ?_, ?_⟩⟩
      · rintro ⟨f, s', hfails, -⟩
        cases hresult.symm.trans hfails
      · rintro (⟨a, ha, hbad⟩ | hdouble)
        · exact absurd (hall a ha) hbad
        · exact absurd hdistinct hdouble
      · rw [hn, hexpanded.length]
        simp
      · exact hexpanded.ones _ (hperm.mem_iff.2 (mem_map_of_mem ha))
      · simpa [without, hperm.mem_iff] using hexpanded.rest
    · rw [if_pos hdistinct]
      exact ⟨⟨fun _ => .inr hdistinct, fun _ => ⟨_, _, rfl, rfl⟩⟩, fun _ h => absurd h hdistinct⟩
  · rw [hrun, bind_run_error hwrap]
    exact ⟨⟨fun _ => .inl ⟨a, ha, hbad⟩, fun _ => ⟨_, _, rfl, rfl⟩⟩, fun hall => absurd (hall a ha) hbad⟩

/-- A matrix gets an axis behind and an axis in front. -/
theorem axes_around_matrix : ∃ u s', (expandDims (.tensor ⟨some 0, .block .fp32 [2, 3]⟩) (.tuple [.const (.int (-1)), .int 0])).run
    default = .ok (.tensor u) s' ∧ u.type = .block .fp32 [1, 2, 3, 1] := by
  have haxes : (axesOf (.tuple [.const (.int (-1)), .int 0])).map (·.unwrap.int?) = [-1, 0].map some := rfl
  obtain ⟨-, hok⟩ := expandDims_inserts_axes (t := ⟨some 0, .block .fp32 [2, 3]⟩) rfl (by decide) haxes rfl default
  obtain ⟨-, u, s', shape, -, -, -, -, hrun, htype, hlength, hones, hrest⟩ := hok (by simp [InRange]) (by decide)
  obtain ⟨a, b, c, d, rfl⟩ : ∃ a b c d, shape = [a, b, c, d] := by
    rwa [← length_eq_four, ← Nat.cast_inj (R := Int)]
  obtain ⟨rfl, rfl⟩ : d = 1 ∧ a = 1 := by simpa [wrapped] using hones
  obtain ⟨rfl, rfl⟩ : b = 2 ∧ c = 3 := by simpa [without, wrapped] using hrest
  exact ⟨u, s', hrun, htype⟩

end Lowering.Blocks

/-! ## Reductions -/

theorem IR.Within.mapM_run {σ α β γ : Type} {R : σ → σ → Prop} [Composes R] {f : α → Within R β} {p : β → γ} {q : α → γ}
    {l : List α} (h : ∀ a ∈ l, ∀ s, ∃ b s', (f a).run s = .ok b s' ∧ p b = q a) (s : σ) :
    ∃ bs s', (l.mapM f).run s = .ok bs s' ∧ bs.map p = l.map q := by
  induction l generalizing s with
  | nil => exact ⟨[], s, rfl, rfl⟩
  | cons a l ih =>
    obtain ⟨b, s₁, hb, hp⟩ := h a (.head _) s
    obtain ⟨bs, s₂, hbs, hall⟩ := ih (fun a ha => h a (.tail _ ha)) s₁
    refine ⟨b :: bs, s₂, ?_, by rw [map_cons, map_cons, hp, hall]⟩
    rw [mapM_cons, bind_run hb, bind_run hbs]
    rfl

namespace Lowering.Reduction

open Shape Tensor

variable {env : Surroundings} {ts : List Tensor} {shape left : List Int} {function : Value} {s s' : LowerState}

/-- A combination has as many results as operands, whatever the function does. -/
theorem combine_length {c : Combination} {operands : List Operand} {axis : Operand} {elements : List Ty} {values : List ValueId}
    (h : (env.combine c operands axis function elements).run s = .ok values s') : values.length = operands.length := by
  obtain ⟨⟨op, region⟩, s₁, hop, h⟩ := bind_eq_ok.1 h
  obtain ⟨_, s₂, hregion, h⟩ := bind_eq_ok.1 h
  obtain ⟨b, hvalues, rfl⟩ := Lower.ofBuild_eq_ok h
  obtain ⟨b₁, hcombining, rfl⟩ := Lower.ofBuild_eq_ok hop
  cases hvalues
  obtain ⟨i, b₂, hemit, hcombining⟩ := bind_eq_ok.1 hcombining
  obtain ⟨rfl, rfl⟩ := Build.emitOp_eq_ok hemit
  obtain ⟨r, b₃, hadd, hpair⟩ := bind_eq_ok.1 hcombining
  obtain ⟨-, rfl⟩ := Build.inGraph_eq_ok hadd
  obtain ⟨hids, rfl⟩ := Within.pure_eq_ok.1 hpair
  obtain ⟨rfl, rfl⟩ := Prod.mk.inj hids
  obtain ⟨_, -, hlater⟩ := (Within.within _ hregion).grown
  obtain ⟨o, ho, hop⟩ := ((Graph.Later.addRegion _ _).trans hlater).ops
    (s.builder.append_op c.opcode [.list operands, axis] operands.length)
  have hresults : (s₂.builder.graph.op s.builder.graph.ops.size).results = o.results := by simp [Graph.op, ho]
  exact (congrArg length (hresults.trans hop.results)).trans (by simp)

theorem withoutAxis_int (shape : List Int) (a : Int) : withoutAxis shape (.int a) = without [a] shape := by
  have hequal (i : Nat) : Constant.equal (.int i) (.int a) = decide ((i : Int) = a) := by
    rw [Bool.eq_iff_iff]
    simp [Constant.equal, Constant.number?, Constant.compareNumbers]
  simp [withoutAxis, without, hequal]

theorem sharedShape_eq (hne : ts ≠ []) (hblocks : ∀ t ∈ ts, ∃ e, t.type = .block e shape) : sharedShape ts = pure shape := by
  obtain ⟨first, rest, rfl⟩ := exists_cons_of_ne_nil hne
  obtain ⟨e, he⟩ := hblocks first (.head _)
  have hshape : shapeOf first = pure shape := by rw [shapeOf, he]
  have hrest : rest.find? (·.type.shape? ≠ some shape) = none := by
    refine find?_eq_none.2 fun t ht => ?_
    obtain ⟨e, he⟩ := hblocks t (.tail _ ht)
    simp [he, Ty.shape?]
  rw [sharedShape, hshape, pure_bind, hrest]

/-- The type of what is left of elements of a type. -/
def leftTy (left : List Int) (e : Ty) : Ty := if left.isEmpty then e else .block e left

/-- Values as the results of tensors with the shape that is left. -/
def typed (left : List Int) (ts : List Tensor) (vs : List ValueId) : List Tensor :=
  (ts.zip vs).map fun (t, v) => ⟨some v, leftTy left t.type.element⟩

theorem resultOf_eq (h : Ty.elements left ≤ Ty.maxElements) (t : Tensor) (v : ValueId) :
    resultOf left t v = pure ⟨some v, leftTy left t.type.element⟩ := by
  unfold resultOf leftTy
  split
  · rfl
  · rename_i hne
    simp only [blockTy_eq (mt isEmpty_iff.2 hne) h]
    rfl

theorem reduceAlong_eq (hne : ts ≠ []) (hblocks : ∀ t ∈ ts, ∃ e, t.type = .block e shape) {a : Int}
    (hleft : Ty.elements (without [a] shape) ≤ Ty.maxElements) (function : Value) :
    (reduceAlong ts (.int a) function : Combining env (List Tensor)) = do
      let vs ← Combining.combine .reduce (ts.map (·.operand)) (.int a) function (ts.map (·.type.element))
      return typed (without [a] shape) ts vs := by
  have hresult (p : Tensor × ValueId) : (liftM (resultOf (without [a] shape) p.1 p.2) : Combining env Tensor) =
      pure ⟨some p.2, leftTy (without [a] shape) p.1.type.element⟩ := by
    rw [resultOf_eq hleft]
    rfl
  have hshape : (liftM (sharedShape ts) : Combining env (List Int)) = pure shape := by
    rw [sharedShape_eq hne hblocks]
    rfl
  simp only [reduceAlong, hshape, pure_bind, withoutAxis_int, hresult, mapM_pure]
  rfl

theorem flattened_run {t : Tensor} (hblock : ∃ e, t.type = .block e shape) (hsmall : Ty.elements shape ≤ Ty.maxElements)
    (s : LowerState) : ∃ u s', (flattened t).run s = .ok u s' ∧ u.type = .block t.type.element [Ty.elements shape] := by
  obtain ⟨e, he⟩ := hblock
  have hnumel : t.numel = Ty.elements shape := by rw [Tensor.numel, Tensor.shape, he]; rfl
  have hcount : Ty.elements [Ty.elements shape] = Ty.elements shape := by rw [elements_cons]; exact Int.mul_one _
  have hview : ∃ u b, (Tensor.view t [Ty.elements shape]).run s.builder = .ok u b ∧ u.type = .block e [Ty.elements shape] := by
    simp only [Tensor.view, he, Ty.numel?, Ty.shape?, Option.map_some, hcount, Tensor.dtype, Ty.element,
      blockTy_eq (cons_ne_nil _ _) (hcount ▸ hsmall)]
    rw [if_neg (by simp)]
    exact ⟨_, _, rfl, rfl⟩
  obtain ⟨u, b, hrun, htype⟩ := hview
  exact ⟨u, _, hnumel ▸ Rule.emit_run hrun, by rw [htype, he]; rfl⟩

theorem reduce_eq (ts : List Tensor) (axis function : Value) :
    (reduce (.tuple (ts.map .tensor)) axis function : Combining env Value) = do
      return .tuple ((← reduceAll ts axis.unwrap function).map .tensor) := by
  have htensor : Rule.asTensor ∘ Value.tensor = fun t => pure (id t) := rfl
  have htensors : (liftM (Rule.tensors (.tuple (ts.map .tensor))) : Combining env (List Tensor)) = pure ts := by
    rw [Rule.tensors, Rule.iterate, pure_bind, mapM_map, htensor, mapM_pure, map_id]
    rfl
  simp only [reduce, onTensors, htensors, pure_bind]

end Lowering.Reduction

end TileKernel
