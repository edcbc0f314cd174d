import TileKernel.Proofs.Lowering.InstanceNames
import TileKernel.Proofs.Text.Patterns

/-! # Types in the names of instances

The spelling of a type is a letter for every pointer, the name of a scalar, and behind it the shape of every block between two
letters. So it tells how many pointers and which blocks there are around the scalar, but not how pointers and blocks are
nested. Main statement: joined spellings of lists of argument types agree exactly if the lists are the same after every pointer
to a block is taken for a block of pointers. The text can be read from the left: a scalar ends at the first letter or underscore
behind it, and a shape at the letter that closes it.
-/

namespace TileKernel.Types

open Steps DecimalDigits Text.Pattern List

/-! ## Reading a spelling from the left -/

theorem span_inj {p : Char → Bool} {a b x y : List Char} (ha : ∀ c ∈ a, p c) (hb : ∀ c ∈ b, p c)
    (hx : Stops p x) (hy : Stops p y) (h : a ++ x = b ++ y) : a = b ∧ x = y := by
  have htake {a x : List Char} (ha : ∀ c ∈ a, p c) (hx : Stops p x) : (a ++ x).takeWhile p = a := by
    rw [takeWhile_append_of_pos ha]
    cases x with
    | nil => simp
    | cons c x => simp [hx c rfl]
  have hab : a = b := by rw [← htake ha hx, ← htake hb hy, h]
  subst hab
  exact ⟨rfl, append_cancel_left h⟩

/-- The dimensions of a shape, as they stand between the letters. -/
def dims (shape : List Int) : List Char := ['_'].intercalate (shape.map fun d => (toString d).toList)

variable {shape : List Int} {t : Ty}

theorem mem_dims {c : Char} (h : c ∈ dims shape) : c ≠ 'S' := by
  rintro rfl
  rcases mem_intercalate h with h | ⟨l, hl, hc⟩
  · exact absurd h (by decide)
  · obtain ⟨d, -, rfl⟩ := mem_map.1 hl
    rcases of_mem_toString_int hc with hc | hc <;> exact absurd hc (by decide)

theorem fields_dims (h : shape ≠ []) : fields (dims shape) = shape.map fun d => (toString d).toList := by
  have hone (d : Int) : fields (toString d).toList = [(toString d).toList] := by
    refine fields_eq_singleton fun hm => ?_
    rcases of_mem_toString_int hm with hc | hc <;> exact absurd hc (by decide)
  rw [dims, fields_intercalate (by simpa using h), flatMap_map]
  simp only [hone]
  exact map_eq_flatMap.symm

theorem dims_injective {shape' : List Int} (hne : shape ≠ []) (hne' : shape' ≠ []) (h : dims shape = dims shape') :
    shape = shape' := by
  have hfields := congrArg fields h
  rw [fields_dims hne, fields_dims hne'] at hfields
  exact map_injective_iff.2 (fun m n hmn => Reading.toString_int_injective (String.toList_inj.1 hmn)) hfields

/-! ## What a spelling tells -/

/-- What the spelling of a type tells: how many pointers there are, the scalar, and the shapes of the blocks from the inside
out. -/
structure Outline where
  pointers : Nat
  scalar : Scalar
  shapes : List (List Int)

def outline : Ty → Outline
  | .scalar s => ⟨0, s, []⟩
  | .pointer e _ => { outline e with pointers := (outline e).pointers + 1 }
  | .block e shape => { outline e with shapes := (outline e).shapes ++ [shape] }

namespace Outline

/-- A scalar that values have, in blocks that have dimensions. -/
structure Proper (o : Outline) : Prop where
  scalar : o.scalar ≠ .void
  shapes : ∀ shape ∈ o.shapes, shape ≠ []

def word (s : Scalar) : List Char := ((mangleTy (.scalar s)).toOption.getD "").toList

def shapeChars (shape : List Int) : List Char := 'S' :: dims shape ++ ['S']

def chars (o : Outline) : List Char := List.replicate o.pointers 'P' ++ (word o.scalar ++ o.shapes.flatMap shapeChars)

variable {s : Scalar} {os os' : List Outline} {x y : List Char}

theorem of_mem_word {c : Char} (h : c ∈ word s) : c ≠ 'P' ∧ c ≠ 'S' ∧ c ≠ '_' := by
  revert c
  cases s <;> decide

theorem word_ne_nil (h : s ≠ .void) : word s ≠ [] := by
  cases s with
  | void => exact absurd rfl h
  | _ => decide

theorem word_injective {s' : Scalar} (hs : s ≠ .void) (hs' : s' ≠ .void) (h : word s = word s') : s = s' := by
  have hfind (s : Scalar) (hs : s ≠ .void) : Scalar.all.find? (fun t => word t == word s) = some s := by
    cases s with
    | void => exact absurd rfl hs
    | _ => decide
  exact Option.some.inj (by rw [← hfind s hs, ← hfind s' hs', h])

/-- A text ends, or goes on with the next type. -/
def Ends (x : List Char) : Prop := x = [] ∨ ∃ y, x = '_' :: y

theorem shapes_inj {l l' : List (List Int)} (hl : ∀ shape ∈ l, shape ≠ []) (hl' : ∀ shape ∈ l', shape ≠ [])
    (hx : Ends x) (hy : Ends y) (h : l.flatMap shapeChars ++ x = l'.flatMap shapeChars ++ y) : l = l' ∧ x = y := by
  -- a text that ends cannot go on with the letter that opens a shape
  have hopen (shape : List Int) (u : List Char) {x : List Char} (hx : Ends x) : x ≠ shapeChars shape ++ u := by
    rcases hx with rfl | ⟨y, rfl⟩ <;> simp [shapeChars]
  induction l generalizing l' with
  | nil =>
    cases l' with
    | nil => exact ⟨rfl, h⟩
    | cons shape' l' => exact absurd (by simpa using h) (hopen shape' (l'.flatMap shapeChars ++ y) hx)
  | cons shape l ih =>
    cases l' with
    | nil => exact absurd (by simpa using h.symm) (hopen shape (l.flatMap shapeChars ++ x) hy)
    | cons shape' l' =>
      simp only [flatMap_cons, shapeChars, cons_append, append_assoc, nil_append, cons.injEq,
        true_and] at h
      obtain ⟨hdims, hrest⟩ := span_inj (p := (· != 'S')) (fun c hc => by simpa using mem_dims hc)
        (fun c hc => by simpa using mem_dims hc) (by simp [Stops]) (by simp [Stops]) h
      obtain ⟨rfl, hxy⟩ := ih (fun s hs => hl s (mem_cons_of_mem _ hs)) (fun s hs => hl' s (mem_cons_of_mem _ hs))
        (cons.inj hrest).2
      rw [dims_injective (hl _ mem_cons_self) (hl' _ mem_cons_self) hdims]
      exact ⟨rfl, hxy⟩

theorem chars_inj {o o' : Outline} (ho : o.Proper) (ho' : o'.Proper) (hx : Ends x) (hy : Ends y)
    (h : o.chars ++ x = o'.chars ++ y) : o = o' ∧ x = y := by
  simp only [chars, append_assoc] at h
  have hword {s : Scalar} (hs : s ≠ .void) (u : List Char) : Stops (· == 'P') (word s ++ u) := by
    obtain ⟨c, w, hw⟩ := exists_cons_of_ne_nil (word_ne_nil hs)
    have hc := (of_mem_word (hw ▸ mem_cons_self)).1
    simpa [Stops, hw] using hc
  obtain ⟨hpointers, h⟩ := span_inj (p := (· == 'P')) (by simp) (by simp) (hword ho.scalar _) (hword ho'.scalar _) h
  have hshapes {l : List (List Int)} {x : List Char} (hx : Ends x) :
      Stops (fun c => c != 'S' && c != '_') (l.flatMap shapeChars ++ x) := by
    cases l with
    | nil => rcases hx with rfl | ⟨y, rfl⟩ <;> simp [Stops]
    | cons shape l => simp [Stops, shapeChars]
  have hmem {s : Scalar} : ∀ c ∈ word s, (c != 'S' && c != '_') := fun c hc => by simpa using (of_mem_word hc).2
  obtain ⟨hscalar, h⟩ := span_inj hmem hmem (hshapes hx) (hshapes hy) h
  obtain ⟨hshape, hxy⟩ := shapes_inj ho.shapes ho'.shapes hx hy h
  have hcount := congrArg length hpointers
  simp only [length_replicate] at hcount
  refine ⟨?_, hxy⟩
  cases o
  cases o'
  simp only [mk.injEq]
  exact ⟨hcount, word_injective ho.scalar ho'.scalar hscalar, hshape⟩

/-- Spellings, each behind an underscore. -/
def tail (os : List Outline) : List Char := os.flatMap fun o => '_' :: o.chars

theorem ends_tail (os : List Outline) : Ends (tail os) := by
  cases os with
  | nil => exact .inl rfl
  | cons o os => exact .inr ⟨o.chars ++ tail os, rfl⟩

theorem intercalate_cons_eq (o : Outline) (os : List Outline) : ['_'].intercalate ((o :: os).map chars) = o.chars ++ tail os := by
  induction os generalizing o with
  | nil => simp [tail]
  | cons o' os ih =>
    rw [map_cons, map_cons, intercalate_cons_cons, ← map_cons, ih]
    simp [tail]

theorem tail_injective (ho : ∀ o ∈ os, o.Proper) (ho' : ∀ o ∈ os', o.Proper) (h : tail os = tail os') : os = os' := by
  induction os generalizing os' with
  | nil =>
    cases os' with
    | nil => rfl
    | cons o' os' => exact absurd h (by simp [tail])
  | cons o os ih =>
    cases os' with
    | nil => exact absurd h (by simp [tail])
    | cons o' os' =>
      obtain ⟨rfl, hrest⟩ := chars_inj (ho _ mem_cons_self) (ho' _ mem_cons_self) (ends_tail os) (ends_tail os')
        (cons.inj h).2
      rw [ih (fun p hp => ho p (mem_cons_of_mem _ hp)) (fun p hp => ho' p (mem_cons_of_mem _ hp)) hrest]

theorem joined_injective (ho : ∀ o ∈ os, o.Proper) (ho' : ∀ o ∈ os', o.Proper)
    (h : ['_'].intercalate (os.map chars) = ['_'].intercalate (os'.map chars)) : os = os' := by
  have hne {o : Outline} (ho : o.Proper) (x : List Char) : o.chars ++ x ≠ [] := by simp [chars, word_ne_nil ho.scalar]
  cases os with
  | nil =>
    cases os' with
    | nil => rfl
    | cons o' os' => exact absurd (intercalate_cons_eq o' os' ▸ h.symm) (hne (ho' _ mem_cons_self) _)
  | cons o os =>
    cases os' with
    | nil => exact absurd (intercalate_cons_eq o os ▸ h) (hne (ho _ mem_cons_self) _)
    | cons o' os' =>
      rw [intercalate_cons_eq, intercalate_cons_eq] at h
      exact tail_injective ho ho' (congrArg ('_' :: ·) h)

end Outline

/-! ## Types of arguments -/

theorem mangleTy_eq (h : (outline t).scalar ≠ .void) : ∃ s, mangleTy t = .ok s ∧ s.toList = (outline t).chars := by
  induction t with
  | scalar s =>
    cases s with
    | void => exact absurd rfl h
    | _ => exact ⟨_, rfl, by decide⟩
  | pointer e space ih =>
    obtain ⟨s, hs, hchars⟩ := ih h
    refine ⟨"P" ++ s, by simp only [mangleTy, hs]; rfl, ?_⟩
    simp [hchars, outline, Outline.chars, replicate_succ]
  | block e shape ih =>
    obtain ⟨s, hs, hchars⟩ := ih h
    refine ⟨s ++ "S" ++ "_".intercalate (shape.map toString) ++ "S", by simp only [mangleTy, hs]; rfl, ?_⟩
    simp [hchars, outline, Outline.chars, Outline.shapeChars, dims, String.toList_intercalate, Function.comp_def]

/-- The types that arguments have: scalars, pointers to them, blocks of either, and pointers to blocks of scalars. -/
inductive IsArgument : Ty → Prop
  | scalar {s : Scalar} (value : s ≠ .void) : IsArgument (.scalar s)
  | pointer {s : Scalar} {space : Int} (value : s ≠ .void) : IsArgument (.pointer (.scalar s) space)
  | block {s : Scalar} {shape : List Int} (value : s ≠ .void) (dims : shape ≠ []) (positive : ∀ d ∈ shape, 0 < d) :
    IsArgument (.block (.scalar s) shape)
  | pointers {s : Scalar} {space : Int} {shape : List Int} (value : s ≠ .void) (dims : shape ≠ [])
    (positive : ∀ d ∈ shape, 0 < d) : IsArgument (.block (.pointer (.scalar s) space) shape)
  | blockPointer {s : Scalar} {space : Int} {shape : List Int} (value : s ≠ .void) (dims : shape ≠ [])
    (positive : ∀ d ∈ shape, 0 < d) : IsArgument (.pointer (.block (.scalar s) shape) space)

def settled : Ty → Ty
  | .pointer (.block e shape) _ => .block (.ptr e) shape
  | .block (.pointer e _) shape => .block (.ptr e) shape
  | .pointer e _ => .ptr e
  | t => t

theorem IsArgument.proper (h : IsArgument t) : (outline t).Proper := by
  cases h <;> constructor <;> simp_all [outline]

theorem IsArgument.outline_eq_iff {u : Ty} (ht : IsArgument t) (hu : IsArgument u) :
    outline t = outline u ↔ settled t = settled u := by
  cases ht <;> cases hu <;> simp [outline, settled, Ty.ptr]

theorem mapM_mangleTy {ts : List Ty} (h : ∀ t ∈ ts, IsArgument t) :
    ∃ ss, ts.mapM mangleTy = .ok ss ∧ ss.map String.toList = (ts.map outline).map Outline.chars := by
  induction ts with
  | nil => exact ⟨[], rfl, rfl⟩
  | cons t ts ih =>
    obtain ⟨s, hs, hchars⟩ := mangleTy_eq (h t mem_cons_self).proper.scalar
    obtain ⟨ss, hss, hmap⟩ := ih fun u hu => h u (mem_cons_of_mem _ hu)
    exact ⟨s :: ss, by rw [mapM_cons, hs, hss]; rfl, by rw [map_cons, hchars, hmap]; rfl⟩

theorem map_outline_eq_iff {ts us : List Ty} (hts : ∀ t ∈ ts, IsArgument t) (hus : ∀ u ∈ us, IsArgument u) :
    ts.map outline = us.map outline ↔ ts.map settled = us.map settled := by
  induction ts generalizing us with
  | nil => simp [eq_comm]
  | cons t ts ih =>
    cases us with
    | nil => simp
    | cons u us =>
      simp only [map_cons, cons.injEq]
      rw [(hts t mem_cons_self).outline_eq_iff (hus u mem_cons_self),
        ih (fun t ht => hts t (mem_cons_of_mem _ ht)) fun u hu => hus u (mem_cons_of_mem _ hu)]

end TileKernel.Types
