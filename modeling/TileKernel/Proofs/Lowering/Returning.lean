import TileKernel.Proofs.Lowering.Counting

/-! # Which calls return

A return is looked for in the functions that a statement calls, and in those that they call in turn. All names on the way are
read in the namespace in which the search began, not in the one of the function that mentions them. So two modules that call
one function may be told different things about it; where they name the same functions, they are told the same.
-/

namespace TileKernel.Lowering.Returns

open Source

/-- The search below a part takes at most so many levels: nothing is called in a circle, and every definition can be read. -/
inductive Ends (p : Program) (σ : Space) : Nat → Part → Prop
  | intro {q : Part} {qs : List Part} {n : Nat} (hnext : next p σ q = .ok qs) (hqs : ∀ r ∈ qs, Ends p σ n r) :
      Ends p σ (n + 1) q

/-- A return is reached from a part; `home` tells which namespace reads the names below a part. -/
inductive Reaches (p : Program) (home : Space → Part → Space) : Space → Part → Prop
  | ret {σ : Space} {q : Part} (hq : isReturn q = true) : Reaches p home σ q
  | step {σ : Space} {q r : Part} {qs : List Part} (hnext : next p σ q = .ok qs) (hr : r ∈ qs)
      (hreaches : Reaches p home (home σ q) r) : Reaches p home σ q

/-- All names are read where the search began. -/
abbrev stay : Space → Part → Space := fun σ _ => σ

/-- The names in a function are read in its own module. -/
def own (p : Program) (σ : Space) (q : Part) : Space :=
  match named p σ q with
  | .ok (some (.func f)) => f.space
  | _ => σ

/-- The names at and below a part are read in the modules of the functions reached as they are read in `σ`. -/
inductive ReadAlike (p : Program) (σ : Space) : Space → Part → Prop
  | intro {τ : Space} {q : Part} {qs : List Part} (hτ : next p τ q = .ok qs) (hσ : next p σ q = .ok qs)
      (hqs : ∀ r ∈ qs, ReadAlike p σ (own p τ q) r) : ReadAlike p σ τ q

variable {p : Program} {σ τ : Space} {q : Part} {qs : List Part} {n : Nat}

theorem Reaches.iff_of_next {home : Space → Part → Space} (hq : isReturn q = false) (hnext : next p σ q = .ok qs) :
    Reaches p home σ q ↔ ∃ r ∈ qs, Reaches p home (home σ q) r := by
  constructor
  · intro h
    cases h with
    | ret h => cases hq.symm.trans h
    | step h hr hreaches =>
      cases hnext.symm.trans h
      exact ⟨_, hr, hreaches⟩
  · rintro ⟨r, hr, hreaches⟩
    exact .step hnext hr hreaches

theorem anyM_eq_ok {f : Part → Result Bool} {P : Part → Prop} (h : ∀ r ∈ qs, ∃ b, f r = .ok b ∧ (b ↔ P r)) :
    ∃ b, qs.anyM f = .ok b ∧ (b ↔ ∃ r ∈ qs, P r) := by
  induction qs with
  | nil => exact ⟨false, rfl, by simp⟩
  | cons q qs ih =>
    obtain ⟨⟨b, hb, hP⟩, h⟩ := List.forall_mem_cons.1 h
    obtain ⟨c, hc, hiff⟩ := ih h
    refine ⟨b || c, ?_, by simp [hP, hiff]⟩
    cases b <;> simp only [List.anyM, hb, hc, Steps.ok_bind] <;> rfl

theorem Ends.find_eq_ok (h : Ends p σ n q) : ∃ b, find p σ n q = .ok b ∧ (b ↔ Reaches p stay σ q) := by
  induction h with
  | @intro q qs n hnext hqs ih =>
    unfold find
    by_cases hq : isReturn q
    · exact ⟨true, if_pos hq, iff_of_true rfl (.ret hq)⟩
    · obtain ⟨b, hb, hiff⟩ := anyM_eq_ok ih
      refine ⟨b, ?_, hiff.trans (Reaches.iff_of_next (by simpa using hq) hnext).symm⟩
      rw [if_neg hq, hnext]
      exact hb

theorem ReadAlike.reaches_iff (h : ReadAlike p σ τ q) : Reaches p (own p) τ q ↔ Reaches p stay σ q := by
  induction h with
  | @intro τ q qs hτ hσ _ ih =>
    by_cases hq : isReturn q
    · exact iff_of_true (.ret hq) (.ret hq)
    · have hq : isReturn q = false := by simpa using hq
      rw [Reaches.iff_of_next hq hτ, Reaches.iff_of_next hq hσ]
      exact exists_congr fun r => and_congr_right fun hr => ih r hr

theorem looked_of_named {v : Value} (h : named p σ q = .ok (some v)) : looked q = [] := by
  unfold named at h
  split at h
  · rfl
  · rfl
  · cases h

def defined (name : String) (space : Space) (body : List Stmt) : FuncInfo :=
  { name, space, file := "", beginLine := 1, text := "", tree := .ok (.mk name default none [] body) }

def callOf (f : String) : Stmt := .expr default (.call default (.name default f .load) [] [])

/-- A function of one module that calls another one, whose name stands for something else in a second module. -/
def clashing : Program :=
  let first : Program := (({} : Program).addFunc (defined "inner" (.user "a") [.ret default none])).addFunc
    (defined "outer" (.user "a") [callOf "inner"])
  (first.addFunc (defined "inner" (.user "b") [.pass default])).define (.user "b") "outer" (.func ⟨1, "outer", .user "a", true⟩)

def start : LowerState := { (default : LowerState) with program := clashing }

/-- A return is looked for where a condition is met, but not where it stands in a loop itself. -/
theorem loop_holds_return : Loop.leaves [.ret] [.loop default (Loop.named "n") [.ret default none] []] =
    some [(some .whileOp, .ret, [])] := by
  decide +kernel

/-- Returns of one function give back two values and one. -/
theorem returns_disagree : Loop.leaves [.ret] [.cond default (Loop.named "n")
    [.ret default (some (.tuple default [Loop.named "n", Loop.named "n"] .load))] [], .ret default (some (Loop.named "n"))] =
      some [(none, .ret, [true, true]), (none, .ret, [true])] := by
  decide +kernel

end TileKernel.Lowering.Returns
