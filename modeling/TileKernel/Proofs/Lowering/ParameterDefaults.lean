import TileKernel.Lowering.Function
import TileKernel.Proofs.Lowering.LoopBounds

/-! # Defaults of parameters

Before a function is entered its parameters are initialised with their defaults. The defaults are counted from the first one
and the parameters from the last one, so with more than one default only the middle one meets its own parameter.
-/

namespace TileKernel.Lowering

open IR Source List
open Within (bind_run bind_run_error)

variable {R : LowerState → LowerState → Prop} {α β : Type} {s t u : LowerState} {p q : Prop} {xs ys : List String} (v : Value)

/-- A step is accepted in a state exactly under a condition, and then satisfies `post`. -/
def Does (x : Within R α) (s : LowerState) (accepted : Prop) (post : α → LowerState → Prop) : Prop :=
  (accepted ∧ ∃ a t, x.run s = .ok a t ∧ post a t) ∨ (¬ accepted ∧ ∃ f t, x.run s = .error f t)

/-- A later state, in which only the given names may have got other values. -/
structure Later (s : LowerState) (names : List String) (t : LowerState) : Prop where
  program : t.program = s.program
  header : t.frame.toHeader = s.frame.toHeader
  scope : ∀ n ∉ names, t.frame.scope.find? n = s.frame.scope.find? n

theorem Later.refl (s : LowerState) (xs : List String) : Later s xs s := ⟨rfl, rfl, fun _ _ => rfl⟩

theorem Later.trans (h : Later s xs t) (h' : Later t ys u) : Later s (ys ++ xs) u where
  program := h'.program.trans h.program
  header := h'.header.trans h.header
  scope n hn := by
    rw [mem_append, not_or] at hn
    exact (h'.scope n hn.1).trans (h.scope n hn.2)

theorem Later.mono (h : Later s xs t) (hsub : xs ⊆ ys) : Later s ys t :=
  ⟨h.program, h.header, fun n hn => h.scope n fun hmem => hn (hsub hmem)⟩

theorem Later.contains (h : Later s xs t) {n : String} (hn : n ∉ xs) : t.frame.scope.contains n = s.frame.scope.contains n :=
  congrArg Option.isSome (h.scope n hn)

namespace Does

variable {x : Within R α} {f : α → Within R β} {P : α → LowerState → Prop} {Q : β → LowerState → Prop}

theorem ok {a : α} (h : x.run s = .ok a t) (ha : P a t) : Does x s True P := .inl ⟨trivial, a, t, h, ha⟩

theorem iff (h : Does x s p P) (hpq : q ↔ p) : Does x s q P := by
  rwa [propext hpq]

theorem imp {P' : α → LowerState → Prop} (h : Does x s p P) (hP : ∀ a t, P a t → P' a t) : Does x s p P' := by
  refine h.imp_left fun h => ?_
  obtain ⟨hp, a, t, hrun, ha⟩ := h
  exact ⟨hp, a, t, hrun, hP a t ha⟩

variable [Composes R]

theorem bind (hx : Does x s p P) (hf : ∀ a t, P a t → Does (f a) t q Q) : Does (x >>= f) s (p ∧ q) Q := by
  obtain ⟨hp, a, t, hrun, ha⟩ | ⟨hp, e, t, hrun⟩ := hx
  · unfold Does
    rw [bind_run hrun]
    obtain ⟨hq, hrest⟩ | ⟨hq, hrest⟩ := hf a t ha
    · exact .inl ⟨⟨hp, hq⟩, hrest⟩
    · exact .inr ⟨fun h => hq h.2, hrest⟩
  · exact .inr ⟨fun h => hp h.1, e, t, bind_run_error hrun f⟩

theorem andThen (hx : Does x s True P) (hf : ∀ a t, P a t → Does (f a) t q Q) : Does (x >>= f) s q Q :=
  (hx.bind hf).iff (by simp)

theorem thenOk (hx : Does x s p P) (hf : ∀ a t, P a t → Does (f a) t True Q) : Does (x >>= f) s p Q :=
  (hx.bind hf).iff (by simp)

theorem visitingUnplaced {x : Lower α} (hx : ∀ t, Later s [] t → Does x t p P) (hP : ∀ a t u, P a t → Later t [] u → P a u) :
    Does (Lower.visitingUnplaced x) s p P := by
  have hvisit : (Lower.noteVisit none).run s = .ok () { s with visited := if s.depth = 0 then .unplaced else s.visited } := rfl
  refine (ok (P := fun _ => Later s []) hvisit ⟨rfl, rfl, fun _ _ => rfl⟩).andThen fun _ t ht => ?_
  refine (ok (P := fun _ => Later s []) rfl ht).andThen fun loc t ht => (hx t ht).thenOk fun a t ha => ?_
  have hloc : (Lower.ofBuild (Build.setLoc loc)).run t = .ok () { t with builder := { t.builder with loc } } := rfl
  refine (ok (P := fun _ => Later t []) hloc ⟨rfl, rfl, fun _ _ => rfl⟩).andThen fun _ u hu => ok rfl (hP a t u ha hu)

end Does

/-! ## Values that names can get -/

namespace Statement

/-- Numbers become tensors if there is a type for them. -/
def Numeric : Prop :=
  match v.unwrap with
  | .bool _ | .float _ | .tensor _ => True
  | .int n => ∃ ty, Rule.intType n = .ok ty
  | _ => False

/-- What a name can get; nothing, tensors and types are kept as they are. -/
def Storable : Prop :=
  match v.unwrap with
  | .none | .tensor _ | .ty _ | .fnTy _ => True
  | w => Numeric w

theorem toTensor_does (w : Value) (s : LowerState) : Does (Rule.toTensor w) s (Numeric w) fun _ => Later s [] := by
  have build (opcode : Opcode) (args : List Operand) (type : Ty) (plain : opcode.isTerminator = false) :
      Does (Rule.emit (Tensor.build opcode args type plain)) s True fun _ => Later s [] := by
    obtain ⟨c, t, hrun, -⟩ := Rule.build_run opcode args type plain s
    obtain ⟨b, -, rfl⟩ := Lower.ofBuild_eq_ok (show (Lower.ofBuild (Tensor.build opcode args type plain).toBuild).run s = _ from hrun)
    exact .ok hrun ⟨rfl, rfl, fun _ _ => rfl⟩
  unfold Numeric Rule.toTensor
  generalize w.unwrap = v
  cases v with
  | bool b => exact build _ _ _ _
  | float x => exact build _ _ _ _
  | tensor t => exact .ok rfl (.refl s [])
  | int n =>
    cases hty : Rule.intType n with
    | ok ty =>
      simp only [hty]
      exact (build _ _ ty (by split <;> rfl)).iff (by simp)
    | error f => exact .inr ⟨by simp [hty], f, s, by simp only [hty]; rfl⟩
  | _ => exact .inr ⟨id, _, s, rfl⟩

theorem stored_does (s : LowerState) : Does (stored v) s (Storable v) fun _ => Later s [] := by
  unfold Storable stored
  generalize v.unwrap = w
  cases w
  case none | tensor | ty | fnTy => exact .ok rfl (.refl s [])
  all_goals exact (toTensor_does _ s).thenOk fun t _ h => .ok (a := .tensor t) rfl h

/-- What a value stands for once it is stored: nothing, tensors and types for themselves, other values for tensors. -/
def StoredAs (v w : Value) : Prop :=
  match v.unwrap with
  | .none | .tensor _ | .ty _ | .fnTy _ => w = v.unwrap
  | x => ∃ c t u, (Rule.toTensor x).run t = .ok c u ∧ w = .tensor c

/-- The name of a target in a scope. -/
def place : Value → String
  | .str s => s
  | v => v.shown

theorem store_eq (n w : Value) : store n w = if Calls.isHashable n then Lower.setValue (place n) w else Lower.refuse .type := by
  cases n <;> rfl

theorem storedAs_of_run {v w : Value} (h : (stored v).run s = .ok w t) : StoredAs v w := by
  unfold stored at h
  unfold StoredAs
  revert h
  generalize v.unwrap = x
  intro h
  cases x
  case none | tensor | ty | fnTy => exact (Within.pure_eq_ok.1 h).1.symm
  all_goals
    obtain ⟨c, u, hc, h⟩ := Within.bind_eq_ok.1 h
    exact ⟨c, s, u, hc, (Within.pure_eq_ok.1 h).1.symm⟩

theorem assignOne_binds (n v : Value) (s : LowerState) : Does (assignOne n v) s (Storable v ∧ Calls.isHashable n) fun _ t =>
      Later s [place n] t ∧ ∃ w, StoredAs v w ∧ t.frame.scope.find? (place n) = some w := by
  have hstored : Does (liftM (stored v) : Lower Value) s (Storable v) fun w t => Later s [] t ∧ StoredAs v w := by
    obtain ⟨hv, w, t, hrun, ht⟩ | h := stored_does v s
    · exact .inl ⟨hv, w, t, hrun, ht, storedAs_of_run hrun⟩
    · exact .inr h
  refine hstored.bind fun w t h => ?_
  rw [store_eq]
  split
  · refine .inl ⟨‹_›, (), { t with frame := t.frame.assign (place n) w }, rfl, ⟨h.1.program, h.1.header, fun name hname => ?_⟩, w, h.2, ?_⟩
    · rw [Frame.assign, Scope.find?_set, if_neg (by simpa using hname), h.1.scope name (by simp)]
    · rw [Frame.assign, Scope.find?_set, if_pos rfl]
  · exact .inr ⟨‹_›, _, t, rfl⟩

end Statement

/-! ## Initialisation -/

namespace Function

variable {r : Visitors} {value : Expr → Value} {names : List String} {e : Expr} {p : Param}

/-- An expression has one value all along the initialisation, and its evaluation gives no name a value. -/
def Evaluates (r : Visitors) (s : LowerState) (names : List String) (e : Expr) (v : Value) : Prop :=
  ∀ t, Later s names t → ∃ u, (r.expr e).run t = .ok v u ∧ Later t [] u

/-- Whether a parameter takes a default. One that is declared a constant takes any, unless there is a constant of its name; one
that is declared anything else takes none. One without a declaration takes what a name can get, of several values the first. -/
def Suits (value : Expr → Value) (scope : Scope) (e : Expr) (p : Param) : Prop :=
  match p.declared with
  | none => ∀ v ∈ (Statement.targetNames (value e)).head?, Statement.Storable v
  | some a => value a = .kind .const ∧ scope.contains p.name = false

theorem Evaluates.does {v : Value} (h : Evaluates r s names e v) (ht : Later s names t) :
    Does (r.expr e) t True fun a u => a = v ∧ Later t [] u := by
  obtain ⟨u, hrun, hu⟩ := h t ht
  exact .ok hrun ⟨rfl, hu⟩

theorem target_does (name : String) (t : LowerState) :
    Does (Lower.visitingUnplaced (pure (.str name))) t True fun x u => x = Value.str name ∧ Later t [] u :=
  .visitingUnplaced (fun _ hu => .ok rfl ⟨rfl, hu⟩) fun _ _ _ h h' => ⟨h.1, h.2.trans h'⟩

theorem assign_does {v : Value} (h : Evaluates r s names e v) (ht : Later s names t) (name : String) :
    Does (Statement.assign (.str name) (r.expr e)) t (∀ w ∈ (Statement.targetNames v).head?, Statement.Storable w)
      fun _ => Later t [name] := by
  refine (h.does ht).andThen fun a u ha => ?_
  obtain ⟨rfl, hu⟩ := ha
  cases hvalues : Statement.targetNames a with
  | nil => exact .inl ⟨by simp, (), u, rfl, hu.mono (by simp)⟩
  | cons w ws =>
    refine ((Statement.assignOne_binds (.str name) w u).thenOk fun _ u' hu' => ?_).iff (by simp [Calls.isHashable])
    exact .ok rfl (hu.trans hu'.1)

theorem annAssign_does {a : Expr} {d v : Value} (ha : Evaluates r s names a d) (he : Evaluates r s names e v)
    (ht : Later s names t) (name : String) :
    Does (Statement.annAssign (Lower.visitingUnplaced (pure (.str name))) (r.expr a) (r.expr e)) t
      (d = .kind .const ∧ t.frame.scope.contains name = false)
      fun _ u => Later t [name] u ∧ u.frame.scope.find? name = some v.wrap := by
  refine (ha.does ht).andThen fun d' u₁ hd => ?_
  obtain ⟨rfl, h₁⟩ := hd
  refine (target_does name u₁).andThen fun x u₂ hx => ?_
  obtain ⟨rfl, h₂⟩ := hx
  refine (he.does (ht.trans (h₁.trans h₂))).andThen fun w u hw => ?_
  obtain ⟨rfl, h₃⟩ := hw
  have hu : Later t [] u := (h₁.trans h₂).trans h₃
  by_cases hconst : d' = .kind .const
  · subst hconst
    have hframe : Lower.frame.run u = .ok u.frame u := rfl
    unfold Does
    simp only [bind_run hframe, hu.contains not_mem_nil]
    cases t.frame.scope.contains name with
    | true => exact .inr ⟨by simp, _, u, rfl⟩
    | false =>
      refine .inl ⟨by simp, (), { u with frame := { u.frame with scope := u.frame.scope.set name w.wrap } }, rfl,
        ⟨hu.program, hu.header, fun n hn => ?_⟩, ?_⟩
      · rw [Scope.find?_set, if_neg (by simpa using hn), hu.scope n not_mem_nil]
      · rw [Scope.find?_set, if_pos rfl]
  · refine .inr ⟨fun h => hconst h.1, ?_⟩
    split
    · exact absurd rfl hconst
    · exact ⟨_, u, rfl⟩
    · exact ⟨_, u, rfl⟩

theorem Suits.congr (h : Later s names t) (hp : p.name ∉ names) :
    Suits value s.frame.scope e p ↔ Suits value t.frame.scope e p := by
  unfold Suits
  rw [h.contains hp]

theorem assignDefault_does (ht : Later s names t) (he : ∀ x ∈ e :: p.declared.toList, Evaluates r s names x (value x)) :
    Does (assignDefault r e p) t (Suits value t.frame.scope e p) fun _ u =>
      Later t [p.name] u ∧ (p.declared ≠ none → u.frame.scope.find? p.name = some (value e).wrap) := by
  refine .visitingUnplaced (fun u hu => ?_) fun _ u u' h hu =>
    ⟨h.1.trans hu, fun hne => (hu.scope _ not_mem_nil).trans (h.2 hne)⟩
  have hdefault := he e (.head _)
  rw [Suits.congr hu not_mem_nil]
  unfold Suits
  cases hdeclared : p.declared with
  | none =>
    refine (target_does p.name u).andThen fun x u' hx => ?_
    obtain ⟨rfl, hu'⟩ := hx
    exact (assign_does hdefault ((ht.trans hu).trans hu') p.name).imp fun _ _ h => ⟨(hu.trans hu').trans h, by simp⟩
  | some a =>
    exact (annAssign_does (he a (by simp [hdeclared])) hdefault (ht.trans hu) p.name).imp fun _ _ h =>
      ⟨hu.trans h.1, fun _ => h.2⟩

-- the names of the parameters are different, so no default is in the way of another one
theorem forM_does {l : List (Expr × Param)} (ht : Later s names t) (hmem : ∀ q ∈ l, q.2.name ∈ names)
    (hnodup : (l.map (·.2.name)).Nodup) (he : ∀ q ∈ l, ∀ e ∈ q.1 :: q.2.declared.toList, Evaluates r s names e (value e)) :
    Does (l.forM fun q => assignDefault r q.1 q.2) t (∀ q ∈ l, Suits value t.frame.scope q.1 q.2) fun _ u =>
      Later t (l.map (·.2.name)) u ∧ ∀ q ∈ l, q.2.declared ≠ none → u.frame.scope.find? q.2.name = some (value q.1).wrap := by
  induction l generalizing t with
  | nil => exact .inl ⟨by simp, (), t, rfl, .refl t [], by simp⟩
  | cons q l ih =>
    rw [forall_mem_cons] at hmem he
    rw [map_cons, nodup_cons] at hnodup
    refine Does.iff ((assignDefault_does ht he.1).bind (q := ∀ q ∈ l, Suits value t.frame.scope q.1 q.2) fun _ u hu => ?_)
      forall_mem_cons
    refine ((ih ((ht.trans hu.1).mono (by simp [hmem.1])) hmem.2 hnodup.2 he.2).iff ?_).imp fun _ w h => ⟨?_, ?_⟩
    · refine forall₂_congr fun q' hq => Suits.congr hu.1 fun hname => ?_
      exact hnodup.1 (mem_singleton.1 hname ▸ mem_map_of_mem hq)
    · exact (hu.1.trans h.1).mono (by simp)
    · exact forall_mem_cons.2 ⟨fun hne => (h.1.scope _ hnodup.1).trans (hu.2 hne), h.2⟩

/-- The defaults are initialised one by one, each at the parameter that is as far from the end as the default is from the
beginning; this is the default's own parameter only for the middle one. The initialisation is accepted exactly if the parameters
take the defaults that they get so, and those that are declared constants are bound to them. -/
theorem defaults_initialised_from_last {params : Params} (hlength : params.defaults.length ≤ params.args.length)
    (hnodup : params.names.Nodup) {s : LowerState} {value : Expr → Value}
    (hvalue : ∀ e ∈ params.defaults ++ params.args.filterMap Param.declared, Evaluates r s params.names e (value e)) :
    let pairs := params.defaults.zip params.args.reverse
    (∀ i (h : i < params.defaults.length), pairs[i]? = some (params.defaults[i], params.args[params.args.length - 1 - i]) ∧
      (params.args.length - 1 - i = params.args.length - params.defaults.length + i ↔ 2 * i + 1 = params.defaults.length)) ∧
    ((∃ s', (assignDefaults r params).run s = .ok () s') ↔ ∀ q ∈ pairs, Suits value s.frame.scope q.1 q.2) ∧
    ∀ s', (assignDefaults r params).run s = .ok () s' → ∀ q ∈ pairs, q.2.declared ≠ none →
      s'.frame.scope.find? q.2.name = some (value q.1).wrap := by
  intro pairs
  have hmem (q : Expr × Param) (hq : q ∈ pairs) : q.1 ∈ params.defaults ∧ q.2 ∈ params.args :=
    ⟨(of_mem_zip hq).1, mem_reverse.1 (of_mem_zip hq).2⟩
  have hnames : (pairs.map (·.2.name)).Nodup := by
    have hsnd : pairs.map Prod.snd = params.args.reverse.take (min params.defaults.length params.args.reverse.length) := by
      rw [show pairs = _ from zip_eq_zip_take_min]
      exact map_snd_zip (by simp)
    have hsub : Sublist (pairs.map (·.2.name)) params.names.reverse := by
      rw [Params.names, ← map_reverse, show pairs.map (·.2.name) = (pairs.map Prod.snd).map Param.name by simp, hsnd]
      exact (take_sublist _ _).map _
    exact hsub.nodup (nodup_reverse.2 hnodup)
  have hevaluates : ∀ q ∈ pairs, ∀ e ∈ q.1 :: q.2.declared.toList, Evaluates r s params.names e (value e) := by
    intro q hq e he
    refine hvalue e (mem_append.2 ?_)
    rcases mem_cons.1 he with rfl | he
    · exact .inl (hmem q hq).1
    · exact .inr (mem_filterMap.2 ⟨q.2, (hmem q hq).2, Option.mem_toList.1 he⟩)
  have hdoes := forM_does (Later.refl s params.names) (fun q hq => mem_map_of_mem (hmem q hq).2) hnames hevaluates
  refine ⟨fun i hi => ⟨?_, by omega⟩, ?_⟩
  · rw [getElem?_zip_eq_some, getElem?_reverse (by omega)]
    exact ⟨getElem?_eq_getElem hi, getElem?_eq_getElem _⟩
  obtain ⟨hsuits, _, t, hrun, -, hbound⟩ | ⟨hsuits, _, t, hrun⟩ := hdoes
  · refine ⟨⟨fun _ => hsuits, fun _ => ⟨t, hrun⟩⟩, fun s' h => ?_⟩
    cases hrun.symm.trans h
    exact hbound
  · have hrefused (s' : LowerState) : (assignDefaults r params).run s ≠ .ok () s' := fun h => by cases hrun.symm.trans h
    exact ⟨⟨fun h => h.elim fun s' h => absurd h (hrefused s'), fun h => absurd h hsuits⟩, fun s' h => absurd h (hrefused s')⟩

/-- A number and a constant with defaults, behind a parameter without one. -/
def sizes (declared : Option Expr) (first second : Int) : Params :=
  let pos : SourcePos := ⟨1, 0⟩
  .mk [.mk pos "x" none, .mk pos "n" none, .mk pos "block" declared] [.literal pos (.int first), .literal pos (.int second)] none
    [] [] none

/-- The value of a literal. -/
def literalValue : Expr → Value
  | .literal _ c => .const (Evaluator.literal c)
  | _ => .none

theorem defaults_of_sizes_accepted : (∃ s', (assignDefaults visitors (sizes none 0 1)).run default = .ok () s') ∧
    ((sizes none 0 1).defaults.zip (sizes none 0 1).args.reverse)[0]? = some (.literal ⟨1, 0⟩ (.int 0), .mk ⟨1, 0⟩ "block" none) := by
  have hvalue : ∀ e ∈ (sizes none 0 1).defaults ++ (sizes none 0 1).args.filterMap Param.declared,
      Evaluates visitors default (sizes none 0 1).names e (literalValue e) := by
    have literal (pos : SourcePos) (n : Int) : Evaluates visitors default (sizes none 0 1).names (.literal pos (.int n))
        (.const (.int n)) := fun t _ => ⟨_, rfl, rfl, rfl, fun _ _ => rfl⟩
    exact forall_mem_cons.2 ⟨literal _ 0, forall_mem_singleton.2 (literal _ 1)⟩
  obtain ⟨hpairs, haccepted, -⟩ := defaults_initialised_from_last (by decide) (by decide) hvalue
  refine ⟨haccepted.2 ?_, (hpairs 0 (by decide)).1⟩
  have suits (pos : SourcePos) (n : Int) (h : ∃ ty, Rule.intType n = .ok ty) (name : String) :
      Suits literalValue (default : LowerState).frame.scope (.literal pos (.int n)) (.mk pos name none) := fun v hv => by
    cases hv
    exact h
  exact forall_mem_cons.2 ⟨suits _ 0 ⟨_, rfl⟩ _, forall_mem_singleton.2 (suits _ 1 ⟨_, rfl⟩ _)⟩

/-- A default that only a constant can have is refused where the other default is in front of it, and accepted where it is the
constant that comes first. -/
theorem own_default_refused : let declared : Option Expr := some (.name ⟨1, 0⟩ "constexpr" .load)
    let s : LowerState := { (default : LowerState) with frame := { (default : Frame) with scope := [("constexpr", .kind .const)] } }
    (∃ f s', (assignDefaults visitors (sizes declared 0 (10 ^ 27))).run s = .error f s') ∧
      ∃ s', (assignDefaults visitors (sizes declared (10 ^ 27) 0)).run s = .ok () s' :=
  ⟨⟨_, _, rfl⟩, _, rfl⟩

end Function

end TileKernel.Lowering
