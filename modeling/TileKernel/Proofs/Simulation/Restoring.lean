import TileKernel.Simulation.Launch

/-! # What launches leave of the language

Every program instance routes names of the language to itself and restores them afterwards from one backup. An instance that
ends puts the names back as they were; after one that fails no routed name is ever its own again, since the next instance
backs up what the failed one left. So a sequence of launches leaves a name as it was exactly when the name cannot be routed or
no execution of a body failed.
-/

namespace TileKernel.Simulation

namespace Routing

open List

variable {table : Named Entry} {name : String} {names : List String} {e : Entry} {x : String × Entry}
  {r r₁ r₂ : Routing} {i : Nat} {saved : Named Entry}

/-! ## Tables of names -/

def namesOf (table : Named Entry) : List String := table.map (·.1)

theorem mem_namesOf (h : x ∈ table) : x.1 ∈ namesOf table := mem_map_of_mem h

theorem namesOf_put_of_mem (h : name ∈ namesOf table) : namesOf (Table.put table name e) = namesOf table :=
  (Table.keys_put table name e).trans (if_pos h)

theorem notMem_of_lookup (h : table.lookup name = none) : name ∉ namesOf table :=
  mt Table.isSome_lookup_iff.2 (Option.not_isSome_iff_eq_none.2 h)

/-! ## One instance -/

/-- What routing some names to an instance does: their entries go to the backup, and nothing else changes. -/
structure Routed (names : List String) (i : Nat) (r r' : Routing) : Prop where
  same : namesOf r'.entries = namesOf r.entries
  routed : ∀ x ∈ r'.entries, x.1 ∈ names → x.2 = .routed i
  kept : ∀ x ∈ r'.entries, x.1 ∉ names → x ∈ r.entries
  backup : ∀ x ∈ r'.backup, x.1 ∈ names ∧ x ∈ r.entries ∨ x ∈ r.backup ∧ (x.1 ∈ names → x.1 ∉ namesOf r.entries)
  saved : ∀ n, n ∈ namesOf r'.backup ↔ n ∈ namesOf r.backup ∨ n ∈ names ∧ n ∈ namesOf r.entries

theorem routed_route (i : Nat) (r : Routing) (name : String) : Routed [name] i r (route i r name) := by
  unfold route
  split
  · rename_i e he
    have hmem := Table.mem_of_lookup he
    have hname := mem_namesOf hmem
    refine ⟨namesOf_put_of_mem hname, ?_, ?_, ?_, ?_⟩
    · intro x hx hn
      rcases Table.mem_put.1 hx with rfl | ⟨-, hne⟩
      · rfl
      · exact absurd (mem_singleton.1 hn) hne
    · intro x hx hn
      rcases Table.mem_put.1 hx with rfl | ⟨hold, -⟩
      · exact absurd (mem_singleton.2 rfl) hn
      · exact hold
    · intro x hx
      rcases Table.mem_put.1 hx with rfl | ⟨hold, hne⟩
      · exact .inl ⟨mem_singleton.2 rfl, hmem⟩
      · exact .inr ⟨hold, fun hn => absurd (mem_singleton.1 hn) hne⟩
    · intro n
      rw [mem_singleton, or_comm]
      exact Table.mem_keys_put.trans (or_congr_left ⟨fun hn => ⟨hn, hn ▸ hname⟩, And.left⟩)
  · rename_i he
    have hname := notMem_of_lookup he
    refine ⟨rfl, ?_, fun x hx _ => hx, ?_, ?_⟩
    · intro x hx hn
      exact absurd (mem_singleton.1 hn ▸ mem_namesOf hx) hname
    · exact fun x hx => .inr ⟨hx, fun hn => mem_singleton.1 hn ▸ hname⟩
    · intro n
      refine ⟨.inl, ?_⟩
      rintro (hn | ⟨hn, hmem⟩)
      · exact hn
      · exact absurd (mem_singleton.1 hn ▸ hmem) hname

theorem Routed.cons (h : Routed [name] i r r₁) (h' : Routed names i r₁ r₂) (hnew : name ∉ names) :
    Routed (name :: names) i r r₂ := by
  refine ⟨h'.same.trans h.same, ?_, ?_, ?_, ?_⟩
  · intro x hx hn
    by_cases hrest : x.1 ∈ names
    · exact h'.routed x hx hrest
    · have heq : x.1 = name := (mem_cons.1 hn).resolve_right hrest
      exact h.routed x (h'.kept x hx hrest) (mem_singleton.2 heq)
  · intro x hx hn
    simp only [mem_cons, not_or] at hn
    exact h.kept x (h'.kept x hx hn.2) (mt mem_singleton.1 hn.1)
  · intro x hx
    rcases h'.backup x hx with ⟨hn, hmem⟩ | ⟨hmem, hunknown⟩
    · have hne : x.1 ∉ [name] := fun heq => hnew (mem_singleton.1 heq ▸ hn)
      exact .inl ⟨mem_cons_of_mem _ hn, h.kept x hmem hne⟩
    · rcases h.backup x hmem with ⟨hn, hold⟩ | ⟨hold, hno⟩
      · exact .inl ⟨mem_singleton.1 hn ▸ mem_cons_self, hold⟩
      · refine .inr ⟨hold, fun hn => ?_⟩
        rcases mem_cons.1 hn with heq | hrest
        · exact hno (mem_singleton.2 heq)
        · exact h.same ▸ hunknown hrest
  · intro n
    rw [h'.saved, h.saved, h.same, mem_singleton, mem_cons, or_and_right, or_assoc]

theorem routed_attach (r : Routing) (i : Nat) (hnodup : names.Nodup) : Routed names i r (r.attach names i) := by
  induction names generalizing r with
  | nil =>
    refine ⟨rfl, fun x _ hn => absurd hn not_mem_nil, fun x hx _ => hx, fun x hx => .inr ⟨hx, ?_⟩, fun n => ?_⟩
    · exact fun hn => absurd hn not_mem_nil
    · simp [attach]
  | cons name names ih =>
    obtain ⟨hnew, hrest⟩ := nodup_cons.1 hnodup
    exact (routed_route i r name).cons (ih (route i r name) hrest) hnew

theorem mem_foldl_put (h : x ∈ Table.putAll table saved) : x ∈ saved ∨ x ∈ table ∧ x.1 ∉ namesOf saved := by
  induction saved generalizing table with
  | nil => exact .inr ⟨h, not_mem_nil⟩
  | cons y saved ih =>
    rcases ih h with hmem | ⟨hput, hn⟩
    · exact .inl (mem_cons_of_mem _ hmem)
    · rcases Table.mem_put.1 hput with rfl | ⟨hold, hne⟩
      · exact .inl mem_cons_self
      · exact .inr ⟨hold, not_mem_cons_of_ne_of_not_mem hne hn⟩

theorem namesOf_foldl_put (h : ∀ n ∈ namesOf saved, n ∈ namesOf table) : namesOf (Table.putAll table saved) = namesOf table := by
  induction saved generalizing table with
  | nil => rfl
  | cons y saved ih =>
    have hy : y.1 ∈ namesOf table := h y.1 mem_cons_self
    have hkept : namesOf (Table.put table y.1 y.2) = namesOf table := namesOf_put_of_mem hy
    exact (ih fun n hn => hkept ▸ h n (mem_cons_of_mem _ hn)).trans hkept

end Routing

/-! ## Sequences of instances and launches -/

open Routing

theorem routedNames_nodup : routedNames.Nodup := by
  have hperm : routedNames.Perm (Operation.all.map (·.name)) := List.mergeSort_perm _ _
  exact hperm.nodup_iff.2 (by decide)

/-- The language has these names, of which only some can be routed, and the backup has no others. -/
structure Tidy (known : List String) (r : Routing) : Prop where
  names : namesOf r.entries = known
  others : ∀ x ∈ r.entries, x.1 ∉ routedNames → x.2 = .own
  saved : ∀ n ∈ namesOf r.backup, n ∈ known ∧ n ∈ routedNames

/-- No name is routed, and none has been when it was backed up. -/
structure Untouched (known : List String) (r : Routing) : Prop extends Tidy known r where
  own : ∀ x ∈ r.entries, x.2 = .own
  backup : ∀ x ∈ r.backup, x.2 = .own

structure Lost (known : List String) (r : Routing) : Prop extends Tidy known r where
  routed : ∀ x ∈ r.entries, x.1 ∈ routedNames → x.2 ≠ .own

variable {known : List String} {r : Routing}

theorem Tidy.attach (h : Tidy known r) (i : Nat) : Tidy known (r.attach routedNames i) := by
  have hr := routed_attach r i routedNames_nodup
  refine ⟨hr.same.trans h.names, fun x hx hn => h.others x (hr.kept x hx hn) hn, fun n hn => ?_⟩
  rcases (hr.saved n).1 hn with hold | ⟨hrouted, hknown⟩
  · exact h.saved n hold
  · exact ⟨h.names ▸ hknown, hrouted⟩

theorem Tidy.detach (h : Tidy known r) : Tidy known r.detach := by
  refine ⟨(namesOf_foldl_put fun n hn => h.names ▸ (h.saved n hn).1).trans h.names, fun x hx hn => ?_, h.saved⟩
  rcases mem_foldl_put hx with hmem | ⟨hmem, -⟩
  · exact absurd (h.saved x.1 (mem_namesOf hmem)).2 hn
  · exact h.others x hmem hn

theorem Tidy.exists_lookup (h : Tidy known r) {name : String} (hname : name ∈ known) :
    ∃ e, r.entries.lookup name = some e ∧ (name, e) ∈ r.entries := by
  cases he : r.entries.lookup name with
  | none => exact absurd (h.names ▸ hname) (notMem_of_lookup he)
  | some e => exact ⟨e, rfl, Table.mem_of_lookup he⟩

theorem Tidy.lost_attach (h : Tidy known r) (i : Nat) : Lost known (r.attach routedNames i) := by
  refine ⟨h.attach i, fun x hx hn => ?_⟩
  rw [(routed_attach r i routedNames_nodup).routed x hx hn]
  exact Entry.noConfusion

theorem Untouched.ended (h : Untouched known r) (i : Nat) : Untouched known (r.attach routedNames i).detach := by
  have hr := routed_attach r i routedNames_nodup
  have hbackup : ∀ x ∈ (r.attach routedNames i).backup, x.2 = .own := by
    intro x hx
    rcases hr.backup x hx with ⟨-, hmem⟩ | ⟨hmem, -⟩
    · exact h.own x hmem
    · exact h.backup x hmem
  refine ⟨(h.toTidy.attach i).detach, fun x hx => ?_, hbackup⟩
  rcases mem_foldl_put hx with hmem | ⟨hmem, hsaved⟩
  · exact hbackup x hmem
  · -- a name that is not in the backup has not been routed
    have hn : x.1 ∉ routedNames := fun hn => hsaved ((hr.saved x.1).2 (.inr ⟨hn, hr.same ▸ mem_namesOf hmem⟩))
    exact h.own x (hr.kept x hmem hn)

theorem Lost.ended (h : Lost known r) (i : Nat) : Lost known (r.attach routedNames i).detach := by
  have hr := routed_attach r i routedNames_nodup
  refine ⟨(h.toTidy.attach i).detach, fun x hx hn => ?_⟩
  rcases mem_foldl_put hx with hmem | ⟨hmem, -⟩
  · rcases hr.backup x hmem with ⟨-, hold⟩ | ⟨hold, hunknown⟩
    · exact h.routed x hold hn
    · exact absurd (h.names ▸ (h.saved x.1 (mem_namesOf hold)).1) (hunknown hn)
  · exact (h.toTidy.lost_attach i).routed x hmem hn

def Raised (executions : List Execution) : Prop := ∃ e ∈ executions, ∃ f, e.result = .error f

theorem not_raised_nil : ¬ Raised [] := by simp [Raised]

theorem raised_ok {scene : Scene} {v : Value} {others : List Execution} : Raised (⟨scene, .ok v⟩ :: others) ↔ Raised others := by
  simp [Raised]

theorem raised_error (scene : Scene) (f : Fault) : Raised [⟨scene, .error f⟩] :=
  ⟨_, List.mem_singleton.2 rfl, f, rfl⟩

namespace Launch

section

variable {info : Lowering.FuncInfo} {args : List Value} {named : Named Value} {grid : List Int}
  {turn : Nat × List Int} {turns : List (Nat × List Int)} {scene : Scene} {s s' : State}

theorem instances_of_ok {v : Value} (h : evaluator.apply info args named (sceneOf grid turn scene) s = .ok v s') :
    instances info args named grid (turn :: turns) scene s =
      (⟨sceneOf grid turn scene, .ok v⟩ ::
        (instances info args named grid turns
          { sceneOf grid turn scene with routing := (sceneOf grid turn scene).routing.detach } s').1,
        (instances info args named grid turns
          { sceneOf grid turn scene with routing := (sceneOf grid turn scene).routing.detach } s').2) := by
  simp only [instances, h]

theorem instances_of_error {f : Fault} (h : evaluator.apply info args named (sceneOf grid turn scene) s = .error f s') :
    instances info args named grid (turn :: turns) scene s =
      ([⟨sceneOf grid turn scene, .error f⟩], (sceneOf grid turn scene).routing, s') := by
  simp only [instances, h]

variable {P Q : Routing → Prop}

theorem instances_spec (ended : ∀ r i, P r → P (r.attach routedNames i).detach)
    (failed : ∀ r i, P r → Q (r.attach routedNames i)) (h : P scene.routing) :
    (¬ Raised (instances info args named grid turns scene s).1 → P (instances info args named grid turns scene s).2.1) ∧
      (Raised (instances info args named grid turns scene s).1 → Q (instances info args named grid turns scene s).2.1) := by
  induction turns generalizing scene s with
  | nil => exact ⟨fun _ => h, fun hr => absurd hr not_raised_nil⟩
  | cons turn turns ih =>
    cases happly : evaluator.apply info args named (sceneOf grid turn scene) s with
    | ok v s' =>
      rw [instances_of_ok happly, raised_ok]
      exact ih (ended scene.routing turn.1 h)
    | error f s' =>
      rw [instances_of_error happly]
      exact ⟨fun hn => absurd (raised_error _ f) hn, fun _ => failed scene.routing turn.1 h⟩

theorem run_spec (ended : ∀ r i, P r → P (r.attach routedNames i).detach)
    (failed : ∀ r i, P r → Q (r.attach routedNames i)) (l : Launch) (info : Lowering.FuncInfo) {s : Session} (h : P s.routing) :
    (¬ Raised (l.run info s).1.executions → P (l.run info s).2.routing) ∧
      (Raised (l.run info s).1.executions → Q (l.run info s).2.routing) := by
  unfold run
  split
  · exact ⟨fun _ => h, fun hr => absurd hr not_raised_nil⟩
  · exact instances_spec ended failed h

end

/-- Carry out launches one after another. -/
def runAll : List (Launch × Lowering.FuncInfo) → Session → List Outcome × Session
  | [], s => ([], s)
  | (l, info) :: rest, s =>
    let (o, s) := l.run info s
    let (os, s) := runAll rest s
    (o :: os, s)

variable {s : Session}

theorem lost_runAll (launches : List (Launch × Lowering.FuncInfo)) (h : Lost known s.routing) :
    Lost known (runAll launches s).2.routing := by
  induction launches generalizing s with
  | nil => exact h
  | cons x rest ih =>
    have hrun := run_spec (P := Lost known) (fun _ i hr => hr.ended i) (fun _ i hr => hr.lost_attach i) x.1 x.2 h
    exact ih ((Classical.em _).elim hrun.2 hrun.1)

theorem runAll_spec (launches : List (Launch × Lowering.FuncInfo)) (h : Untouched known s.routing) :
    ((∀ o ∈ (runAll launches s).1, ¬ Raised o.executions) → Untouched known (runAll launches s).2.routing) ∧
      ((∃ o ∈ (runAll launches s).1, Raised o.executions) → Lost known (runAll launches s).2.routing) := by
  induction launches generalizing s with
  | nil => exact ⟨fun _ => h, fun hr => absurd hr (by simp [runAll])⟩
  | cons x rest ih =>
    have hrun := run_spec (P := Untouched known) (fun _ i hr => hr.ended i) (fun _ i hr => hr.lost_attach i) x.1 x.2 h
    by_cases hr : Raised (x.1.run x.2 s).1.executions
    · exact ⟨fun hn => absurd hr (hn _ List.mem_cons_self), fun _ => lost_runAll rest (hrun.2 hr)⟩
    · have hrest := ih (hrun.1 hr)
      refine ⟨fun hn => hrest.1 fun o ho => hn o (List.mem_cons_of_mem _ ho), ?_⟩
      rintro ⟨o, ho, hraised⟩
      rcases List.mem_cons.1 ho with rfl | ho
      · exact absurd hraised hr
      · exact hrest.2 ⟨o, ho, hraised⟩

theorem untouched_start (program : Lowering.Program) :
    Untouched (program.scope .language).names (Session.start program).routing := by
  have hown : ∀ x ∈ (Session.start program).routing.entries, x.2 = .own := by
    intro x hx
    obtain ⟨n, -, rfl⟩ := List.mem_map.1 hx
    rfl
  refine ⟨⟨?_, fun x hx _ => hown x hx, fun n hn => absurd hn List.not_mem_nil⟩, hown, fun x hx => absurd hx List.not_mem_nil⟩
  simp [namesOf, Session.start, initial, Function.comp_def]

/-- The language has the same names before and after a sequence of launches. Each stands for what it stood for before exactly
when it is not one that is routed, or no execution of a body failed in any of the launches. -/
theorem restored_iff_none_raised (program : Lowering.Program) (launches : List (Launch × Lowering.FuncInfo)) :
    let before := (Session.start program).routing.entries
    let after := (runAll launches (Session.start program)).2.routing.entries
    namesOf after = namesOf before ∧
      ∀ name ∈ namesOf before, after.lookup name = before.lookup name ↔
        name ∉ routedNames ∨ ∀ o ∈ (runAll launches (Session.start program)).1, ¬ Raised o.executions := by
  have hstart := untouched_start program
  obtain ⟨hended, hraised⟩ := runAll_spec launches hstart
  have htidy : Tidy (program.scope .language).names (runAll launches (Session.start program)).2.routing := by
    by_cases h : ∃ o ∈ (runAll launches (Session.start program)).1, Raised o.executions
    · exact (hraised h).toTidy
    · exact (hended fun o ho hr => h ⟨o, ho, hr⟩).toTidy
  refine ⟨htidy.names.trans hstart.names.symm, fun name hname => ?_⟩
  rw [hstart.names] at hname
  obtain ⟨e, he, hmem⟩ := htidy.exists_lookup hname
  obtain ⟨e₀, he₀, hmem₀⟩ := hstart.exists_lookup hname
  have hown : e₀ = .own := hstart.own _ hmem₀
  rw [he, he₀, hown, Option.some_inj]
  constructor
  · rintro rfl
    by_cases hn : name ∈ routedNames
    · refine .inr fun o ho hr => ?_
      exact (hraised ⟨o, ho, hr⟩).routed _ hmem hn rfl
    · exact .inl hn
  · rintro (hn | hn)
    · exact htidy.others _ hmem hn
    · exact (hended hn).own _ hmem

def failing : Lowering.FuncInfo :=
  { (default : Lowering.FuncInfo) with tree := .ok (.mk "kernel" default none [] [.raising default none none]) }

theorem raised_failing (s : Session) : Raised (({ args := [], named := [], grid := [1] } : Launch).run failing s).1.executions :=
  ⟨_, List.mem_singleton.2 rfl, _, rfl⟩

/-- A launch of a kernel that fails leaves the operation that reads memory routed. -/
theorem load_routed_after_failing :
    (runAll [({ args := [], named := [], grid := [1] }, failing)]
      (Session.start { spaces := [(.language, [("load", .none)])] })).2.routing.entries.lookup "load" ≠ some .own := by
  have hlost := (runAll_spec [({ args := [], named := [], grid := [1] }, failing)]
    (untouched_start { spaces := [(.language, [("load", .none)])] })).2 ⟨_, List.mem_cons_self, raised_failing _⟩
  intro h
  have hrouted : "load" ∈ routedNames := (List.mergeSort_perm _ _).mem_iff.2 (by decide)
  exact hlost.routed _ (Table.mem_of_lookup h) hrouted rfl

end Launch

end TileKernel.Simulation
