import TileKernel.Proofs.Simulation.Restoring
import Mathlib.Data.List.Forall2
import Mathlib.Data.List.Nodup

/-! # Positions of program instances

A launch runs the body of its kernel once for every position of the reversed grid, and the body reads that position axis by
axis beside the sizes of the grid as it is. So the bodies read every position of the grid exactly once if and only if the grid
is the same in both directions.
-/

namespace TileKernel.Simulation

open Routing List

/-! ## Positions of a grid -/

def InGrid (grid position : List Int) : Prop := List.Forall₂ (fun n i => 0 ≤ i ∧ i < n) grid position

variable {grid : List Int} {name : String} {other : List Int}

theorem mem_allPositions {position : List Int} : position ∈ allPositions grid ↔ InGrid grid position := by
  induction grid generalizing position with
  | nil => simp [allPositions, InGrid]
  | cons n ns ih =>
    simp only [allPositions, mem_flatMap, mem_range, mem_map, ih]
    constructor
    · rintro ⟨i, hi, rest, hrest, rfl⟩
      exact .cons ⟨by omega, by omega⟩ hrest
    · rintro (_ | @⟨_, i, _, rest, ⟨hlow, hhigh⟩, hrest⟩)
      exact ⟨i.toNat, by omega, rest, hrest, by rw [Int.toNat_of_nonneg hlow]⟩

theorem nodup_allPositions (grid : List Int) : (allPositions grid).Nodup := by
  induction grid with
  | nil => exact nodup_singleton []
  | cons n ns ih =>
    refine nodup_flatMap.2 ⟨fun i _ => ih.map fun _ _ h => (cons.inj h).2, ?_⟩
    refine nodup_range.imp fun {i j} hne => ?_
    intro position hi hj
    obtain ⟨p, -, rfl⟩ := mem_map.1 hi
    obtain ⟨q, -, hq⟩ := mem_map.1 hj
    exact hne (Int.ofNat.inj (cons.inj hq).1).symm

theorem le_of_inGrid (hpos : ∀ n ∈ grid, 0 < n) (h : ∀ q, InGrid grid q → InGrid other q) : List.Forall₂ (· ≤ ·) grid other := by
  have hlast : InGrid grid (grid.map (· - 1)) := by
    rw [InGrid, forall₂_map_right_iff, forall₂_same]
    intro n hn
    have := hpos n hn
    omega
  have hother := h _ hlast
  rw [InGrid, forall₂_map_right_iff] at hother
  exact hother.flip.imp fun _ _ hle => by omega

theorem inGrid_iff_eq (hpos : ∀ n ∈ grid, 0 < n) (hpos' : ∀ n ∈ other, 0 < n) :
    (∀ q, InGrid grid q ↔ InGrid other q) ↔ grid = other := by
  constructor
  · intro h
    have hle := le_of_inGrid hpos fun q => (h q).1
    have hge := le_of_inGrid hpos' fun q => (h q).2
    rw [forall₂_iff_get] at hle hge
    exact ext_get hle.1 fun i hi hi' => Int.le_antisymm (hle.2 i hi hi') (hge.2 i hi' hi)
  · rintro rfl _
    exact Iff.rfl

/-! ## What a body reads -/

def number (n : Int) : Value := .tile (.vector .int32 [.whole n])

def ask (name : String) (axis : Nat) : Run Value := do
  evaluator.call (← member (.plain (.space .language)) name) [.int axis] []

/-- A body that asks an operation of the language about the axes is given these numbers, whatever it has done before. -/
def Execution.Reads (e : Execution) (name : String) (numbers : List Int) : Prop :=
  ∀ (axis : Nat) (h : axis < numbers.length) (s : State), ask name axis e.scene s = .ok (number numbers[axis]) s

theorem along_axis {numbers : List Int} {axis : Nat} (h : axis < numbers.length) :
    Operation.along numbers (.int axis) = .ok (.vector .int32 [.whole numbers[axis]]) := by
  have hindex : Value.index (.int axis) = .ok (axis : Int) := rfl
  have hlt : ¬ ((axis : Int) ≥ numbers.length) := by omega
  have hneg : ¬ ((axis : Int) < 0) := by omega
  have hget : numbers[(axis : Int).toNat]? = some numbers[axis] := by simp [h]
  rw [Operation.along, hindex]
  show (if (axis : Int) ≥ numbers.length then _ else _) = _
  rw [if_neg hlt, if_neg hneg, if_neg hneg, hget]
  rfl

theorem reads_launchNumber {e : Execution} {numbers : Context → List Int} {i : Nat}
    (hentry : e.scene.routing.entries.lookup name = some (.routed i))
    (hop : Operation.find? name = some (Operation.launchNumber name numbers)) : e.Reads name (numbers e.scene.context) := by
  intro axis h s
  have hmember : member (.plain (.space .language)) name e.scene s = .ok (.routed name) s := by
    simp [member, hentry, bind, ReaderT.bind, EStateM.bind, read, ReaderT.read, MonadReaderOf.read, readThe, pure,
      EStateM.pure, ReaderT.pure]
  have hcall : evaluator.call (.routed name) [.int axis] [] e.scene s =
      (Operation.launchNumber name numbers).call [.int axis] [] e.scene s := by
    show Evaluator.callStep (.upTo Evaluator.domain Evaluator.callStep 999) (.routed name) [.int axis] [] e.scene s = _
    simp only [Evaluator.callStep, hop]
  have hrun : (Operation.launchNumber name numbers).call [.int axis] [] e.scene s =
      (Operation.give (Operation.along (numbers e.scene.context) (.int axis)) >>= fun v => pure v.wrap : Run Value)
        e.scene s := rfl
  simp only [ask, bind, ReaderT.bind, EStateM.bind, hmember, hcall, hrun, along_axis h]
  rfl

/-! ## The executions of a launch -/

theorem mem_namesOf_detach {r : Routing} (h : name ∈ namesOf r.entries) : name ∈ namesOf r.detach.entries := by
  have hput : ∀ (saved table : Named Entry), name ∈ namesOf table →
      name ∈ namesOf (Table.putAll table saved) := by
    intro saved
    induction saved with
    | nil => exact fun _ ht => ht
    | cons y saved ih => exact fun table ht => ih _ (Table.mem_keys_put.2 (.inr ht))
  exact hput r.backup r.entries h

theorem lookup_attach {r : Routing} (hrouted : name ∈ routedNames) (h : name ∈ namesOf r.entries) (i : Nat) :
    (r.attach routedNames i).entries.lookup name = some (.routed i) := by
  have hr := routed_attach r i routedNames_nodup
  cases he : (r.attach routedNames i).entries.lookup name with
  | none => exact absurd (hr.same ▸ h) (notMem_of_lookup he)
  | some e => exact congrArg some (hr.routed _ (Table.mem_of_lookup he) hrouted)

namespace Launch

variable {info : Lowering.FuncInfo} {args : List Value} {named : Named Value} {grid : List Int}
  {turns : List (Nat × List Int)} {scene : Scene} {s : State} {name : String}

theorem failure?_ok {v : Value} {others : List Execution} : failure? (⟨scene, .ok v⟩ :: others) = failure? others := by
  cases others <;> rfl

theorem positions_instances (h : failure? (instances info args named grid turns scene s).1 = none) :
    (instances info args named grid turns scene s).1.map (·.scene.context.position) = turns.map (·.2) := by
  induction turns generalizing scene s with
  | nil => rfl
  | cons turn turns ih =>
    cases happly : evaluator.apply info args named (sceneOf grid turn scene) s with
    | ok v s' =>
      rw [instances_of_ok happly] at h ⊢
      rw [failure?_ok] at h
      rw [map_cons, map_cons, ih h]
      rfl
    | error f s' =>
      rw [instances_of_error happly] at h
      cases h

/-- Every execution sees the sizes of the grid, and the names that can be routed are routed to it. -/
theorem scenes_instances (hrouted : name ∈ routedNames) (h : name ∈ namesOf scene.routing.entries) :
    ∀ e ∈ (instances info args named grid turns scene s).1,
      e.scene.context.grid = grid ∧ ∃ i, e.scene.routing.entries.lookup name = some (.routed i) := by
  induction turns generalizing scene s with
  | nil => exact fun e he => absurd he not_mem_nil
  | cons turn turns ih =>
    have hfirst : (sceneOf grid turn scene).context.grid = grid ∧
        ∃ i, (sceneOf grid turn scene).routing.entries.lookup name = some (.routed i) :=
      ⟨rfl, turn.1, lookup_attach hrouted h turn.1⟩
    intro e he
    cases happly : evaluator.apply info args named (sceneOf grid turn scene) s with
    | ok v s' =>
      rw [instances_of_ok happly] at he
      rcases mem_cons.1 he with rfl | he
      · exact hfirst
      · have hknown : name ∈ namesOf (sceneOf grid turn scene).routing.entries :=
          (routed_attach scene.routing turn.1 routedNames_nodup).same ▸ h
        exact ih (mem_namesOf_detach hknown) e he
    | error f s' =>
      rw [instances_of_error happly] at he
      exact mem_singleton.1 he ▸ hfirst

theorem turns_positions (l : Launch) : l.turns.map (·.2) = programIds l.grid := by
  simp [turns, Function.comp_def]

theorem mem_routedNames (h : name ∈ Operation.all.map (·.name)) : name ∈ routedNames :=
  (mergeSort_perm _ _).mem_iff.2 h

theorem executions_of_ended {l : Launch} {s : Session} (h : (l.run info s).1.fault = none) :
    ∃ p, (l.run info s).1.executions = (l.execute info p s).1 ∧ failure? (l.execute info p s).1 = none := by
  unfold run at h ⊢
  split at h
  · cases h
  · exact ⟨_, rfl, h⟩

theorem positions_of_ended {l : Launch} {s : Session} (h : (l.run info s).1.fault = none) :
    (l.run info s).1.executions.map (·.scene.context.position) = allPositions l.grid.reverse := by
  obtain ⟨p, hbodies, hfailure⟩ := executions_of_ended h
  rw [hbodies]
  exact (positions_instances hfailure).trans l.turns_positions

/-- In a launch that ends, every body reads its position and the sizes of the grid axis by axis. The positions are those of
the reversed grid, each read once, and so they are those of the grid exactly when the grid is the same in both directions. -/
theorem bodies_fill_grid_iff (l : Launch) (info : Lowering.FuncInfo) (s : Session)
    (hids : "program_id" ∈ namesOf s.routing.entries) (hsizes : "num_programs" ∈ namesOf s.routing.entries)
    (hpos : ∀ n ∈ l.grid, 0 < n) (hended : (l.run info s).1.fault = none) :
    let bodies := (l.run info s).1.executions
    let ids := bodies.map (·.scene.context.position)
    (∀ e ∈ bodies, e.Reads "program_id" e.scene.context.position ∧ e.Reads "num_programs" l.grid) ∧
      ids.Nodup ∧ (∀ q, q ∈ ids ↔ InGrid l.grid.reverse q) ∧
      ((∀ q, q ∈ ids ↔ InGrid l.grid q) ↔ l.grid.reverse = l.grid) := by
  intro bodies ids
  have heq : ids = allPositions l.grid.reverse := positions_of_ended hended
  have hmem : ∀ q, q ∈ ids ↔ InGrid l.grid.reverse q := fun q => heq ▸ mem_allPositions
  refine ⟨fun e he => ?_, heq ▸ nodup_allPositions _, hmem, ?_⟩
  · obtain ⟨p, hbodies, -⟩ := executions_of_ended hended
    simp only [bodies, hbodies] at he
    obtain ⟨hgrid, i, hi⟩ := scenes_instances (mem_routedNames (by decide)) hids e he
    obtain ⟨-, j, hj⟩ := scenes_instances (mem_routedNames (by decide)) hsizes e he
    exact ⟨reads_launchNumber hi rfl, hgrid ▸ reads_launchNumber hj rfl⟩
  · have hpos' : ∀ n ∈ l.grid.reverse, 0 < n := fun n hn => hpos n (mem_reverse.1 hn)
    simp only [hmem]
    exact inGrid_iff_eq hpos' hpos

/-- A kernel that does nothing. -/
def idle : Lowering.FuncInfo :=
  { (default : Lowering.FuncInfo) with tree := .ok (.mk "kernel" default none [] [.pass default]) }

theorem idle_ends (grid : List Int) (s : Session) : (({ args := [], named := [], grid } : Launch).run idle s).1.fault = none := by
  have hinstances : ∀ (turns : List (Nat × List Int)) (scene : Scene) (st : State),
      failure? (instances idle [] [] grid turns scene st).1 = none := by
    intro turns
    induction turns with
    | nil => exact fun _ _ => rfl
    | cons turn turns ih =>
      intro scene st
      have happly : evaluator.apply idle [] [] (sceneOf grid turn scene) st = .ok .none st := rfl
      rw [instances_of_ok happly, failure?_ok]
      exact ih _ st
  exact hinstances _ _ _

def positioned : Session := .start { spaces := [(.language, [("program_id", .none), ("num_programs", .none)])] }

theorem bodies_fill_symmetric_grid :
    (({ args := [], named := [], grid := [2, 3, 2] } : Launch).run idle positioned).1.fault = none ∧
      ∀ q, q ∈ (({ args := [], named := [], grid := [2, 3, 2] } : Launch).run idle positioned).1.executions.map
        (·.scene.context.position) ↔ InGrid [2, 3, 2] q :=
  ⟨idle_ends _ _, (bodies_fill_grid_iff { args := [], named := [], grid := [2, 3, 2] } idle positioned (by decide) (by decide)
    (by decide) (idle_ends _ _)).2.2.2.2 (by decide)⟩

/-- On a grid of two by three the third position along the second axis is never read. -/
theorem bodies_miss_position :
    InGrid [2, 3] [0, 2] ∧ [0, 2] ∉ (({ args := [], named := [], grid := [2, 3] } : Launch).run idle positioned).1.executions.map
      (·.scene.context.position) := by
  refine ⟨by simp [InGrid], ?_⟩
  rw [positions_of_ended (idle_ends _ _)]
  decide

end Launch

end TileKernel.Simulation
