import TileKernel.Proofs.Steps
import TileKernel.Proofs.Tuning.Timings

/-! # What a tuner remembers

Launches of one kernel, one after another, with whatever answers pruning and measuring give at each. The cache grows by a launch
with a new key, and only then. A query for the best configuration does not look into the cache: it gives what the last launch
used.
-/

namespace TileKernel.Tuning.Tuner

open Launch Steps

variable {t : Tuner} {args : List Argument} {named : Bindings}

/-! ## Tuning -/

/-- What the measurement of a configuration counts as: running out of resources takes for ever, any other failure ends
the tuning. -/
def timing? (t : Tuner) (i : Nat) (c : Config) : Option Timing :=
  match t.measure i c with
  | .ok x => some x
  | .error f => if f.kind = .outOfResources then some .never else none

theorem measureConfig_ok (i : Nat) (c : Config) (s : Scratch) :
    Ensures (measureConfig t args named i c) s fun x _ => t.timing? i c = some x := by
  unfold measureConfig
  dsimp only
  split
  · exact .of_throw
  refine Ensures.of_bind.2 fun _ _ _ => Ensures.of_bind.2 fun _ _ _ => Ensures.of_bind.2 fun _ _ _ => ?_
  rw [timing?]
  cases t.measure i c with
  | ok x => exact Ensures.of_pure.2 rfl
  | error f =>
    dsimp only
    split
    · exact Ensures.of_pure.2 rfl
    · exact .of_throw

theorem measureAll_ok (config : Nat → Config) (kept : List Nat) (s : Scratch) :
    Ensures (kept.mapM fun i => do return (i, ← measureConfig t args named i (config i))) s fun ts _ =>
      ts.map (fun e => (e.1, some e.2)) = kept.map fun i => (i, t.timing? i (config i)) := by
  induction kept generalizing s with
  | nil => exact Ensures.of_pure.2 rfl
  | cons i kept ih =>
    rw [List.mapM_cons]
    refine Ensures.of_bind.2 (Ensures.of_bind.2 ((measureConfig_ok i (config i) s).mono fun x s₁ hx => ?_))
    refine Ensures.of_pure.2 (Ensures.of_bind.2 ((ih s₁).mono fun ts s₂ h => Ensures.of_pure.2 ?_))
    simp [hx, h]

/-- All kept configurations were measured, with the timings `ts` in order, and `i` is the first of the best ones. -/
def Best (t : Tuner) (config : Nat → Config) (kept : List Nat) (i : Nat) : Prop :=
  ∃ ts : List (Nat × Timing), ts.map (fun e => (e.1, some e.2)) = kept.map (fun j => (j, t.timing? j (config j))) ∧
    ∃ before x later, ts = before ++ (i, x) :: later ∧ (∀ e ∈ ts, e.2.better x = false) ∧ ∀ e ∈ before, e.2.ties x = false

theorem pick_ok (s : Scratch) : Ensures (pick t args named) s fun i _ =>
    ∃ kept s₁, prune t args named s = .ok kept s₁ ∧ t.Best s₁.config kept i := by
  refine Ensures.of_bind.2 fun kept s₁ hprune => Ensures.of_bind.2 (Ensures.of_get.2 (Ensures.of_bind.2
    ((measureAll_ok s₁.config kept s₁).mono fun ts s₂ hts => ?_)))
  split
  · exact .of_throw
  · next i x h =>
    obtain ⟨before, later, hsplit⟩ := bestOf_spec h
    exact Ensures.of_pure.2 ⟨kept, s₁, hprune, ts, hts, before, x, later, hsplit⟩

/-! ## Choosing -/

section

variable {s : State} {key : Key} {i : Nat}

theorem choose_single (h : s.configs.length ≤ 1) : choose t args named s = .ok 0 s := by
  change (ite _ _ _ : Tuned Nat) s = _
  rw [if_neg (by omega)]
  rfl

theorem choose_eq (hs : 1 < s.configs.length) : choose t args named s = (do
    let key ← check (keyOf t args named)
    match find? s key with
    | some i => return i
    | none => do
      let i ← trying (pick t args named)
      store t args key i
      return i : Tuned Nat) s := by
  change (ite _ _ _ : Tuned Nat) s = _
  rw [if_pos hs]
  cases keyOf t args named <;> rfl

theorem choose_refused {e : Fault} (hs : 1 < s.configs.length) (hkey : keyOf t args named = .error e) :
    choose t args named s = .error e s := by
  rw [choose_eq hs, hkey]
  rfl

theorem choose_known (hs : 1 < s.configs.length) (hkey : keyOf t args named = .ok key) (h : find? s key = some i) :
    choose t args named s = .ok i s := by
  rw [choose_eq hs, hkey, check_ok, pure_bind, h]
  rfl

theorem choose_new (hs : 1 < s.configs.length) (hkey : keyOf t args named = .ok key) (h : find? s key = none) :
    choose t args named s = (do
      let i ← trying (pick t args named)
      store t args key i
      return i : Tuned Nat) s := by
  rw [choose_eq hs, hkey, check_ok, pure_bind, h]

end

/-! ## Launches -/

/-- The state that a step leaves, also when it fails. -/
def left {σ α : Type} (x : EStateM Fault σ α) (s : σ) : σ :=
  match x s with
  | .ok _ s' | .error _ s' => s'

section

variable {σ α β : Type} {x : EStateM Fault σ α} {g : α → EStateM Fault σ β} {s s₁ : σ} {a : α} {e : Fault}

theorem bind_of_error (h : x s = .error e s₁) : (x >>= g) s = .error e s₁ := by
  simp [Bind.bind, EStateM.bind, h]

theorem left_of_ok (h : x s = .ok a s₁) : left (x >>= g) s = left (g a) s₁ := by
  rw [left, bind_of_ok h, left]

theorem left_of_error (h : x s = .error e s₁) : left (x >>= g) s = s₁ := by
  rw [left, bind_of_error h]

end

def benches (s : Scratch) : Nat := s.events.countP (· matches .bench)

theorem left_trying {α : Type} (x : Trial α) (s : State) : left (trying x) s = { s with toScratch := left x s.toScratch } := by
  unfold left trying
  cases x s.toScratch <;> rfl

variable (t args) in
theorem left_store (key : Key) (i : Nat) (s : State) : (left (store t args key i) s).cache = s.cache ++ [(key, i)] :=
  congrArg State.cache (left_trying _ { s with cache := s.cache ++ [(key, i)] })

theorem benches_note {e : TuningEvent} (he : (e matches .bench) = false) (s : Scratch) :
    benches { s with events := s.events ++ [e] } = benches s := by
  simp [benches, he]

theorem benches_start (i : Nat) (c : Config) (s : Scratch) : benches (left (start t args named i c (pure ())) s) = benches s := by
  unfold start
  dsimp only
  split
  · cases joined [launchOptions c, named, fixed c] with
    | ok b => exact (benches_note rfl _).trans (benches_note rfl s)
    | error f => exact benches_note rfl s
  · cases joined [launchOptions c, named, fixed c] with
    | ok b => exact benches_note rfl s
    | error f => rfl

variable (t args named) in
theorem left_launch (i : Nat) (s : State) : let s' := left (launch t args named i) s
    s'.cache = s.cache ∧ s'.best = some i ∧ benches s'.toScratch = benches s.toScratch := by
  have hleft : left (launch t args named i) s = _ := left_trying _ { s with best := some i }
  rw [hleft]
  exact ⟨rfl, rfl, benches_start i _ s.toScratch⟩

/-- A launch: a tuner as it is at that time, and what is passed. -/
structure Call where
  tuner : Tuner
  args : List Argument
  named : Bindings

namespace Call

abbrev on {α : Type} (l : Call) (step : Tuner → List Argument → Bindings → α) : α := step l.tuner l.args l.named

def after (s : State) (l : Call) : State := left (l.on run) s

/-- A launch stores a configuration for a new key: the best of those that pruning left. -/
structure Stores (s : State) (l : Call) (key : Key) (i : Nat) : Prop where
  keyed : l.on keyOf = .ok key
  fresh : find? s key = none
  best : ∃ kept w, l.on prune s.toScratch = .ok kept w ∧ l.tuner.Best w.config kept i
  stored : (after s l).cache = s.cache ++ [(key, i)]

/-- A launch runs the kernel in a configuration without a measurement and stores nothing. -/
structure Uses (s : State) (l : Call) (i : Nat) : Prop where
  run : l.on run s = l.on launch i s
  benches : benches (after s l).toScratch = benches s.toScratch
  cache : (after s l).cache = s.cache

variable {s : State} {l : Call} {key : Key} {i : Nat}

theorem uses_of_choose (h : l.on choose s = .ok i s) : Uses s l i := by
  have hafter : after s l = left (l.on launch i) s := left_of_ok h
  obtain ⟨hcache, -, hbenches⟩ := left_launch l.tuner l.args l.named i s
  exact ⟨bind_of_ok h, hafter ▸ hbenches, hafter ▸ hcache⟩

theorem new_cases (hs : 1 < s.configs.length) (hkey : l.on keyOf = .ok key) (h : find? s key = none) :
    (∀ i w, l.on pick s.toScratch = .ok i w → Stores s l key i) ∧
    ∀ e w, l.on pick s.toScratch = .error e w → l.on run s = .error e { s with toScratch := w } := by
  refine ⟨fun i w hpick => ⟨hkey, h, pick_ok s.toScratch i w hpick, ?_⟩, fun e w hpick => ?_⟩
  · have htry : trying (l.on pick) s = .ok i { s with toScratch := w } := by rw [trying, hpick]
    have hchoose := (choose_new hs hkey h).trans (bind_of_ok htry)
    have hstore := left_store l.tuner l.args key i { s with toScratch := w }
    cases hstored : store l.tuner l.args key i { s with toScratch := w } with
    | ok u s₁ =>
      rw [left, hstored] at hstore
      have hafter : after s l = left (l.on launch i) s₁ := left_of_ok (hchoose.trans (bind_of_ok hstored))
      rw [hafter, (left_launch l.tuner l.args l.named i s₁).1, hstore]
    | error e s₁ =>
      rw [left, hstored] at hstore
      have hafter : after s l = s₁ := left_of_error (hchoose.trans (bind_of_error hstored))
      rw [hafter, hstore]
  · have htry : trying (l.on pick) s = .error e { s with toScratch := w } := by rw [trying, hpick]
    exact bind_of_error ((choose_new hs hkey h).trans (bind_of_error htry))

theorem after_cases (s : State) (l : Call) : (after s l).cache = s.cache ∨ ∃ key i, Stores s l key i := by
  by_cases hs : 1 < s.configs.length
  · cases hkey : l.on keyOf with
    | error e =>
      have hafter : after s l = s := left_of_error (choose_refused hs hkey)
      exact .inl (by rw [hafter])
    | ok key =>
      cases h : find? s key with
      | some i => exact .inl (uses_of_choose (choose_known hs hkey h)).cache
      | none =>
        obtain ⟨hok, herror⟩ := new_cases hs hkey h
        cases hpick : l.on pick s.toScratch with
        | ok i w => exact .inr ⟨key, i, hok i w hpick⟩
        | error e w => exact .inl (by rw [after, left, herror e w hpick])
  · exact .inl (uses_of_choose (choose_single (by omega))).cache

theorem find?_after (h : find? s key = some i) : find? (after s l) key = some i := by
  rcases after_cases s l with hcache | ⟨key', j, hstores⟩
  · rwa [find?, hcache]
  · rw [find?, hstores.stored, List.find?_append]
    obtain ⟨e, he, rfl⟩ := Option.map_eq_some_iff.1 h
    rw [he]
    rfl

theorem Stores.find? (h : Stores s l key i) {key' : Key} (hnew : find? s key' = none) (hsame : sameKey key key') :
    find? (after s l) key' = some i := by
  rw [Tuner.find?, h.stored, List.find?_append, Option.map_eq_none_iff.1 hnew]
  simp [hsame]

/-- A kernel with two configurations, of which the one at place `n` is faster. -/
def sized (n : Nat) : Call where
  tuner := { params := ["n"], keyPositions := [0], measure := fun i _ => .ok [.int (if i = n then 1 else 2)] }
  args := [.value (.int n)]
  named := []

def twoConfigs : State := { configs := [{ numWarps := 4 }, { numWarps := 8 }] }

/-- The configuration of the last launch answers every query, whatever key it asks for: it is the one stored for the key of
that launch. -/
theorem lastBest_eq_choice {s' : State} (hrun : l.on run s = .ok () s') (args : List Argument) (named : Bindings)
    (hasked : args ≠ [] ∨ ∀ i ∈ l.tuner.keyPositions, (l.tuner.params[i]?).any fun n => named.any (·.1 == n)) :
    ∃ j, lastBest l.tuner args named s' = .ok (s'.config j) s' ∧
      ∀ key, 1 < s.configs.length → l.on keyOf = .ok key → sameKey key key → find? s' key = some j := by
  have hafter : after s l = s' := by rw [after, left, hrun]
  cases hchoose : l.on choose s with
  | error e s₁ => cases (bind_of_error hchoose).symm.trans hrun
  | ok j s₁ =>
    have hbest : s'.best = some j := by
      have hleft : after s l = left (l.on launch j) s₁ := left_of_ok hchoose
      rw [← hafter, hleft]
      exact (left_launch l.tuner l.args l.named j s₁).2.1
    refine ⟨j, ?_, fun key hs hkey hsame => ?_⟩
    · unfold lastBest
      dsimp only
      rw [if_neg]
      · rw [bind_of_ok (show (get : Tuned State) s' = .ok s' s' from rfl), hbest]
        rfl
      · rcases hasked with h | h <;> simp_all
    · cases h : find? s key with
      | some i =>
        cases (choose_known hs hkey h).symm.trans hchoose
        exact hafter ▸ find?_after h
      | none =>
        obtain ⟨hok, herror⟩ := new_cases hs hkey h
        cases hpick : l.on pick s.toScratch with
        | error e w => cases (herror e w hpick).symm.trans hrun
        | ok i w =>
          have htry : trying (l.on pick) s = .ok i { s with toScratch := w } := by rw [trying, hpick]
          have hstore : Ensures (store l.tuner l.args key i >>= fun _ => pure i) { s with toScratch := w } fun j _ => j = i :=
            Ensures.of_bind.2 fun _ _ _ => Ensures.of_pure.2 rfl
          obtain rfl := hstore j s₁ ((bind_of_ok htry).symm.trans ((choose_new hs hkey h).symm.trans hchoose))
          exact hafter ▸ (hok j w hpick).find? h hsame

theorem lastBest_after_second : ∃ s', (sized 1).on run (after twoConfigs (sized 0)) = .ok () s' ∧
    ∃ j, lastBest (sized 1).tuner [.value (.int 0)] [] s' = .ok (s'.config j) s' ∧ find? s' [.value (.int 1)] = some j := by
  refine ⟨_, rfl, ?_⟩
  obtain ⟨j, hlast, hkey⟩ := lastBest_eq_choice (l := sized 1) (s := after twoConfigs (sized 0)) rfl
    [.value (.int 0)] [] (.inl (by simp))
  exact ⟨j, hlast, hkey _ (by decide +kernel) rfl (by decide +kernel)⟩

/-- The answer for the first key after a launch with another one is not what is stored for the first. -/
theorem lastBest_of_other_key : let s := [sized 0, sized 1].foldl after twoConfigs
    find? s [.value (.int 0)] = some 0 ∧ (s.config 0).numWarps = 4 ∧
      ∃ c s', lastBest (sized 0).tuner [.value (.int 0)] [] s = .ok c s' ∧ c.numWarps = 8 := by
  exact ⟨by decide +kernel, by decide +kernel, _, _, rfl, by decide +kernel⟩

end Call

end TileKernel.Tuning.Tuner
