import Mathlib.Logic.Function.Basic
import Mathlib.Logic.Relation
import TileKernel.Store.Directory
import TileKernel.Proofs.Json.RoundTrip

/-! # Writers that share a directory

Any number of runs look up a group in one directory and then put files into it, the group file last. They take their steps
in any order, and a run may stop after any of them: it is then never chosen again, and what it left behind stays. The
invariant ties the directory to the history of finished puts. A file under a final name holds what some finished put wrote;
what was put once never disappears; and the members that a group file lists were all put before it.
-/

namespace TileKernel.Store

open List

/-! ## Files by name -/

variable (d : Directory) {name : String}

namespace Directory

@[simp] theorem get?_set (name other : String) (c : Content) :
    (d.set name c).get? other = if other = name then some c else d.get? other :=
  Table.lookup_put d name other c

@[simp] theorem get?_erase (name other : String) : (d.erase name).get? other = if other = name then none else d.get? other :=
  Table.lookup_without d name other

theorem groupMembers_groupText (members : List String) :
    groupMembers (groupText members) = .ok (some (members.mergeSort (· ≤ ·))) := by
  have hstr := Json.plainItems_map (f := .str) fun _ => rfl
  have hread : Json.read? (groupText members)
      = some (.obj [("child_paths", .arr ((members.mergeSort (· ≤ ·)).map .str))]) := by
    rw [groupText, Json.read?_dump]
    simp only [Json.plain, Json.plainMembers, hstr]
  rw [groupMembers, hread]
  simp [Json.get?, Json.items, filterMap_map, Function.comp_def, Json.str?]

theorem getGroup_of_list {d : Directory} {members : List String}
    (h : d.get? (groupName name) = some (.text (groupText members))) (hall : ∀ m ∈ members, d.has m)
    (path : String → String) : d.getGroup path name = .ok (some (members.mergeSort (· ≤ ·))) := by
  have hfind : (members.mergeSort (· ≤ ·)).find? (fun m => !d.has m) = none := by
    rw [find?_eq_none]
    intro m hm
    simpa using hall m (by simpa using hm)
  simp only [getGroup, h, Content.text?, Option.getD_some, groupMembers_groupText, bind, Except.bind, hfind]
  rfl

end Directory

open Directory

/-! ## Puts -/

/-- A file that is put under a name. The process that writes it and a number make its temporary name. -/
structure Put where
  name : String
  content : Content
  process : Nat := 0
  number : Nat := 0
deriving Inhabited

namespace Put

variable (p : Put)

def temporary : String := temporaryName p.name (toString p.process ++ "_" ++ toString p.number)

def steps : List WriteStep := writing p.temporary p.name p.content

def complete (d : Directory) : Directory := p.steps.foldl (fun d w => w.run d) d

theorem get?_complete (d : Directory) (name : String) :
    (p.complete d).get? name = if name = p.name then some p.content else if name = p.temporary then none else d.get? name := by
  simp only [complete, steps, writing, foldl_cons, foldl_nil, WriteStep.run, get?_set, if_true, get?_erase]
  split
  · rfl
  · split
    · rfl
    · rfl

end Put

/-- A name that no temporary file has: those end with a digit. -/
def IsFinal (name : String) : Prop := ∀ c ∈ name.toList.getLast?, c.isDigit = false

instance (name : String) : Decidable (IsFinal name) := Option.decidableForallMem _

theorem isFinal_append {a b : String} (hb : b.toList ≠ []) : IsFinal (a ++ b) ↔ IsFinal b := by
  rw [IsFinal, IsFinal, String.toList_append, getLast?_append_of_ne_nil _ hb]

theorem IsFinal.ne_temporary (h : IsFinal name) (p : Put) : name ≠ p.temporary := by
  rintro rfl
  have hne : (toString p.number).toList ≠ [] := by simp
  rw [Put.temporary, temporaryName, ← String.append_assoc, ← String.append_assoc, isFinal_append hne] at h
  have hlast := h _ (getLast?_eq_some_getLast hne)
  rw [DecimalDigits.allDigits_toString p.number _ (getLast_mem hne)] at hlast
  cases hlast

variable {puts : List Put}

theorem get?_puts (hnames : (puts.map Put.name).Nodup) (hfinal : ∀ p ∈ puts, IsFinal p.name) (d : Directory) :
    ∀ p ∈ puts, (puts.foldl (fun d p => p.complete d) d).get? p.name = some p.content := by
  induction puts using reverseRecOn with
  | nil => simp
  | append_singleton puts q ih =>
    rw [map_append, nodup_append] at hnames
    intro p hp
    rw [foldl_append, foldl_cons, foldl_nil, Put.get?_complete]
    rcases mem_append.1 hp with hp | hp
    · have hne : p.name ≠ q.name := hnames.2.2 _ (mem_map_of_mem hp) _ (by simp)
      rw [if_neg hne, if_neg ((hfinal p (mem_append_left _ hp)).ne_temporary q)]
      exact ih hnames.1 (fun r hr => hfinal r (mem_append_left _ hr)) p hp
    · rw [mem_singleton.1 hp, if_pos rfl]

def listName (kernel : String) : String := groupName (kernel ++ "." ++ "json")

theorem isFinal_listName (kernel : String) : IsFinal (listName kernel) := by
  rw [listName, groupName, ← String.append_assoc, isFinal_append (by decide)]
  decide

/-- The puts of run `i` that found the files `found`: files of its own that are no group files, and then its group file,
which lists only files of these two kinds. -/
def IsPlan (kernel : Nat → String) (i : Nat) (found : List String) (puts : List Put) : Prop :=
  (∀ p ∈ puts, IsFinal p.name) ∧ ∃ files members process number,
    puts = files ++ [⟨listName (kernel i), .text (groupText members), process, number⟩] ∧
    (∀ p ∈ files, ∀ k, p.name ≠ listName (kernel k)) ∧ ∀ m ∈ members, m ∈ found ∨ m ∈ files.map Put.name

variable {later : List Put} {p : Put}

namespace IsPlan

variable {kernel : Nat → String} {i : Nat} {found : List String}

theorem mono {found' : List String} (h : IsPlan kernel i found puts) (hsub : ∀ m ∈ found, m ∈ found') :
    IsPlan kernel i found' puts := by
  obtain ⟨hfinal, files, members, process, number, rfl, hfiles, hmembers⟩ := h
  exact ⟨hfinal, files, members, process, number, rfl, hfiles, fun m hm => (hmembers m hm).imp_left (hsub m)⟩

theorem tail {p q : Put} (h : IsPlan kernel i found (p :: q :: later)) : IsPlan kernel i (found ++ [p.name]) (q :: later) := by
  obtain ⟨hfinal, files, members, process, number, heq, hfiles, hmembers⟩ := h
  cases files with
  | nil => simp at heq
  | cons p' files =>
    obtain ⟨rfl, hlater⟩ := cons.inj heq
    refine ⟨fun r hr => hfinal r (mem_cons_of_mem _ hr), files, members, process, number, hlater,
      fun r hr => hfiles r (mem_cons_of_mem _ hr), fun m hm => ?_⟩
    have := hmembers m hm
    simp only [map_cons, mem_cons, mem_append, not_mem_nil, or_false] at this ⊢
    tauto

theorem group_put (h : IsPlan kernel i found (p :: later)) {k : Nat} (hk : p.name = listName (kernel k)) :
    ∃ members, p.content = .text (groupText members) ∧ ∀ m ∈ members, m ∈ found := by
  obtain ⟨hfinal, files, members, process, number, heq, hfiles, hmembers⟩ := h
  cases files with
  | nil =>
    obtain ⟨rfl, rfl⟩ := cons.inj heq
    exact ⟨members, rfl, fun m hm => by simpa using hmembers m hm⟩
  | cons p' files =>
    obtain ⟨rfl, -⟩ := cons.inj heq
    exact absurd hk (hfiles p mem_cons_self k)

end IsPlan

/-! ## Runs -/

/-- How far a run has come. -/
inductive Stage where
  | start
  /-- The group file lists `found`, and `left` are still to be looked for. -/
  | looking (found left : List String)
  /-- The group could not be read, or one of its files is missing. -/
  | failed
  /-- A put with the steps of it that are left, and the puts after it. -/
  | putting (p : Put) (steps : List WriteStep) (later : List Put)
  | ended

namespace Stage

def pending : Stage → List Put
  | putting p _ later => p :: later
  | _ => []

def before : List Put → Stage
  | [] => ended
  | p :: later => putting p p.steps later

@[simp] theorem pending_before (puts : List Put) : (before puts).pending = puts := by
  cases puts <;> rfl

end Stage

/-- A directory, the puts into it that are finished, and the runs on it. -/
structure System where
  directory : Directory := []
  finished : List Put := []
  stages : Nat → Stage := fun _ => .start

def System.move (s : System) (i : Nat) (stage : Stage) : System := { s with stages := Function.update s.stages i stage }

/-- A run takes a step. Run `i` compiles the kernel `kernel i`. -/
inductive Step (kernel : Nat → String) : System → System → Prop where
  | absent {s : System} (i : Nat) (hi : s.stages i = .start)
      (hd : s.directory.get? (listName (kernel i)) = none) :
      Step kernel s (s.move i (.looking [] []))
  | listed {s : System} (i : Nat) (c : Content) (ms : Option (List String)) (hi : s.stages i = .start)
      (hd : s.directory.get? (listName (kernel i)) = some c) (hms : groupMembers (c.text?.getD "") = .ok ms) :
      Step kernel s (s.move i (.looking (ms.getD []) (ms.getD [])))
  | unreadable {s : System} (i : Nat) (c : Content) (f : Fault) (hi : s.stages i = .start)
      (hd : s.directory.get? (listName (kernel i)) = some c) (hms : groupMembers (c.text?.getD "") = .error f) :
      Step kernel s (s.move i .failed)
  | there {s : System} (i : Nat) (found : List String) (m : String) (left : List String)
      (hi : s.stages i = .looking found (m :: left)) (hm : s.directory.has m = true) :
      Step kernel s (s.move i (.looking found left))
  | missing {s : System} (i : Nat) (found : List String) (m : String) (left : List String)
      (hi : s.stages i = .looking found (m :: left)) (hm : s.directory.has m = false) :
      Step kernel s (s.move i .failed)
  /-- No other run has a temporary name that the run takes. -/
  | plan {s : System} (i : Nat) (found : List String) (puts : List Put) (hi : s.stages i = .looking found [])
      (hplan : IsPlan kernel i found puts)
      (hfresh : ∀ k, k ≠ i → ∀ p ∈ puts, ∀ q ∈ (s.stages k).pending, p.temporary ≠ q.temporary) :
      Step kernel s (s.move i (.before puts))
  | write {s : System} (i : Nat) (p : Put) (w next : WriteStep) (steps : List WriteStep) (later : List Put)
      (hi : s.stages i = .putting p (w :: next :: steps) later) :
      Step kernel s { s.move i (.putting p (next :: steps) later) with directory := w.run s.directory }
  | finish {s : System} (i : Nat) (p : Put) (w : WriteStep) (later : List Put) (hi : s.stages i = .putting p [w] later) :
      Step kernel s { s.move i (.before later) with directory := w.run s.directory, finished := s.finished ++ [p] }

theorem Step.put {kernel : Nat → String} {s : System} {i : Nat} (hi : s.stages i = .putting p p.steps later) :
    Relation.ReflTransGen (Step kernel) s
      { s.move i (.before later) with directory := p.complete s.directory, finished := s.finished ++ [p] } := by
  have h₁ := Relation.ReflTransGen.single (show Step kernel s _ from .write i p _ _ _ later hi)
  have h₂ := h₁.tail (.write i p _ _ _ later (Function.update_self ..))
  have h₃ := h₂.tail (.finish i p _ later (Function.update_self ..))
  simpa [System.move, Put.complete, Put.steps, writing] using h₃

/-! ## The invariant -/

/-- The steps of a put that are left, and what its temporary file holds before the last of them. -/
def Remains (p : Put) (steps : List WriteStep) : Prop :=
  steps = p.steps ∨ steps = [.fill p.temporary p.content, .rename p.temporary p.name] ∨
    steps = [.rename p.temporary p.name] ∧ d.get? p.temporary = some p.content

def StageSound (kernel : Nat → String) (s : System) (i : Nat) : Stage → Prop
  | .start | .ended => True
  | .looking found left => ∀ m, m ∈ found ∨ m ∈ left → m ∈ s.finished.map Put.name
  | .failed => False
  | .putting p steps later => IsPlan kernel i (s.finished.map Put.name) (p :: later) ∧ Remains s.directory p steps

/-- The directory agrees with the finished puts, and every run with both. -/
structure Sound (kernel : Nat → String) (s : System) : Prop where
  complete : ∀ name c, IsFinal name → s.directory.get? name = some c → ∃ p ∈ s.finished, p.name = name ∧ p.content = c
  present : ∀ p ∈ s.finished, IsFinal p.name ∧ (s.directory.get? p.name).isSome
  grouped : ∀ p ∈ s.finished, ∀ k, p.name = listName (kernel k) →
    ∃ members, p.content = .text (groupText members) ∧ ∀ m ∈ members, m ∈ s.finished.map Put.name
  staged : ∀ i, StageSound kernel s i (s.stages i)
  apart : ∀ i k, k ≠ i → ∀ p ∈ (s.stages i).pending, ∀ q ∈ (s.stages k).pending, p.temporary ≠ q.temporary

/-! ## One step -/

section Step

variable {kernel : Nat → String} {s : System} {i : Nat} {stage : Stage} {steps : List WriteStep} {w next : WriteStep}
  {d : Directory}

theorem Remains.write (h : Remains d p (w :: next :: steps)) :
    Remains (w.run d) p (next :: steps) ∧ ∀ name, name ≠ p.temporary → (w.run d).get? name = d.get? name := by
  rcases h with h | h | ⟨h, -⟩
  · obtain ⟨rfl, hrest⟩ := cons.inj h
    refine ⟨.inr (.inl hrest), fun name hname => ?_⟩
    simp [WriteStep.run, hname]
  · obtain ⟨rfl, hrest⟩ := cons.inj h
    refine ⟨.inr (.inr ⟨hrest, by simp [WriteStep.run]⟩), fun name hname => ?_⟩
    simp [WriteStep.run, hname]
  · simp at h

theorem Remains.finish {w : WriteStep} (h : Remains d p [w]) (name : String) :
    (w.run d).get? name = if name = p.name then some p.content else if name = p.temporary then none else d.get? name := by
  rcases h with h | h | ⟨h, hd⟩
  · simp [Put.steps, writing] at h
  · simp at h
  · obtain ⟨rfl, -⟩ := cons.inj h
    simp [WriteStep.run, hd]

theorem StageSound.frame {s' : System} (h : StageSound kernel s i stage)
    (hfinished : ∀ m ∈ s.finished.map Put.name, m ∈ s'.finished.map Put.name)
    (hdirectory : ∀ p ∈ stage.pending, s'.directory.get? p.temporary = s.directory.get? p.temporary) :
    StageSound kernel s' i stage := by
  cases stage with
  | start => trivial
  | ended => trivial
  | failed => exact h
  | looking found left => exact fun m hm => hfinished m (h m hm)
  | putting p steps later =>
    refine ⟨h.1.mono hfinished, ?_⟩
    rw [Remains, hdirectory p mem_cons_self]
    exact h.2

theorem StageSound.before (h : puts ≠ [] → IsPlan kernel i (s.finished.map Put.name) puts) :
    StageSound kernel s i (.before puts) := by
  cases puts with
  | nil => trivial
  | cons p later => exact ⟨h (cons_ne_nil _ _), .inl rfl⟩

theorem apart_update (h : ∀ j k, k ≠ j → ∀ p ∈ (s.stages j).pending, ∀ q ∈ (s.stages k).pending, p.temporary ≠ q.temporary)
    (hstage : ∀ k, k ≠ i → ∀ p ∈ stage.pending, ∀ q ∈ (s.stages k).pending, p.temporary ≠ q.temporary) (j k : Nat) (hne : k ≠ j) :
    ∀ p ∈ (Function.update s.stages i stage j).pending, ∀ q ∈ (Function.update s.stages i stage k).pending,
      p.temporary ≠ q.temporary := by
  by_cases hj : j = i
  · subst hj
    simpa [hne] using hstage k hne
  · by_cases hk : k = i
    · subst hk
      simpa [hj] using fun p hp q hq => (hstage j hj q hq p hp).symm
    · simpa [hj, hk] using h j k hne

namespace Sound

theorem move (h : Sound kernel s) (hstage : StageSound kernel s i stage)
    (hapart : ∀ k, k ≠ i → ∀ p ∈ stage.pending, ∀ q ∈ (s.stages k).pending, p.temporary ≠ q.temporary) :
    Sound kernel (s.move i stage) where
  complete := h.complete
  present := h.present
  grouped := h.grouped
  staged := by
    refine (Function.forall_update_iff s.stages _).2 ⟨hstage.frame (fun _ hm => hm) (fun _ _ => rfl), fun k _ => ?_⟩
    exact (h.staged k).frame (fun _ hm => hm) (fun _ _ => rfl)
  apart := apart_update h.apart hapart

theorem listed (h : Sound kernel s) {k : Nat} {c : Content} (hc : s.directory.get? (listName (kernel k)) = some c) :
    ∃ members, c = .text (groupText members) ∧ ∀ m ∈ members, m ∈ s.finished.map Put.name := by
  obtain ⟨p, hp, hname, rfl⟩ := h.complete _ c (isFinal_listName _) hc
  exact h.grouped p hp k hname

theorem has_of_finished (h : Sound kernel s) {m : String} (hm : m ∈ s.finished.map Put.name) : s.directory.has m := by
  obtain ⟨p, hp, rfl⟩ := mem_map.1 hm
  simp [has, (h.present p hp).2]

theorem write (h : Sound kernel s) (hi : s.stages i = .putting p (w :: next :: steps) later) :
    Sound kernel { s.move i (.putting p (next :: steps) later) with directory := w.run s.directory } := by
  have hsound := h.staged i
  have hapart := h.apart i
  rw [hi] at hsound hapart
  obtain ⟨hplan, hremains⟩ := hsound
  obtain ⟨hremains', hframe⟩ := hremains.write
  have hfinal {name : String} (hname : IsFinal name) : (w.run s.directory).get? name = s.directory.get? name :=
    hframe name (hname.ne_temporary p)
  refine ⟨fun name c hname hc => ?_, fun q hq => ?_, h.grouped, ?_, ?_⟩
  · rw [hfinal hname] at hc
    exact h.complete name c hname hc
  · rw [hfinal (h.present q hq).1]
    exact h.present q hq
  · refine (Function.forall_update_iff s.stages _).2 ⟨⟨hplan, hremains'⟩, fun k hk => ?_⟩
    exact (h.staged k).frame (fun _ hm => hm) fun q hq => hframe _ (hapart k hk p mem_cons_self q hq).symm
  · exact apart_update h.apart hapart

theorem finish (h :
    Sound kernel s) {w : WriteStep} (hi : s.stages i = .putting p [w] later) : Sound kernel
      { s.move i (.before later) with directory := w.run s.directory, finished := s.finished ++ [p] } := by
  have hsound := h.staged i
  have hapart := h.apart i
  rw [hi] at hsound hapart
  obtain ⟨hplan, hremains⟩ := hsound
  have hpfinal : IsFinal p.name := hplan.1 p mem_cons_self
  have hmore : ∀ m ∈ s.finished.map Put.name, m ∈ (s.finished ++ [p]).map Put.name := by
    intro m hm
    rw [map_append]
    exact mem_append_left _ hm
  have hfinal {name : String} (hname : IsFinal name) (hne : name ≠ p.name) :
      (w.run s.directory).get? name = s.directory.get? name := by
    rw [hremains.finish, if_neg hne, if_neg (hname.ne_temporary p)]
  have hown : (w.run s.directory).get? p.name = some p.content := by
    rw [hremains.finish, if_pos rfl]
  refine ⟨fun name c hname hc => ?_, fun q hq => ?_, fun q hq k hk => ?_, ?_, ?_⟩
  · by_cases hne : name = p.name
    · subst hne
      exact ⟨p, by simp, rfl, Option.some.inj (hown.symm.trans hc)⟩
    · rw [hfinal hname hne] at hc
      obtain ⟨q, hq, hq'⟩ := h.complete name c hname hc
      exact ⟨q, mem_append_left _ hq, hq'⟩
  · by_cases hne : q.name = p.name
    · rw [hne, hown]
      exact ⟨hpfinal, rfl⟩
    · have hq' : q ∈ s.finished := by
        rcases mem_append.1 hq with hq | hq
        · exact hq
        · exact absurd (by rw [mem_singleton.1 hq]) hne
      rw [hfinal (h.present q hq').1 hne]
      exact h.present q hq'
  · -- a group file lists what was finished before it
    rcases mem_append.1 hq with hq | hq
    · obtain ⟨members, hc, hmembers⟩ := h.grouped q hq k hk
      exact ⟨members, hc, fun m hm => hmore m (hmembers m hm)⟩
    · rw [mem_singleton.1 hq] at hk ⊢
      obtain ⟨members, hc, hmembers⟩ := hplan.group_put hk
      exact ⟨members, hc, fun m hm => hmore m (hmembers m hm)⟩
  · refine (Function.forall_update_iff s.stages _).2 ⟨StageSound.before fun hne => ?_, fun k hk => ?_⟩
    · obtain ⟨q, rest, rfl⟩ := exists_cons_of_ne_nil hne
      simpa using hplan.tail
    · refine (h.staged k).frame hmore fun q hq => ?_
      have htemporary : q.temporary ≠ p.temporary := (hapart k hk p mem_cons_self q hq).symm
      rw [hremains.finish, if_neg (hpfinal.ne_temporary q).symm, if_neg htemporary]
  · refine apart_update h.apart fun k hk q hq => ?_
    rw [Stage.pending_before] at hq
    exact hapart k hk q (mem_cons_of_mem _ hq)

theorem step {s' : System} (h : Sound kernel s) (hs : Step kernel s s') : Sound kernel s' := by
  cases hs with
  | absent i hi hd => exact h.move (by simp [StageSound]) (by simp [Stage.pending])
  | listed i c ms hi hd hms =>
    obtain ⟨members, rfl, hmembers⟩ := h.listed hd
    rw [Content.text?, Option.getD_some, groupMembers_groupText] at hms
    obtain rfl := Except.ok.inj hms
    refine h.move (fun m hm => hmembers m ?_) (by simp [Stage.pending])
    simpa using hm
  | unreadable i c f hi hd hms =>
    obtain ⟨members, rfl, -⟩ := h.listed hd
    rw [Content.text?, Option.getD_some, groupMembers_groupText] at hms
    cases hms
  | there i found m left hi hm =>
    have hsound := h.staged i
    rw [hi] at hsound
    exact h.move (fun m' hm' => hsound m' (hm'.imp_right (mem_cons_of_mem _))) (by simp [Stage.pending])
  | missing i found m left hi hm =>
    have hsound := h.staged i
    rw [hi] at hsound
    have hthere : s.directory.has m := h.has_of_finished (hsound m (.inr mem_cons_self))
    rw [hthere] at hm
    cases hm
  | plan i found puts hi hplan hfresh =>
    have hsound := h.staged i
    rw [hi] at hsound
    refine h.move (StageSound.before fun _ => hplan.mono fun m hm => hsound m (.inl hm)) fun k hk p hp => ?_
    rw [Stage.pending_before] at hp
    exact hfresh k hk p hp
  | write i p w next steps later hi => exact h.write hi
  | finish i p w later hi => exact h.finish hi

theorem reachable (h : Relation.ReflTransGen (Step kernel) {} s) : Sound kernel s := by
  induction h with
  | refl =>
    exact ⟨by simp [get?], by simp, by simp, fun _ => trivial, fun _ _ _ => by simp [Stage.pending]⟩
  | tail _ hstep ih => exact ih.step hstep

theorem getGroup_eq_ok (h : Sound kernel s) (k : Nat) (path : String → String) :
    ∃ ms, s.directory.getGroup path (kernel k ++ "." ++ "json") = .ok ms := by
  cases hd : s.directory.get? (listName (kernel k)) with
  | none =>
    rw [getGroup, show groupName (kernel k ++ "." ++ "json") = listName (kernel k) from rfl, hd]
    exact ⟨none, rfl⟩
  | some c =>
    obtain ⟨members, rfl, hmembers⟩ := h.listed hd
    exact ⟨_, getGroup_of_list hd (fun m hm => h.has_of_finished (hmembers m hm)) path⟩

end Sound

end Step

end TileKernel.Store
