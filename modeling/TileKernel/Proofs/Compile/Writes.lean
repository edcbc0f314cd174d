import TileKernel.Compile.Kernel
import TileKernel.Proofs.Store.Writers

/-! # What a compilation writes

A compilation changes the directory of its key only, and there it makes one put after the other: the forms that were not
stored, the binary beside the native form, the metadata unless they were stored, and the list of the group at the end.
-/

namespace TileKernel.Compile

open Steps Store Launch Lowering Pipeline List
open Ensures (of_bind of_get of_modify of_pure of_throw)

def State.directory (st : State) (key : String) : Directory := (st.kernels.lookup key).getD []

/-- From one state to another the files were put into the directory of a key, and no digests were learned. -/
structure Wrote (key : String) (puts : List Put) (st st' : State) : Prop where
  own : st'.directory key = puts.foldl (fun d p => p.complete d) (st.directory key)
  others : ∀ k, k ≠ key → st'.directory k = st.directory k
  table : st'.table = st.table

namespace Wrote

variable {key : String} {st st' st'' : State}

theorem of_eq (hkernels : st'.kernels = st.kernels) (htable : st'.table = st.table) : Wrote key [] st st' where
  own := by simp [State.directory, hkernels]
  others k _ := by simp [State.directory, hkernels]
  table := htable

theorem trans {ps qs : List Put} (h : Wrote key ps st st') (h' : Wrote key qs st' st'') : Wrote key (ps ++ qs) st st'' where
  own := by rw [h'.own, h.own, foldl_append]
  others k hk := by rw [h'.others k hk, h.others k hk]
  table := h'.table.trans h.table

end Wrote

section

variable {key : String} {st : State}

/-! ## Steps that write nothing -/

variable {α : Type} {p : Progress} {j : Job} (s : Surroundings) (o : Options) (input : Input) {texts : Named String}

theorem ensures_lift (x : Except Fault α) : Ensures (lift x) st fun a st' => x = .ok a ∧ st' = st := by
  cases x with
  | ok a => exact of_pure.2 ⟨rfl, rfl⟩
  | error f => exact of_throw

/-- A step that only prints gives the same from every state. -/
def OnlyPrints {α : Type} (x : Compiling α) : Prop :=
  ∃ (r : Except Fault α) (t : String), ∀ st, x st = match r with
    | .ok a => .ok a { st with printed := st.printed ++ t }
    | .error f => .error f { st with printed := st.printed ++ t }

namespace OnlyPrints

variable {α : Type}

theorem pure (a : α) : OnlyPrints (pure a) := ⟨.ok a, "", fun st => by simp; rfl⟩

theorem throw (f : Fault) : OnlyPrints (throw f : Compiling α) := ⟨.error f, "", fun st => by simp; rfl⟩

theorem lift (x : Except Fault α) : OnlyPrints (lift x) := by
  cases x with
  | ok a => exact .pure a
  | error f => exact .throw f

theorem printing (x : Device.Printing α) : OnlyPrints (printing x) := by
  unfold Compile.printing
  cases h : x "" with
  | ok a t => exact ⟨.ok a, t, fun _ => rfl⟩
  | error f t => exact ⟨.error f, t, fun _ => rfl⟩

theorem bind {β : Type} {x : Compiling α} {f : α → Compiling β} (hx : OnlyPrints x) (hf : ∀ a, OnlyPrints (f a)) :
    OnlyPrints (x >>= f) := by
  obtain ⟨r, t, hx⟩ := hx
  cases r with
  | error e =>
    refine ⟨.error e, t, fun st => ?_⟩
    simp [Bind.bind, EStateM.bind, hx]
  | ok a =>
    obtain ⟨r', t', hf⟩ := hf a
    refine ⟨r', t ++ t', fun st => ?_⟩
    simp [Bind.bind, EStateM.bind, hx, hf, String.append_assoc]

end OnlyPrints

theorem onlyPrints_processor : OnlyPrints (processor s o) := by
  unfold processor
  split
  · split
    · split
      · exact .pure _
      · exact .pure _
      · split
        · exact .pure _
        · exact .throw _
    · exact .bind (.printing _) fun _ => .pure _
  · exact .throw _

theorem onlyPrints_prepare : OnlyPrints (prepare s o input) := by
  refine .bind (onlyPrints_processor s o) fun p => .bind ?_ fun numWarps => .bind (.lift _) fun _ =>
    .bind (.lift _) fun cluster => .bind (.lift _) fun libraries => .lift _
  unfold warpsOf
  split
  · exact .pure _
  · exact .bind (.printing _) fun _ => .pure _

/-- A step that puts no file. -/
def Quiet (key : String) (x : Compiling α) : Prop := ∀ st, Ensures x st fun _ st' => Wrote key [] st st'

theorem OnlyPrints.quiet {x : Compiling α} (h : OnlyPrints x) (key : String) : Quiet key x := by
  obtain ⟨r, t, hx⟩ := h
  intro st a st' h
  rw [hx] at h
  cases r with
  | ok a =>
    cases h
    exact .of_eq rfl rfl
  | error f => cases h

namespace Quiet

theorem bind {β : Type} {x : Compiling α} {f : α → Compiling β} (hx : Quiet key x) (hf : ∀ a, Quiet key (f a)) :
    Quiet key (x >>= f) :=
  fun st => of_bind.2 ((hx st).mono fun a st' h => (hf a st').mono fun _ _ h' => h.trans h')

theorem forM {f : α → Compiling Unit} (hf : ∀ a, Quiet key (f a)) (xs : List α) : Quiet key (xs.forM f) := by
  induction xs with
  | nil => exact fun _ => of_pure.2 (.of_eq rfl rfl)
  | cons x xs ih => exact (hf x).bind fun _ => ih

theorem make (key : String) (j : Job) (f : Form) (before : Artifact) : Quiet key (make j f before) := by
  have hlift {α : Type} (x : Except Fault α) : Quiet key (lift x) := (OnlyPrints.lift x).quiet key
  have hpass (steps : List Step) : Quiet key (pass steps) := fun _ => of_modify.2 (.of_eq rfl rfl)
  have hcall (c : Call) : Quiet key (call c) := fun _ => of_modify.2 (.of_eq rfl rfl)
  have hpure {α : Type} (a : α) : Quiet key (pure a) := fun _ => of_pure.2 (.of_eq rfl rfl)
  unfold Compile.make
  split
  · refine bind (fun _ => of_get.2 (.of_eq rfl rfl)) fun _ => bind (fun _ => of_modify.2 (.of_eq rfl rfl)) fun _ => ?_
    exact (hlift _).bind fun _ => (hpass _).bind fun _ => hpure _
  · exact (hpass _).bind fun _ => (hlift _).bind fun _ => (hpass _).bind fun _ => hpure _
  · exact (hlift _).bind fun _ => (forM hcall _).bind fun _ => hpure _
  · exact (hlift _).bind fun _ => (hcall _).bind fun _ => hpure _
  · exact (hcall _).bind fun _ => hpure _
  · exact (hcall _).bind fun _ => hpure _
  · exact fun _ => of_throw

end Quiet

/-! ## Puts -/

theorem directory_eq (key : String) (st : State) : directory key st = .ok (st.directory key) st := rfl

theorem change_wrote {f : Directory → Except Fault Directory} {p : Put} {P : Prop}
    (hf : ∀ d d', f d = .ok d' → P ∧ d' = p.complete d) : Ensures (change key f) st fun _ st' => P ∧ Wrote key [p] st st' := by
  simp only [change, of_bind, of_modify]
  rintro d st' ⟨⟩
  refine (ensures_lift _).mono ?_
  rintro d' st' ⟨hd, rfl⟩
  obtain ⟨hP, rfl⟩ := hf _ _ hd
  refine ⟨hP, ?_, fun k hk => ?_, rfl⟩
  · simp [State.directory]
  · simp only [State.directory]
    rw [Table.lookup_cons, if_neg hk, Table.lookup_without, if_neg hk]

theorem put_eq_ok {d d' : Directory} {name : String} {c : Content} :
    d.put name c = .ok d' ↔ name.toList.contains '/' = false ∧ d' = Put.complete { name, content := c } d := by
  have hwriter : toString 0 ++ "_" ++ toString 0 = "0_0" := by decide
  rw [Put.complete, Put.steps, Put.temporary, hwriter, Directory.put]
  cases name.toList.contains '/' with
  | true => simp
  | false => simp [eq_comm]

def textPut (j : Job) (p : String × String) : Put := { name := fileName j p.1, content := .text p.2 }

theorem stores_wrote (j : Job) (texts : Named String) :
    Ensures (texts.forM fun (n, t) => store key (fileName j n) (.text t)) st fun _ st' =>
      Wrote key (texts.map (textPut j)) st st' := by
  induction texts generalizing st with
  | nil => exact of_pure.2 (.of_eq rfl rfl)
  | cons p texts ih =>
    refine of_bind.2 ((change_wrote (p := textPut j p) fun _ _ => put_eq_ok.1).mono fun _ _ h => ?_)
    exact ih.mono fun _ _ h' => h.2.trans h'

theorem stored_spec (file : String) : Ensures (stored key file) st fun t st' =>
    t = (((st.directory key).get? file).bind Content.text?).getD "" ∧ st' = st := by
  rintro _ _ ⟨⟩
  exact ⟨rfl, rfl⟩

/-- What the next form is, where it comes from, and what is written for it. -/
inductive Obtained (j : Job) (key : String) (p : Progress) (f : Form) (st : State) : Artifact × Progress → State → Prop where
  | given (hending : f.name = j.ending) : Obtained j key p f st (given j f, p) st
  | stored (a : Artifact) (hending : f.name ≠ j.ending) (hfile : fileName j f.name ∈ p.members) :
      Obtained j key p f st (a, p) st
  | made (a : Artifact) (st' : State) (hending : f.name ≠ j.ending) (hfile : fileName j f.name ∉ p.members)
      (hwrote : Wrote key ((formTexts f a).map (textPut j)) st st') :
      Obtained j key p f st (a, (formTexts f a).foldl (fun p (n, _) => p.add (fileName j n)) p) st'

theorem obtainForm_spec (j : Job) (p : Progress) (f : Form) :
    Ensures (obtainForm j key p f) st fun r st' => Obtained j key p f st r st' := by
  unfold obtainForm
  by_cases hending : f.name = j.ending
  · rw [if_pos (by simpa using hending), of_pure]
    exact .given hending
  rw [if_neg (by simpa using hending)]
  by_cases hmember : fileName j f.name ∈ p.members
  · rw [if_pos (by simpa using hmember), of_bind]
    have hform : Ensures (storedForm j key p f) st fun _ st' => st' = st := by
      rw [storedForm, of_bind]
      refine (stored_spec _).mono ?_
      rintro text st' ⟨-, rfl⟩
      split
      · exact of_pure.2 rfl
      · split
        · rw [of_bind]
          refine (stored_spec _).mono ?_
          rintro extra st' ⟨-, rfl⟩
          exact of_pure.2 rfl
        · exact of_throw
    refine hform.mono ?_
    rintro a st' rfl
    exact of_pure.2 (.stored a hending hmember)
  · rw [if_neg (by simpa using hmember)]
    simp only [produce, of_bind]
    refine (Quiet.make key j f p.last st).mono fun a st' hmade => ?_
    refine (stores_wrote j _).mono fun _ st'' hstored => ?_
    exact of_pure.2 (.made a st'' hending hmember (hmade.trans hstored))

theorem advance_spec (j : Job) (p : Progress) (f : Form) :
    Ensures (advance j key p f) st fun p' st' => ∃ a q, Obtained j key p f st (a, q) st' ∧
      learn j f a q.metadata = .ok p'.metadata ∧ p'.members = q.members ∧ p'.texts = q.texts ++ formTexts f a := by
  simp only [advance, of_bind]
  refine (obtainForm_spec j p f).mono fun r st' hr => ?_
  refine (ensures_lift _).mono ?_
  rintro m st' ⟨hm, rfl⟩
  exact of_pure.2 ⟨r.1, r.2, hr, hm, rfl, rfl⟩

/-! ## A compilation -/

def listPut (j : Job) (members : List String) : Put := { name := listName j.name, content := .text (Directory.groupText members) }

/-- What is written behind the forms, and the files that belong to the kernel then. -/
def lastPuts (j : Job) (found : List String) (p : Progress) : List Put × List String :=
  if metadataName j ∈ found then ([], p.members)
  else ([textPut j ("json", (finalMetadata j p.metadata).text)], (p.add (metadataName j)).members)

/-- How a compilation went: it read the list of the group `found`, found or made the forms, and wrote the rest. -/
structure Ran (s : Surroundings) (o : Options) (input : Input) (st : State) (c : Compiled) (st' : State) (j : Job) (key : String)
    (st₁ st₂ : State) (found : Option (List String)) (p : Progress) : Prop where
  prepare : ∃ st₀, prepare s o input st = .ok j st₀ ∧ keyOf j st₀ = .ok key st₁
  group : (st₁.directory key).getGroup (fun f => s.place ++ "/" ++ key ++ "/" ++ f) (metadataName j) = .ok found
  forms : ∃ m fs, knownMetadata j key (found.getD []) st₁ = .ok m st₁ ∧ Form.from? j.processor.forms j.ending = .ok fs ∧
    fs.foldlM (advance j key) { members := found.getD [], metadata := m.set "device_type" j.kind } st₁ = .ok p st₂
  named : (listName j.name).toList.contains '/' = false
  wrote : Wrote key ((lastPuts j (found.getD []) p).1 ++ [listPut j (lastPuts j (found.getD []) p).2]) st₂ st'
  result : c = { metadata := finalMetadata j p.metadata, texts := p.texts, kind := j.kind }

theorem knownMetadata_spec (j : Job) (members : List String) : Ensures (knownMetadata j key members) st fun _ st' => st' = st := by
  unfold knownMetadata
  split
  · refine of_bind.2 ((stored_spec _).mono ?_)
    rintro text st' ⟨-, rfl⟩
    exact (ensures_lift _).mono fun _ _ h => h.2
  · exact (ensures_lift _).mono fun _ _ h => h.2

theorem keepMetadata_spec (j : Job) (found : List String) (p : Progress) :
    Ensures (keepMetadata j key found p (finalMetadata j p.metadata)) st fun p' st' =>
      Wrote key (lastPuts j found p).1 st st' ∧ p'.members = (lastPuts j found p).2 ∧ p'.texts = p.texts := by
  unfold keepMetadata lastPuts
  by_cases hfound : metadataName j ∈ found
  · rw [if_pos (by simpa using hfound), if_pos hfound, of_pure]
    exact ⟨.of_eq rfl rfl, rfl, rfl⟩
  · rw [if_neg (by simpa using hfound), if_neg hfound, of_bind]
    refine (change_wrote fun _ _ => put_eq_ok.1).mono fun _ st' h => ?_
    exact of_pure.2 ⟨h.2, rfl, rfl⟩

theorem run_spec :
    Ensures (run s o input) st fun c st' => ∃ j key st₁ st₂ found p, Ran s o input st c st' j key st₁ st₂ found p := by
  simp only [run, of_bind]
  intro j st₀ hj key st₁ hkey
  rintro d st₁ ⟨⟩
  refine (ensures_lift _).mono ?_
  rintro found st₁ ⟨hfound, rfl⟩ m st₁' hm
  obtain rfl := knownMetadata_spec j _ m st₁' hm
  refine (ensures_lift _).mono ?_
  rintro fs st₁ ⟨hfs, rfl⟩ p st₂ hp
  rw [of_modify]
  refine (keepMetadata_spec j _ p).mono ?_
  rintro p' st₃ ⟨hkept, hmembers, htexts⟩
  refine (change_wrote (p := listPut j p'.members) fun _ _ => put_eq_ok.1).mono fun _ st' hlist => ?_
  refine of_pure.2 ⟨j, key, _, st₂, found, p, ⟨st₀, hj, hkey⟩, hfound, ⟨m, fs, hm, hfs, hp⟩, hlist.1, ?_, ?_⟩
  · rw [← hmembers]
    have hstubs (stubs : List StubRequest) : Wrote key [] st₂ { st₂ with stubs := stubs } := .of_eq rfl rfl
    exact (hstubs _).trans (hkept.trans hlist.2)
  · rw [htexts]

/-! ## The puts of a compilation -/

/-- Endings of files of a kernel: too short for the name of a list, and without a digit at the end. -/
structure IsEnding (e : String) : Prop where
  final : IsFinal e
  nonempty : e.toList ≠ []
  short : e.toList.length ≤ 10

theorem isEnding_of_mem_formTexts {f : Form} {a : Artifact} {p : String × String} (h : p ∈ formTexts f a) : IsEnding p.1 := by
  have hname : IsEnding f.name := by cases f <;> exact ⟨by decide, by decide, by decide⟩
  have hbinary : IsEnding Form.nativeBinary := ⟨by decide, by decide, by decide⟩
  simp only [formTexts, mem_cons] at h
  rcases h with rfl | h
  · exact hname
  · split at h
    · rw [mem_singleton.1 h]
      exact hbinary
    · cases h

theorem isEnding_json : IsEnding "json" := ⟨by decide, by decide, by decide⟩

theorem IsEnding.isFinal {e : String} (h : IsEnding e) (j : Job) : IsFinal (fileName j e) :=
  (isFinal_append h.nonempty).2 h.final

theorem IsEnding.ne_listName {e : String} (h : IsEnding e) (j : Job) : fileName j e ≠ listName j.name := by
  intro heq
  have hlength := congrArg (fun s => s.toList.length) heq
  have hshort := h.short
  have hgroup : "__grp__".toList.length = 7 := by decide
  have hjson : "json".toList.length = 4 := by decide
  have hdot : ".".toList.length = 1 := by decide
  simp only [fileName, listName, Directory.groupName, String.toList_append, length_append, hgroup, hjson, hdot] at hlength
  omega

theorem mem_members_add {file m : String} : m ∈ (p.add file).members ↔ m ∈ p.members ∨ m = file := by
  unfold Progress.add
  by_cases h : file ∈ p.members
  · simp only [contains_eq_mem, h, decide_true, if_true]
    exact ⟨.inl, fun hm => hm.elim id fun hm => hm ▸ h⟩
  · simp [h]

theorem mem_members_addAll {m : String} :
    m ∈ (texts.foldl (fun p (n, _) => p.add (fileName j n)) p).members ↔
      m ∈ p.members ∨ m ∈ (texts.map (textPut j)).map Put.name := by
  induction texts generalizing p with
  | nil => simp
  | cons t texts ih =>
    rw [foldl_cons, ih, mem_members_add]
    simp only [map_cons, mem_cons, textPut]
    tauto

/-- Texts have endings, and beyond the members from before only their files are members. -/
structure Adds (j : Job) (before : List String) (texts : Named String) (members : List String) : Prop where
  endings : ∀ t ∈ texts, IsEnding t.1
  members : ∀ m ∈ members, m ∈ before ∨ m ∈ (texts.map (textPut j)).map Put.name

theorem Adds.none (j : Job) (members : List String) : Adds j members [] members := ⟨by simp, fun _ => .inl⟩

theorem Adds.trans {ms ms' ms'' : List String} {texts' : Named String} (h : Adds j ms texts ms') (h' : Adds j ms' texts' ms'') :
    Adds j ms (texts ++ texts') ms'' where
  endings t ht := (mem_append.1 ht).elim (h.endings t) (h'.endings t)
  members m hm := by
    have hm' := h'.members m hm
    have hm'' := h.members m
    simp only [map_append, mem_append]
    tauto

def Grew (j : Job) (key : String) (members : List String) (st : State) (members' : List String) (st' : State) : Prop :=
  ∃ texts : Named String, Wrote key (texts.map (textPut j)) st st' ∧ Adds j members texts members'

theorem Grew.trans {ms ms' ms'' : List String} {st' st'' : State} (h : Grew j key ms st ms' st')
    (h' : Grew j key ms' st' ms'' st'') : Grew j key ms st ms'' st'' := by
  obtain ⟨texts, hwrote, hadds⟩ := h
  obtain ⟨texts', hwrote', hadds'⟩ := h'
  refine ⟨texts ++ texts', ?_, hadds.trans hadds'⟩
  rw [map_append]
  exact hwrote.trans hwrote'

theorem advance_grew (j : Job) (p : Progress) (f : Form) :
    Ensures (advance j key p f) st fun p' st' => Grew j key p.members st p'.members st' := by
  refine (advance_spec j p f).mono ?_
  rintro p' st' ⟨a, q, hq, -, hmembers, -⟩
  rw [hmembers]
  have hsame : Grew j key p.members st p.members st := ⟨[], .of_eq rfl rfl, .none ..⟩
  cases hq with
  | given hending => exact hsame
  | stored a hending hfile => exact hsame
  | made a st' hending hfile hwrote =>
    exact ⟨formTexts f a, hwrote, fun _ => isEnding_of_mem_formTexts, fun _ => mem_members_addAll.1⟩

theorem forms_grew (j : Job) (fs : List Form) (p : Progress) :
    Ensures (fs.foldlM (advance j key) p) st fun p' st' => Grew j key p.members st p'.members st' := by
  induction fs generalizing p st with
  | nil => exact of_pure.2 ⟨[], .of_eq rfl rfl, .none ..⟩
  | cons f fs ih =>
    rw [foldlM_cons, of_bind]
    exact (advance_grew j p f).mono fun p' st' h => (ih p').mono fun _ _ h' => h.trans h'

theorem lastPuts_adds (j : Job) (found : List String) (p : Progress) : ∃ texts : Named String,
    (lastPuts j found p).1 = texts.map (textPut j) ∧ Adds j p.members texts (lastPuts j found p).2 := by
  unfold lastPuts
  split
  · exact ⟨[], rfl, .none ..⟩
  · refine ⟨[("json", _)], rfl, ?_, fun m hm => ?_⟩
    · rintro t ht
      rw [mem_singleton.1 ht]
      exact isEnding_json
    · rw [mem_members_add] at hm
      simpa [textPut, metadataName] using hm

theorem Adds.isPlan {found members : List String} (h : Adds j found texts members) :
    IsPlan (fun _ => j.name) 0 found (texts.map (textPut j) ++ [listPut j members]) := by
  refine ⟨fun p hp => ?_, texts.map (textPut j), members, 0, 0, rfl, fun p hp k => ?_, h.members⟩
  · rcases mem_append.1 hp with hp | hp
    · obtain ⟨t, ht, rfl⟩ := mem_map.1 hp
      exact (h.endings t ht).isFinal j
    · rw [mem_singleton.1 hp]
      exact isFinal_listName _
  · obtain ⟨t, ht, rfl⟩ := mem_map.1 hp
    exact (h.endings t ht).ne_listName j

theorem keyOf_kernels (j : Job) : Ensures (keyOf j) st fun _ st' => st'.kernels = st.kernels := by
  unfold keyOf
  split
  · simp only [of_bind, of_get, of_modify]
    refine (ensures_lift _).mono ?_
    rintro k st' ⟨-, rfl⟩
    exact of_pure.2 rfl
  · exact of_pure.2 rfl

theorem Ran.directory_eq {s : Surroundings} {o : Options} {input : Input} {c : Compiled} {st' : State}
    {st₁ st₂ : State} {found : Option (List String)} (h : Ran s o input st c st' j key st₁ st₂ found p)
    (k : String) : st₁.directory k = st.directory k := by
  obtain ⟨st₀, hprepare, hkey⟩ := h.prepare
  have hprinted : st₀.directory k = st.directory k := by
    simpa using ((onlyPrints_prepare s o input).quiet k st j st₀ hprepare).own
  rw [← hprinted, State.directory, State.directory, keyOf_kernels j _ _ hkey]

theorem run_follows_plan :
    Ensures (run s o input) st fun _ st' => ∃ key kernel path found puts,
      (st.directory key).getGroup path (kernel ++ "." ++ "json") = .ok found ∧
      IsPlan (fun _ => kernel) 0 (found.getD []) puts ∧
      st'.directory key = puts.foldl (fun d p => p.complete d) (st.directory key) ∧
      ∀ k, k ≠ key → st'.directory k = st.directory k := by
  refine (run_spec s o input).mono ?_
  rintro c st' ⟨j, key, st₁, st₂, found, p, hran⟩
  obtain ⟨m, fs, -, -, hforms⟩ := hran.forms
  obtain ⟨texts, hwrote, hadds⟩ := forms_grew j fs _ _ _ hforms
  obtain ⟨texts', hputs, hadds'⟩ := lastPuts_adds j (found.getD []) p
  have hdirectory := hran.directory_eq
  have hall : Wrote key ((texts ++ texts').map (textPut j) ++ [listPut j (lastPuts j (found.getD []) p).2]) st₁ st' := by
    rw [map_append, append_assoc, ← hputs]
    exact hwrote.trans hran.wrote
  refine ⟨key, j.name, fun f => s.place ++ "/" ++ key ++ "/" ++ f, found, _, ?_, (hadds.trans hadds').isPlan, ?_, fun k hk => ?_⟩
  · rw [← hdirectory]
    exact hran.group
  · rw [hall.own, hdirectory]
  · rw [hall.others k hk, hdirectory]

end

/-- Any number of compilations on one directory, taking their steps in any order and stopping anywhere, leave complete files
under final names and lists whose files are all there, so that no group is ever read in vain. A compilation that runs alone
makes exactly the puts of such a run. -/
theorem interleaved_runs_leave_complete_groups :
    (∀ (kernel : Nat → String) (system : System), Relation.ReflTransGen (Store.Step kernel) {} system →
      (∀ name c, IsFinal name → system.directory.get? name = some c →
        ∃ p ∈ system.finished, p.name = name ∧ p.content = c) ∧
      (∀ i c, system.directory.get? (listName (kernel i)) = some c →
        ∃ members, c = .text (Directory.groupText members) ∧ ∀ m ∈ members, system.directory.has m = true) ∧
      (∀ i path, ∃ found, system.directory.getGroup path (kernel i ++ "." ++ "json") = .ok found) ∧
      ∀ i, system.stages i ≠ .failed) ∧
    ∀ (s : Surroundings) (o : Options) (input : Input) (st : State) (c : Compiled) (st' : State),
      run s o input st = .ok c st' → ∃ key kernel path found puts,
        (st.directory key).getGroup path (kernel ++ "." ++ "json") = .ok found ∧
        IsPlan (fun _ => kernel) 0 (found.getD []) puts ∧
        st'.directory key = puts.foldl (fun d p => p.complete d) (st.directory key) ∧
        ∀ k, k ≠ key → st'.directory k = st.directory k := by
  refine ⟨fun kernel system h => ?_, fun s o input st c st' h => run_follows_plan s o input c st' h⟩
  have hsound := Sound.reachable h
  refine ⟨hsound.complete, fun i c hc => ?_, hsound.getGroup_eq_ok, fun i hi => ?_⟩
  · obtain ⟨members, hmembers, hfinished⟩ := hsound.listed hc
    exact ⟨members, hmembers, fun m hm => hsound.has_of_finished (hfinished m hm)⟩
  · have hstage := hsound.staged i
    rw [hi] at hstage
    exact hstage

def oneForm (process : Nat) : List Put :=
  [⟨"k.ttir", .text "tile", process, 0⟩, ⟨listName "k", .text (Directory.groupText ["k.ttir"]), process, 0⟩]

theorem isPlan_oneForm (i process : Nat) : IsPlan (fun _ => "k") i [] (oneForm process) := by
  have hfinal : IsFinal "k.ttir" := by decide
  have hne : "k.ttir" ≠ listName "k" := by decide
  refine ⟨?_, [⟨"k.ttir", .text "tile", process, 0⟩], ["k.ttir"], process, 0, rfl, ?_, by simp⟩
  · simp [oneForm, hfinal, isFinal_listName]
  · simp [hne]

/-- Two runs of this kernel: the second stops when it has created its temporary file, the first goes on to its end. -/
theorem interleaved_runs_beside_stopped_run : ∃ system, Relation.ReflTransGen (Store.Step fun _ => "k") {} system ∧
    system.directory.get? "k.ttir.tmp.pid_1_0" = some (.text "") ∧
    ∃ c, system.directory.get? (listName "k") = some c ∧
      ∃ members, c = .text (Directory.groupText members) ∧ ∀ m ∈ members, system.directory.has m = true := by
  suffices h : ∃ system, Relation.ReflTransGen (Store.Step fun _ => "k") {} system ∧
      system.directory.get? "k.ttir.tmp.pid_1_0" = some (.text "") ∧
      system.directory.get? (listName "k") = some (.text (Directory.groupText ["k.ttir"])) by
    obtain ⟨system, hreach, hleft, hlist⟩ := h
    exact ⟨system, hreach, hleft, _, hlist, (interleaved_runs_leave_complete_groups.1 _ system hreach).2.1 0 _ hlist⟩
  have h₁ := Relation.ReflTransGen.single (show Store.Step (fun _ => "k") {} _ from .absent 0 rfl rfl)
  have h₂ := h₁.tail (.absent 1 rfl rfl)
  have h₃ := h₂.tail (.plan 0 [] _ rfl (isPlan_oneForm 0 0) fun k hk p _ q hq => by
    by_cases h : k = 1 <;> simp [System.move, Stage.pending, h, hk] at hq)
  have h₄ := h₃.tail (.plan 1 [] _ rfl (isPlan_oneForm 1 1) fun k hk p hp q hq => by
    have hapart : ∀ p ∈ oneForm 1, ∀ q ∈ oneForm 0, p.temporary ≠ q.temporary := by decide
    by_cases h : k = 0
    · subst h
      exact hapart p hp q hq
    · simp [System.move, Stage.pending, h, hk] at hq)
  have h₅ := h₄.tail (.write 1 _ _ _ _ _ rfl)
  have h₆ := h₅.trans (Store.Step.put (i := 0) rfl)
  refine ⟨_, h₆.trans (Store.Step.put (i := 0) rfl), ?_, ?_⟩
  · simp only [Put.get?_complete]
    decide
  · simp [Put.get?_complete]

end TileKernel.Compile
