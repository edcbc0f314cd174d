import TileKernel.Proofs.Compile.Writes
import TileKernel.Proofs.Launch.Digests

/-! # Compilations that find a stored kernel

A second compilation finds everything that the first one stored: it takes the forms from the files and the metadata from
their text, and what the forms tell is already known. So both give the same forms, and the metadata of the second are those
of the first as they are read back from their text.
-/

namespace TileKernel.Compile

open Steps Store Launch Lowering Pipeline List

/-! ## Metadata that are read back -/

/-- A value as it is read back from its text: tuples have become lists, keys of dictionaries texts, all NaNs the same one,
and what has no written form nothing. -/
def restored (v : Value) : Value := readBack (written v).plain

theorem plainMembers_eq_map (ms : Named Json) : Json.plainMembers ms = ms.map fun m => (m.1, m.2.plain) := by
  induction ms with
  | nil => rfl
  | cons m ms ih => simp [Json.plainMembers, ih]

variable {α : Type}

theorem plain_mapFields (t : TensorMap) : (Json.obj (mapFields t)).plain = .obj (mapFields t) := by
  have hints := Json.plainItems_map (f := .int) fun _ => rfl
  simp only [mapFields, Json.plain, Json.plainMembers, hints]

theorem mapOfFields_mapFields (t : TensorMap) : mapOfFields (.obj (mapFields t)) = { t with folded := [] } := by
  have hints (is : List Int) : (is.map Json.int).filterMap Json.int? = is := by
    simp [filterMap_map, Function.comp_def, Json.int?]
  simp [mapOfFields, mapFields, Json.get, Json.get?, Json.items, Json.int?, hints, lookup_cons]

variable {k : String} {p : String × Value}

namespace Metadata

def readBack (m : Metadata) : Metadata where
  fields := m.fields.map fun p => (p.1, restored p.2)
  maps := m.maps.map fun ms => ms.map fun t => { t with folded := [] }

variable {m : Metadata} {n : String}

def plainFields (m : Metadata) : Named Json := m.fields.map fun p => (p.1, (written p.2).plain)

theorem ofText_text (h : ∀ p ∈ m.fields, p.1 ≠ mapsName) : ofText m.text = .ok m.readBack := by
  have hnames : ∀ p ∈ m.plainFields, p.1 ≠ mapsName := by
    intro p hp
    obtain ⟨q, hq, rfl⟩ := mem_map.1 hp
    exact h q hq
  have hfilter : m.plainFields.filter (fun p => p.1 != mapsName) = m.plainFields :=
    filter_eq_self.2 fun p hp => by simpa using hnames p hp
  have hlookup : m.plainFields.lookup mapsName = none :=
    lookup_eq_none_iff.2 fun p hp => by simpa using (hnames p hp).symm
  have hread : Json.read? m.text = some (.obj (m.plainFields ++
      (m.maps.map fun ms => (mapsName, Json.arr (ms.map fun t => .obj (mapFields t)))).toList)) := by
    rw [text, Json.read?_dump, toJson, Json.plain,
      plainMembers_eq_map, map_append, map_map]
    cases m.maps with
    | none => rfl
    | some ms => simp [plainFields, Json.plain, Json.plainItems_map plain_mapFields]
  rw [ofText, hread]
  simp only [filter_append, hfilter, lookup_append, hlookup, readBack]
  cases m.maps with
  | none => simp [plainFields, restored]
  | some ms => simp [plainFields, restored, Json.items, mapOfFields_mapFields, Function.comp_def]

theorem mem_set {v : Value} (h : p ∈ (m.set n v).fields) : p = (n, v) ∨ p ∈ m.fields ∧ p.1 ≠ n :=
  Table.mem_put.1 h

theorem isSome_get?_iff : (m.get? n).isSome ↔ n ∈ m.fields.map Prod.fst := Table.isSome_lookup_iff

theorem mem_names_set {v : Value} : k ∈ (m.set n v).fields.map Prod.fst ↔ k ∈ m.fields.map Prod.fst ∨ k = n :=
  Table.mem_keys_put.trans or_comm

end Metadata

/-! ## What is noted on the way -/

/-- A fact that is noted: always, or only if nothing is known under its name. -/
structure Note where
  name : String
  value : Value
  always : Bool

namespace Note

def apply (m : Metadata) (u : Note) : Metadata := if u.always then m.set u.name u.value else m.setNew u.name u.value

/-- The fact is known already. -/
def Settled (u : Note) (m : Metadata) : Prop :=
  u.name ∈ m.fields.map Prod.fst ∧ (u.always = true → ∀ p ∈ m.fields, p.1 = u.name → p.2 = u.value)

variable {m : Metadata} {us : List Note}

theorem mem_apply {u : Note} (h : p ∈ (apply m u).fields) : p.1 = u.name ∨ p ∈ m.fields := by
  unfold apply Metadata.setNew at h
  split at h
  · exact (Metadata.mem_set h).imp (congrArg Prod.fst) And.left
  · split at h
    · exact .inr h
    · exact (Metadata.mem_set h).imp (congrArg Prod.fst) And.left

theorem mem_names_apply {u : Note} : k ∈ (apply m u).fields.map Prod.fst ↔ k ∈ m.fields.map Prod.fst ∨ k = u.name := by
  unfold apply Metadata.setNew
  split
  · exact Metadata.mem_names_set
  · split
    · next h => exact ⟨.inl, fun hk => hk.elim id fun hk => hk ▸ Metadata.isSome_get?_iff.1 h⟩
    · exact Metadata.mem_names_set

theorem maps_apply (m : Metadata) (u : Note) : (apply m u).maps = m.maps := by
  unfold apply Metadata.setNew
  split
  · rfl
  · split <;> rfl

theorem settled_apply (m : Metadata) (u : Note) : u.Settled (apply m u) := by
  refine ⟨mem_names_apply.2 (.inr rfl), fun halways p hp hname => ?_⟩
  rw [apply, if_pos halways] at hp
  rcases Metadata.mem_set hp with rfl | ⟨-, hne⟩
  · rfl
  · exact absurd hname hne

namespace Settled

variable {u v : Note} {m : Metadata}

theorem apply_eq (h : u.Settled m) : apply m u = m := by
  have hget := Metadata.isSome_get?_iff.2 h.1
  unfold apply Metadata.setNew
  split
  · next halways =>
    rw [Metadata.set, Table.put, if_pos (Table.any_iff_mem_keys.2 h.1)]
    congr 1
    nth_rewrite 2 [← map_id m.fields]
    refine map_congr_left fun p hp => ?_
    by_cases hn : p.1 = u.name
    · simp [hn, ← h.2 halways p hp hn]
      rw [← hn]
    · simp [hn]
  · rfl

theorem apply (h : u.Settled m) (hne : u.name ≠ v.name) : u.Settled (apply m v) :=
  ⟨mem_names_apply.2 (.inl h.1), fun halways p hp hname =>
    (mem_apply hp).elim (fun hv => absurd (hname.symm.trans hv) hne) fun hp => h.2 halways p hp hname⟩

theorem readBack (h : u.Settled m) (hu : u.always → restored u.value = u.value) : u.Settled m.readBack := by
  refine ⟨by simpa [Metadata.readBack, Function.comp_def] using h.1, fun halways p hp hname => ?_⟩
  obtain ⟨q, hq, rfl⟩ := mem_map.1 hp
  rw [h.2 halways q hq hname]
  exact hu halways

end Settled

theorem settled_foldl (hnames : (us.map name).Nodup) (m : Metadata) : ∀ u ∈ us, u.Settled (us.foldl Note.apply m) := by
  induction us using reverseRecOn with
  | nil => simp
  | append_singleton us v ih =>
    rw [map_append, nodup_append] at hnames
    intro u hu
    rw [foldl_append, foldl_cons, foldl_nil]
    rcases mem_append.1 hu with hu | hu
    · exact (ih hnames.1 u hu).apply (hnames.2.2 _ (mem_map_of_mem hu) _ (by simp))
    · rw [mem_singleton.1 hu]
      exact settled_apply _ _

theorem foldl_of_settled (h : ∀ u ∈ us, u.Settled m) : us.foldl Note.apply m = m := by
  induction us with
  | nil => rfl
  | cons u us ih =>
    rw [foldl_cons, (h u mem_cons_self).apply_eq, ih fun v hv => h v (mem_cons_of_mem _ hv)]

theorem mem_names_foldl : k ∈ (us.foldl Note.apply m).fields.map Prod.fst ↔ k ∈ m.fields.map Prod.fst ∨ k ∈ us.map name := by
  induction us generalizing m with
  | nil => simp
  | cons u us ih =>
    rw [foldl_cons, ih, mem_names_apply]
    simp only [map_cons, mem_cons, or_assoc]

theorem maps_foldl (us : List Note) (m : Metadata) : (us.foldl Note.apply m).maps = m.maps := by
  induction us generalizing m with
  | nil => rfl
  | cons u us ih => rw [foldl_cons, ih, maps_apply]

end Note

def notes (j : Job) (f : Form) (text : String) : Except Fault (List Note) :=
  let t := j.surroundings.toolchain
  let named (mark : String) : Except Fault (List Note) :=
    (Prototype.kernelName text mark).map fun n => [⟨"name", (n.map Value.str).getD .none, true⟩]
  match f with
  | .layout => .ok (⟨"enable_warp_specialization", .bool t.rolesSupported, true⟩ ::
      if t.rolesSupported then [⟨"num_warps", .int t.moduleWarps, true⟩] else [])
  | .lower => .ok [⟨"shared", .int t.shared, false⟩]
  | .assembly => named "// .globl"
  | .native => named ".globl"
  | _ => .ok []

theorem learn_eq (j : Job) (f : Form) (a : Artifact) (m : Metadata) :
    learn j f a m = (notes j f a.text).map fun us => us.foldl Note.apply m := by
  cases f with
  | layout =>
    cases h : j.surroundings.toolchain.rolesSupported <;> simp [learn, notes, Except.map, Note.apply, h] <;> rfl
  | lower => rfl
  | assembly => cases h : Prototype.kernelName a.text "// .globl" <;> simp [learn, notes, Except.map, Note.apply, h]
  | native => cases h : Prototype.kernelName a.text ".globl" <;> simp [learn, notes, Except.map, Note.apply, h]
  | source | tile | binary => rfl

def noteNames (j : Job) : Form → List String
  | .layout => "enable_warp_specialization" :: if j.surroundings.toolchain.rolesSupported then ["num_warps"] else []
  | .lower => ["shared"]
  | .assembly | .native => ["name"]
  | _ => []

theorem notes_spec {j : Job} {f : Form} {text : String} {us : List Note} (h : notes j f text = .ok us) :
    us.map Note.name = noteNames j f ∧ ∀ u ∈ us, restored u.value = u.value := by
  have hname {mark : String} (h : (Prototype.kernelName text mark).map
      (fun n => [(⟨"name", (n.map Value.str).getD .none, true⟩ : Note)]) = .ok us) :
      us.map Note.name = ["name"] ∧ ∀ u ∈ us, restored u.value = u.value := by
    obtain ⟨n, -, rfl⟩ := map_eq_ok.1 h
    cases n <;> exact ⟨rfl, by simp [restored, written, Json.plain, Compile.readBack]⟩
  cases f with
  | layout =>
    obtain rfl := Except.ok.inj h
    cases hroles : j.surroundings.toolchain.rolesSupported <;>
      simp [noteNames, hroles, restored, written, Json.plain, Compile.readBack]
  | lower =>
    obtain rfl := Except.ok.inj h
    simp [noteNames, restored, written, Json.plain, Compile.readBack]
  | assembly => exact hname h
  | native => exact hname h
  | source | tile | binary =>
    obtain rfl := Except.ok.inj h
    exact ⟨rfl, by simp⟩

/-! ## The forms, made and found -/

section Forms

variable {j : Job} {key : String}

structure MadeForm (j : Job) where
  form : Form
  artifact : Artifact
  facts : List Note
  given : form.name = j.ending → artifact = given j form
  told : notes j form artifact.text = .ok facts

variable (x : MadeForm j)

namespace MadeForm

def texts : Named String := formTexts x.form x.artifact

/-- The texts that are stored: all but those of the form that the input has. -/
def kept : Named String := if x.form.name = j.ending then [] else x.texts

end MadeForm

open MadeForm (facts form kept texts)

theorem learn_eq_ok {f : Form} {a : Artifact} {m m' : Metadata} (h : learn j f a m = .ok m') :
    ∃ us, notes j f a.text = .ok us ∧ m' = us.foldl Note.apply m := by
  rw [learn_eq] at h
  obtain ⟨us, hus, hm⟩ := map_eq_ok.1 h
  exact ⟨us, hus, hm.symm⟩

theorem fileName_inj {a b : String} : fileName j a = fileName j b ↔ a = b := by
  constructor
  · intro h
    have hchars := congrArg String.toList h
    simp only [fileName, String.toList_append, append_cancel_left_eq] at hchars
    exact String.toList_injective hchars
  · exact congrArg _

theorem name_notMem_formTexts {f g : Form} (a : Artifact) (h : f ≠ g) : g.name ∉ (formTexts f a).map Prod.fst := by
  cases f <;> cases g <;> first | exact absurd rfl h | simp [formTexts, Form.name, Form.nativeBinary]

theorem foldl_add_texts (texts : Named String) (p : Progress) :
    (texts.foldl (fun p (n, _) => p.add (fileName j n)) p).texts = p.texts ∧
      (texts.foldl (fun p (n, _) => p.add (fileName j n)) p).metadata = p.metadata := by
  induction texts generalizing p with
  | nil => exact ⟨rfl, rfl⟩
  | cons t texts ih => exact ih _

variable {st : State} {q : Progress}

theorem forms_made {fs : List Form} (hfs : fs.Nodup) {p : Progress}
    (hnew : ∀ f ∈ fs, f.name ≠ j.ending → fileName j f.name ∉ p.members) :
    Ensures (fs.foldlM (advance j key) p) st fun p' st' => ∃ made : List (MadeForm j), made.map form = fs ∧
      p'.texts = p.texts ++ made.flatMap texts ∧
      p'.metadata = (made.flatMap facts).foldl Note.apply p.metadata ∧
      Wrote key ((made.flatMap kept).map (textPut j)) st st' ∧
      ∀ m, m ∈ p'.members ↔ m ∈ p.members ∨ m ∈ ((made.flatMap kept).map (textPut j)).map Put.name := by
  induction fs generalizing p st with
  | nil => exact Ensures.of_pure.2 ⟨[], rfl, by simp, rfl, .of_eq rfl rfl, by simp⟩
  | cons f fs ih =>
    obtain ⟨hf, hrest⟩ := nodup_cons.1 hfs
    rw [foldlM_cons, Ensures.of_bind]
    refine (advance_spec j p f).mono ?_
    rintro p₁ st₁ ⟨a, q, hq, hlearn, hmembers, htexts⟩
    obtain ⟨us, hus, hmetadata⟩ := learn_eq_ok hlearn
    -- what this form leaves behind, whether it was given or made
    obtain ⟨x, rfl, rfl, rfl, hq', hwrote, hmem⟩ : ∃ x : MadeForm j, x.form = f ∧ x.artifact = a ∧ x.facts = us ∧
        (q.texts = p.texts ∧ q.metadata = p.metadata) ∧ Wrote key (x.kept.map (textPut j)) st st₁ ∧
        ∀ m, m ∈ q.members ↔ m ∈ p.members ∨ m ∈ (x.kept.map (textPut j)).map Put.name := by
      cases hq with
      | given hending =>
        refine ⟨⟨f, _, us, fun _ => rfl, hus⟩, rfl, rfl, rfl, ⟨rfl, rfl⟩, ?_, ?_⟩
        · simpa [kept, hending] using Wrote.of_eq rfl rfl
        · simp [kept, hending]
      | stored a hending hfile => exact absurd hfile (hnew f mem_cons_self hending)
      | made a st' hending hfile hwrote =>
        refine ⟨⟨f, a, us, fun h => absurd h hending, hus⟩, rfl, rfl, rfl, ?_, ?_, fun m => ?_⟩
        · exact foldl_add_texts _ _
        · simpa [kept, hending, texts] using hwrote
        · simpa [kept, hending, texts] using mem_members_addAll
    refine (ih hrest fun g hg hending => ?_).mono ?_
    · rw [hmembers, hmem]
      rintro (hold | hfile)
      · exact hnew g (mem_cons_of_mem _ hg) hending hold
      · simp only [map_map, mem_map, Function.comp_apply, textPut, fileName_inj] at hfile
        obtain ⟨t, ht, hname⟩ := hfile
        have ht' : t ∈ formTexts x.form x.artifact := by
          unfold kept at ht
          split at ht
          · cases ht
          · exact ht
        have hne : x.form ≠ g := fun h => hf (h ▸ hg)
        exact name_notMem_formTexts x.artifact hne (mem_map.2 ⟨t, ht', hname⟩)
    · rintro p₂ st₂ ⟨made, hforms, htexts₂, hmetadata₂, hwrote₂, hmem₂⟩
      refine ⟨x :: made, by rw [map_cons, hforms], ?_, ?_, ?_, fun m => ?_⟩
      · rw [htexts₂, htexts, hq'.1, flatMap_cons, append_assoc]
        rfl
      · rw [hmetadata₂, hmetadata, hq'.2, flatMap_cons, foldl_append]
      · rw [flatMap_cons, map_append]
        exact hwrote.trans hwrote₂
      · rw [hmem₂, hmembers, hmem, flatMap_cons, map_append, map_append, mem_append, or_assoc]

theorem stored_of_get? {file t : String} (h : (st.directory key).get? file = some (.text t)) : stored key file st = .ok t st := by
  rw [stored, bind_of_ok (directory_eq key st), h]
  rfl

theorem obtainForm_found (hfound : ∀ t ∈ x.kept,
      fileName j t.1 ∈ q.members ∧ (st.directory key).get? (fileName j t.1) = some (.text t.2)) :
    ∃ a, obtainForm j key q x.form st = .ok (a, q) st ∧ a.text = x.artifact.text ∧ formTexts x.form a = x.texts := by
  unfold obtainForm
  by_cases hending : x.form.name = j.ending
  · refine ⟨given j x.form, ?_, ?_, ?_⟩
    · rw [if_pos (by simpa using hending)]
      rfl
    · rw [x.given hending]
    · rw [texts, x.given hending]
  · rw [kept, if_neg hending, texts, formTexts] at hfound
    obtain ⟨hmember, hget⟩ := hfound _ mem_cons_self
    rw [if_neg (by simpa using hending), if_pos (by simpa using hmember), storedForm]
    by_cases hnative : x.form = .native
    · obtain ⟨hmember', hget'⟩ := hfound (Form.nativeBinary, x.artifact.extra) (by simp [hnative])
      refine ⟨{ Artifact.parsed x.form x.artifact.text with extra := x.artifact.extra }, ?_, rfl, rfl⟩
      rw [bind_of_ok (t := st) (a := { Artifact.parsed x.form x.artifact.text with extra := x.artifact.extra })]
      · rfl
      · rw [bind_of_ok (stored_of_get? hget), if_neg (by simp [hnative]), if_pos (by simpa using hmember'),
          bind_of_ok (stored_of_get? hget')]
        rfl
    · refine ⟨Artifact.parsed x.form x.artifact.text, ?_, rfl, ?_⟩
      · rw [bind_of_ok (t := st) (a := Artifact.parsed x.form x.artifact.text)]
        · rfl
        · rw [bind_of_ok (stored_of_get? hget), if_pos (by simpa using hnative)]
          rfl
      · simp [texts, formTexts, hnative, Artifact.parsed]

theorem forms_found (made : List (MadeForm j)) (hfound : ∀ x ∈ made, ∀ t ∈ x.kept,
      fileName j t.1 ∈ q.members ∧ (st.directory key).get? (fileName j t.1) = some (.text t.2)) :
    ∃ q', (made.map form).foldlM (advance j key) q st = .ok q' st ∧ q'.members = q.members ∧
      q'.texts = q.texts ++ made.flatMap texts ∧
      q'.metadata = (made.flatMap facts).foldl Note.apply q.metadata := by
  induction made generalizing q with
  | nil => exact ⟨q, rfl, rfl, by simp, rfl⟩
  | cons x made ih =>
    obtain ⟨a, ha, htext, htexts⟩ := obtainForm_found x (hfound x mem_cons_self)
    have hlearn : learn j x.form a q.metadata = .ok (x.facts.foldl Note.apply q.metadata) := by
      rw [learn_eq, htext, x.told]
      rfl
    have hadvance : advance j key q x.form st
        = .ok { q with texts := q.texts ++ x.texts, metadata := x.facts.foldl Note.apply q.metadata, last := a } st := by
      rw [advance, bind_of_ok ha]
      simp only [hlearn, htexts]
      rfl
    obtain ⟨q', hq', hmembers, htexts', hmetadata⟩ := @ih
      { q with texts := q.texts ++ x.texts, metadata := x.facts.foldl Note.apply q.metadata, last := a }
      fun y hy => hfound y (mem_cons_of_mem _ hy)
    refine ⟨q', ?_, hmembers, ?_, ?_⟩
    · rw [map_cons, foldlM_cons, bind_of_ok hadvance, hq']
    · rw [htexts', flatMap_cons, append_assoc]
    · rw [hmetadata, flatMap_cons, foldl_append]

end Forms

open MadeForm (facts form kept texts)

/-! ## Jobs of functions -/

section Function

variable {s : Surroundings} {o : Options} {f : FuncRef} {st : State} {j : Job}

theorem prepare_function : Ensures (prepare s o (.function f)) st fun j _ =>
    j.surroundings = s ∧ j.input = .function f ∧ j.ending = Form.source.name ∧ ∃ k, j.kind = .str k := by
  have hkind : Ensures (processor s o) st fun _ _ => ∃ k, deviceKind s o = .str k := by
    unfold processor
    split
    · next k hk => exact fun _ _ _ => ⟨k, hk⟩
    · exact Ensures.of_throw
  simp only [prepare, Ensures.of_bind]
  refine hkind.mono fun p st hk numWarps st _ _ st _ cluster st _ libraries st _ => ?_
  refine (ensures_lift _).mono ?_
  rintro j st' ⟨hj, -⟩
  unfold Job.describe at hj
  dsimp only at hj
  split at hj
  · obtain rfl := Except.ok.inj hj
    exact ⟨rfl, rfl, rfl, hk⟩
  · cases hj
  · cases hj

theorem Metadata.names_of_sets (env : Named Value) (henv : ∀ p ∈ env, p.1 ≠ mapsName) (m : Metadata)
    (hmaps : m.maps = none) (hm : ∀ p ∈ m.fields, p.1 ≠ mapsName) : (env.foldl (fun m (n, v) => m.set n v) m).maps = none ∧
      ∀ p ∈ (env.foldl (fun m (n, v) => m.set n v) m).fields, p.1 ≠ mapsName := by
  induction env generalizing m with
  | nil => exact ⟨hmaps, hm⟩
  | cons e env ih =>
    refine ih (fun p hp => henv p (mem_cons_of_mem _ hp)) _ hmaps fun p hp => ?_
    rcases mem_set hp with rfl | ⟨hp, -⟩
    · exact henv e mem_cons_self
    · exact hm p hp

variable {m : Metadata} {key : String} {made : List (MadeForm j)} {st' : State} {members : List String} {c : Compiled}

theorem initialMetadata_spec (hending : j.ending = Form.source.name)
    (henv : ∀ p ∈ j.surroundings.environment, p.1 ≠ Metadata.mapsName) (h : initialMetadata j = .ok m) :
    m.maps = none ∧ ∀ p ∈ m.fields, p.1 ≠ Metadata.mapsName := by
  have hne : (j.ending != Form.assembly.name) := by
    rw [hending]
    decide
  simp only [initialMetadata, hne, if_true] at h
  obtain rfl := Except.ok.inj h
  exact Metadata.names_of_sets _ henv _ rfl (by simp [Metadata.mapsName])

theorem key_again {t t' : Identity.Table} (h : Identity.key t f = (.ok k, t')) : Identity.key t' f = (.ok k, t') := by
  unfold Identity.key at h
  split at h
  · next d hd =>
    obtain ⟨hk, rfl⟩ := Prod.mk.inj h
    simp only [Identity.key, hd, hk]
  · dsimp only at h
    split at h
    · cases h
    · split at h
      · cases h
      · split at h
        · obtain ⟨hk, rfl⟩ := Prod.mk.inj h
          obtain rfl := Except.ok.inj hk
          simp only [Identity.key, Identity.find?_remember, if_true]
        · cases h

def Job.keyText (j : Job) (k : String) : String :=
  Identity.compileText k (j.signature.map (·.2)) [j.knowledge] (keyOptions j.options) j.processor.value.text
    ((j.surroundings.environment.mergeSort fun a b => a.1 ≤ b.1).map (·.2.text))

theorem keyOf_function (hinput : j.input = .function f) : keyOf j st = match Identity.key st.table f with
    | (.ok k, t) => .ok (Digest.md5 (j.keyText k)) { st with table := t }
    | (.error e, t) => .error e { st with table := t } := by
  unfold keyOf
  rw [hinput]
  dsimp only
  rw [bind_of_ok (show (get : Compiling State) st = .ok st st from rfl)]
  rcases Identity.key st.table f with ⟨k | k, t⟩ <;> rfl

theorem keyOf_again {st₁ st₂ : State} (hinput : j.input = .function f) (h : keyOf j st = .ok key st₁)
    (htable : st₂.table = st₁.table) : keyOf j st₂ = .ok key st₂ := by
  rw [keyOf_function hinput] at h ⊢
  rcases hk : Identity.key st.table f with ⟨e | k, t⟩
  · rw [hk] at h
    cases h
  · rw [hk] at h
    obtain ⟨rfl, rfl⟩ := EStateM.Result.ok.inj h
    rw [htable, key_again hk]
    exact congrArg (fun t => EStateM.Result.ok (Digest.md5 (j.keyText k)) { st₂ with table := t }) htable.symm

/-! ## Two compilations -/

def keptNames (j : Job) (f : Form) : List String :=
  if f.name = j.ending then [] else f.name :: if f = .native then [Form.nativeBinary] else []

theorem map_fst_kept (made : List (MadeForm j)) : (made.flatMap kept).map Prod.fst = (made.map form).flatMap (keptNames j) := by
  rw [map_flatMap, flatMap_map]
  congr 1
  funext x
  unfold kept keptNames texts formTexts
  split
  · rfl
  · by_cases h : x.form = .native <;> simp [h]

theorem map_name_facts (made : List (MadeForm j)) : (made.flatMap facts).map Note.name = (made.map form).flatMap (noteNames j) := by
  rw [map_flatMap, flatMap_map]
  congr 1
  funext x
  exact (notes_spec x.told).1

theorem forms_of_function (hending : j.ending = Form.source.name) :
    Form.from? j.processor.forms j.ending = .ok j.processor.forms ∧ j.processor.forms.Nodup ∧
    (j.processor.forms.flatMap (keptNames j) ++ ["json"]).Nodup ∧
    ("device_type" :: j.processor.forms.flatMap (noteNames j) ++ ["clusterDims"]).Nodup ∧
    Metadata.mapsName ∉ "device_type" :: j.processor.forms.flatMap (noteNames j) ++ ["clusterDims"] := by
  unfold keptNames noteNames Metadata.mapsName
  rw [hending]
  have hforms : j.processor.forms = Form.numbered ∨ j.processor.forms = Form.named := by
    cases j.processor
    · exact .inl rfl
    · exact .inr rfl
  rcases hforms with hforms | hforms <;> rw [hforms] <;> cases j.surroundings.toolchain.rolesSupported <;>
    exact ⟨rfl, by decide, by decide, by decide, by decide⟩

/-- What the first compilation of a function stores, and what is stored of it. -/
structure StoredRun (j : Job) (key : String) (m : Metadata) (made : List (MadeForm j)) (st : State) : Prop where
  files : ∀ t ∈ made.flatMap kept, (st.directory key).get? (fileName j t.1) = some (.text t.2)
  metadata : (st.directory key).get? (metadataName j) = some (.text m.text)
  group : ∃ members, (st.directory key).get? (listName j.name) = some (.text (Directory.groupText members)) ∧
    ∀ file, file ∈ members ↔ file = metadataName j ∨ ∃ t ∈ made.flatMap kept, file = fileName j t.1

theorem storedRun_of_wrote (hnames : ((made.map form).flatMap (keptNames j) ++ ["json"]).Nodup)
    (hwrote : Wrote key ((made.flatMap kept ++ [("json", m.text)]).map (textPut j) ++ [listPut j members]) st st')
    (hmembers : ∀ file, file ∈ members ↔ file = metadataName j ∨ ∃ t ∈ made.flatMap kept, file = fileName j t.1) :
    StoredRun j key m made st' := by
  have hending : ∀ t ∈ made.flatMap kept ++ [("json", m.text)], IsEnding t.1 := by
    intro t ht
    rcases mem_append.1 ht with ht | ht
    · obtain ⟨x, -, hx⟩ := mem_flatMap.1 ht
      unfold kept at hx
      split at hx
      · cases hx
      · exact isEnding_of_mem_formTexts hx
    · rw [mem_singleton.1 ht]
      exact isEnding_json
  have hfiles : ((made.flatMap kept ++ [("json", m.text)]).map (textPut j)).map Put.name
      = ((made.map form).flatMap (keptNames j) ++ ["json"]).map (fileName j) := by
    rw [← map_fst_kept]
    simp [Function.comp_def, textPut]
  have hnodup : (((made.flatMap kept ++ [("json", m.text)]).map (textPut j) ++ [listPut j members]).map
      Put.name).Nodup := by
    rw [map_append, hfiles, nodup_append]
    refine ⟨hnames.map fun _ _ h => fileName_inj.1 h, by simp, ?_⟩
    intro a ha b hb
    obtain rfl := mem_singleton.1 hb
    rw [← hfiles] at ha
    simp only [mem_map] at ha
    obtain ⟨p, ⟨t, ht, rfl⟩, rfl⟩ := ha
    exact (hending t ht).ne_listName j
  have hfinal : ∀ p ∈ (made.flatMap kept ++ [("json", m.text)]).map (textPut j) ++ [listPut j members],
      IsFinal p.name := by
    intro p hp
    rcases mem_append.1 hp with hp | hp
    · obtain ⟨t, ht, rfl⟩ := mem_map.1 hp
      exact (hending t ht).isFinal j
    · rw [mem_singleton.1 hp]
      exact isFinal_listName _
  have hputs := get?_puts hnodup hfinal (st.directory key)
  rw [← hwrote.own] at hputs
  refine ⟨fun t ht => ?_, ?_, members, ?_, hmembers⟩
  · exact hputs (textPut j t) (mem_append_left _ (mem_map_of_mem (mem_append_left _ ht)))
  · exact hputs (textPut j ("json", m.text)) (by simp)
  · exact hputs (listPut j members) (by simp)

def allFacts (made : List (MadeForm j)) : List Note :=
  ⟨"device_type", j.kind, true⟩ :: made.flatMap facts ++ [⟨"clusterDims", .list j.cluster, false⟩]

def firstMetadata (m : Metadata) (made : List (MadeForm j)) : Metadata where
  fields := ((allFacts made).foldl Note.apply m).fields
  maps := if j.surroundings.toolchain.maps.isEmpty then none
    else some (j.surroundings.toolchain.maps.map fun t => { t with folded := folded j })

theorem run_first (hempty : st.kernels = [])
    (henv : ∀ p ∈ s.environment, p.1 ≠ Metadata.mapsName) (h : run s o (.function f) st = .ok c st') :
    ∃ (j : Job) (key : String) (st₀ st₁ : State) (m : Metadata) (made : List (MadeForm j)),
      prepare s o (.function f) st = .ok j st₀ ∧ keyOf j st₀ = .ok key st₁ ∧ st'.table = st₁.table ∧
      (listName j.name).toList.contains '/' = false ∧ (∀ p ∈ m.fields, p.1 ≠ Metadata.mapsName) ∧
      made.map form = j.processor.forms ∧
      c = { metadata := firstMetadata m made, texts := made.flatMap texts, kind := j.kind } ∧
      StoredRun j key (firstMetadata m made) made st' := by
  obtain ⟨j, key, st₁, st₂, found, p, hran⟩ := run_spec s o (.function f) c st' h
  obtain ⟨st₀, hprepare, hkey⟩ := hran.prepare
  obtain ⟨rfl, -, hending, -⟩ := prepare_function j st₀ hprepare
  obtain ⟨m, fs, hm, hfs, hforms⟩ := hran.forms
  obtain ⟨hfrom, hnodup, hnames, -, -⟩ := forms_of_function hending
  -- nothing is found, and all forms are made
  have hdirectory : st₁.directory key = [] := by
    rw [hran.directory_eq, State.directory, hempty]
    rfl
  obtain rfl : found = none := by
    have hgroup := hran.group
    rw [hdirectory] at hgroup
    exact (Except.ok.inj hgroup).symm
  obtain ⟨hm, -⟩ := ensures_lift (initialMetadata j) m st₁ hm
  obtain ⟨hmaps, hplain⟩ := initialMetadata_spec hending henv hm
  obtain rfl := Except.ok.inj (hfrom.symm.trans hfs)
  obtain ⟨made, hmade, htexts, hmetadata, hwrote, hmembers⟩ := forms_made hnodup (by simp) p st₂ hforms
  have hfinal : finalMetadata j p.metadata = firstMetadata m made := by
    have hset : m.set "device_type" j.kind = Note.apply m ⟨"device_type", j.kind, true⟩ := rfl
    have hnew (m : Metadata) : m.setNew "clusterDims" (.list j.cluster)
        = Note.apply m ⟨"clusterDims", .list j.cluster, false⟩ := rfl
    simp only [finalMetadata, firstMetadata, allFacts, hmetadata, hset, hnew, foldl_append, foldl_cons,
      foldl_nil, Note.maps_apply, Note.maps_foldl, hmaps]
    split <;> rfl
  have hlast : lastPuts j [] p = ([textPut j ("json", (firstMetadata m made).text)], (p.add (metadataName j)).members) := by
    rw [lastPuts, if_neg not_mem_nil, hfinal]
  refine ⟨j, key, st₀, st₁, m, made, hprepare, hkey, hran.wrote.table.trans hwrote.table, hran.named, hplain, hmade, ?_, ?_⟩
  · rw [hran.result, hfinal, htexts]
    rfl
  · have hall := hwrote.trans hran.wrote
    rw [Option.getD_none, hlast, ← append_assoc] at hall
    refine storedRun_of_wrote (by rwa [hmade]) (by simpa using hall) fun file => ?_
    rw [mem_members_add, hmembers]
    simp [textPut, eq_comm, or_comm]

theorem OnlyPrints.again {x : Compiling α} (h : OnlyPrints x) {a : α} {st₀ : State} (hx : x st = .ok a st₀)
    (st' : State) : ∃ st₀', x st' = .ok a st₀' ∧ st₀'.table = st'.table ∧ st₀'.kernels = st'.kernels := by
  obtain ⟨r, t, hr⟩ := h
  rw [hr] at hx
  cases r with
  | error e => cases hx
  | ok b =>
    obtain ⟨rfl, -⟩ := EStateM.Result.ok.inj hx
    exact ⟨_, hr st', rfl, rfl⟩

theorem putGroup_bind {g : Unit → Compiling α} {a : α} {st : State}
    (hnamed : (listName j.name).toList.contains '/' = false) (hg : ∀ st, ∃ st', g ⟨⟩ st = .ok a st') :
    ∃ st', (change key (·.putGroup (metadataName j) members) >>= g) st = .ok a st' := by
  have hput : (st.directory key).putGroup (metadataName j) members
      = .ok (Put.complete { name := listName j.name, content := .text (Directory.groupText members) } (st.directory key)) :=
    put_eq_ok.2 ⟨hnamed, rfl⟩
  rw [change, bind_assoc, bind_of_ok (directory_eq key st), hput]
  exact hg _

theorem settled_readBack (hending : j.ending = Form.source.name)
    (hkind : ∃ k, j.kind = .str k) (hmade : made.map form = j.processor.forms) :
    ∀ u ∈ allFacts made, u.Settled (firstMetadata m made).readBack := by
  obtain ⟨k, hk⟩ := hkind
  have hnames : ((allFacts made).map Note.name).Nodup := by
    have hnodup := (forms_of_function hending).2.2.2.1
    rw [allFacts, map_append, map_cons, map_name_facts, hmade]
    exact hnodup
  intro u hu
  have hsettled := Note.settled_foldl hnames m u hu
  refine Note.Settled.readBack (m := firstMetadata m made) hsettled fun halways => ?_
  simp only [allFacts, cons_append, mem_cons, mem_append, not_mem_nil, or_false] at hu
  rcases hu with rfl | hu | rfl
  · rw [hk]
    rfl
  · obtain ⟨x, -, hx⟩ := mem_flatMap.1 hu
    exact (notes_spec x.told).2 u hx
  · cases halways

theorem run_second {st₀ st₁ : State}
    (hprepare : prepare s o (.function f) st = .ok j st₀) (hkey : keyOf j st₀ = .ok key st₁) (htable : st'.table = st₁.table)
    (hnamed : (listName j.name).toList.contains '/' = false) (hplain : ∀ p ∈ m.fields, p.1 ≠ Metadata.mapsName)
    (hmade : made.map form = j.processor.forms) (hstored : StoredRun j key (firstMetadata m made) made st') :
    ∃ st'', run s o (.function f) st' = .ok ⟨{ (firstMetadata m made).readBack with maps := (firstMetadata m made).maps },
      made.flatMap texts, j.kind⟩ st'' := by
  obtain ⟨-, hinput, hending, hkind⟩ := prepare_function j st₀ hprepare
  obtain ⟨hfrom, -, -, -, hnotMaps⟩ := forms_of_function hending
  obtain ⟨st₂, hprepare₂, htable₂, hkernels₂⟩ := (onlyPrints_prepare s o (.function f)).again hprepare st'
  have hkey₂ : keyOf j st₂ = .ok key st₂ := keyOf_again hinput hkey (htable₂.trans htable)
  have hdirectory : st₂.directory key = st'.directory key := by rw [State.directory, State.directory, hkernels₂]
  obtain ⟨hfiles, hmetadata, members, hlist, hmembers⟩ := hstored
  rw [← hdirectory] at hfiles hmetadata hlist
  -- the group is found with all files
  obtain ⟨found, hgroup, hfound⟩ : ∃ found, (st₂.directory key).getGroup (fun f => s.place ++ "/" ++ key ++ "/" ++ f)
      (metadataName j) = .ok (some found) ∧ ∀ file, file ∈ found ↔ file ∈ members := by
    refine ⟨_, Directory.getGroup_of_list hlist (fun file hfile => ?_) _, by simp⟩
    rcases (hmembers file).1 hfile with rfl | ⟨t, ht, rfl⟩
    · simp [Directory.has, hmetadata]
    · simp [Directory.has, hfiles t ht]
  -- and with it the metadata, which know already what is noted
  have hsettled := settled_readBack (m := m) hending hkind hmade
  have hkept : metadataName j ∈ found := (hfound _).2 ((hmembers _).2 (.inl rfl))
  have hnames : ∀ p ∈ (firstMetadata m made).fields, p.1 ≠ Metadata.mapsName := by
    intro p hp heq
    have hname : Metadata.mapsName ∈ ((allFacts made).foldl Note.apply m).fields.map Prod.fst :=
      mem_map.2 ⟨p, hp, heq⟩
    rw [Note.mem_names_foldl, allFacts, map_append, map_cons, map_name_facts, hmade] at hname
    rcases hname with hname | hname
    · obtain ⟨q, hq, hq'⟩ := mem_map.1 hname
      exact hplain q hq hq'
    · exact hnotMaps hname
  set r := (firstMetadata m made).readBack with hr
  have hknown : knownMetadata j key found st₂ = .ok r st₂ := by
    rw [knownMetadata, if_pos (by simpa using hkept), bind_of_ok (stored_of_get? hmetadata), Metadata.ofText_text hnames]
    rfl
  obtain ⟨q, hq, -, hqtexts, hqmetadata⟩ := forms_found (q := { members := found, metadata := r.set "device_type" j.kind }) made
    fun x hx t ht => by
      have ht' : t ∈ made.flatMap kept := mem_flatMap.2 ⟨x, hx, ht⟩
      exact ⟨(hfound _).2 ((hmembers _).2 (.inr ⟨t, ht', rfl⟩)), hfiles t ht'⟩
  have hfinal : finalMetadata j q.metadata = { r with maps := (firstMetadata m made).maps } := by
    have hdevice : r.set "device_type" j.kind = r := (hsettled ⟨"device_type", j.kind, true⟩ (by simp [allFacts])).apply_eq
    have hcluster : r.setNew "clusterDims" (.list j.cluster) = r :=
      (hsettled ⟨"clusterDims", .list j.cluster, false⟩ (by simp [allFacts])).apply_eq
    have hfacts : (made.flatMap facts).foldl Note.apply r = r :=
      Note.foldl_of_settled fun u hu => hsettled u (by simp [allFacts, hu])
    rw [hqmetadata, hdevice, hfacts, finalMetadata, hcluster, hr]
    cases hmaps : j.surroundings.toolchain.maps.isEmpty <;> simp [firstMetadata, Metadata.readBack, hmaps]
  have hkeep (st : State) : keepMetadata j key found q (finalMetadata j q.metadata) st = .ok q st := by
    rw [keepMetadata, if_pos (by simpa using hkept)]
    rfl
  rw [run, bind_of_ok hprepare₂, bind_of_ok hkey₂, bind_of_ok (directory_eq key st₂), hgroup]
  rw [bind_of_ok (show lift (.ok _) st₂ = .ok _ st₂ from rfl)]
  dsimp only [Option.getD_some]
  rw [bind_of_ok hknown, hfrom, bind_of_ok (show lift (.ok _) st₂ = .ok _ st₂ from rfl), ← hmade, bind_of_ok hq]
  rw [bind_of_ok (show (modify _ : Compiling PUnit) st₂ = .ok ⟨⟩ _ from rfl), bind_of_ok (hkeep _)]
  refine putGroup_bind hnamed fun st₃ => ⟨st₃, ?_⟩
  rw [hfinal, hqtexts]
  rfl

theorem map_restored_eq_iff (fields : Named Value) :
    fields.map (fun p => (p.1, restored p.2)) = fields ↔ ∀ p ∈ fields, restored p.2 = p.2 := by
  induction fields with
  | nil => simp
  | cons p fields ih =>
    rw [map_cons, cons.injEq, ih, forall_mem_cons, Prod.ext_iff]
    simp

theorem run_again (hempty : st.kernels = [])
    (henv : ∀ p ∈ s.environment, p.1 ≠ Metadata.mapsName) (h : run s o (.function f) st = .ok c st') :
    ∃ st'', run s o (.function f) st' = .ok { c with metadata := { c.metadata.readBack with maps := c.metadata.maps } } st'' := by
  obtain ⟨j, key, st₀, st₁, m, made, hprepare, hkey, htable, hnamed, hplain, hmade, rfl, hstored⟩ := run_first hempty henv h
  exact run_second hprepare hkey htable hnamed hplain hmade hstored

/-- A second compilation of a function finds what the first one stored, and gives the same forms. Its metadata are those of
the first as they are read back from their text, so they agree if and only if every value is read back as it was. -/
theorem second_compilation_agrees_iff {c : Compiled} {st' : State} (hempty : st.kernels = [])
    (henv : ∀ p ∈ s.environment, p.1 ≠ Metadata.mapsName) (h : run s o (.function f) st = .ok c st') :
    ∃ c' st'', run s o (.function f) st' = .ok c' st'' ∧ c'.texts = c.texts ∧ c'.kind = c.kind ∧
      c'.metadata.maps = c.metadata.maps ∧ c'.metadata.fields = c.metadata.fields.map (fun p => (p.1, restored p.2)) ∧
      (c'.metadata = c.metadata ↔ ∀ p ∈ c.metadata.fields, restored p.2 = p.2) := by
  obtain ⟨st'', hrun⟩ := run_again hempty henv h
  refine ⟨_, st'', hrun, rfl, rfl, rfl, rfl, fun heq => ?_, fun hall => ?_⟩
  · exact (map_restored_eq_iff _).1 (congrArg Metadata.fields heq)
  · exact congrArg (fun fields => (⟨fields, c.metadata.maps⟩ : Metadata)) ((map_restored_eq_iff _).2 hall)

end Function

/-! ### A function with a constant -/

/-- A function that takes a pointer and a constant and does nothing. -/
def idleFunction : FuncInfo where
  name := "kernel"
  space := .user "kmod"
  file := "kmod.py"
  beginLine := 1
  text := "def kernel(X, N):\n    pass\n"
  tree := .ok (.mk "kernel" (.mk [⟨default, "X", none⟩, ⟨default, "N", none⟩] [] none [] [] none) none [] [.pass default])

def idleState : State := { table := { program := ({} : Program).addFunc idleFunction } }

def compileIdle (constant : Binary64) : Compiling Compiled :=
  run { machine := { isHip := true, archInfo := "amdgcn-amd-amdhsa--gfx90a" } }
    { signature := some [(0, "*fp32")], numWarps := some (.int 4), constants := [(.position 1, .float constant)] }
    (.function { index := 0, name := "kernel", space := .user "kmod", isJit := true })

def firstConstant? (constant : Binary64) : Option (Int × Binary64) :=
  match compileIdle constant idleState with
  | .ok c _ =>
    match c.metadata.get? "constants" with
    | some (.dict [.int i] [.float x]) => some (i, x)
    | _ => none
  | .error _ _ => none

theorem exists_of_firstConstant? {constant : Binary64} {i : Int} {x : Binary64} (h : firstConstant? constant = some (i, x)) :
    ∃ c st', compileIdle constant idleState = .ok c st' ∧
      c.metadata.get? "constants" = some (.dict [.int i] [.float x]) := by
  unfold firstConstant? at h
  split at h
  · next c st' hc =>
    split at h
    · next hget =>
      obtain ⟨rfl, rfl⟩ := Prod.mk.inj (Option.some.inj h)
      exact ⟨c, st', hc, hget⟩
    · cases h
  · cases h

theorem second_compilation_agrees_idle : ∃ c st' c' st'', compileIdle ⟨0x3ff8000000000000⟩ idleState = .ok c st' ∧
    compileIdle ⟨0x3ff8000000000000⟩ st' = .ok c' st'' ∧ c'.texts = c.texts ∧ c'.kind = c.kind ∧
      c'.metadata.maps = c.metadata.maps ∧ c'.metadata.fields = c.metadata.fields.map (fun p => (p.1, restored p.2)) ∧
      (c'.metadata = c.metadata ↔ ∀ p ∈ c.metadata.fields, restored p.2 = p.2) := by
  have hfirst : firstConstant? ⟨0x3ff8000000000000⟩ = some (1, ⟨0x3ff8000000000000⟩) := by decide +kernel
  obtain ⟨c, st', hc, -⟩ := exists_of_firstConstant? hfirst
  obtain ⟨c', st'', hagain⟩ := second_compilation_agrees_iff rfl (by simp) hc
  exact ⟨c, st', c', st'', hc, hagain⟩

theorem get?_readBack (m : Metadata) (name : String) : m.readBack.get? name = (m.get? name).map restored :=
  Table.lookup_map (fun _ => restored) m.fields name

/-- A negative NaN comes back without its sign, and its position as a text. -/
theorem second_compilation_changes_constant : ∃ c st' c' st'', compileIdle ⟨0xfff8000000000000⟩ idleState = .ok c st' ∧
    compileIdle ⟨0xfff8000000000000⟩ st' = .ok c' st'' ∧
    c.metadata.get? "constants" = some (.dict [.int 1] [.float ⟨0xfff8000000000000⟩]) ∧
    c'.metadata.get? "constants" = some (.dict [.str "1"] [.float ⟨0x7ff8000000000000⟩]) := by
  have hfirst : firstConstant? ⟨0xfff8000000000000⟩ = some (1, ⟨0xfff8000000000000⟩) := by decide +kernel
  obtain ⟨c, st', hc, hget⟩ := exists_of_firstConstant? hfirst
  obtain ⟨st'', hagain⟩ := run_again rfl (by simp) hc
  refine ⟨c, st', _, st'', hc, hagain, hget, ?_⟩
  change c.metadata.readBack.get? "constants" = _
  have hnan : Json.Reader.plainFloat ⟨0xfff8000000000000⟩ = ⟨0x7ff8000000000000⟩ := by decide
  have hone : Int.repr 1 = "1" := by decide
  rw [get?_readBack, hget]
  simp [restored, written, writtenAll, keyText, Value.text, Value.shown, Json.plain, Json.plainMembers, Compile.readBack,
    readBackKeys, readBackValues, hnan, hone]

end TileKernel.Compile
