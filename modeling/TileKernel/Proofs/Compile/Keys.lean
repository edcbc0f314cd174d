import TileKernel.Proofs.Compile.Stored
import TileKernel.Proofs.Lowering.InstanceNames

/-! # What a key tells

Two calls that ask for the same instance of a kernel and get the same key. The options in the text of the key are recovered
from it, for each of them ends at the first dash behind its first character. What the stages of a compilation are given and the
text does not have is the rest: the cluster, the libraries, whether the kernel is persistent, how results are stored, and
on numbered devices the counts of warps and stages that were not asked for.
-/

namespace TileKernel.Lowering.Value

def IsCount : Value → Prop
  | .int _ | .bool _ => True
  | _ => False

theorem IsCount.isTold {v : Value} (h : v.IsCount) : v.IsTold := by
  cases v with
  | int n => trivial
  | bool b => trivial
  | _ => cases h

end TileKernel.Lowering.Value

namespace TileKernel.Compile

open Lowering Launch Steps DecimalDigits

/-! ## Parts of a text -/

variable {x y : List Char} {o : Options} {s : Surroundings} {j : Job} {st : State} {f : FuncRef}

/-- A word without dashes, with or without a sign. -/
def IsPart (cs : List Char) : Prop := ∃ word, (cs = word ∨ cs = '-' :: word) ∧ word ≠ [] ∧ '-' ∉ word

theorem IsPart.cancel {a b : List Char} (ha : IsPart a) (hb : IsPart b) (h : a ++ '-' :: x = b ++ '-' :: y) : a = b ∧ x = y := by
  obtain ⟨v, hv, hv', hdash⟩ := ha
  obtain ⟨w, hw, hw', hdash'⟩ := hb
  -- a word that has no sign begins with another character
  have hne {v w x y : List Char} (hv : v ≠ []) (hdash : '-' ∉ v) : v ++ '-' :: x ≠ '-' :: w ++ '-' :: y := by
    obtain ⟨c, v, rfl⟩ := List.exists_cons_of_ne_nil hv
    exact fun h => hdash ((List.cons.inj h).1 ▸ List.mem_cons_self)
  rcases hv with rfl | rfl <;> rcases hw with rfl | rfl
  · exact cancel_word hdash hdash' h
  · exact absurd h (hne hv' hdash)
  · exact absurd h.symm (hne hw' hdash')
  · obtain ⟨rfl, hxy⟩ := cancel_word hdash hdash' (List.cons.inj h).2
    exact ⟨rfl, hxy⟩

theorem isPart_toString (n : Int) : IsPart (toString n).toList := by
  have hdash (n : Nat) : '-' ∉ (toString n).toList := fun h => absurd (allDigits_toString n _ h) (by decide)
  have hne (n : Nat) : (toString n).toList ≠ [] := by simp
  cases n with
  | ofNat n => exact ⟨_, .inl rfl, hne n, hdash n⟩
  | negSucc n =>
    refine ⟨(toString (n + 1)).toList, .inr ?_, hne _, hdash _⟩
    rw [Int.toString_eq_repr, Nat.toString_eq_repr, show (Int.negSucc n).repr = "-" ++ (n + 1).repr from rfl,
      String.toList_append]
    rfl

theorem isPart_text {v : Value} (h : v.IsCount) : IsPart v.text.toList := by
  cases v with
  | int n =>
    rw [show (Value.int n).text = toString n by simp [Value.text, Value.shown]]
    exact isPart_toString n
  | bool b =>
    refine ⟨(Value.bool b).text.toList, .inl rfl, ?_, ?_⟩ <;> cases b <;> simp [Value.text, Value.shown]
  | _ => cases h

/-- Values as they follow each other in a key. -/
def dashed (vs : List Value) : List Char := vs.flatMap fun v => v.text.toList ++ ['-']

theorem dashed_inj {vs ws : List Value} (hv : ∀ v ∈ vs, v.IsCount) (hw : ∀ w ∈ ws, w.IsCount) (hlength : vs.length = ws.length)
    (h : dashed vs ++ x = dashed ws ++ y) : vs = ws ∧ x = y := by
  induction vs generalizing ws with
  | nil =>
    obtain rfl := List.length_eq_zero_iff.1 hlength.symm
    exact ⟨rfl, h⟩
  | cons v vs ih =>
    obtain ⟨w, ws, rfl⟩ := List.exists_cons_of_length_eq_add_one hlength.symm
    have hv' := hv v List.mem_cons_self
    have hw' := hw w List.mem_cons_self
    simp only [dashed, List.flatMap_cons, List.append_assoc, List.singleton_append] at h
    obtain ⟨htext, hrest⟩ := (isPart_text hv').cancel (isPart_text hw') h
    obtain rfl := hv'.isTold.text_injective hw'.isTold (String.toList_inj.1 htext)
    obtain ⟨rfl, hxy⟩ := ih (fun v hv'' => hv v (List.mem_cons_of_mem _ hv'')) (fun w hw'' => hw w (List.mem_cons_of_mem _ hw''))
      (Nat.succ.inj hlength) hrest
    exact ⟨rfl, hxy⟩

/-! ## The text of a key -/

def keyCounts (o : CompileOptions) : List Value :=
  [o.numWarps, o.numStages, o.wavesPerEu, o.matrixInstrNonkdim, o.numCtas, o.numStages, o.enableWarpSpecialization,
    o.enablePersistent, o.debug]

theorem compileText_inj {kernel : String} {types : List String} {configs : List Types.Specialization} {o o' : CompileOptions}
    {arch arch' : String} {env env' : List String} (hconstants : o.constants = o'.constants)
    (ho : ∀ v ∈ keyCounts o, v.IsCount) (ho' : ∀ v ∈ keyCounts o', v.IsCount)
    (h : Identity.compileText kernel types configs o arch env = Identity.compileText kernel types configs o' arch' env') :
    o = o' ∧ ∃ x x', arch.toList ++ '-' :: x = arch'.toList ++ '-' :: x' := by
  have hsplit (o : CompileOptions) (arch : String) (env : List String) :
      (Identity.compileText kernel types configs o arch env).toList =
        ("-".intercalate [kernel, String.join types, Text.bracketed (configs.map Identity.knowledgeText), o.constants.text]).toList ++
          '-' :: (dashed (keyCounts o) ++ (arch.toList ++ '-' :: (Text.bracketed (env.map Text.quoted)).toList)) := by
    simp [Identity.compileText, String.intercalate_cons_cons, dashed, keyCounts]
  rw [← String.toList_inj, hsplit, hsplit, hconstants, List.append_cancel_left_eq, List.cons.injEq] at h
  obtain ⟨hcounts, hrest⟩ := dashed_inj ho ho' rfl h.2
  refine ⟨?_, _, _, hrest⟩
  cases o
  cases o'
  simp only [keyCounts, List.cons.injEq] at hcounts
  simp_all

theorem toList_named (d : Device.Descriptor) : ∃ front stages ctas size : List Char, ∀ w s c : Int,
    (Processor.named { d with numWarps := w, numStages := s, numCtas := c }).value.text.toList =
      front ++ ((toString w).toList ++ ',' :: (stages ++ ((toString s).toList ++ ',' :: (ctas ++
        ((toString c).toList ++ ',' :: size))))) := by
  refine ⟨("\x7b" ++ Text.quoted "gfx_triple" ++ ": " ++ Text.quoted d.triple ++ ", " ++ Text.quoted "gfx_arch" ++ ": " ++
      Text.quoted d.name ++ ", " ++ Text.quoted "gfx_features" ++ ": " ++ Text.quoted d.features ++ ", " ++
      Text.quoted "num_warps" ++ ": ").toList,
    (" " ++ Text.quoted "num_stages" ++ ": ").toList, (" " ++ Text.quoted "num_ctas" ++ ": ").toList,
    (" " ++ Text.quoted "warp_size" ++ ": " ++ toString d.warpSize ++ "\x7d").toList, fun w s c => ?_⟩
  simp [Processor.value, Value.text, Value.shown, Value.shownAll, Text.braced, Text.commaSeparated]

theorem named_text_inj {d : Device.Descriptor} {w s c w' s' c' : Int}
    (h : (Processor.named { d with numWarps := w, numStages := s, numCtas := c }).value.text.toList ++ x =
      (Processor.named { d with numWarps := w', numStages := s', numCtas := c' }).value.text.toList ++ y) :
    w = w' ∧ s = s' ∧ c = c' := by
  have hcomma (n : Int) : ',' ∉ (toString n).toList := by
    intro hm
    rcases of_mem_toString_int hm with h | h <;> exact absurd h (by decide)
  have hcancel {m n : Int} {x y : List Char} (h : (toString m).toList ++ ',' :: x = (toString n).toList ++ ',' :: y) :
      m = n ∧ x = y := by
    obtain ⟨hmn, hxy⟩ := cancel_word (hcomma m) (hcomma n) h
    exact ⟨Reading.toString_int_injective (String.toList_inj.1 hmn), hxy⟩
  obtain ⟨front, stages, ctas, size, htext⟩ := toList_named d
  simp only [htext, List.append_assoc, List.cons_append, List.append_cancel_left_eq] at h
  obtain ⟨hw, h⟩ := hcancel h
  obtain ⟨hs, h⟩ := hcancel (List.append_cancel_left h)
  exact ⟨hw, hs, (hcancel (List.append_cancel_left h)).1⟩

/-! ## What the stages of a compilation are given -/

structure Arguments where
  signature : List (Int × String)
  constants : Constants
  knowledge : Types.Specialization
  debug : Value
  processor : Processor
  numWarps : Value
  numCtas : Value
  numStages : Value
  cluster : List Value
  warpSpecialization : Value
  persistent : Value
  epilogue : Bool
  instruction : Value
  libraries : Named Value
  waves : Value

def Job.arguments (j : Job) : Arguments where
  signature := j.signature
  constants := j.options.constants
  knowledge := j.knowledge
  debug := j.options.debug.getD (.bool false)
  processor := j.processor
  numWarps := j.numWarps
  numCtas := j.numCtas
  numStages := j.numStages
  cluster := j.cluster
  warpSpecialization := j.warpSpecialization
  persistent := j.persistent
  epilogue := j.surroundings.epilogue
  instruction := j.options.matrixInstrNonkdim.getD (.int 0)
  libraries := j.libraries
  waves := j.options.wavesPerEu.getD (.int 0)

/-- The arguments are all that the stages take from a job, apart from the code generators, the machine and the function. -/
theorem make_eq_of_arguments {j' : Job} (h : j.arguments = j'.arguments) (hinput : j.input = j'.input)
    (hmachine : j.surroundings.machine = j'.surroundings.machine)
    (htoolchain : j.surroundings.toolchain = j'.surroundings.toolchain) : make j = make j' := by
  simp only [Job.arguments, Arguments.mk.injEq] at h
  obtain ⟨hsignature, hconstants, hknowledge, hdebug, hprocessor, hwarps, hctas, hstages, hcluster, hroles, -, hepilogue,
    hinstruction, hlibraries, hwaves⟩ := h
  funext form before
  have htarget : j.target = j'.target := by simp only [Job.target, hprocessor, hmachine]
  have hpass : j.passTarget = j'.passTarget := by simp only [Job.passTarget, hprocessor, hmachine, htarget]
  simp only [make, hinput, hsignature, hconstants, hknowledge, hdebug, hprocessor, hwarps, hctas, hstages, hcluster, hroles,
    hepilogue, hinstruction, hlibraries, hwaves, htoolchain, htarget, hpass]

/-! ## Jobs of one instance -/

theorem ensures_printing {α : Type} (x : Device.Printing α) (st : State) :
    Ensures (printing x) st fun a _ => ∃ t, x "" = .ok a t := by
  intro a st' h
  unfold printing at h
  split at h
  · next b t hb =>
    obtain ⟨rfl, -⟩ := EStateM.Result.ok.inj h
    exact ⟨t, hb⟩
  · cases h

/-- The device of a kind: numbered with some capability, or the one that the machine has. -/
def IsDevice (s : Surroundings) (o : Options) (p : Processor) : Prop :=
  ∃ kind, deviceKind s o = .str kind ∧ ((kind = Device.numbered ∧ ∃ n, p = .numbered n) ∨
    (kind ≠ Device.numbered ∧ ∃ d t, s.machine.backendDescriptor kind "" = .ok d t ∧ p = .named d))

theorem processor_isDevice : Ensures (processor s o) st fun p _ => IsDevice s o p := by
  unfold processor
  split
  · next kind hkind =>
    split
    · next hnumbered =>
      have hnumbered : kind = Device.numbered := by simpa using hnumbered
      have hdevice (n : Int) : IsDevice s o (.numbered n) := ⟨kind, hkind, .inl ⟨hnumbered, n, rfl⟩⟩
      split
      · exact Ensures.of_pure.2 (hdevice _)
      · exact Ensures.of_pure.2 (hdevice _)
      · split
        · exact Ensures.of_pure.2 (hdevice _)
        · exact Ensures.of_throw
    · next hnamed =>
      rw [Ensures.of_bind]
      refine (ensures_printing _ st).mono ?_
      rintro d st' ⟨t, ht⟩
      refine Ensures.of_pure.2 ?_
      exact ⟨kind, hkind, .inr ⟨by simpa using hnamed, d, t, ht, rfl⟩⟩
  · exact Ensures.of_throw

def IsCounted (asked : Option Value) (P : Int → Prop) (v : Value) : Prop := asked = some v ∨ asked = none ∧ ∃ n, P n ∧ v = .int n

/-- Two counts agree that agree in the key, where the default is `n`, and on the device, where it is the one of the device. -/
theorem IsCounted.agree {a a' : Option Value} {P : Int → Prop} {v v' : Value} {n d : Int} (h : IsCounted a P v) (h' : IsCounted a' P v')
    (hP : ∀ m m', P m → P m' → m = m') (hkey : a.getD (.int n) = a'.getD (.int n)) (hdevice : v.int?.getD d = v'.int?.getD d) :
    v = v' := by
  rcases h with rfl | ⟨rfl, m, hm, rfl⟩ <;> rcases h' with rfl | ⟨rfl, m', hm', rfl⟩
  · exact hkey
  · obtain rfl : v = .int n := hkey
    exact congrArg Value.int hdevice
  · obtain rfl : Value.int n = v' := hkey
    exact congrArg Value.int hdevice
  · rw [hP m m' hm hm']

def IsDefaultWarps (s : Surroundings) (o : Options) (n : Int) : Prop :=
  ∃ t, s.machine.defaultWarps (deviceKind s o).text "" = .ok n t

/-- A job that was prepared for a function. -/
structure Prepared (s : Surroundings) (o : Options) (j : Job) : Prop where
  options : j.options = o
  device : ∃ p, IsDevice s o p ∧ j.numStages = stagesOf o p ∧ j.processor = p.configured j.numWarps j.numStages j.numCtas
  warps : IsCounted o.numWarps (IsDefaultWarps s o) j.numWarps
  ctas : j.numCtas = o.numCtas.getD (.int 1)
  cluster : clusterOf o.cluster = .ok j.cluster
  roles : j.warpSpecialization = o.enableWarpSpecialization.getD (.bool false)
  signature : o.signature = some j.signature
  knowledge : o.configs.getD [{}] = [j.knowledge]

theorem prepare_prepared : Ensures (prepare s o (.function f)) st fun j _ => Prepared s o j := by
  have hwarps (st : State) : Ensures (warpsOf s o) st fun v _ => IsCounted o.numWarps (IsDefaultWarps s o) v := by
    unfold warpsOf
    split
    · next v hv => exact Ensures.of_pure.2 (.inl hv)
    · next hnone =>
      rw [Ensures.of_bind]
      exact (ensures_printing _ st).mono fun n _ hn => Ensures.of_pure.2 (.inr ⟨hnone, n, hn, rfl⟩)
  simp only [prepare, Ensures.of_bind]
  refine processor_isDevice.mono fun p st hp => (hwarps st).mono fun numWarps st hw _ st _ => ?_
  refine (ensures_lift _).mono ?_
  rintro cluster st ⟨hcluster, -⟩ libraries st -
  refine (ensures_lift _).mono ?_
  rintro j st' ⟨hj, -⟩
  unfold Job.describe at hj
  dsimp only at hj
  split at hj
  · next signature knowledge hsignature hknowledge =>
    obtain rfl := Except.ok.inj hj
    exact ⟨rfl, ⟨p, hp, rfl, rfl⟩, hw, rfl, hcluster, rfl, hsignature, hknowledge⟩
  · cases hj
  · cases hj

theorem keyOf_eq_md5 {st' : State} {k key : String} (hinput : j.input = .function f)
    (hk : (Identity.key st.table f).1 = .ok k) (h : keyOf j st = .ok key st') : key = Digest.md5 (j.keyText k) := by
  rw [keyOf_function hinput] at h
  rcases hkey : Identity.key st.table f with ⟨e | k', t⟩
  · rw [hkey] at h
    cases h
  · rw [hkey] at h hk
    obtain rfl := Except.ok.inj hk
    exact (EStateM.Result.ok.inj h).1.symm

/-- Devices of one kind that are written alike in keys are the same, and so are the counts on a device with a name. -/
theorem processor_agree {s₁ s₂ : Surroundings} {o₁ o₂ : Options} {j₁ j₂ : Job} (hmachine : s₁.machine = s₂.machine)
    (hkind : deviceKind s₁ o₁ = deviceKind s₂ o₂) (h₁ : Prepared s₁ o₁ j₁) (h₂ : Prepared s₂ o₂ j₂)
    (hoptions : keyOptions o₁ = keyOptions o₂)
    (htext : j₁.processor.value.text.toList ++ '-' :: x = j₂.processor.value.text.toList ++ '-' :: y) :
    j₁.processor = j₂.processor ∧
      ((∀ n, j₁.processor ≠ .numbered n) → j₁.numWarps = j₂.numWarps ∧ j₁.numStages = j₂.numStages) := by
  obtain ⟨p₁, ⟨kind, hk₁, hp₁⟩, hstages₁, hprocessor₁⟩ := h₁.device
  obtain ⟨p₂, ⟨kind', hk₂, hp₂⟩, hstages₂, hprocessor₂⟩ := h₂.device
  obtain rfl : kind = kind' := Value.str.inj (by rw [← hk₁, hkind, hk₂])
  rcases hp₁ with ⟨hnumbered, n₁, rfl⟩ | ⟨hnamed, d, t, hd, rfl⟩
  · obtain ⟨-, n₂, rfl⟩ | ⟨hne, -⟩ := hp₂
    · simp only [Processor.configured] at hprocessor₁ hprocessor₂
      rw [hprocessor₁, hprocessor₂] at htext ⊢
      have hn := ((isPart_text (v := .int n₁) trivial).cancel (isPart_text (v := .int n₂) trivial) htext).1
      have hvalue : Value.int n₁ = .int n₂ :=
        Value.IsTold.text_injective (v := .int n₁) (w := .int n₂) trivial trivial (String.toList_inj.1 hn)
      exact ⟨congrArg Processor.numbered (Value.int.inj hvalue), fun h => absurd rfl (h n₁)⟩
    · exact absurd hnumbered hne
  · obtain ⟨hkind', -⟩ | ⟨-, d', t', hd', rfl⟩ := hp₂
    · exact absurd hkind' hnamed
    · rw [hmachine, hd'] at hd
      obtain ⟨rfl, -⟩ := EStateM.Result.ok.inj hd
      simp only [Processor.configured] at hprocessor₁ hprocessor₂
      rw [hprocessor₁, hprocessor₂] at htext
      obtain ⟨hw, hs, hc⟩ := named_text_inj htext
      have hdefault (m m' : Int) (hm : IsDefaultWarps s₁ o₁ m) (hm' : IsDefaultWarps s₁ o₁ m') : m = m' := by
        obtain ⟨t, ht⟩ := hm
        obtain ⟨t', ht'⟩ := hm'
        exact (EStateM.Result.ok.inj (ht.symm.trans ht')).1
      have hsame : IsDefaultWarps s₂ o₂ = IsDefaultWarps s₁ o₁ := by
        unfold IsDefaultWarps
        rw [hmachine, hkind]
      have hwarps := h₁.warps.agree (hsame ▸ h₂.warps) hdefault (congrArg CompileOptions.numWarps hoptions) hw
      have hcounted {o : Options} {v : Value} (hv : v = stagesOf o (.named d')) : IsCounted o.numStages (· = d'.numStages) v := by
        unfold stagesOf at hv
        split at hv
        · next h => exact .inl (hv ▸ h)
        · next h => cases h
        · next h hp =>
          obtain rfl := Processor.named.inj hp
          exact .inr ⟨h, _, rfl, hv⟩
      have hstages := (hcounted hstages₁).agree (hcounted hstages₂) (fun _ _ h h' => h.trans h'.symm)
        (congrArg CompileOptions.numStages hoptions) hs
      refine ⟨?_, fun _ => ⟨hwarps, hstages⟩⟩
      rw [hprocessor₁, hprocessor₂, hw, hs, hc]

/-- Two calls for the same instance of a kernel that get the same key give the stages the same arguments if and only if they
agree in what the key does not tell. -/
theorem same_key_same_arguments_iff {s₁ s₂ : Surroundings} {o₁ o₂ : Options} {f : FuncRef} {st₁ st₂ u₁ u₂ v₁ v₂ : State}
    {j₁ j₂ : Job} {k key : String} (hmachine : s₁.machine = s₂.machine) (hkind : deviceKind s₁ o₁ = deviceKind s₂ o₂)
    (hsignature : o₁.signature = o₂.signature) (hconfigs : o₁.configs = o₂.configs) (hconstants : o₁.constants = o₂.constants)
    (hcounts₁ : ∀ v ∈ keyCounts (keyOptions o₁), v.IsCount) (hcounts₂ : ∀ v ∈ keyCounts (keyOptions o₂), v.IsCount)
    (h₁ : prepare s₁ o₁ (.function f) st₁ = .ok j₁ u₁) (h₂ : prepare s₂ o₂ (.function f) st₂ = .ok j₂ u₂)
    (hk₁ : (Identity.key u₁.table f).1 = .ok k) (hk₂ : (Identity.key u₂.table f).1 = .ok k)
    (hmd5 : Set.InjOn Digest.md5 {j₁.keyText k, j₂.keyText k})
    (hkey₁ : keyOf j₁ u₁ = .ok key v₁) (hkey₂ : keyOf j₂ u₂ = .ok key v₂) :
    (j₁.arguments = j₂.arguments ↔ j₁.cluster = j₂.cluster ∧ j₁.libraries = j₂.libraries ∧ j₁.persistent = j₂.persistent ∧
      s₁.epilogue = s₂.epilogue ∧
      ∀ n, j₁.processor = .numbered n → j₁.numWarps = j₂.numWarps ∧ j₁.numStages = j₂.numStages) ∧
    (j₁.arguments = j₂.arguments → s₁.toolchain = s₂.toolchain → make j₁ = make j₂) := by
  have hp₁ := prepare_prepared j₁ u₁ h₁
  have hp₂ := prepare_prepared j₂ u₂ h₂
  obtain ⟨rfl, hi₁, -⟩ := prepare_function j₁ u₁ h₁
  obtain ⟨rfl, hi₂, -⟩ := prepare_function j₂ u₂ h₂
  have hsame : j₁.signature = j₂.signature := Option.some.inj (by rw [← hp₁.signature, hsignature, hp₂.signature])
  have hknown : j₁.knowledge = j₂.knowledge := (List.cons.inj (by rw [← hp₁.knowledge, hconfigs, hp₂.knowledge])).1
  have htext : j₁.keyText k = j₂.keyText k :=
    hmd5 (by simp) (by simp) (by rw [← keyOf_eq_md5 hi₁ hk₁ hkey₁, keyOf_eq_md5 hi₂ hk₂ hkey₂])
  rw [Job.keyText, Job.keyText, hp₁.options, hp₂.options, hsame, hknown] at htext
  obtain ⟨hoptions, x, y, hprocessor⟩ := compileText_inj hconstants hcounts₁ hcounts₂ htext
  obtain ⟨hdevice, hnamed⟩ := processor_agree hmachine hkind hp₁ hp₂ hoptions hprocessor
  refine ⟨⟨fun h => ?_, ?_⟩, fun h ht => make_eq_of_arguments h (hi₁.trans hi₂.symm) hmachine ht⟩
  · simp only [Job.arguments, Arguments.mk.injEq] at h
    obtain ⟨-, -, -, -, -, hw, -, hs, hcluster, -, hpersistent, hepilogue, -, hlibraries, -⟩ := h
    exact ⟨hcluster, hlibraries, hpersistent, hepilogue, fun _ _ => ⟨hw, hs⟩⟩
  · rintro ⟨hcluster, hlibraries, hpersistent, hepilogue, hnumbered⟩
    have hnumbers : j₁.numWarps = j₂.numWarps ∧ j₁.numStages = j₂.numStages := by
      by_cases hn : ∃ n, j₁.processor = .numbered n
      · obtain ⟨n, hn⟩ := hn
        exact hnumbered n hn
      · exact hnamed fun n h => hn ⟨n, h⟩
    simp only [keyOptions, CompileOptions.mk.injEq] at hoptions
    obtain ⟨-, -, hctas, -, hwaves, hinstruction, hroles, -, hdebug⟩ := hoptions
    simp only [Job.arguments, hp₁.options, hp₂.options, hsame, hconstants, hknown, hdebug, hdevice, hnumbers, hp₁.ctas, hp₂.ctas,
      hctas, hcluster, hp₁.roles, hp₂.roles, hroles, hpersistent, hepilogue, hinstruction, hlibraries, hwaves]

/-! ### A call with another cluster -/

def Job.withCluster (j : Job) (c : Value) (sizes : List Value) : Job :=
  { j with options := { j.options with cluster := some c }, cluster := sizes }

theorem describe_withCluster {j' : Job} (c : Value) (sizes : List Value) (hinput : j.input = .function f)
    (h : j.describe = .ok j') : (j.withCluster c sizes).describe = .ok (j'.withCluster c sizes) := by
  simp only [Job.describe, Job.withCluster, hinput] at h ⊢
  split at h
  · obtain rfl := Except.ok.inj h
    rfl
  · cases h
  · cases h

theorem prepare_withCluster {u : State} {c : Value} {sizes : List Value}
    (hsizes : clusterOf (some c) = .ok sizes) (h : prepare s o (.function f) st = .ok j u) :
    prepare s { o with cluster := some c } (.function f) st = .ok (j.withCluster c sizes) u := by
  have hall : Ensures (prepare s o (.function f)) st fun j u =>
      prepare s { o with cluster := some c } (.function f) st = .ok (Job.withCluster j c sizes) u := by
    unfold prepare
    rw [Ensures.of_bind]
    intro p u₁ hp
    rw [bind_of_ok (show processor s { o with cluster := some c } st = .ok p u₁ from hp), Ensures.of_bind]
    intro numWarps u₂ hw
    rw [bind_of_ok (show warpsOf s { o with cluster := some c } u₁ = .ok numWarps u₂ from hw), Ensures.of_bind]
    intro _ u₃ hcheck
    rw [bind_of_ok hcheck, Ensures.of_bind]
    intro cluster u₄ hcluster
    obtain ⟨-, rfl⟩ := ensures_lift _ _ _ hcluster
    rw [bind_of_ok (show lift (clusterOf (some c)) u₄ = .ok sizes u₄ by rw [hsizes]; rfl), Ensures.of_bind]
    intro libraries u₅ hlibraries j u h
    refine (bind_of_ok (show lift (librariesOf s { o with cluster := some c } _) u₄ = .ok libraries u₅ from hlibraries)).trans ?_
    obtain ⟨hj, rfl⟩ := ensures_lift _ _ _ h
    exact congrArg (lift · u) (describe_withCluster c sizes rfl hj)
  exact hall j u h

theorem keyText_withCluster (j : Job) (c : Value) (sizes : List Value) (k : String) : (j.withCluster c sizes).keyText k = j.keyText k :=
  rfl

theorem exists_prepared (s : Surroundings) (o : Options) (input : Input) (st : State) (h : prepare s o input st matches .ok _ _) :
    ∃ j u, prepare s o input st = .ok j u ∧ u.table = st.table := by
  obtain ⟨r, t, hr⟩ := onlyPrints_prepare s o input
  rw [hr] at h ⊢
  cases r with
  | ok j => exact ⟨j, _, rfl, rfl⟩
  | error e => cases h

/-- A call for the idle function on a named device, which asks for no cluster. -/
def idleSurroundings : Surroundings := { machine := { isHip := true, archInfo := "amdgcn-amd-amdhsa--gfx90a" } }

def idleOptions : Options := { signature := some [(0, "*fp32")], numWarps := some (.int 4), constants := [(.position 1, .int 1)] }

def clusterOptions (c : Value) : Options := { idleOptions with cluster := some c }

def idleReference : FuncRef := { index := 0, name := "kernel", space := .user "kmod", isJit := true }

theorem exists_idle_jobs {c : Value} {s : List Value} (hsizes : clusterOf (some c) = .ok s) : ∃ j u k key v v',
    prepare idleSurroundings idleOptions (.function idleReference) idleState = .ok j u ∧
    prepare idleSurroundings (clusterOptions c) (.function idleReference) idleState = .ok (j.withCluster c s) u ∧
    j.cluster = [.int 1, .int 1, .int 1] ∧ (Identity.key u.table idleReference).1 = .ok k ∧
    keyOf j u = .ok key v ∧ keyOf (j.withCluster c s) u = .ok key v' := by
  obtain ⟨j, u, hj, htable⟩ := exists_prepared idleSurroundings idleOptions (.function idleReference) idleState (by decide +kernel)
  have hknown : (Identity.key u.table idleReference).1.toOption.isSome := by
    rw [htable]
    decide +kernel
  obtain ⟨-, hi, -⟩ := prepare_function j u hj
  have hcluster : j.cluster = [.int 1, .int 1, .int 1] := (Except.ok.inj (prepare_prepared j u hj).cluster).symm
  rcases hk : Identity.key u.table idleReference with ⟨e | k, t⟩
  · rw [hk] at hknown
    cases hknown
  · refine ⟨j, u, k, Digest.md5 (j.keyText k), { u with table := t }, { u with table := t }, hj, prepare_withCluster hsizes hj, hcluster, by rw [hk], ?_, ?_⟩
    · rw [keyOf_function hi, hk]
    · rw [← keyText_withCluster j c s, keyOf_function (show (j.withCluster c s).input = .function idleReference from hi), hk]

/-- The sizes that a cluster has anyway are asked for. -/
theorem same_key_same_arguments_idle : ∃ j j' u, prepare idleSurroundings idleOptions (.function idleReference) idleState = .ok j u ∧
    prepare idleSurroundings (clusterOptions (.list [.int 1, .int 1, .int 1])) (.function idleReference) idleState = .ok j' u ∧
    j.arguments = j'.arguments ∧ make j = make j' := by
  obtain ⟨j, u, k, key, v, v', hj, hj', hcluster, hk, hkey, hkey'⟩ :=
    exists_idle_jobs (c := .list [.int 1, .int 1, .int 1]) (s := [.int 1, .int 1, .int 1]) rfl
  have hcounts : ∀ v ∈ keyCounts (keyOptions idleOptions), v.IsCount := by
    simp [keyCounts, keyOptions, idleOptions, Value.IsCount]
  have hmd5 : Set.InjOn Digest.md5 {j.keyText k, (j.withCluster (.list [.int 1, .int 1, .int 1]) [.int 1, .int 1, .int 1]).keyText k} := by
    rw [keyText_withCluster, Set.pair_eq_singleton]
    exact Set.injOn_singleton _ _
  have hkind : deviceKind idleSurroundings idleOptions =
      deviceKind idleSurroundings (clusterOptions (.list [.int 1, .int 1, .int 1])) := rfl
  obtain ⟨hiff, hmake⟩ := same_key_same_arguments_iff rfl hkind rfl rfl rfl hcounts hcounts hj hj' hk hk hmd5 hkey hkey'
  have harguments := hiff.2 ⟨hcluster, rfl, rfl, rfl, fun _ _ => ⟨rfl, rfl⟩⟩
  exact ⟨j, _, u, hj, hj', harguments, hmake harguments rfl⟩

/-- A cluster that was asked for does not change the key, but what a stage is given. -/
theorem same_key_other_cluster : ∃ j j' u key v v',
    prepare idleSurroundings idleOptions (.function idleReference) idleState = .ok j u ∧
    prepare idleSurroundings (clusterOptions (.list [.int 2, .int 1, .int 1])) (.function idleReference) idleState = .ok j' u ∧
    keyOf j u = .ok key v ∧ keyOf j' u = .ok key v' ∧ j.arguments ≠ j'.arguments := by
  obtain ⟨j, u, k, key, v, v', hj, hj', hcluster, -, hkey, hkey'⟩ :=
    exists_idle_jobs (c := .list [.int 2, .int 1, .int 1]) (s := [.int 2, .int 1, .int 1]) rfl
  refine ⟨j, _, u, key, v, v', hj, hj', hkey, hkey', fun h => ?_⟩
  have hsizes : j.cluster = [.int 2, .int 1, .int 1] := congrArg Arguments.cluster h
  rw [hcluster] at hsizes
  simp at hsizes

end TileKernel.Compile
