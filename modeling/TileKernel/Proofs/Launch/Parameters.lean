import TileKernel.Launch.Dispatch
import TileKernel.Proofs.Steps

/-! # Parameters of stubs and of compiled kernels

A launch is compiled into a kernel that takes the arguments without a constant, and into a stub that hands arguments to that
kernel. Both start from one signature, whose positions have gaps where constant parameters stand. The stub counts the entries of
the signature to tell arguments from descriptors of tensor maps, so a gap makes it take late arguments for descriptors. The main
statement says exactly when the two lists of arguments agree.
-/

namespace TileKernel.Launch

open Lowering List

/-! ## Positions of a signature -/

namespace Signature

def positions (s : Signature) : List Int := s.map (·.1)

/-- The entries of the arguments that a kernel takes: those without a constant. -/
def runtime (isConstant : Int → Bool) (s : Signature) : Signature := s.filter fun e => !isConstant e.1

theorem positions_runtime (isConstant : Int → Bool) (s : Signature) :
    (s.runtime isConstant).positions = s.positions.filter fun i => !isConstant i := by
  rw [positions, positions, filter_map]
  rfl

end Signature

/-! ## Descriptors behind a signature -/

variable {isConstant : Int → Bool} {ids : StubIds} {α : Type} {a : Argument} {b : Bindings}

namespace Stub

/-- The positions that the stub gives to the descriptors of tensor maps: they follow the number of entries. -/
def descriptorPositions (ids : StubIds) (s : Signature) : List Int :=
  (List.range (ids.tensorMaps.getD []).length).map fun (i : Nat) => ((s.length + i : Nat) : Int)

variable {s : Signature}

theorem mem_descriptorPositions {i : Int} :
    i ∈ descriptorPositions ids s ↔ (s.length : Int) ≤ i ∧ i < s.length + (ids.tensorMaps.getD []).length := by
  rw [descriptorPositions, mem_map]
  constructor
  · rintro ⟨d, hd, rfl⟩
    have hlt := mem_range.1 hd
    omega
  · rintro ⟨hle, hlt⟩
    exact ⟨(i - s.length).toNat, mem_range.2 (by omega), by omega⟩

theorem withDescriptors_eq (ids : StubIds) (s : Signature) :
    withDescriptors ids s = (descriptorPositions ids s).foldl (fun acc i => Table.put acc i descriptorType) s := by
  rw [descriptorPositions, foldl_map]
  rfl

/-- When every folded argument is a constant, the arguments handed on are the entries that are no constants or lie behind
the number of entries, and then the descriptors at positions that were free. -/
theorem handedOn_eq (hf : ∀ i ∈ ids.folded, isConstant i) (s : Signature) :
    handedOn isConstant ids s =
      s.positions.filter (fun i => decide ((s.length : Int) ≤ i) || !isConstant i) ++
        (descriptorPositions ids s).filter (· ∉ s.positions) := by
  have hrule : ∀ i, (!isConstant i && !(ids.folded.filter fun i => !ids.constants.contains i).contains i) =
      !isConstant i := by
    intro i
    cases hc : isConstant i with
    | true => rfl
    | false =>
      have hn : i ∉ ids.folded.filter fun i => !ids.constants.contains i := by
        intro hm
        have := hf i (mem_filter.1 hm).1
        simp [hc] at this
      simp only [Bool.not_false, Bool.true_and, Bool.not_eq_true', contains_eq_mem, decide_eq_false_iff_not]
      simpa only [contains_eq_mem] using hn
  have hnodup : (descriptorPositions ids s).Nodup := pairwise_map.2 (nodup_range.imp fun hne => by omega)
  unfold handedOn
  simp only [withDescriptors_eq, Table.keys_foldl_put hnodup, hrule, filter_append]
  congr 1
  apply filter_eq_self.2
  intro i hi
  have hle := (mem_descriptorPositions.1 (mem_filter.1 hi).1).1
  simp [hle]

/-- The stub and the kernel agree on their arguments, and no entry of the signature is lost, exactly if every entry that lies
behind the number of entries is no constant and lies behind all descriptors. -/
theorem handedOn_eq_runtime_iff (hf : ∀ i ∈ ids.folded, isConstant i) (hty : ∀ e ∈ s, e.2 ≠ descriptorType) :
    (handedOn isConstant ids s = (s.runtime isConstant).positions ++ descriptorPositions ids s ∧
        ∀ e ∈ s, e ∈ withDescriptors ids s) ↔
      ∀ i ∈ s.positions, (s.length : Int) ≤ i →
        isConstant i = false ∧ (s.length : Int) + (ids.tensorMaps.getD []).length ≤ i := by
  rw [Signature.positions_runtime, handedOn_eq hf, withDescriptors_eq]
  have hall (hfree : ∀ j ∈ descriptorPositions ids s, j ∉ s.positions) :
      (descriptorPositions ids s).filter (· ∉ s.positions) = descriptorPositions ids s :=
    filter_eq_self.2 fun j hj => decide_eq_true (hfree j hj)
  constructor
  · rintro ⟨heq, hkept⟩ i hi hle
    -- a descriptor at the position of an entry would have replaced it
    have hfree : ∀ j ∈ descriptorPositions ids s, j ∉ s.positions := by
      intro j hj hm
      obtain ⟨e, he, rfl⟩ := mem_map.1 hm
      rcases Table.mem_foldl_put.1 (hkept e he) with ⟨-, hdescriptor⟩ | ⟨-, hn⟩
      · exact hty e he hdescriptor
      · exact hn hj
    rw [hall hfree] at heq
    have hmem : i ∈ s.positions.filter fun i => !isConstant i := by
      rw [← append_cancel_right heq]
      exact mem_filter.2 ⟨hi, by simp [hle]⟩
    refine ⟨by simpa using (mem_filter.1 hmem).2, Int.not_lt.1 fun hlt => ?_⟩
    exact hfree i (mem_descriptorPositions.2 ⟨hle, hlt⟩) hi
  · intro h
    have hfree : ∀ j ∈ descriptorPositions ids s, j ∉ s.positions := by
      intro j hj hm
      obtain ⟨hle, hlt⟩ := mem_descriptorPositions.1 hj
      exact Int.not_lt.2 (h j hm hle).2 hlt
    refine ⟨?_, fun e he => Table.mem_foldl_put.2 (.inr ⟨he, fun hn => hfree _ hn (mem_map_of_mem he)⟩)⟩
    rw [hall hfree]
    congr 1
    apply filter_congr
    intro i hi
    by_cases hle : (s.length : Int) ≤ i
    · simp [hle, (h i hi hle).1]
    · simp [hle]

end Stub

/-! ## Constants of a launch -/

def hasConstant (cs : List (Int × α)) (i : Int) : Bool := cs.any (·.1 == i)

theorem hasConstant_iff {cs : List (Int × α)} {i : Int} : hasConstant cs i ↔ i ∈ cs.map (·.1) := by
  simp [hasConstant, any_eq_true]

theorem hasConstant_put (cs : List (Int × α)) (i j : Int) (a : α) :
    hasConstant (Table.put cs i a) j = (hasConstant cs j || i == j) := by
  rw [Bool.eq_iff_iff, hasConstant_iff, Table.mem_keys_put, Bool.or_eq_true, hasConstant_iff, beq_iff_eq, or_comm, eq_comm]

theorem hasConstant_foldl (a : Argument) (is : List Int) (cs : List (Int × Argument)) (j : Int) :
    hasConstant (is.foldl (fun acc i => Table.put acc i a) cs) j = (hasConstant cs j || is.contains j) := by
  rw [hasConstant, hasConstant, Table.any_eq_isSome_lookup, Table.any_eq_isSome_lookup, Table.lookup_foldl_put]
  by_cases hj : j ∈ is <;> simp [hj]

theorem mem_absent {args : List Argument} {n : Nat} (hm : (a, n) ∈ args.zipIdx) (h : a.isNone) :
    (n : Int) ∈ (args.zipIdx.filter fun (a, _) => a.isNone).map fun (_, i) => (i : Int) :=
  mem_map.2 ⟨(a, n), mem_filter.2 ⟨hm, h⟩, rfl⟩

/-- Every argument that is folded into the kernel is one of its constants. -/
theorem hasConstant_of_folded (k : Launchable) (b : Bindings) {i : Int} (h : i ∈ (knowledge k (allArguments k b)).idsOfFoldedArgs) :
    hasConstant (constants k b (knowledge k (allArguments k b))) i := by
  obtain ⟨⟨a, n⟩, hm, rfl⟩ := mem_map.1 h
  obtain ⟨hm, hp⟩ := mem_filter.1 hm
  obtain ⟨hone | hnone, hs⟩ : (a.isOne ∨ a.isNone) ∧ (!k.notSpecialized.contains (n : Int)) := by
    simpa only [Bool.and_eq_true, Bool.or_eq_true] using hp
  · have hmem : (n : Int) ∈ (knowledge k (allArguments k b)).equalTo1 :=
      mem_map.2 ⟨(a, n), mem_filter.2 ⟨hm, Bool.and_eq_true _ _ ▸ ⟨hone, hs⟩⟩, rfl⟩
    simp only [constants, hasConstant_foldl, contains_iff_mem.2 hmem, Bool.or_true]
  · simp only [constants, hasConstant_foldl, contains_iff_mem.2 (mem_absent hm hnone), Bool.or_true, Bool.true_or]

/-! ## Types of arguments -/

theorem short_ne_descriptor {e : Element} {t : String} (h : e.short? = some t) : "*" ++ t ≠ Stub.descriptorType := by
  have hall : ∀ p ∈ Element.shortNames, "*" ++ p.2 ≠ Stub.descriptorType := by decide
  obtain ⟨n, hn⟩ : ∃ n, (n, t) ∈ Element.shortNames := by
    unfold Element.short? at h
    obtain ⟨l₁, l₂, heq, _⟩ := lookup_eq_some_iff.1 h
    exact ⟨_, heq ▸ mem_append_right _ mem_cons_self⟩
  exact hall _ hn

theorem type_ne_descriptor {a : ArgumentKey} {t : String} (hs : ∀ n, a = .short n → n ≠ Stub.descriptorType)
    (h : a.type = .ok t) : t ≠ Stub.descriptorType := by
  cases a with
  | nothing =>
    cases h
    decide
  | short n =>
    simp only [ArgumentKey.type, Except.ok.injEq] at h
    exact h ▸ hs n rfl
  | element e =>
    simp only [ArgumentKey.type] at h
    cases he : e.short? with
    | none => simp [he] at h
    | some s =>
      simp only [he, Except.ok.injEq] at h
      exact h ▸ short_ne_descriptor he

theorem key_ne_descriptor {key : ArgumentKey} (h : a.key = .ok key) (n : String) (hn : key = .short n) :
    n ≠ Stub.descriptorType := by
  subst hn
  unfold Argument.key at h
  split at h
  · simp at h
  · split at h
    · cases h
      decide
    · cases h
      unfold Argument.intKey
      split
      · decide
      · split <;> decide
    · cases h
      decide
    · simp at h
    · simp at h

theorem signature_ne_descriptor {k : Launchable} {s : Signature} (h : signature k b = .ok s) :
    ∀ e ∈ s, e.2 ≠ Stub.descriptorType := by
  intro e he
  obtain ⟨⟨a, i⟩, _, hai⟩ := Steps.exists_of_mem_mapM h he
  obtain ⟨key, hkey, htype⟩ := Steps.bind_eq_ok.1 hai
  obtain ⟨t, ht, hpure⟩ := Steps.bind_eq_ok.1 htype
  obtain rfl := Steps.pure_eq_ok.1 hpure
  exact type_ne_descriptor (key_ne_descriptor hkey) ht

/-! ## The kernel of a launch -/

/-- A kernel is compiled for a request: it gets the signature of the request, and constants at the same positions. -/
structure CompiledFor (r : Request) (k : KernelInstance) : Prop where
  signature : k.signature = r.signature
  constants : k.constants.map (·.1) = r.constants.map fun c => ArgKey.position c.1

private theorem hasConstant_positions (names : List String) {cs : Constants} {is : List Int}
    (h : cs.map (·.1) = is.map ArgKey.position) (acc : List (Int × Value)) {found : List (Int × Value)}
    (hf : cs.foldlM (fun acc (key, v) =>
      match key with
      | .position i => .ok (Table.put acc i v)
      | .name s =>
        match names.findIdx? (· == s) with
        | some i => .ok (Table.put acc i v)
        | none => .error (.implicit .value)) acc = (.ok found : Except Fault _)) (j : Int) :
    hasConstant found j = (hasConstant acc j || is.contains j) := by
  induction cs generalizing is acc with
  | nil =>
    obtain rfl : is = [] := map_eq_nil_iff.1 h.symm
    cases hf
    simp
  | cons c cs ih =>
    cases is with
    | nil => simp at h
    | cons i is =>
      obtain ⟨key, v⟩ := c
      obtain ⟨rfl, htail⟩ : key = .position i ∧ cs.map (·.1) = is.map ArgKey.position := by simpa using h
      rw [ih htail (Table.put acc i v) hf, hasConstant_put,
        contains_cons, Bool.or_assoc, Bool.beq_comm (a := i)]

variable {r : Request} {k : KernelInstance}

theorem hasConstant_constantsAt (hk : CompiledFor r k) {names : List String}
    {cs : List (Int × Value)} (h : k.constantsAt names = .ok cs) (i : Int) : hasConstant cs i = hasConstant r.constants i := by
  have hpos : k.constants.map (·.1) = (r.constants.map (·.1)).map ArgKey.position := by
    rw [hk.constants, map_map]
    rfl
  rw [hasConstant_positions names hpos [] h i, Bool.eq_iff_iff, hasConstant_iff]
  simp [hasConstant]

/-- The function of a kernel takes one argument for each entry of the signature without a constant, in the order of the
signature and of the type that the entry gives. -/
theorem params_of_kernelState (hk : CompiledFor r k) {program : Program} {target : IR.Target}
    {info : FuncInfo} {st : LowerState} (h : kernelState program target info k = .ok st) :
    (r.signature.runtime (hasConstant r.constants)).mapM (fun e => Types.ofSignature e.2) = .ok st.frame.type.params := by
  obtain ⟨cs, hcs, h⟩ := Steps.bind_eq_ok.1 h
  obtain ⟨types, htypes, h⟩ := Steps.bind_eq_ok.1 h
  have hparams : st.frame.type.params = types := by
    cases hjit : info.isJit with
    | false => simp [hjit] at h
    | true =>
      simp only [hjit, Bool.not_true, Bool.false_eq_true, if_false] at h
      obtain rfl := Steps.pure_eq_ok.1 h
      rfl
  have hfilter : r.signature.runtime (hasConstant r.constants) = r.signature.runtime (hasConstant cs) :=
    filter_congr fun e _ => congrArg not (hasConstant_constantsAt hk hcs e.1).symm
  rw [hparams, ← htypes, KernelInstance.argTypes, hk.signature, hfilter]
  exact (Steps.filterMapM_eq_mapM (fun e => hasConstant cs e.1) (fun e => Types.ofSignature e.2) r.signature).symm

/-! ## The stub of a launch -/

def Stub.paramsLine (is : List Int) : String :=
  "  void *params[] = \x7b " ++ ", ".intercalate (is.map fun i => "&arg" ++ toString i) ++ " \x7d;"

theorem paramsLine_mem_lines {t : Stub.Text} {s : Signature} {ls : List String}
    (h : Stub.lines t isConstant ids s = .ok ls) : Stub.paramsLine (Stub.handedOn isConstant ids s) ∈ ls := by
  unfold Stub.lines at h
  obtain ⟨declared, _, h⟩ := Steps.bind_eq_ok.1 h
  obtain ⟨arrivals, _, h⟩ := Steps.bind_eq_ok.1 h
  have hls := Except.ok.inj h
  rw [← hls]
  iterate 7 apply mem_append_left
  exact mem_append_right _ mem_cons_self

/-- The positions that the stub of a request treats specially, with descriptors for `maps`. -/
def Request.stubIds (r : Request) (k : Launchable) (maps : Option (List Int)) : StubIds :=
  { tensorMaps := maps, folded := r.knowledge.idsOfFoldedArgs, constants := k.constants.map fun (i : Nat) => (i : Int) }

theorem request_eq_ok {k : Launchable} {key : Key} {device : Argument} {kind : String} (h : request k b key device kind = .ok r) :
    signature k b = .ok r.signature ∧ r.knowledge = knowledge k (allArguments k b) ∧
      r.constants = constants k b (knowledge k (allArguments k b)) := by
  obtain ⟨s, hs, h⟩ := Steps.bind_eq_ok.1 h
  obtain rfl := Steps.pure_eq_ok.1 h
  exact ⟨hs, rfl, rfl⟩

/-- The kernel that is compiled for a launch takes the arguments without a constant, and the stub lists the arguments that it
hands on. The two agree, with the descriptors behind, and the signature with descriptors keeps every entry, exactly if each
entry at or behind the number of entries has no constant and stands behind all descriptors. -/
theorem stub_agrees_with_kernel_iff {k : Launchable} {b : Bindings} {key : Key} {device : Argument} {kind : String} {r : Request}
    (hr : request k b key device kind = .ok r) (maps : Option (List Int)) :
    let isConstant := hasConstant r.constants
    let ids := r.stubIds k maps
    let n : Int := r.signature.length
    (∀ ki program target info st, CompiledFor r ki → kernelState program target info ki = .ok st →
      (r.signature.runtime isConstant).mapM (fun e => Types.ofSignature e.2) = .ok st.frame.type.params) ∧
    (∀ t ls, Stub.lines t isConstant ids r.signature = .ok ls →
      Stub.paramsLine (Stub.handedOn isConstant ids r.signature) ∈ ls) ∧
    ((Stub.handedOn isConstant ids r.signature =
          (r.signature.runtime isConstant).positions ++ Stub.descriptorPositions ids r.signature ∧
        ∀ e ∈ r.signature, e ∈ Stub.withDescriptors ids r.signature) ↔
      ∀ i ∈ r.signature.positions, n ≤ i → isConstant i = false ∧ n + (maps.getD []).length ≤ i) := by
  obtain ⟨hs, hknown, hconstants⟩ := request_eq_ok hr
  refine ⟨fun ki program target info st hk hst => params_of_kernelState hk hst, fun t ls hls => paramsLine_mem_lines hls, ?_⟩
  have hfolded : ∀ i ∈ (r.stubIds k maps).folded, hasConstant r.constants i := by
    intro i hi
    rw [hconstants]
    exact hasConstant_of_folded k b (hknown ▸ hi)
  exact Stub.handedOn_eq_runtime_iff hfolded (signature_ne_descriptor hs)

def constantBetween : Launchable :=
  { name := "kernel", space := "kernels", params := ["n", "SIZE", "m"], defaults := [], annotations := [("SIZE", "constexpr")]
    constants := [1], notSpecialized := [], debug := .none }

def betweenNumbers (n m : Int) : Bindings := [("n", .value (.int n)), ("SIZE", .value (.int 16)), ("m", .value (.int m))]

/-- With a last number other than one, both numbers are handed on, although the last one lies behind the number of entries. -/
theorem stub_agrees_behind_constant : ∃ r, request constantBetween (betweenNumbers 7 5) default default "cuda" = .ok r ∧
    r.signature.positions = [0, 2] ∧
    Stub.handedOn (hasConstant r.constants) (r.stubIds constantBetween none) r.signature =
      (r.signature.runtime (hasConstant r.constants)).positions := by
  refine ⟨_, rfl, rfl, ?_⟩
  have hagree := ((@stub_agrees_with_kernel_iff constantBetween (betweenNumbers 7 5) default default "cuda" _ rfl none).2.2.2
    (by decide)).1
  exact hagree.trans (append_nil _)

/-- A last number one is folded into the kernel, but the stub still hands it on. -/
theorem stub_hands_on_folded : ∃ r, request constantBetween (betweenNumbers 7 1) default default "cuda" = .ok r ∧
    Stub.handedOn (hasConstant r.constants) (r.stubIds constantBetween none) r.signature = [0, 2] ∧
    (r.signature.runtime (hasConstant r.constants)).positions = [0] :=
  ⟨_, rfl, by decide, by decide⟩

end TileKernel.Launch
