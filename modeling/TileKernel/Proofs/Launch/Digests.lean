import Mathlib.Data.Finset.Card
import Mathlib.Logic.Relation
import TileKernel.Launch.Identity
import TileKernel.Proofs.Steps

/-! # Digests of functions

What the digest of a function stands for. A walk over its text meets calls, and the digests of the functions that are called
go into its own; digests that are kept are taken as they are. The walk changes a table as it goes on, but every digest that it
adds is one that `recallTo` computes from the table at the start. `recallTo` also lists the texts that are hashed on the way, since
statements about digests assume that hashing is injective on them.
-/

namespace TileKernel.Digest

open List

/-! ## Hexadecimal texts -/

def hexDigits : List Char := "0123456789abcdef".toList

theorem hex_byte {n : Nat} (h : n < 256) : (Text.hex 2 n).toList.length = 2 ∧ ∀ c ∈ (Text.hex 2 n).toList, c ∈ hexDigits := by
  have hcheck : (range 256).all (fun n =>
      (Text.hex 2 n).toList.length == 2 && (Text.hex 2 n).toList.all hexDigits.contains) := by decide +kernel
  simpa using all_eq_true.1 hcheck n (mem_range.2 h)

variable (o : ByteOrder)

theorem length_bytes (n value : Nat) : (o.bytes n value).length = n := by
  cases o <;> simp [ByteOrder.bytes]

theorem toList_hexText (words : List UInt32) :
    (hexText o words).toList = words.flatMap fun w => (o.bytes 4 w.toNat).flatMap fun b => (Text.hex 2 b.toNat).toList := by
  simp only [hexText, String.toList_join, flatMap_map]

theorem length_hexText (words : List UInt32) : (hexText o words).toList.length = 8 * words.length := by
  have hbyte : ∀ b : UInt8, (Text.hex 2 b.toNat).toList.length = 2 := fun b => (hex_byte b.toNat_lt).1
  simp [toList_hexText, length_flatMap, hbyte, length_bytes, Nat.mul_comm]

theorem mem_hexText {o : ByteOrder} {words : List UInt32} {c : Char} (h : c ∈ (hexText o words).toList) : c ∈ hexDigits := by
  rw [toList_hexText] at h
  obtain ⟨w, -, h⟩ := mem_flatMap.1 h
  obtain ⟨b, -, h⟩ := mem_flatMap.1 h
  exact (hex_byte b.toNat_lt).2 c h

theorem length_sha1 (s : String) : (sha1 s).toList.length = 40 := length_hexText _ _

theorem mem_sha1 {s : String} {c : Char} (h : c ∈ (sha1 s).toList) : c ∈ hexDigits := mem_hexText h

end TileKernel.Digest

namespace TileKernel.Launch.Identity

open Lowering Source Steps Digest List

/-! ## Calls that are followed -/

def sourceOf (p : Program) (i : Nat) : String := (p.funcs.getD i default).text

/-- The functions that a walk enters, in order. -/
def followed (p : Program) (space : Space) : List Visit → Except Fault (List FuncRef)
  | [] => .ok []
  | v :: vs =>
    match contribution p space v with
    | .nothing => followed p space vs
    | .walk f => (followed p space vs).map (f :: ·)
    | .refused e => .error e

/-- The functions that the walk over the text of a function enters, in order. -/
def callees (p : Program) (i : Nat) : Except Fault (List FuncRef) := do
  let info := p.funcs.getD i default
  let stmts ← parse info.text
  let vs ← (Part.stmts stmts).mapM (visits (depthOf info.text))
  followed p info.space vs.flatten

variable {p : Program} {i n j : Nat} {gs : List FuncRef} {vs : List Visit} {f : FuncRef} {r : Recall} {s : Walk}

theorem callees_eq_ok (h : callees p i = .ok gs) :
    ∃ stmts vs, parse (sourceOf p i) = .ok stmts ∧ (Part.stmts stmts).mapM (visits (depthOf (sourceOf p i))) = .ok vs ∧
      followed p (p.funcs.getD i default).space vs.flatten = .ok gs := by
  obtain ⟨stmts, hstmts, h⟩ := bind_eq_ok.1 h
  obtain ⟨vs, hvs, h⟩ := bind_eq_ok.1 h
  exact ⟨stmts, vs, hstmts, hvs, h⟩

/-- An expression that is called in a tree, outside of the arguments of other calls. -/
inductive CalledIn (e : Expr) : Part → Prop
  | call {pos args ks} : CalledIn e (.expr (.call pos e args ks))
  | callee {pos f args ks} : CalledIn e (.expr f) → CalledIn e (.expr (.call pos f args ks))
  | part {q r} : (∀ pos f args ks, q ≠ .expr (.call pos f args ks)) → r ∈ q.parts → CalledIn e r → CalledIn e q

theorem visits_parts {q : Part} (hcall : ¬ ∃ pos f args ks, q = .expr (.call pos f args ks))
    (hattr : ¬ ∃ pos v name access, q = .expr (.attr pos v name access)) (h : visits (n + 1) q = .ok vs) :
    ∃ ws, q.parts.mapM (visits n) = .ok ws ∧ ws.flatten = vs := by
  unfold visits at h
  split at h
  · next hn => cases hn
  · cases h
    exact ⟨[], rfl, rfl⟩
  · exact absurd ⟨_, _, _, _, rfl⟩ hattr
  · exact absurd ⟨_, _, _, _, rfl⟩ hcall
  · next heq _ _ _ =>
    cases heq
    obtain ⟨ws, hws, hvs⟩ := bind_eq_ok.1 h
    exact ⟨ws, hws, pure_eq_ok.1 hvs⟩

theorem call_mem_visits {q : Part} (h : visits n q = .ok vs) (e : Expr) : .call e ∈ vs ↔ CalledIn e q := by
  -- a tree that is no call is looked at part by part
  have inside : ∀ q : Part, (∀ pos f args ks, q ≠ .expr (.call pos f args ks)) →
      (CalledIn e q ↔ ∃ r ∈ q.parts, CalledIn e r) := by
    intro q hq
    constructor
    · intro hc
      cases hc with
      | call => exact absurd rfl (hq _ _ _ _)
      | callee => exact absurd rfl (hq _ _ _ _)
      | part _ hr hc => exact ⟨_, hr, hc⟩
    · rintro ⟨r, hr, hc⟩
      exact .part hq hr hc
  induction n generalizing q vs with
  | zero => cases h
  | succ n ih =>
    by_cases hcall : ∃ pos f args ks, q = .expr (.call pos f args ks)
    · obtain ⟨pos, f, args, ks, rfl⟩ := hcall
      obtain ⟨ws, hws, hvs⟩ := bind_eq_ok.1 h
      obtain rfl := pure_eq_ok.1 hvs
      simp only [mem_append, mem_singleton, Visit.call.injEq, ih hws]
      constructor
      · rintro (hc | rfl)
        · exact .callee hc
        · exact .call
      · intro hc
        cases hc with
        | call => exact .inr rfl
        | callee hc => exact .inl hc
        | part hq => exact absurd rfl (hq _ _ _ _)
    · rw [inside q fun pos f args ks he => hcall ⟨pos, f, args, ks, he⟩]
      by_cases hattr : ∃ pos v name access, q = .expr (.attr pos v name access)
      · obtain ⟨pos, v, name, access, rfl⟩ := hattr
        obtain ⟨ws, hws, hvs⟩ := bind_eq_ok.1 h
        obtain rfl := pure_eq_ok.1 hvs
        simpa [Part.parts, Part.ofExpr] using ih hws
      · obtain ⟨ws, hws, rfl⟩ := visits_parts hcall hattr h
        rw [mem_flatten]
        constructor
        · rintro ⟨w, hw, he⟩
          obtain ⟨r, hr, hrw⟩ := exists_of_mem_mapM hws hw
          exact ⟨r, hr, (ih hrw).1 he⟩
        · rintro ⟨r, hr, hc⟩
          obtain ⟨w, hw, hrw⟩ := exists_mem_of_forall₂ (mapM_eq_ok.1 hws) hr
          exact ⟨w, hw, (ih hrw).2 hc⟩

theorem mem_followed {space : Space} (h : followed p space vs = .ok gs)
    (g : FuncRef) : g ∈ gs ↔ ∃ v ∈ vs, contribution p space v = .walk g := by
  induction vs generalizing gs with
  | nil =>
    cases h
    simp
  | cons v vs ih =>
    unfold followed at h
    split at h
    · next hc => simp [ih h, hc]
    · next f hc =>
      obtain ⟨hs, hhs, rfl⟩ := map_eq_ok.1 h
      simp [ih hhs, hc, eq_comm]
    · cases h

theorem contribution_eq_walk {space : Space} {v : Visit} {g : FuncRef} : contribution p space v = .walk g ↔
    ∃ e x, v = .call e ∧ valueOf p space e = .ok (some x) ∧ callee x = .walk g := by
  unfold contribution
  split
  · split <;> simp
  · next e =>
    split
    · next x hx => simp [hx]
    · next hx => simp [hx]
    · next hx => simp [hx]

/-- A function that another one calls outside of the arguments of other calls. -/
def Follows (p : Program) (i j : Nat) : Prop :=
  ∃ stmts e v g, parse (sourceOf p i) = .ok stmts ∧ (∃ q ∈ Part.stmts stmts, CalledIn e q) ∧
    valueOf p (p.funcs.getD i default).space e = .ok (some v) ∧ callee v = .walk g ∧ g.index = j

theorem follows_iff (h : callees p i = .ok gs) (j : Nat) : Follows p i j ↔ ∃ g ∈ gs, g.index = j := by
  obtain ⟨stmts, vs, hstmts, hvs, h⟩ := callees_eq_ok h
  constructor
  · rintro ⟨stmts', e, x, g, hparse, ⟨q, hq, hc⟩, hx, hg, rfl⟩
    obtain rfl : stmts = stmts' := Except.ok.inj (hstmts.symm.trans hparse)
    obtain ⟨w, hw, hqw⟩ := exists_mem_of_forall₂ (mapM_eq_ok.1 hvs) hq
    refine ⟨g, (mem_followed h g).2 ⟨.call e, mem_flatten.2 ⟨w, hw, (call_mem_visits hqw e).2 hc⟩, ?_⟩, rfl⟩
    exact contribution_eq_walk.2 ⟨e, x, rfl, hx, hg⟩
  · rintro ⟨g, hg, rfl⟩
    obtain ⟨v, hv, hc⟩ := (mem_followed h g).1 hg
    obtain ⟨e, x, rfl, hx, hxg⟩ := contribution_eq_walk.1 hc
    obtain ⟨w, hw, he⟩ := mem_flatten.1 hv
    obtain ⟨q, hq, hqw⟩ := exists_of_mem_mapM hvs hw
    exact ⟨stmts, e, x, g, hstmts, ⟨q, hq, (call_mem_visits hqw e).1 he⟩, hx, hxg, rfl⟩

def Reaches (p : Program) : Nat → Nat → Prop := Relation.ReflTransGen (Follows p)

/-! ## Digests from a table -/

/-- The text that is hashed when the digest of a called function goes into a running digest. -/
def joined (p : Program) (d : String) (c : FuncRef × String) : String := d ++ c.2 ++ flagText (p.func c.1).noinline

/-- A running digest after the digests of called functions. -/
def absorb (p : Program) (d : String) (cs : List (FuncRef × String)) : String :=
  cs.foldl (fun d c => sha1 (joined p d c)) d

theorem absorb_cons (p : Program) (d : String) (c : FuncRef × String) (cs : List (FuncRef × String)) :
    absorb p d (c :: cs) = absorb p (sha1 (joined p d c)) cs := foldl_cons ..

/-- The texts that are hashed on the way. -/
def absorbed (p : Program) : String → List (FuncRef × String) → List String
  | _, [] => []
  | d, c :: cs => joined p d c :: absorbed p (sha1 (joined p d c)) cs

/-- A digest with the texts that were hashed for it. -/
structure Recall where
  digest : String
  hashed : List String

/-- The digest of a function from those of the functions that it calls. -/
def recompute (p : Program) (i : Nat) (gs : List FuncRef) (rs : List Recall) : Recall :=
  let cs := gs.zip (rs.map (·.digest))
  ⟨absorb p (sha1 (sourceOf p i)) cs, sourceOf p i :: absorbed p (sha1 (sourceOf p i)) cs ++ rs.flatMap (·.hashed)⟩

/-- The digest of a function, given those that a table keeps. -/
def recallTo (t : Table) : Nat → Nat → Option Recall
  | 0, _ => none
  | n + 1, i =>
    match t.find? i with
    | some d => some ⟨d, []⟩
    | none => do
      let gs ← (callees t.program i).toOption
      let rs ← gs.mapM fun g => recallTo t n g.index
      let cs := gs.zip (rs.map (·.digest))
      let text := sourceOf t.program i
      some ⟨absorb t.program (sha1 text) cs, text :: absorbed t.program (sha1 text) cs ++ rs.flatMap (·.hashed)⟩

theorem mapM_eq_some {α β : Type} {f : α → Option β} {xs : List α} {ys : List β} :
    xs.mapM f = some ys ↔ List.Forall₂ (fun x y => f x = some y) xs ys := by
  induction xs generalizing ys with
  | nil => simp [eq_comm]
  | cons x xs ih =>
    rw [mapM_cons, forall₂_cons_left_iff]
    simp only [Option.bind_eq_bind, Option.bind_eq_some_iff, Option.pure_def, Option.some.injEq, ih]
    constructor
    · rintro ⟨y, hy, zs, hzs, rfl⟩
      exact ⟨y, zs, hy, hzs, rfl⟩
    · rintro ⟨y, zs, hy, hzs, rfl⟩
      exact ⟨y, hy, zs, hzs, rfl⟩

theorem eq_ok_of_toOption {ε α : Type} {x : Except ε α} {a : α} (h : x.toOption = some a) : x = .ok a := by
  cases x with
  | ok b => exact congrArg Except.ok (Option.some.inj h)
  | error e => cases h

variable {t : Table}

theorem recall_known {d : String} (h : t.find? i = some d) (n : Nat) : recallTo t (n + 1) i = some ⟨d, []⟩ := by
  rw [recallTo, h]

theorem recall_unknown (h : t.find? i = none) : recallTo t (n + 1) i = some r ↔
    ∃ gs rs, callees t.program i = .ok gs ∧ Forall₂ (fun g r => recallTo t n g.index = some r) gs rs ∧
      r = recompute t.program i gs rs := by
  rw [recallTo, h]
  simp only [Option.bind_eq_bind, Option.bind_eq_some_iff, mapM_eq_some, Option.some.injEq]
  constructor
  · rintro ⟨gs, hgs, rs, hrs, rfl⟩
    exact ⟨gs, rs, eq_ok_of_toOption hgs, hrs, rfl⟩
  · rintro ⟨gs, rs, hgs, hrs, rfl⟩
    exact ⟨gs, by rw [hgs]; rfl, rs, hrs, rfl⟩

theorem recall_mono {m : Nat} (hnm : n ≤ m) (h : recallTo t n i = some r) : recallTo t m i = some r := by
  induction n generalizing m i r with
  | zero => cases h
  | succ n ih =>
    obtain ⟨m, rfl⟩ : ∃ k, m = k + 1 := ⟨m - 1, by omega⟩
    cases hk : t.find? i with
    | some d => rwa [recall_known hk] at h ⊢
    | none =>
      obtain ⟨gs, rs, hgs, hrs, hr⟩ := (recall_unknown hk).1 h
      exact (recall_unknown hk).2 ⟨gs, rs, hgs, hrs.imp fun _ _ hg => ih (by omega) hg, hr⟩

def Recalls (t : Table) (i : Nat) (r : Recall) : Prop := ∃ n, recallTo t n i = some r

theorem Recalls.unique {r' : Recall} (h : Recalls t i r) (h' : Recalls t i r') : r = r' := by
  obtain ⟨n, hn⟩ := h
  obtain ⟨m, hm⟩ := h'
  have hn := recall_mono (le_max_left n m) hn
  have hm := recall_mono (le_max_right n m) hm
  exact Option.some.inj (hn.symm.trans hm)

theorem Recalls.known {d : String} (h : t.find? i = some d) : Recalls t i ⟨d, []⟩ := ⟨1, recall_known h 0⟩

theorem exists_depth {rs : List Recall} (h : List.Forall₂ (fun g r => Recalls t g.index r) gs rs) :
    ∃ n, List.Forall₂ (fun g r => recallTo t n g.index = some r) gs rs := by
  induction h with
  | nil => exact ⟨0, .nil⟩
  | cons hg _ ih =>
    obtain ⟨n, hn⟩ := hg
    obtain ⟨m, hm⟩ := ih
    exact ⟨max n m, .cons (recall_mono (le_max_left n m) hn) (hm.imp fun _ _ h => recall_mono (le_max_right n m) h)⟩

theorem recalls_unknown (h : t.find? i = none) : Recalls t i r ↔
    ∃ gs rs, callees t.program i = .ok gs ∧ Forall₂ (fun g r => Recalls t g.index r) gs rs ∧
      r = recompute t.program i gs rs := by
  constructor
  · rintro ⟨n, hn⟩
    cases n with
    | zero => cases hn
    | succ n =>
      obtain ⟨gs, rs, hgs, hrs, hr⟩ := (recall_unknown h).1 hn
      exact ⟨gs, rs, hgs, hrs.imp fun _ _ hg => ⟨n, hg⟩, hr⟩
  · rintro ⟨gs, rs, hgs, hrs, hr⟩
    obtain ⟨n, hn⟩ := exists_depth hrs
    exact ⟨n + 1, (recall_unknown h).2 ⟨gs, rs, hgs, hn, hr⟩⟩

/-! ## The walk against the table at its start -/

/-- A table that a walk from a function has added to: what was kept is kept, and all that was added belongs to functions that
are reached, and is recalled from the start. -/
structure Extends (root : Nat) (t t' : Table) : Prop where
  program : t'.program = t.program
  keeps : ∀ i d, t.find? i = some d → t'.find? i = some d
  recalls : ∀ i d, t'.find? i = some d → ∃ r, Recalls t i r ∧ r.digest = d
  reaches : ∀ i d, t.find? i = none → t'.find? i = some d → Reaches t.program root i

variable {root : Nat}

theorem Extends.refl (root : Nat) (t : Table) : Extends root t t where
  program := rfl
  keeps _ _ h := h
  recalls _ _ h := ⟨_, .known h, rfl⟩
  reaches i d hn h := by
    rw [hn] at h
    cases h

theorem find?_remember (t : Table) (i j : Nat) (d : String) : (t.remember i d).find? j = if j = i then some d else t.find? j := by
  unfold Table.remember Table.find?
  rw [Table.lookup_cons, Table.lookup_without]
  split <;> rfl

theorem Extends.remember {t' : Table} (h : Extends root t t') (hr : Recalls t i r)
    (hi : t.find? i = none) (hroot : Reaches t.program root i) : Extends root t (t'.remember i r.digest) where
  program := h.program
  keeps j d hj := by
    rw [find?_remember, if_neg]
    · exact h.keeps j d hj
    · rintro rfl
      rw [hj] at hi
      cases hi
  recalls j d hj := by
    rw [find?_remember] at hj
    split at hj
    · next he =>
      subst he
      exact ⟨r, hr, Option.some.inj hj⟩
    · exact h.recalls j d hj
  reaches j d hn hj := by
    rw [find?_remember] at hj
    split at hj
    · next he =>
      subst he
      exact hroot
    · exact h.reaches j d hn hj

section

variable {enter : FuncRef → Walking String} {space : Space} {v : Visit} {s : Walk}

theorem look_nothing (h : contribution s.table.program space v = .nothing) : look enter space v s = .ok ⟨⟩ s := by
  rw [look, bind_of_ok (x := get) rfl, h]
  rfl

theorem look_walk {f : FuncRef} (h : contribution s.table.program space v = .walk f) :
    look enter space v s = (enter f >>= fun d => modify fun s' =>
      { s' with digest := sha1 (joined s.table.program s'.digest (f, d)) } : Walking Unit) s := by
  rw [look, bind_of_ok (x := get) rfl, h]
  rfl

end

/-- What entering a function does to a walk: it gives the recalled digest, and leaves the running digest and the functions being
walked alone. -/
def Enters (root : Nat) (t : Table) (enter : FuncRef → Walking String) (f : FuncRef) (s : Walk) : Prop :=
  ∃ r s', Recalls t f.index r ∧ enter f s = .ok r.digest s' ∧ Extends root t s'.table ∧ s'.digest = s.digest ∧ s'.active = s.active

section Walks

variable {enter : FuncRef → Walking String} {gs : List FuncRef} {active : List Nat}
  (henter : ∀ g ∈ gs, ∀ s : Walk, Extends root t s.table → s.active = active → Enters root t enter g s)
include henter

theorem looks_spec {space : Space} {vs : List Visit} (hgs : followed t.program space vs = .ok gs) {s : Walk}
    (hs : Extends root t s.table) (ha : s.active = active) :
    ∃ rs s', vs.forM (look enter space) s = .ok ⟨⟩ s' ∧ Extends root t s'.table ∧
      List.Forall₂ (fun g r => Recalls t g.index r) gs rs ∧
      s'.digest = absorb t.program s.digest (gs.zip (rs.map (·.digest))) := by
  induction vs generalizing s gs with
  | nil =>
    cases hgs
    exact ⟨[], s, rfl, hs, .nil, rfl⟩
  | cons v vs ih =>
    unfold followed at hgs
    split at hgs
    · next hc =>
      obtain ⟨rs, s', hrun, hend⟩ := ih henter hgs hs ha
      exact ⟨rs, s', (bind_of_ok (look_nothing (hs.program ▸ hc))).trans hrun, hend⟩
    · next f hc =>
      obtain ⟨later, hlater, rfl⟩ := map_eq_ok.1 hgs
      rw [forall_mem_cons] at henter
      obtain ⟨r, s₁, hr, hrun₁, hs₁, hdigest, hactive⟩ := henter.1 s hs ha
      have hone := (look_walk (hs.program ▸ hc)).trans (bind_of_ok hrun₁)
      rw [hs.program] at hone
      obtain ⟨rs, s', hrun, hs', hrs, hd⟩ := ih henter.2 hlater
        (s := { s₁ with digest := sha1 (joined t.program s₁.digest (f, r.digest)) }) hs₁ (hactive.trans ha)
      refine ⟨r :: rs, s', (bind_of_ok hone).trans hrun, hs', .cons hr hrs, ?_⟩
      rw [hd, hdigest, map_cons, zip_cons_cons, absorb_cons]
    · cases hgs

theorem walk_spec {i : Nat} (hi : t.find? i = none) (hgs : callees t.program i = .ok gs) {stmts : List Stmt}
    (hparse : parse (sourceOf t.program i) = .ok stmts) {ps : List Part} (hps : ps.mapM (visits (depthOf (sourceOf t.program i))) =
      (Part.stmts stmts).mapM (visits (depthOf (sourceOf t.program i)))) {s : Walk} (hs : Extends root t s.table)
    (ha : s.active = active) (hd : s.digest = sha1 (sourceOf t.program i)) :
    ∃ r s', Recalls t i r ∧ s'.digest = r.digest ∧ Extends root t s'.table ∧
      walk enter (t.program.funcs.getD i default).space (depthOf (sourceOf t.program i)) ps s = .ok ⟨⟩ s' := by
  obtain ⟨stmts', vs, hstmts', hvs, hfollowed⟩ := callees_eq_ok hgs
  obtain rfl := Except.ok.inj (hparse.symm.trans hstmts')
  obtain ⟨rs, s', hrun, hs', hrs, hdigest⟩ := looks_spec henter hfollowed hs ha
  rw [hd] at hdigest
  refine ⟨_, s', (recalls_unknown hi).2 ⟨gs, rs, hgs, hrs, rfl⟩, hdigest, hs', ?_⟩
  rw [walk, hps, hvs]
  exact hrun

end Walks

theorem explore_spec {enter : FuncRef → Walking String}
    (hroot : Reaches t.program root f.index) (hf : t.find? f.index = none) (hgs : callees t.program f.index = .ok gs)
    (hs : Extends root t s.table) (hactive : f.index ∉ s.active)
    (henter : ∀ g ∈ gs, ∀ s' : Walk, Extends root t s'.table → s'.active = f.index :: s.active → Enters root t enter g s') :
    Enters root t (explore enter) f s := by
  obtain ⟨stmts, vs, hparse, hvs, -⟩ := callees_eq_ok hgs
  have hidle : s.active.contains f.index = false := by simpa using hactive
  have hstmts : parse (t.program.func f).text = .ok stmts := hparse
  obtain ⟨r, s', hr, hdigest, hs', hwalk⟩ := walk_spec henter hf hgs hparse rfl
    (s := ⟨s.table, sha1 (sourceOf t.program f.index), f.index :: s.active⟩) hs rfl rfl
  refine ⟨r, ⟨s'.table.remember f.index s'.digest, s.digest, s.active⟩, hr, ?_, hdigest ▸ hs'.remember hr hf hroot, rfl, rfl⟩
  rw [sourceOf, ← Program.func] at hwalk
  rw [explore, bind_of_ok (x := get) rfl, hidle, hs.program]
  simp only [hstmts, Bool.false_eq_true, if_false]
  rw [bind_of_ok (x := set _) rfl, bind_of_ok hwalk, ← hdigest]
  rfl

/-! ## Walks that come to an end -/

/-- A function whose calls can be followed to the end: what it calls can be told, and has the same property. -/
inductive Sound (p : Program) : Nat → Prop
  | intro {i : Nat} {gs : List FuncRef} : callees p i = .ok gs → (∀ g ∈ gs, Sound p g.index) → Sound p i

theorem Sound.follows (h : Sound p i) (hij : Follows p i j) : Sound p j := by
  cases h with
  | intro hgs hall =>
    obtain ⟨g, hg, rfl⟩ := (follows_iff hgs j).1 hij
    exact hall g hg

theorem Sound.reaches (h : Sound p i) (hij : Reaches p i j) : Sound p j := by
  induction hij with
  | refl => exact h
  | tail _ hstep ih => exact ih.follows hstep

theorem Sound.acyclic (h : Sound p i) (hij : Follows p i j) : ¬ Reaches p j i := by
  induction h generalizing j with
  | @intro i gs hgs _ ih =>
    intro hji
    obtain ⟨g, hg, rfl⟩ := (follows_iff hgs j).1 hij
    rcases hji.cases_head with he | ⟨k, hgk, hki⟩
    · exact ih g hg (by rw [he] at hij ⊢; exact hij) Relation.ReflTransGen.refl
    · exact ih g hg hgk (hki.tail hij)

def idle (p : Program) (active : List Nat) : Finset Nat := (Finset.range p.funcs.size).filter (· ∉ active)

theorem card_idle_cons {active : List Nat} (hi : i < p.funcs.size) (hidle : i ∉ active) :
    (idle p (i :: active)).card < (idle p active).card := by
  refine Finset.card_lt_card ⟨fun j hj => ?_, fun hsub => ?_⟩
  · simp only [idle, Finset.mem_filter, mem_cons, not_or] at hj ⊢
    exact ⟨hj.1, hj.2.2⟩
  · have : i ∈ idle p (i :: active) := hsub (by simp [idle, hi, hidle])
    simp [idle] at this

theorem callees_outside (h : p.funcs.size ≤ i) : callees p i = .ok [] := by
  have hempty : p.funcs.getD i default = default := by
    rw [Array.getD_eq_getD_getElem?, Array.getElem?_eq_none h]
    rfl
  unfold callees
  rw [hempty]
  rfl

/-- Entering a function succeeds if its calls can be followed to the end and lead to none of the functions being walked. -/
theorem digestOf_spec (hroot : Reaches t.program root f.index) (hf : Sound t.program f.index) {fuel : Nat} (hs : Extends root t s.table)
    (hactive : ∀ a ∈ s.active, ¬ Reaches t.program f.index a) (hfuel : (idle t.program s.active).card < fuel) :
    Enters root t (digestOf fuel) f s := by
  obtain ⟨i, hi⟩ : ∃ i, f.index = i := ⟨_, rfl⟩
  rw [hi] at hroot hf hactive
  -- along the calls; every function that is entered leaves one place less to enter
  induction hf generalizing f s fuel with
  | @intro i gs hgs hsound ih =>
    obtain ⟨fuel, rfl⟩ : ∃ n, fuel = n + 1 := ⟨fuel - 1, by omega⟩
    cases hd : s.table.find? f.index with
    | some d =>
      obtain ⟨r, hr, rfl⟩ := hs.recalls _ _ hd
      refine ⟨r, s, hr, ?_, hs, rfl, rfl⟩
      rw [digestOf, bind_of_ok (x := get) rfl, hd]
      rfl
    | none =>
      have hexplore : digestOf (fuel + 1) f s = explore (digestOf fuel) f s := by
        rw [digestOf, bind_of_ok (x := get) rfl, hd]
      have hunknown : t.find? f.index = none := Option.eq_none_iff_forall_ne_some.2 fun e he => by
        rw [hs.keeps _ _ he] at hd
        cases hd
      have hself : i ∉ s.active := fun h => hactive i h .refl
      rw [Enters, hexplore]
      refine explore_spec (hi ▸ hroot) hunknown (hi ▸ hgs) hs (hi ▸ hself) ?_
      intro g hg s' hs' ha
      have hig : Follows t.program i g.index := (follows_iff hgs _).2 ⟨g, hg, rfl⟩
      refine ih g hg hs' ?_ ?_ (hroot.tail hig) rfl
      · have hinside : i < t.program.funcs.size := by
          by_contra hout
          rw [callees_outside (Nat.not_lt.1 hout)] at hgs
          cases hgs
          cases hg
        have := card_idle_cons hinside hself
        rw [ha, hi]
        omega
      · rw [ha, hi]
        intro a haa hga
        rcases mem_cons.1 haa with rfl | haa
        · exact (Sound.intro hgs hsound).acyclic hig hga
        · exact hactive a haa (.head hig hga)

/-! ## Keys -/

/-- A function that has a key: it is compiled, and its tree is that of its text. -/
def IsKernel (p : Program) (f : FuncRef) : Prop :=
  (p.func f).isJit = true ∧ ∃ d, (p.func f).tree = .ok d ∧ Module.treeOf (p.func f).text = .ok d

theorem parse_of_treeOf {text : String} {d : FuncDef} (h : Module.treeOf text = .ok d) : ∃ pos, parse text = .ok [.func pos d] := by
  obtain ⟨stmts, hstmts, h⟩ := bind_eq_ok.1 h
  split at h
  · next pos f =>
    cases h
    exact ⟨pos, hstmts⟩
  · cases h

theorem visits_func (n : Nat) (pos pos' : SourcePos) (d : FuncDef) :
    visits n (.stmt (.func pos d)) = visits n (.stmt (.func pos' d)) := by
  cases n <;> rfl

theorem key_spec (hf : IsKernel t.program f) (hsound : Sound t.program f.index) (hnew : t.find? f.index = none) :
    ∃ r t', Recalls t f.index r ∧ Extends f.index t t' ∧
      key t f = (.ok (r.digest ++ version), t'.remember f.index (r.digest ++ version)) := by
  obtain ⟨hjit, d, htree, htext⟩ := hf
  obtain ⟨pos, hparse⟩ := parse_of_treeOf htext
  have hps : [Part.stmt (.func default d)].mapM (visits (depthOf (sourceOf t.program f.index))) =
      (Part.stmts [.func pos d]).mapM (visits (depthOf (sourceOf t.program f.index))) := by
    rw [Part.stmts, map_singleton, mapM_cons, mapM_cons, visits_func _ default pos]
  cases hsound with
  | @intro _ gs hgs hsub =>
    have hentered : ∀ g ∈ gs, ∀ s : Walk, Extends f.index t s.table → s.active = [] →
        Enters f.index t (digestOf (t.program.funcs.size + 1)) g s := by
      intro g hg s hs ha
      have hcard : (idle t.program []).card ≤ t.program.funcs.size := by simp [idle]
      have hreached : Reaches t.program f.index g.index := .single ((follows_iff hgs _).2 ⟨g, hg, rfl⟩)
      exact digestOf_spec hreached (hsub g hg) hs (by simp [ha]) (by rw [ha]; omega)
    obtain ⟨r, s, hr, hdigest, hs, hwalk⟩ := walk_spec hentered hnew hgs hparse hps
      (s := ⟨t, sha1 (t.program.func f).text, []⟩) (.refl f.index t) rfl rfl
    refine ⟨r, s.table, hr, hs, ?_⟩
    rw [sourceOf, ← Program.func] at hwalk
    rw [key, hnew]
    simp only [hjit, htree, hwalk, hdigest]
    rfl

end TileKernel.Launch.Identity
