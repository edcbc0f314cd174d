import TileKernel.Tuning
import TileKernel.Proofs.Steps

/-! # Which arguments the key of a tuner holds

The places of the key arguments are counted among all parameters, but they are looked up among the arguments of the call. An entry
of the key is the value of its own argument exactly if all parameters in front of it are given too.
-/

namespace TileKernel.Tuning.Tuner

open List Launch Steps

variable {t : Tuner} {args : List Argument} {named : Bindings} {α β : Type}

/-- The value of an argument in a call; a name wins over a place. -/
def given (t : Tuner) (args : List Argument) (named : Bindings) (n : String) : Option Argument :=
  (named.lookup n).or ((t.params.zip args).lookup n)

/-- The parameters that have a value in a call. -/
def passed (t : Tuner) (args : List Argument) (named : Bindings) : List String :=
  t.params.filter fun n => (given t args named n).isSome

theorem lookup_overridden (below above : Bindings) (n : String) :
    (overridden below above).lookup n = (above.lookup n).or (below.lookup n) := by
  have hbelow := Table.lookup_map (fun n a => (above.lookup n).getD a) below n
  have habove := Table.lookup_filter (fun n => (below.lookup n).isNone) above n
  change (below.map _ ++ above.filter _).lookup n = _
  rw [lookup_append]
  refine (congrArg₂ Option.or hbelow habove).trans ?_
  cases below.lookup n <;> cases above.lookup n <;> rfl

theorem getElem?_filterMap (f : α → Option β) (xs : List α) (i : Nat) :
    (xs.filterMap f)[i]? = ((xs.filter fun a => (f a).isSome)[i]?).bind f := by
  induction xs generalizing i with
  | nil => rfl
  | cons x xs ih =>
    cases hx : f x with
    | none => simp [hx, ih]
    | some b => cases i <;> simp [hx, ih]

theorem map_eq_map_some {f : α → Option β} {xs : List α} {ys : List β} :
    xs.map f = ys.map some ↔ Forall₂ (fun x y => f x = some y) xs ys := by
  rw [← forall₂_eq_eq_eq, forall₂_map_left_iff, forall₂_map_right_iff]

theorem entry_eq_ok {x : Option Argument} {a : Argument} :
    (match x with | some a => .ok a | none => refused .index : Result Argument) = .ok a ↔ x = some a := by
  cases x <;> simp [refused]

theorem keyOf_eq_ok {key : Key} : keyOf t args named = .ok key ↔
    t.keyPositions.map (fun i => ((passed t args named)[i]?).bind (given t args named)) = key.map some ∧
      key.all Argument.hashable := by
  have hgiven : (fun n => (overridden (t.params.zip args) named).lookup n) = given t args named :=
    funext (lookup_overridden (t.params.zip args) named)
  have hentry (i : Nat) := getElem?_filterMap (given t args named) t.params i
  rw [map_eq_map_some, keyOf]
  simp only [hgiven]
  rw [bind_eq_ok]
  constructor
  · rintro ⟨key', hkey, h⟩
    split at h
    · rename_i hall
      obtain rfl := pure_eq_ok.1 h
      exact ⟨(mapM_eq_ok.1 hkey).imp fun i a ha => (hentry i).symm.trans (entry_eq_ok.1 ha), hall⟩
    · cases h
  · rintro ⟨hkey, hall⟩
    exact ⟨key, mapM_eq_ok.2 (hkey.imp fun i a ha => entry_eq_ok.2 ((hentry i).trans ha)), if_pos hall⟩

theorem getElem?_of_positions {params names : List String} {is : List Nat} (h : positions params names = .ok is) :
    is.map (params[·]?) = names.map some := by
  refine map_eq_map_some.2 ((mapM_eq_ok.1 h).flip.imp fun i n hi => ?_)
  split at hi
  · rename_i hfound
    obtain rfl := Except.ok.inj hi
    obtain ⟨hlt, hn, -⟩ := findIdx?_eq_some_iff_getElem.1 hfound
    rw [getElem?_eq_getElem hlt, eq_of_beq hn]
  · cases hi

/-- The entries of a key are the values of the parameters at its places among those that have a value in the call. They are
the key arguments exactly if every parameter up to each of them has a value, and then the key holds their values in order. -/
theorem key_from_own_arguments_iff (t : Tuner) (names : List String) (args : List Argument) (named : Bindings)
    (hparams : t.params.Nodup) (hnames : positions t.params names = .ok t.keyPositions) :
    (∀ key, keyOf t args named = .ok key ↔
      t.keyPositions.map (fun i => ((passed t args named)[i]?).bind (given t args named)) = key.map some ∧
        key.all Argument.hashable = true) ∧
      (t.keyPositions.map ((passed t args named)[·]?) = names.map some ↔
        ∀ i ∈ t.keyPositions, ∀ n ∈ t.params.take (i + 1), (given t args named n).isSome) ∧
      ((∀ i ∈ t.keyPositions, ∀ n ∈ t.params.take (i + 1), (given t args named n).isSome) → ∀ key,
        keyOf t args named = .ok key ↔ names.map (given t args named) = key.map some ∧ key.all Argument.hashable = true) := by
  have hplaces := getElem?_of_positions hnames
  have hown : t.keyPositions.map ((passed t args named)[·]?) = names.map some ↔
      ∀ i ∈ t.keyPositions, ∀ n ∈ t.params.take (i + 1), (given t args named n).isSome := by
    rw [← hplaces, map_inj_left]
    refine forall₂_congr fun i hi => ?_
    obtain ⟨n, -, hn⟩ := mem_map.1 (hplaces ▸ mem_map_of_mem hi)
    rw [← hn]
    exact getElem?_filter_eq_iff hparams _ hn.symm
  refine ⟨fun key => keyOf_eq_ok, hown, fun h key => ?_⟩
  have hentries := congrArg (map (·.bind (given t args named))) (hown.2 h)
  rw [map_map, map_map] at hentries
  rw [keyOf_eq_ok]
  exact and_congr_left' (Eq.congr_left hentries)

/-- A tuner whose key argument follows a parameter that the configurations set. -/
def tunedFirst : Tuner := { params := ["block", "m", "n"], keyPositions := [1], measure := fun _ _ => .ok [] }

theorem key_from_own_arguments_block_given : tunedFirst.params.Nodup ∧
    positions tunedFirst.params ["m"] = .ok tunedFirst.keyPositions ∧
      keyOf tunedFirst [.value (.int 64), .value (.int 5)] [] = .ok [.value (.int 5)] := by
  have hparams : tunedFirst.params.Nodup := by decide
  have hnames : positions tunedFirst.params ["m"] = .ok tunedFirst.keyPositions := rfl
  refine ⟨hparams, hnames, ((key_from_own_arguments_iff tunedFirst ["m"] _ _ hparams hnames).2.2 ?_ _).2 ⟨rfl, rfl⟩⟩
  decide

theorem key_of_other_argument : positions tunedFirst.params ["m"] = .ok tunedFirst.keyPositions ∧
    keyOf tunedFirst [] [("m", .value (.int 5)), ("n", .value (.int 7))] = .ok [.value (.int 7)] ∧
    keyOf tunedFirst [] [("m", .value (.int 6)), ("n", .value (.int 7))] = .ok [.value (.int 7)] :=
  ⟨rfl, rfl, rfl⟩

end TileKernel.Tuning.Tuner
