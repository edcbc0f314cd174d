import TileKernel.Fault

/-! # Parameters

What can be called has named parameters, some with a default. Arguments are matched with parameters before the call: the
positional ones in order, then those given by name, then defaults.
-/

namespace TileKernel

structure Parameter (ν : Type) where
  name : String
  default : Option ν := none

namespace Parameter

variable {ν : Type}

instance : Coe String (Parameter ν) := ⟨fun name => { name }⟩

def opt (name : String) (v : ν) : Parameter ν := { name, default := some v }

/-- The value of each parameter. Anything left over, given twice or missing is refused. -/
def bind (params : List (Parameter ν)) (args : List ν) (named : List (String × ν)) : Result (List ν) :=
  if args.length > params.length then refused .type
  else if named.any fun (n, _) => !params.any (·.name == n) || (params.take args.length).any (·.name == n) then refused .type
  else params.zipIdx.mapM fun (p, i) =>
    match args[i]?, named.lookup p.name, p.default with
    | some v, _, _ | none, some v, _ | none, none, some v => .ok v
    | none, none, none => refused .type

end Parameter

export Parameter (opt)

def Curried (ν α : Type) {κ : Type} : List κ → Type
  | [] => α
  | _ :: ps => ν → Curried ν α ps

def Curried.apply {ν α κ : Type} (failed : α) : {ps : List κ} → Curried ν α ps → List ν → α
  | [], a, [] => a
  | _ :: _, f, v :: vs => apply failed (f v) vs
  | _, _, _ => failed

end TileKernel
