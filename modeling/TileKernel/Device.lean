import TileKernel.IR.Build

/-! # Devices

A device with a named architecture reports its target triple, two dashes, and the name, perhaps with features behind colons. The
name decides the generation of its matrix units and the libraries that kernels are linked with.
-/

namespace TileKernel.Device

open IR Text

def reportedParts? (info : String) : Option (List String) :=
  let vendor := Pattern.capture 0 (.andThen (Pattern.text "amd") (.many (.one Pattern.isOnLine)))
  (vendor.search? info).map fun m => pairParts '-' (String.ofList (Reading.strip (m.group 0).toList))

structure Details where
  triple : String
  name : String
  features : String := ""

def details? (info : String) (wanted : Option String) : Option Details := do
  match ← reportedParts? info with
  | triple :: name :: _ => some { triple, name := wanted.getD ((parts ':' name).headD "") }
  | _ => none

def noDetails : String := "Error: Attempting to get amgpu ISA Details ...\n"

structure Descriptor extends Details where
  numWarps : Int := 4
  numStages : Int := 2
  numCtas : Int := 1
  warpSize : Int := 64

def descriptor (info : String) (wanted : Option String) : Result Descriptor :=
  match details? info wanted with
  | some d => .ok { d with }
  | none => refused .type

def commonLibraries : List String :=
  ["opencl.bc", "ocml.bc", "ockl.bc", "oclc_finite_only_off.bc", "oclc_daz_opt_off.bc",
   "oclc_correctly_rounded_sqrt_on.bc", "oclc_unsafe_math_off.bc", "oclc_wavefrontsize64_on.bc", "oclc_abi_version_400.bc"]

def architectures : List String :=
  ["1010", "1011", "1012", "1013", "1030", "1031", "1032", "1033", "1034", "1035", "1036", "1100", "1101", "1102", "1103",
   "600", "601", "602", "700", "701", "702", "703", "704", "705", "801", "802", "803", "805", "810", "900", "902", "904",
   "906", "908", "909", "90a", "90c", "940", "941", "942"]

def libraries (arch : String) : Result (Named String) :=
  let mark := Pattern.andThen (Pattern.text "gfx") (.capture 1 (.atLeastOne (.one Pattern.isWord)))
  match mark.search? arch with
  | none => refused .missingAttribute
  | some m =>
    let own := if architectures.contains (m.group 1) then [s!"oclc_isa_version_{m.group 1}.bc"] else []
    .ok ((commonLibraries ++ own).zipIdx.map fun (f, i) => (s!"library_{i}", f))

/-! ## Defaults of launches -/

abbrev Printing := EStateM Fault String

def Printing.print (s : String) : Printing Unit := modify (· ++ s)

structure Machine where
  isHip : Bool := false
  archInfo : String := ""
  wanted : Option String := none
  capability : Int × Int := (8, 0)

variable (m : Machine)

def Machine.capabilityNumber : Int := m.capability.1 * 10 + m.capability.2

def numbered : String := "cuda"

def named : String := "hip"

def hasBackend (kind : String) : Bool := kind == named

/-- The descriptor of the device; a device that reports nothing of use leaves a line of text and a failure. -/
def Machine.descriptor : Printing Descriptor :=
  match Device.descriptor m.archInfo m.wanted with
  | .ok d => pure d
  | .error f => do
    Printing.print noDetails
    throw f

def Machine.backendDescriptor (kind : String) : Printing Descriptor :=
  if hasBackend kind then m.descriptor else throw (.evaluation .assertion (some ""))

def Machine.defaultWarps (kind : String) : Printing Int := do
  if kind == numbered then return 4
  return (← m.backendDescriptor kind).numWarps

/-- How many pipeline stages a kernel gets; `capability` is given explicitly or asked of the device. -/
def Machine.defaultStages (kind : String) (capability : Option Int) : Printing Int := do
  if kind == numbered then
    if m.isHip then
      let _ ← m.descriptor
      return 2
    return if capability.getD m.capabilityNumber ≥ 75 then 3 else 2
  return (← m.backendDescriptor kind).numStages

end TileKernel.Device
