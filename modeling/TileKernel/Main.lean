import TileKernel.Ahead

/-! # The linker as a command

The command reads the headers of compiled kernels and writes one header and one source that choose among them.
-/

namespace TileKernel.Ahead.Linking

def usage : CommandLine.Usage := {
  options := [{ names := ["--out", "-o"], key := "out" }, .text "--prefix"]
  operands := .atLeastOne "headers" }

def files (argv : List String) : Result (List String × Option String) := do
  let s ← CommandLine.read usage argv
  return (((s.value "headers").items?.getD []).map Lowering.Value.text, s.text? "out")

def status (f : Fault) : UInt32 :=
  if f.kind = .exit then ((f.message?.bind String.toNat?).getD 0).toUInt32 else 1

end TileKernel.Ahead.Linking

open TileKernel in
def main (argv : List String) : IO UInt32 := do
  let failed (f : Fault) : IO UInt32 := do
    IO.eprintln (f.kind.name ++ ": " ++ f.message?.getD "")
    return Ahead.Linking.status f
  match Ahead.Linking.files argv with
  | .error f => failed f
  | .ok (headers, out) =>
    match Ahead.Linking.linkHeaders (← headers.mapM fun (path : String) => IO.FS.readFile path) with
    | .error f => failed f
    | .ok o =>
      match out with
      | none => failed (.implicit .missingAttribute)
      | some path =>
        IO.FS.writeFile (Ahead.withEnding path ".h") o.header
        IO.FS.writeFile (Ahead.withEnding path ".c") o.source
        return 0
