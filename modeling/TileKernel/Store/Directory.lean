import TileKernel.Fault
import TileKernel.Json

/-! # Directories of compiled kernels

A directory holds the files of one compiled kernel, and a file that lists the members of a group tells which of them belong
together. A file is written under a temporary name and renamed, so that under its own name it is complete at any time.
-/

namespace TileKernel.Store

inductive Content where
  | text (s : String)
  | bytes (bs : List UInt8)
deriving DecidableEq, Inhabited

namespace Content

def toBytes : Content → List UInt8
  | text s => s.toUTF8.toList
  | bytes bs => bs

def text? : Content → Option String
  | text s => some s
  | bytes bs => String.fromUTF8? bs.toByteArray

def hex (c : Content) : String :=
  let digit (n : Nat) : Char := (Nat.digitChar n)
  String.ofList (c.toBytes.flatMap fun b => [digit (b.toNat / 16), digit (b.toNat % 16)])

end Content

abbrev Directory := Named Content

namespace Directory

variable (d : Directory) (name : String)

def get? : Option Content := d.lookup name

def has : Bool := name.isEmpty || (d.get? name).isSome

def set (c : Content) : Directory := Table.put d name c

def erase : Directory := d.filter fun (n, _) => n != name

def names : List String := (d.map (·.1)).mergeSort (· ≤ ·)

inductive WriteStep where
  | create (temporary : String)
  | fill (temporary : String) (c : Content)
  | rename (temporary name : String)

def WriteStep.run : WriteStep → Directory → Directory
  | .create t, d => d.set t (.text "")
  | .fill t c, d => d.set t c
  | .rename t name, d =>
    match d.get? t with
    | some c => (d.erase t).set name c
    | none => d

def writing (temporary name : String) (c : Content) : List WriteStep :=
  [.create temporary, .fill temporary c, .rename temporary name]

def temporaryName (name writer : String) : String := name ++ ".tmp.pid_" ++ writer

def put (c : Content) (writer : String := "0_0") : Result Directory :=
  if name.toList.contains '/' then refused .missingFile
  else .ok ((writing (temporaryName name writer) name c).foldl (fun d s => s.run d) d)

def groupName : String := "__grp__" ++ name

def groupText (members : List String) : String :=
  Json.dump {} (.obj [("child_paths", .arr ((members.mergeSort (· ≤ ·)).map .str))])

def putGroup (members : List String) (writer : String := "0_0") : Result Directory :=
  d.put (groupName name) (.text (groupText members)) writer

def groupMembers (text : String) : Result (Option (List String)) :=
  match Json.read? text with
  | none => refused .badJson
  | some (.obj ms) =>
    match (Json.obj ms).get? "child_paths" with
    | none | some .null => .ok none
    | some j => .ok (some (j.items.filterMap Json.str?))
  | some _ => refused .missingAttribute

/-- The members of a group, if there is one. All of them have to be there; `path` is where a file is. -/
def getGroup (path : String → String) (name : String) : Result (Option (List String)) := do
  match d.get? (groupName name) with
  | none => return none
  | some c =>
    match ← groupMembers (c.text?.getD "") with
    | none => return none
    | some ms =>
      match ms.find? fun m => !d.has m with
      | some m =>
        .error (.stated .exception ("Group file " ++ path m ++ " does not exist from group " ++ groupName name ++ " "))
      | none => return some ms

end Directory

end TileKernel.Store
