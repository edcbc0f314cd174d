import TileKernel.CommandLine.Options
import TileKernel.Extern
import TileKernel.Host.Programs.Drivers

/-! # Packaging

Describes the package of the compiler, gets the packages that its build needs, and builds it. A package is downloaded unless the
environment, or a note beside it, says that the right one is there.
-/

namespace TileKernel.Host.Packaging

open Value (texts members)

def place : String := "TMP/python"

def extensions : List String := ["triton"]

/-! ## Settings -/

def saysYes (s : String) : Bool := ["ON", "1", "YES", "TRUE", "Y"].contains s.toUpper

def switchedOn (name : String) (otherwise : String := "") : Host Bool := do
  return saysYes (((← read).setting? name).getD otherwise)

def buildType : Host String := do
  if ← switchedOn "DEBUG" then return "Debug"
  else if ← switchedOn "REL_WITH_DEB_INFO" then return "RelWithDebInfo"
  else return "TritonRelBuildWithAsserts"

def backendMark : String := "TRITON_CODEGEN_"

def backends : Host (List String) := do
  let chosen := (← read).environment.filter fun (n, v) => n.startsWith backendMark && saysYes v
  chosen.mapM fun (n, _) => do
    demand ((n.splitOn backendMark).length ≤ 2) ""
    return (n.replace backendMark "").toLower

/-! ## Packages -/

structure Package where
  kind : String
  name : String
  url : String
  includeOption : String
  libraryOption : String
  variableName : String

def Package.value (p : Package) : Value :=
  .tuple [p.kind, p.name, p.url, p.includeOption, p.libraryOption, p.variableName]

def bindings : Package :=
  ⟨"pybind11", "pybind11-2.10.0", "https://github.com/pybind/pybind11/archive/refs/tags/v2.10.0.tar.gz", "PYBIND11_INCLUDE_DIR", "",
   "PYBIND11_SYSPATH"⟩

def machineSays (what otherwise : String) : Host String := do return ((← read).platform.lookup what).getD otherwise

def systemName : Host String := machineSays "system" "Linux"

def machineName : Host String := machineSays "machine" "x86_64"

def libraryVersion : Host Int := do
  let said := (← machineSays "libc_ver" "glibc 2.36").splitOn " "
  let parts ← ((said.getD 1 "").splitOn ".").mapM integerText
  match parts with
  | major :: minor :: _ => return major * 100 + minor
  | _ => refuse .index

def generatorFor (arch suffix : String) (onLinux checked : Bool) : Package :=
  let name := "llvm+mlir-17.0.0-" ++ arch ++ "-" ++ suffix ++ "-" ++ (if checked then "assert" else "release")
  let owner := if arch == "arm64" && onLinux then "acollins3" else "ptillet"
  ⟨"llvm", name, s!"https://github.com/{owner}/triton-llvm-releases/releases/download/llvm-17.0.0-c5dede880d17/{name}" ++
    ".tar.xz", "LLVM_INCLUDE_DIRS", "LLVM_LIBRARY_DIR", "LLVM_SYSPATH"⟩

def generator : Host Package := do
  let machine ← machineName
  let checked := switchedOn "TRITON_USE_ASSERT_ENABLED_LLVM" "False"
  match ← systemName with
  | "Darwin" => return generatorFor machine "apple-darwin" false (← checked)
  | "Linux" =>
    let flavour := if (← libraryVersion) > 217 then "ubuntu-18.04" else "centos-7"
    return generatorFor (if machine == "aarch64" then "arm64" else machine) ("linux-gnu-" ++ flavour) true (← checked)
  | _ => return ⟨"llvm", "LLVM-C.lib", "", "LLVM_INCLUDE_DIRS", "LLVM_LIBRARY_DIR", "LLVM_SYSPATH"⟩

def download (url : String) : Host (Named String) := do
  printLine s!"downloading and extracting {url} ..."
  Host.note "urlopen" [url]
  match (← read).archive with
  | some files => return files
  | none => complain .system "no network"

def removeDirectory (path : String) : Host Unit :=
  modify fun w => { w with files := w.files.filter fun (n, _) => !n.startsWith (keptPath path ++ "/") }

def directoryExists (path : String) : Host Bool := do
  return (← get).files.any fun (n, _) => n.startsWith (keptPath path ++ "/")

def fetch (root directory : String) (p : Package) : Host Unit := do
  removeDirectory root
  for (n, t) in ← download p.url do writeFile (under root n) t
  if !(← directoryExists directory) then refuse .missingFile
  writeFile (under directory "version.txt") p.url

def provide (cache : String) (p : Package) : Host (List String) := do
  let root := under cache p.kind
  let given := (← read).setting? p.variableName
  let directory := given.getD (under root p.name)
  if given.isNone then
    let note := under directory "version.txt"
    let current ← if ← fileExists note then do pure ((← readFile note) == p.url) else pure false
    if !current then fetch root directory p
  let option (name part : String) : List String := if name.isEmpty then [] else [s!"-D{name}={directory}/{part}"]
  return option p.includeOption "include" ++ option p.libraryOption "lib"

def provideAll (cache : String) : Host (List String) := do
  let generator ← generator
  return (← [bindings, generator].mapM (provide cache)).flatten

/-! ## The assembler -/

def assemblerVersion : String := "12.1.105"

def assemblerPlace : String := "third_party/cuda/bin/ptxas"

def versionIn : List Char → Option String
  | [] => none
  | 'V' :: cs =>
    match cs.takeWhile fun c => c == '.' || c == '|' || c.isDigit with
    | [] => versionIn cs
    | v => some (String.ofList v)
  | _ :: cs => versionIn cs

def provideAssembler : Host String := do
  let target := under (under place "triton") assemblerPlace
  if (← systemName) == "Linux" then
    let current ← if ← fileExists target then do
        let said := (← command "check_output" [target, "--version"]).output
        pure ((← need .missingAttribute (versionIn said.toList)) == assemblerVersion)
      else pure false
    if !current then
      let machine ← machineName
      let arch := if machine == "x86_64" then "64" else machine
      let files ← download
        s!"https://conda.anaconda.org/nvidia/label/cuda-12.1.1/linux-{arch}/cuda-nvcc-{assemblerVersion}-0.tar.bz2"
      writeFile target (← need .missingFile (files.lookup "bin/ptxas"))
  return assemblerPlace

/-! ## Builds -/

def versionAfterWord (cs : List Char) : Option (Nat × Nat) :=
  let word := "version".toList
  if word.isPrefixOf cs then
    let rest := (cs.drop word.length).dropWhile Reading.isBlank
    let major := rest.takeWhile Char.isDigit
    match rest.drop major.length with
    | '.' :: rest =>
      let minor := rest.takeWhile Char.isDigit
      if major.isEmpty || minor.isEmpty then none
      else some ((String.ofList major).toNat?.getD 0, (String.ofList minor).toNat?.getD 0)
    | _ => none
  else none

def firstVersion : List Char → Option (Nat × Nat)
  | [] => none
  | c :: cs => (versionAfterWord (c :: cs)).orElse fun _ => firstVersion cs

def isSystemFailure (k : FaultKind) : Bool :=
  ["OSError", "IOError", "EnvironmentError", "FileNotFoundError", "FileExistsError", "PermissionError", "NotADirectoryError",
   "IsADirectoryError", "ConnectionError", "ConnectionRefusedError", "ConnectionResetError", "ConnectionAbortedError",
   "BrokenPipeError", "TimeoutError", "ProcessLookupError", "ChildProcessError", "InterruptedError", "BlockingIOError"].contains
    k.name

def checkTool : Host Unit := do
  let r ← match ← attempt (command "check_output" ["cmake", "--version"]) with
    | .ok r => pure r
    | .error f =>
      if isSystemFailure f.kind then
        complain .runtime ("CMake must be installed to build the following extensions: " ++ ", ".intercalate extensions)
      else throw f
  let (major, minor) ← need .missingAttribute (firstVersion r.output.toList)
  if major < 3 || (major == 3 && minor < 18) then complain .runtime "CMake >= 3.18.0 is required"

def firstSet (names : List String) : Host (Option String) := do
  let site ← read
  return names.findSome? fun n => (site.setting? n).filter (!·.isEmpty)

def otherLinker : List String :=
  ["-DCMAKE_C_COMPILER=clang", "-DCMAKE_CXX_COMPILER=clang++", "-DCMAKE_LINKER=lld", "-DCMAKE_EXE_LINKER_FLAGS=-fuse-ld=lld",
   "-DCMAKE_MODULE_LINKER_FLAGS=-fuse-ld=lld", "-DCMAKE_SHARED_LINKER_FLAGS=-fuse-ld=lld"]

def buildExtension : Host Unit := do
  let home ← match ← firstSet ["HOME", "USERPROFILE", "HOMEPATH"] with
    | some h => pure h
    | none => complain .runtime "Could not find user home directory"
  let packages ← provideAll (under home ".triton")
  let output := "TMP/build_lib/triton/_C"
  let site ← read
  let ninja ← need .type (site.programs.lookup "ninja")
  let lit := ((site.programs.lookup "lit").map fun p => "-DLLVM_EXTERNAL_LIT=" ++ p).toList
  let type ← buildType
  let chosen ← backends
  let generation := if chosen.isEmpty then [] else ["-DTRITON_CODEGEN_BACKENDS=" ++ ";".intercalate chosen]
  let (configured, compiled) := if (← systemName) == "Windows" then
      ([s!"-DCMAKE_RUNTIME_OUTPUT_DIRECTORY_{type.toUpper}={output}", "-A", "x64"], ["--", "/m"])
    else (["-DCMAKE_BUILD_TYPE=" ++ type], ["-j" ++ (site.setting? "MAX_JOBS").getD "8"])
  let linker := if ← switchedOn "TRITON_BUILD_WITH_CLANG_LLD" then otherLinker else []
  let _ ← command "check_call" (["cmake", "TMP", "-G", "Ninja", "-DCMAKE_MAKE_PROGRAM=" ++ ninja,
    "-DCMAKE_EXPORT_COMPILE_COMMANDS=ON", "-DLLVM_ENABLE_WERROR=ON", "-DCMAKE_LIBRARY_OUTPUT_DIRECTORY=" ++ output,
    "-DTRITON_BUILD_TUTORIALS=OFF", "-DTRITON_BUILD_PYTHON_MODULE=ON", "-DPython3_EXECUTABLE:FILEPATH=PYTHON",
    "-DCMAKE_VERBOSE_MAKEFILE:BOOL=ON", "-DPYTHON_INCLUDE_DIRS=" ++ Extension.hostHeaders] ++ lit ++ packages ++ generation ++
    configured ++ linker)
  let _ ← command "check_call" (["cmake", "--build", ".", "--config", type] ++ compiled)

/-! ## The package -/

def description : Value := members [
  ("name", "triton"), ("version", "2.3.0"), ("author", "Philippe Tillet"), ("author_email", "phil@openai.com"),
  ("description", "A language and compiler for custom Deep Learning operations"), ("long_description", ""),
  ("packages", texts ["triton", "triton/_C", "triton/common", "triton/compiler", "triton/interpreter", "triton/language",
    "triton/language/extra", "triton/ops", "triton/ops/blocksparse", "triton/runtime", "triton/runtime/backends",
    "triton/third_party", "triton/tools"]),
  ("long_description_content_type", "text/markdown"), ("install_requires", texts ["filelock"]),
  ("include_package_data", true), ("ext_modules", .list [texts ["triton", "triton/_C/"]]),
  ("cmdclass", members [("build_ext", "CMakeBuild"), ("build_py", "CMakeBuildPy")]), ("zip_safe", false),
  ("keywords", texts ["Compiler", "Deep Learning"]), ("url", "https://github.com/openai/triton/"),
  ("classifiers", texts (["Development Status :: 4 - Beta", "Intended Audience :: Developers",
    "Topic :: Software Development :: Build Tools", "License :: OSI Approved :: MIT License"] ++
    ["3.7", "3.8", "3.9", "3.10", "3.11"].map ("Programming Language :: Python :: " ++ ·))),
  ("test_suite", "tests"),
  ("extras_require", members [("build", texts ["cmake>=3.20", "lit"]),
    ("tests", texts ["autopep8", "flake8", "isort", "numpy", "pytest", "scipy>=1.7.1", "torch"]),
    ("tutorials", texts ["matplotlib", "pandas", "tabulate", "torch"])])]

def program : Program := {
  load := do let _ ← provideAssembler
  functions := [
    ("check_env_flag", .plain ["name", opt "default" ""] fun name otherwise => do
      return ← switchedOn name.text otherwise.text),
    ("get_build_type", .action do return ← buildType),
    ("get_codegen_backends", .action do return texts (← backends)),
    ("get_pybind11_package_info", .action do return bindings.value),
    ("get_llvm_package_info", .action do return (← generator).value),
    ("get_thirdparty_packages", .plain ["triton_cache_path"] fun cache => do return texts (← provideAll cache.text)),
    ("download_and_copy_ptxas", .action do return ← provideAssembler),
    ("build", .action do
      checkTool
      buildExtension
      return .none),
    ("build_py", .action do
      Host.note "run_command" ["build_ext"]
      Host.note "build_py.run" []
      return .none)] }

end TileKernel.Host.Packaging

/-! ## The configuration of the documentation -/

namespace TileKernel.Host.Documentation

open Value (texts members)

def hiddenArgument : String := "_builder"

def shownSignature (v : Value) : Value :=
  match v with
  | .plain (.str s) => if Text.occursIn hiddenArgument s then .str ((s.splitOn hiddenArgument).headD "" ++ ")") else v
  | v => v

def firstDocument : Value := "index"

def author : Value := "Philippe Tillet"

def title : Value := "Triton Documentation"

def settings : Named Value :=
  [("extensions", texts ["sphinx.ext.autodoc", "sphinx.ext.intersphinx", "sphinx.ext.autosummary", "sphinx.ext.coverage",
      "sphinx.ext.napoleon", "sphinx_multiversion", "sphinx_gallery.gen_gallery"]),
   ("autosummary_generate", true), ("smv_tag_whitelist", "^(v2.1.0)$"), ("smv_branch_whitelist", "^main$"),
   ("smv_remote_whitelist", .none), ("smv_released_pattern", "^tags/.*$"),
   ("smv_outputdir_format", "\x7bref.name\x7d"), ("smv_prefer_remote_refs", false),
   ("sphinx_gallery_conf", members [
      ("examples_dirs", "../python/tutorials/"), ("gallery_dirs", "getting-started/tutorials"),
      ("filename_pattern", ""), ("ignore_pattern", "(__init__\\.py|09.*\\.py|10.*\\.py)"),
      ("within_subsection_order", "KEY"), ("reference_url", members [("sphinx_gallery", .none)]),
      ("abort_on_example_error", true)]),
   ("templates_path", texts ["_templates"]),
   ("html_sidebars", members [("**", texts ["relations.html", "searchbox.html"])]),
   ("source_suffix", ".rst"), ("master_doc", firstDocument), ("project", "Triton"),
   ("copyright", "2020, Philippe Tillet"), ("author", author), ("version", ""), ("release", ""),
   ("language", "en"), ("exclude_patterns", texts ["_build", "Thumbs.db", ".DS_Store"]),
   ("pygments_style", "sphinx"), ("todo_include_todos", false), ("html_theme", "sphinx_rtd_theme"),
   ("html_static_path", texts ["_static"]), ("html_css_files", texts ["css/custom.css"]),
   ("htmlhelp_basename", "Tritondoc"), ("latex_elements", .dict []),
   ("latex_documents", .list [.tuple [firstDocument, "Triton.tex", title, author, "manual"]]),
   ("man_pages", .list [.tuple [firstDocument, "triton", title, .list [author], 1]]),
   ("texinfo_documents", .list [.tuple [firstDocument, "Triton", title, author, "Triton",
      "One line description of project.", "Miscellaneous"]])]

def viewers : List String := ["unwrap_all", "signature", "object_description"]

def program : Program := {
  load := do if !(← read).documents then refuse (.other "ModuleNotFoundError")
  functions := [
    ("process_sig", .plain ["app", "what", "name", "obj", "options", "signature", "return_annotation"]
      fun _ _ _ _ _ signature result => return .tuple [shownSignature signature, result]),
    ("setup", .plain ["app"] fun app => do
      let connect ← Program.member app "connect"
      let _ ← callGiven connect ["autodoc-process-signature", .named "process_sig"] []
      note "system" ["pip install -e ../python"]
      return .none),
    ("sys.modules.get", .plain ["name"] fun name => return .named ("module " ++ name.shown))]
  values := settings.map fun (n, v) => (n, pure v)
  methods := [("ext.autosummary.get_documenter", .plain ["self", "app", "obj", "parent"] fun _ _ obj _ =>
      return .list ["documenter", obj])] ++
    viewers.map fun n => ("util.inspect." ++ n, {
      Function.plain ["self", "obj"] (fun _ obj => return .list [n, obj]) with takesOthers := true }) }

end TileKernel.Host.Documentation

/-! ## Bindings of external libraries -/

namespace TileKernel.Host.ExternBindings

open Extern

def libraryClass : String := "triton.tools.build_extern.Libdevice"
def symbolClass : String := "triton.tools.build_extern.Symbol"
def disassemblerClass : String := "triton.tools.build_extern.LLVMDisassembler"

def libraryName : String := "libdevice"

def disassemblyFile : String := "/tmp/extern_lib.ll"

def symbolValue (name operation result argNames argTypes : Value) : Value := .object symbolClass
  [("name", name), ("op_name", operation), ("ret_type", result), ("arg_names", argNames), ("arg_types", argTypes),
   ("_name", name), ("_op_name", operation), ("_ret_type", result), ("_arg_names", argNames), ("_arg_types", argTypes)]

def ofSymbol (s : Extern.Symbol) : Value :=
  symbolValue s.name s.operation s.result (.texts s.argNames) (.texts s.argTypes)

def toSymbol (v : Value) : Extern.Symbol :=
  let text (n : String) : String := ((v.field? n).getD .none).text
  let texts (n : String) : List String := (((v.field? n).bind Value.items?).getD []).map Value.text
  { name := text "name", operation := text "op_name", result := text "ret_type", argNames := texts "arg_names"
    argTypes := texts "arg_types" }

def library (path : Value) : Host Value :=
  create libraryClass [("name", libraryName), ("path", path), ("symbols", .dict []), ("grouping", true),
    ("is_pure", true), ("_name", libraryName), ("_path", path), ("_symbols", .dict []), ("_format", true),
    ("_grouping", true), ("_symbol_groups", .dict [])]

def groupsOf (lib : Value) : Host Groups := do
  match ← Program.member lib "_symbol_groups" with
  | .dict es => return es.map fun (k, v) => (k.text, ((v.items?).getD []).map toSymbol)
  | _ => return []

def fill (lib : Value) (ss : List Extern.Symbol) : Host Unit := do
  let renamed := ss.map fun s => { s with operation := groupName s.operation }
  let symbols := Value.dict (renamed.map fun s => (s.name, ofSymbol s))
  setField lib "symbols" symbols
  setField lib "_symbols" symbols
  setField lib "_symbol_groups" (.dict ((groups ss).map fun (n, g) => (n, .list (g.map ofSymbol))))

def parse (lib : Value) (file : String) : Host Unit := do
  if (← Program.member lib "_symbols").truth then return
  let lines := Text.lines (← command "check_output" ["grep", "define", file]).output
  let ss ← check (lines.foldlM (fun ss line => do return ((← Extern.Symbol.ofLine line).map (addSymbol ss)).getD ss) [])
  fill lib ss

def write (lib : Value) (directory : String) : Host Unit := do
  let file := s!"{directory}/{libraryName}.py"
  writeFile file (bindings libraryName (← groupsOf lib))
  let _ ← command "popen" ["autopep8", "-a", "-r", "-i", file]
  let _ ← command "popen" ["isort", file]

def disassemble (tool path : String) : Host Unit := do
  let _ ← command "popen" [tool, path, "-o", disassemblyFile]

def build (tool path name directory : Value) : Host Unit := do
  if name.str? != some libraryName then complain .exception ("Unknown extern library: " ++ name.text)
  let lib ← library path
  disassemble tool.text path.text
  parse lib disassemblyFile
  write lib directory.text

def usage : CommandLine.Usage := {
  options := [{ names := ["--llvm-dis"], key := "llvm_dis_path" }, .text "--lib-path", .text "--lib-name",
    { names := ["--output"], key := "output_dir" }] }

def run : Host Unit := do
  let s ← check (CommandLine.read usage (← read).arguments)
  build ((s.text? "llvm_dis_path").getD "llvm-dis") (.plain (s.value "lib_path")) (.plain (s.value "lib_name"))
    ((s.text? "output_dir").getD "/tmp/")

def program : Program := {
  main := run
  functions := [
    ("Libdevice", .plain ["path"] library),
    ("Libdevice._extract_symbol", .plain ["line"] fun line => do
      return ((← check (Extern.Symbol.ofLine line.text)).map ofSymbol).getD .none),
    ("Symbol", .plain ["name", "op_name", "ret_type", "arg_names", "arg_types"] fun name operation result argNames argTypes => do
      return symbolValue name operation result (.list (← items argNames)) (.list (← items argTypes))),
    ("LLVMDisassembler", .plain ["path"] fun path => do
      return .object disassemblerClass [("path", path), ("ll_file", disassemblyFile),
        ("_path", path), ("_ll_file", disassemblyFile)]),
    ("convert_type", .plain ["type_str"] fun type =>
      return (((type.str?).bind Extern.Symbol.elementType).map Value.str).getD .none),
    ("to_unsigned", .plain ["type_str"] fun type =>
      return ((type.str?).map fun s => .str (Extern.Symbol.unsigned s)).getD type),
    ("build", .plain ["llvm_dis_path", "lib_path", "lib_name", "output_dir"] fun tool path name directory => do
      build tool path name directory
      return .none)]
  values := [("extern_libs", return .list [libraryName])]
  methods := [
    ("parse_symbols", .plain ["self", "input_file"] fun self file => do
      parse self file.text
      return .none),
    ("_output_stubs", .plain ["self"] fun self => return bindings libraryName (← groupsOf self)),
    ("generate_stub_file", .plain ["self", "output_dir"] fun self directory => do
      write self directory.text
      return .none),
    ("disasm", .plain ["self", "lib_path"] fun self path => do
      disassemble (← Program.member self "path").text path.text
      return .none)] }

end TileKernel.Host.ExternBindings
