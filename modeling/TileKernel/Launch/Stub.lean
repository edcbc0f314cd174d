import TileKernel.Digest
import TileKernel.Lowering.Kernel

/-! # Launch stubs

A launch stub is a small C module that launches kernels of one signature; all but a few of its lines are fixed per driver.
Constants of the kernel stay in the stub's signature but are not handed on; descriptors of tensor maps follow the arguments and
always are.
-/

namespace TileKernel.Launch.Stub

structure Text where
  pointer : String
  stream : String
  function : String
  head : List String
  beforeParams : List String
  middle : List String
  afterParse : List String
  beforeCall : List String
  afterCall : List String

/-- The look-up of device addresses: how a driver casts and queries them, and the lines that differ at the end of a query, of
a refusal and of the head of the entry point. -/
def addresses (pointer cast status driver invalid release : String) (refusal start : List String) : List String :=
  Text.lines s!"typedef struct _DevicePtrInfo \x7b
    {pointer} dev_ptr;
    bool valid;
\x7d DevicePtrInfo;\n
static inline DevicePtrInfo getPointer(PyObject *obj, int idx) \x7b
  DevicePtrInfo ptr_info;
  ptr_info.dev_ptr = 0;
  ptr_info.valid = true;
  if (PyLong_Check(obj)) \x7b
    ptr_info.dev_ptr = {cast}PyLong_AsUnsignedLongLong(obj);
    return ptr_info;
  \x7d
  if (obj == Py_None) \x7b
    // valid nullptr
    return ptr_info;
  \x7d
  PyObject *ptr = PyObject_GetAttrString(obj, \"data_ptr\");
  if(ptr)\x7b
    PyObject *empty_tuple = PyTuple_New(0);
    PyObject *ret = PyObject_Call(ptr, empty_tuple, NULL);
    Py_DECREF(empty_tuple);
    Py_DECREF(ptr);
    if (!PyLong_Check(ret)) \x7b
      PyErr_SetString(PyExc_TypeError, \"data_ptr method of Pointer object must return 64-bit int\");
      ptr_info.valid = false;
      return ptr_info;
    \x7d
    ptr_info.dev_ptr = {cast}PyLong_AsUnsignedLongLong(ret);
    if(!ptr_info.dev_ptr)
      return ptr_info;
    uint64_t dev_ptr;
    {status}PointerGetAttribute(&dev_ptr, {driver}_POINTER_ATTRIBUTE_DEVICE_POINTER, ptr_info.dev_ptr);
    if (status == {invalid}) \x7b
        PyErr_Format(PyExc_ValueError,
                     \"Pointer argument (at %d) cannot be accessed from Triton (cpu tensor?)\", idx);
        ptr_info.valid = false;
    \x7d
    ptr_info.dev_ptr = {cast}dev_ptr;
{release}
    return ptr_info;
  \x7d
  PyErr_SetString(PyExc_TypeError, \"Pointer argument must be either uint64 or have data_ptr method\");" ++ refusal ++
  Text.lines "  return ptr_info;
\x7d\n
static PyObject* launch(PyObject* self, PyObject* args) \x7b" ++ start ++
  Text.lines "  int gridX, gridY, gridZ;
  uint64_t _stream;
  uint64_t _function;
  int num_warps;
  int num_ctas;
  int clusterDimX;
  int clusterDimY;
  int clusterDimZ;
  int shared_memory;
  PyObject *launch_enter_hook = NULL;
  PyObject *launch_exit_hook = NULL;
  PyObject *compiled_kernel = NULL;"

def entryPoint : List String := Text.lines "  // return None
  Py_INCREF(Py_None);
  return Py_None;
\x7d\n
static PyMethodDef ModuleMethods[] = \x7b
  \x7b\"launch\", launch, METH_VARARGS, \"Entry point for all kernels with this signature\"\x7d,
  \x7bNULL, NULL, 0, NULL\x7d // sentinel
\x7d;\n
static struct PyModuleDef ModuleDef = \x7b
  PyModuleDef_HEAD_INIT,
  \"__triton_launcher\",
  NULL, //documentation
  -1, //size
  ModuleMethods
\x7d;\n
PyMODINIT_FUNC PyInit___triton_launcher(void) \x7b
  PyObject *m = PyModule_Create(&ModuleDef);
  if(m == NULL) \x7b
    return NULL;
  \x7d
  PyModule_AddFunctions(m, ModuleMethods);
  return m;
\x7d\n\n"

/-! ## The drivers -/

def hip : Text where
  pointer := "hipDeviceptr_t"
  stream := "hipStream_t"
  function := "hipFunction_t"
  head :=
    Text.lines "\n#define __HIP_PLATFORM_AMD__\n#include <hip/hip_runtime.h>\n#include <Python.h>\n#include <stdbool.h>\n#include <dlfcn.h>\n
static inline void gpuAssert(hipError_t code, const char *file, int line)
\x7b
   if (code != HIP_SUCCESS)
   \x7b
      const char* prefix = \"Triton Error [HIP]: \";
       const char* str = hipGetErrorString(code);
      char err[1024] = \x7b0\x7d;
      snprintf(err, 1024, \"%s Code: %d, Messsage: %s\", prefix, code, str );
      PyErr_SetString(PyExc_RuntimeError, err);
   \x7d
\x7d\n\n#define HIP_CHECK(ans) \x7b gpuAssert((ans), __FILE__, __LINE__); \x7d\n\n"
  beforeParams := ["  // printf(\"_launch hip kernel\\n\");"]
  middle := Text.lines "  if (gridX*gridY*gridZ > 0) \x7b
      HIP_CHECK(hipModuleLaunchKernel(function, gridX, gridY, gridZ, 64*num_warps, 1, 1, shared_memory, stream, params, 0));
    \x7d
  \x7d\n\n" ++
    addresses "hipDeviceptr_t" "(hipDeviceptr_t)" "hipError_t status = hip" "HIP" "hipErrorInvalidValue" "    Py_DECREF(ret);"
      [] ["   // printf(\"launch\\n\");"]
  afterParse := Text.lines "    return NULL;
  \x7d\n
  if (launch_enter_hook != Py_None) \x7b
    PyObject_CallObject(launch_enter_hook, args);
  \x7d\n\n
  // raise exception asap"
  beforeCall := []
  afterCall := Text.lines "
  if (launch_exit_hook != Py_None) \x7b
    PyObject_CallObject(launch_exit_hook, args);
  \x7d\n
  if(PyErr_Occurred()) \x7b
    return NULL;
  \x7d" ++ entryPoint

def cuda : Text where
  pointer := "CUdeviceptr"
  stream := "CUstream"
  function := "CUfunction"
  head :=
    Text.lines "\n#include \"cuda.h\"\n#include <stdbool.h>\n#include <Python.h>\n#include <dlfcn.h>\n
static inline void gpuAssert(CUresult code, const char *file, int line)
\x7b
   if (code != CUDA_SUCCESS)
   \x7b
      const char* prefix = \"Triton Error [CUDA]: \";
      const char* str;
      cuGetErrorString(code, &str);
      char err[1024] = \x7b0\x7d;
      strcat(err, prefix);
      strcat(err, str);
      PyErr_SetString(PyExc_RuntimeError, err);
   \x7d
\x7d\n\n#define CUDA_CHECK(ans) \x7b gpuAssert((ans), __FILE__, __LINE__); \x7d\n
typedef CUresult (*cuLaunchKernelEx_t)(const CUlaunchConfig* config, CUfunction f, void** kernelParams, void** extra);\n
static cuLaunchKernelEx_t getLaunchKernelExHandle() \x7b
  // Open the shared library
  void* handle = dlopen(\"libcuda.so\", RTLD_LAZY);
  if (!handle) \x7b
    PyErr_SetString(PyExc_RuntimeError, \"Failed to open libcuda.so\");
    return NULL;
  \x7d
  // Clear any existing error
  dlerror();
  cuLaunchKernelEx_t cuLaunchKernelExHandle = (cuLaunchKernelEx_t)dlsym(handle, \"cuLaunchKernelEx\");
  // Check for errors
  const char *dlsym_error = dlerror();
  if (dlsym_error) \x7b
    PyErr_SetString(PyExc_RuntimeError, \"Failed to retrieve cuLaunchKernelEx from libcuda.so\");
    return NULL;
  \x7d
  return cuLaunchKernelExHandle;
\x7d\n\n"
  beforeParams := []
  middle := Text.lines "  if (gridX*gridY*gridZ > 0) \x7b
    if (num_ctas == 1) \x7b
      CUDA_CHECK(cuLaunchKernel(function, gridX, gridY, gridZ, 32*num_warps, 1, 1, shared_memory, stream, params, 0));
    \x7d else \x7b
      CUlaunchAttribute launchAttr[2];
      launchAttr[0].id = CU_LAUNCH_ATTRIBUTE_CLUSTER_DIMENSION;
      launchAttr[0].value.clusterDim.x = clusterDimX;
      launchAttr[0].value.clusterDim.y = clusterDimY;
      launchAttr[0].value.clusterDim.z = clusterDimZ;
      launchAttr[1].id = CU_LAUNCH_ATTRIBUTE_CLUSTER_SCHEDULING_POLICY_PREFERENCE;
      launchAttr[1].value.clusterSchedulingPolicyPreference = CU_CLUSTER_SCHEDULING_POLICY_SPREAD;
      CUlaunchConfig config;
      config.gridDimX = gridX * clusterDimX;
      config.gridDimY = gridY * clusterDimY;
      config.gridDimZ = gridZ * clusterDimZ;
      config.blockDimX = 32 * num_warps;
      config.blockDimY = 1;
      config.blockDimZ = 1;
      config.sharedMemBytes = shared_memory;
      config.hStream = stream;
      config.attrs = launchAttr;
      config.numAttrs = 2;
      static cuLaunchKernelEx_t cuLaunchKernelExHandle = NULL;
      if (cuLaunchKernelExHandle == NULL) \x7b
        cuLaunchKernelExHandle = getLaunchKernelExHandle();
      \x7d
      CUDA_CHECK(cuLaunchKernelExHandle(&config, function, params, 0));
    \x7d
  \x7d
\x7d\n\n" ++
    addresses "CUdeviceptr" "" "int status = cu" "CU" "CUDA_ERROR_INVALID_VALUE" "    Py_DECREF(ret);  // Thanks ChatGPT!"
      ["  ptr_info.valid = false;"] []
  afterParse := Text.lines "    return NULL;
  \x7d\n
  if (launch_enter_hook != Py_None && !PyObject_CallObject(launch_enter_hook, args)) \x7b
    return NULL;
  \x7d\n\n
  // raise exception asap"
  beforeCall := ["  Py_BEGIN_ALLOW_THREADS;"]
  afterCall := Text.lines "  Py_END_ALLOW_THREADS;\n
  if (launch_exit_hook != Py_None && !PyObject_CallObject(launch_exit_hook, args)) \x7b
    return NULL;
  \x7d\n\n" ++ entryPoint

end TileKernel.Launch.Stub

/-! ## Stubs -/

namespace TileKernel.Launch

open Lowering

abbrev Signature := List (Int × String)

structure StubIds where
  tensorMaps : Option (List Int) := none
  folded : List Int := []
  constants : List Int := []

namespace Stub

def descriptorType : String := "*CUtensorMap"

def withDescriptors (ids : StubIds) (s : Signature) : Signature :=
  let n : Nat := s.length
  (List.range (ids.tensorMaps.getD []).length).foldl (fun acc (i : Nat) => Table.put acc ((n + i : Nat) : Int) descriptorType) s

def isPointer (ty : String) : Result Bool :=
  match ty.toList with
  | [] => refused .index
  | c :: _ => .ok (c == '*')

def scalarTypes : Named String :=
  [("i1", "int32_t"), ("i8", "int8_t"), ("i16", "int16_t"), ("i32", "int32_t"), ("i64", "int64_t"), ("u32", "uint32_t"),
   ("u64", "uint64_t"), ("fp16", "float"), ("bf16", "float"), ("fp32", "float"), ("f32", "float"), ("fp64", "double")]

def cType (pointer ty : String) : Result String := do
  if ← isPointer ty then return pointer
  match scalarTypes.lookup ty with
  | some c => return c
  | none => refused .key

def arriving (ty : String) : Result (String × Char) := do
  if ← isPointer ty then return ("PyObject*", 'O')
  match ty with
  | "i1" | "i32" => return ("int32_t", 'i')
  | "i64" => return ("int64_t", 'L')
  | "u32" => return ("uint32_t", 'I')
  | "u64" => return ("uint64_t", 'K')
  | "fp16" | "bf16" | "fp32" | "f32" => return ("float", 'f')
  | "fp64" => return ("double", 'd')
  | _ => refused .key

/-- Positions of the arguments that the stub hands to the kernel: every descriptor, and every argument that is neither a
constant nor folded away. -/
def handedOn (isConstant : Int → Bool) (ids : StubIds) (s : Signature) : List Int :=
  let folded := ids.folded.filter fun i => !ids.constants.contains i
  ((withDescriptors ids s).map (·.1)).filter fun i => i ≥ s.length || (!isConstant i && !folded.contains i)

def continued (items : List String) : String := String.join (items.map (", " ++ ·))

def lines (t : Text) (isConstant : Int → Bool) (ids : StubIds) (s : Signature) : Result (List String) := do
  let all := withDescriptors ids s
  let declared ← all.mapM fun (i, ty) => do return (← cType t.pointer ty) ++ " arg" ++ toString i
  let arrivals ← all.mapM fun (i, ty) => do
    let (c, letter) ← arriving ty
    return (i, c, letter, ← isPointer ty)
  let unpack := String.ofList (arrivals.map fun (_, _, letter, _) => letter)
  let handed := (handedOn isConstant ids s).map fun i => s!"&arg{i}"
  let locals := arrivals.map fun (i, c, _, _) => s!"{c} _arg{i}; "
  let lookups := arrivals.map fun (i, _, _, pointer) =>
    let n := toString i
    if pointer then
      s!"DevicePtrInfo ptr_info{n} = getPointer(_arg{n}, {n}); if (!ptr_info{n}.valid) return NULL;"
    else ""
  let passed := arrivals.map fun (i, _, _, pointer) =>
    if pointer then s!"ptr_info{i}.dev_ptr" else s!"_arg{i}"
  let places := all.map fun (i, _) => s!"&_arg{i}"
  return t.head ++
    ["static void _launch(int gridX, int gridY, int gridZ, int num_warps, int num_ctas, int clusterDimX, int " ++
      s!"clusterDimY, int clusterDimZ, int shared_memory, {t.stream} stream, {t.function} function{continued declared}) " ++
      "\x7b"] ++
    t.beforeParams ++
    ["  void *params[] = \x7b " ++ ", ".intercalate handed ++ " \x7d;"] ++
    t.middle ++
    ["  " ++ " ".intercalate locals,
     s!"  if(!PyArg_ParseTuple(args, \"iiiiiiiiiKKOOO{unpack}\", &gridX, &gridY, &gridZ, &num_warps, &num_ctas, " ++
       "&clusterDimX, &clusterDimY, &clusterDimZ, &shared_memory, &_stream, &_function, &launch_enter_hook, " ++
       s!"&launch_exit_hook, &compiled_kernel{continued places})) \x7b"] ++
    t.afterParse ++
    ["  " ++ "; ".intercalate lookups ++ ";"] ++
    t.beforeCall ++
    ["  _launch(gridX, gridY, gridZ, num_warps, num_ctas, clusterDimX, clusterDimY, clusterDimZ, shared_memory, (" ++
      s!"{t.stream})_stream, ({t.function})_function{continued passed});"] ++
    t.afterCall

def positionsText (is : List Int) : String := Text.parenthesised (is.map toString)

def StubIds.text (ids : StubIds) : String :=
  let maps := match ids.tensorMaps with
    | none => "None"
    | some is => Text.bracketed (is.map toString)
  Text.braced ["'ids_of_tensormaps': " ++ maps, "'ids_of_folded_args': " ++ positionsText ids.folded,
    "'ids_of_const_exprs': " ++ positionsText ids.constants]

def keyOfTexts (version : String) (s : Signature) (constants ids : String) (options : List Value) : Result String := do
  let types ← s.mapM fun (_, ty) => do return if ← isPointer ty then "ptr" else ty
  let text := version ++ "-" ++ String.join types ++ "-" ++ constants ++ "-" ++ ids ++
    String.join (options.map fun v => "-" ++ v.text)
  return Digest.md5 text

def key (version : String) (s : Signature) (constants : Constants) (ids : StubIds) (options : List Value) :
    Result String := keyOfTexts version s constants.text (StubIds.text ids) options

end Stub

end TileKernel.Launch
