import TileKernel.Text

/-! # Products of matrices

Tiled products of two matrices: by plain pointers, block pointers and tensor maps, for many products at once, tuned over
configurations, and split along the inner axis.
-/

namespace TileKernel.Kernels

open Text

/-! ## Parts of products -/

def matrixParameters : List String :=
  code "  a_ptr, b_ptr, c_ptr,
  M, N, K,
  stride_am, stride_ak,
  stride_bk, stride_bn,
  stride_cm, stride_cn,
  BLOCK_SIZE_M: tl.constexpr, BLOCK_SIZE_N: tl.constexpr, BLOCK_SIZE_K: tl.constexpr,"

def groupTile : List String :=
  code "  num_pid_in_group = GROUP_SIZE_M * num_pid_n
  group_id = pid // num_pid_in_group
  first_pid_m = group_id * GROUP_SIZE_M
  group_size_m = min(num_pid_m - first_pid_m, GROUP_SIZE_M)
  pid_m = first_pid_m + (pid % group_size_m)
  pid_n = (pid % num_pid_in_group) // group_size_m"

def tileOrGroupTile : List String :=
  code "  if GROUP_SIZE_M == 1:
    pid_m = pid // num_pid_n
    pid_n = pid % num_pid_n
  else:" ++ indented groupTile

def tileNumbers : String := "num_pid_m = tl.cdiv(M, BLOCK_SIZE_M)\n  num_pid_n = tl.cdiv(N, BLOCK_SIZE_N)"

def innerPart : List String :=
  code "  if SPLIT_K == 1:
    offs_k = tl.arange(0, BLOCK_SIZE_K)
  else:
    offs_k = pid_z * BLOCK_SIZE_K + tl.arange(0, BLOCK_SIZE_K)"

/-- The pointers to the first tiles; on one platform they wrap around at the edges. -/
def tilePointers : List String :=
  code "  if torch.version.hip is None:
    offs_am = (pid_m * BLOCK_SIZE_M + tl.arange(0, BLOCK_SIZE_M)) % M
    offs_bn = (pid_n * BLOCK_SIZE_N + tl.arange(0, BLOCK_SIZE_N)) % N
    a_ptrs = a_ptr + (offs_am[:, None] * stride_am + offs_k[None, :] * stride_ak)
    b_ptrs = b_ptr + (offs_k[:, None] * stride_bk + offs_bn[None, :] * stride_bn)
  else:
    offs_am = (pid_m * BLOCK_SIZE_M + tl.arange(0, BLOCK_SIZE_M))
    offs_bn = (pid_n * BLOCK_SIZE_N + tl.arange(0, BLOCK_SIZE_N))
    a_ptrs = a_ptr + offs_am[:, None] * stride_am + offs_k[None, :] * stride_ak
    b_ptrs = b_ptr + offs_k[:, None] * stride_bk + offs_bn[None, :] * stride_bn"

/-- The products along the inner axis added up, in steps of a size; the last step is masked from a limit on, which may be
computed first. -/
def sumInSteps (step limit : String) (compute : String := "") : List String :=
  code s!"  accumulator = tl.zeros((BLOCK_SIZE_M, BLOCK_SIZE_N), dtype=tl.float32)
  for k in range(0, tl.cdiv(K, {step})):
    if EVEN_K:
      a = tl.load(a_ptrs)
      b = tl.load(b_ptrs)
    else:{compute}
      a = tl.load(a_ptrs, mask=offs_k[None, :] < {limit}, other=0.0)
      b = tl.load(b_ptrs, mask=offs_k[:, None] < {limit}, other=0.0)
    accumulator += tl.dot(a, b)
    a_ptrs += {step} * stride_ak
    b_ptrs += {step} * stride_bk"

def innerPartSum : List String :=
  sumInSteps "BLOCK_SIZE_K * SPLIT_K" "k_remaining" "\n      k_remaining = K - k * (BLOCK_SIZE_K * SPLIT_K)"

def activated : List String :=
  code "  if ACTIVATION == \"leaky_relu\":
    accumulator = leaky_relu(accumulator)
  c = accumulator.to(tl.float16)"

def targets : List String :=
  code "  offs_cm = pid_m * BLOCK_SIZE_M + tl.arange(0, BLOCK_SIZE_M)
  offs_cn = pid_n * BLOCK_SIZE_N + tl.arange(0, BLOCK_SIZE_N)
  c_ptrs = c_ptr + stride_cm * offs_cm[:, None] + stride_cn * offs_cn[None, :]
  c_mask = (offs_cm[:, None] < M) & (offs_cn[None, :] < N)"

def splitStore : List String :=
  code "  if SPLIT_K == 1:
    tl.store(c_ptrs, c, mask=c_mask)
  else:
    tl.atomic_add(c_ptrs, c, mask=c_mask)"

def leakyRelu : List String :=
  code "@triton.jit\ndef leaky_relu(x):
  x = x + 1
  return tl.where(x >= 0, x, 0.01 * x)"

def wholeSum : List String :=
  ["    offs_k = tl.arange(0, BLOCK_SIZE_K)"] ++ tilePointers ++ sumInSteps "BLOCK_SIZE_K" "K - k * BLOCK_SIZE_K" ++ activated ++
  targets ++ ["    tl.store(c_ptrs, c, mask=c_mask)"] ++ leakyRelu

/-! ## Product of two matrices

A tiled product with an optional activation at the end. Program instances are grouped so that tiles of one group share their
operands.
-/

def matrixProduct : List String :=
  code "@triton.jit\ndef matmul_kernel(" ++
  matrixParameters ++
  code s!"  EVEN_K: tl.constexpr,
  GROUP_SIZE_M: tl.constexpr,
  ACTIVATION: tl.constexpr,
):
  pid = tl.program_id(axis=0)
  {tileNumbers}" ++
  tileOrGroupTile ++
  wholeSum

/-! ## Product by block pointers

A tiled product of two matrices whose tiles are reached by block pointers. The kernel is kept up to the first one, and so are
those below: launches read the parameters, and simulations end there.
-/

def blockPointerProduct : List String :=
  code "@triton.jit\ndef matmul_kernel_with_block_pointers(" ++
  indented matrixParameters ++
  code s!"    GROUP_SIZE_M: tl.constexpr
):
  pid = tl.program_id(axis=0)
  {tileNumbers}" ++
  groupTile ++
  code "  a_block_ptr = tl.make_block_ptr(base=a_ptr, shape=(M, K), strides=(stride_am, stride_ak),
                  offsets=(pid_m * BLOCK_SIZE_M, 0), block_shape=(BLOCK_SIZE_M, BLOCK_SIZE_K),
                  order=(1, 0))"

/-! ## Products by tensor maps -/

def descriptorProduct : List String :=
  code "@triton.jit\ndef matmul_kernel(
  a_ptr, b_ptr, z_ptr,
  M, N, K,
  stride_am, stride_ak,
  stride_bk, stride_bn,
  stride_zm, stride_zn,
  BLOCK_SIZE_M: tl.constexpr, BLOCK_SIZE_N: tl.constexpr, BLOCK_SIZE_K: tl.constexpr, GROUP_SIZE_M: tl.constexpr,
  A_ORDER_0: tl.constexpr, A_ORDER_1: tl.constexpr,
  B_ORDER_0: tl.constexpr, B_ORDER_1: tl.constexpr
):
  pid = tl.program_id(axis=0)
  num_pid_n = tl.cdiv(N, BLOCK_SIZE_N)
  num_pid_m = tl.cdiv(M, BLOCK_SIZE_M)" ++
  groupTile ++
  code "  block_offset_m = pid_m * BLOCK_SIZE_M
  block_offset_n = pid_n * BLOCK_SIZE_N
  a_tile_ptr = tl.make_block_ptr(base=a_ptr, shape=(M, K), strides=(stride_am, stride_ak)," ++
  ["                                   offsets=(block_offset_m, 0), block_shape=(BLOCK_SIZE_M, BLOCK_SIZE_K), order=(A_ORDER_0, A_ORDER_1))"]

def descriptorStoreProduct : List String :=
  code "@triton.jit\ndef matmul_kernel(" ++
  matrixParameters ++
  code "  GROUP_SIZE_M: tl.constexpr,
):
  pid = tl.program_id(axis=0)
  num_pid_n = tl.cdiv(N, BLOCK_SIZE_N)
  num_pid_m = tl.cdiv(M, BLOCK_SIZE_M)" ++
  groupTile ++
  code "  block_offset_m = pid_m * BLOCK_SIZE_M
  block_offset_n = pid_n * BLOCK_SIZE_N
  a_tile_ptr = tl.make_block_ptr(
    base=a_ptr, shape=(
      M, K), strides=(
      stride_am, stride_ak), offsets=(
        block_offset_m, 0), block_shape=(
          BLOCK_SIZE_M, BLOCK_SIZE_K), order=(
            1, 0))"

/-! ## Groups of products -/

def groupedProduct : List String :=
  code "@triton.jit\ndef grouped_matmul_kernel(
  group_a_ptrs,
  group_b_ptrs,
  group_c_ptrs,
  group_gemm_sizes,
  g_lds,
  group_size,
  SUM_M: tl.constexpr,
  SUM_N: tl.constexpr,
  SUM_K: tl.constexpr,
  NUM_SM: tl.constexpr,
  BLOCK_SIZE_M: tl.constexpr,
  BLOCK_SIZE_N: tl.constexpr,
  BLOCK_SIZE_K: tl.constexpr,
):
  tile_idx = tl.program_id(0)
  last_problem_end = 0
  for g in range(group_size):
    gm = tl.load(group_gemm_sizes + g * 3)
    gn = tl.load(group_gemm_sizes + g * 3 + 1)
    gk = tl.load(group_gemm_sizes + g * 3 + 2)
    num_m_tiles = tl.cdiv(gm, BLOCK_SIZE_M)
    num_n_tiles = tl.cdiv(gn, BLOCK_SIZE_N)
    num_tiles = num_m_tiles * num_n_tiles
    while (
      tile_idx >= last_problem_end and tile_idx < last_problem_end + num_tiles
    ):
      k = gk
      lda = tl.load(g_lds + g * 3)
      ldb = tl.load(g_lds + g * 3 + 1)
      ldc = tl.load(g_lds + g * 3 + 2)
      a_ptr = tl.load(group_a_ptrs + g).to(tl.pointer_type(tl.float16))
      b_ptr = tl.load(group_b_ptrs + g).to(tl.pointer_type(tl.float16))
      c_ptr = tl.load(group_c_ptrs + g).to(tl.pointer_type(tl.float16))
      tile_idx_in_gemm = tile_idx - last_problem_end
      tile_m_idx = tile_idx_in_gemm // num_n_tiles
      tile_n_idx = tile_idx_in_gemm % num_n_tiles
      offs_am = tile_m_idx * BLOCK_SIZE_M + tl.arange(0, BLOCK_SIZE_M)
      offs_bn = tile_n_idx * BLOCK_SIZE_N + tl.arange(0, BLOCK_SIZE_N)
      offs_k = tl.arange(0, BLOCK_SIZE_K)
      a_ptrs = a_ptr + offs_am[:, None] * lda + offs_k[None, :]
      b_ptrs = b_ptr + offs_k[:, None] * ldb + offs_bn[None, :]
      accumulator = tl.zeros(
        (BLOCK_SIZE_M, BLOCK_SIZE_N), dtype=tl.float32
      )
      for kk in range(0, tl.cdiv(k, BLOCK_SIZE_K)):
        tl.multiple_of(a_ptrs, [16, 16])
        tl.multiple_of(b_ptrs, [16, 16])
        a = tl.load(a_ptrs)
        b = tl.load(b_ptrs)
        accumulator += tl.dot(a, b)
        a_ptrs += BLOCK_SIZE_K
        b_ptrs += BLOCK_SIZE_K * ldb
      c = accumulator.to(tl.float16)
      offs_cm = tile_m_idx * BLOCK_SIZE_M + tl.arange(0, BLOCK_SIZE_M)
      offs_cn = tile_n_idx * BLOCK_SIZE_N + tl.arange(0, BLOCK_SIZE_N)
      c_ptrs = c_ptr + ldc * offs_cm[:, None] + offs_cn[None, :]
      tl.store(c_ptrs, c)
      tile_idx += NUM_SM
    last_problem_end = last_problem_end + num_tiles"

/-! ## The tuned product -/

def tunedProduct : List String :=
  code "@triton.jit\ndef _kernel(A, B, C, M, N, K,
      stride_am, stride_ak,
      stride_bk, stride_bn,
      stride_cm, stride_cn,
      dot_out_dtype: tl.constexpr,
      allow_tf32: tl.constexpr,
      BLOCK_M: tl.constexpr, BLOCK_N: tl.constexpr, BLOCK_K: tl.constexpr,
      GROUP_M: tl.constexpr, SPLIT_K: tl.constexpr, EVEN_K: tl.constexpr, AB_DTYPE: tl.constexpr
      ):
  pid = tl.program_id(0)
  pid_z = tl.program_id(1)
  grid_m = tl.cdiv(M, BLOCK_M)
  grid_n = tl.cdiv(N, BLOCK_N)
  width = GROUP_M * grid_n
  group_id = pid // width
  group_size = min(grid_m - group_id * GROUP_M, GROUP_M)
  pid_m = group_id * GROUP_M + (pid % group_size)
  pid_n = (pid % width) // (group_size)
  rm = pid_m * BLOCK_M + tl.arange(0, BLOCK_M)
  rn = pid_n * BLOCK_N + tl.arange(0, BLOCK_N)
  ram = tl.max_contiguous(tl.multiple_of(rm % M, BLOCK_M), BLOCK_M)
  rbn = tl.max_contiguous(tl.multiple_of(rn % N, BLOCK_N), BLOCK_N)
  rk = pid_z * BLOCK_K + tl.arange(0, BLOCK_K)
  A = A + (ram[:, None] * stride_am + rk[None, :] * stride_ak)
  B = B + (rk[:, None] * stride_bk + rbn[None, :] * stride_bn)
  acc = tl.zeros((BLOCK_M, BLOCK_N), dtype=dot_out_dtype)
  for k in range(0, tl.cdiv(K, BLOCK_K * SPLIT_K)):
    if EVEN_K:
      a = tl.load(A)
      b = tl.load(B)
    else:
      k_remaining = K - k * (BLOCK_K * SPLIT_K)
      _0 = tl.zeros((1, 1), dtype=C.dtype.element_ty)
      a = tl.load(A, mask=rk[None, :] < k_remaining, other=_0)
      b = tl.load(B, mask=rk[:, None] < k_remaining, other=_0)
    if AB_DTYPE:
      a = a.to(C.dtype.element_ty)
      b = b.to(C.dtype.element_ty)
    acc += tl.dot(a, b, out_dtype=dot_out_dtype, allow_tf32=allow_tf32)
    A += BLOCK_K * SPLIT_K * stride_ak
    B += BLOCK_K * SPLIT_K * stride_bk
  acc = acc.to(C.dtype.element_ty)
  rm = pid_m * BLOCK_M + tl.arange(0, BLOCK_M)
  rn = pid_n * BLOCK_N + tl.arange(0, BLOCK_N)
  C = C + (rm[:, None] * stride_cm + rn[None, :] * stride_cn)
  mask = (rm < M)[:, None] & (rn < N)[None, :]
  if SPLIT_K == 1:
    tl.store(C, acc, mask=mask)
  else:
    tl.atomic_add(C, acc, mask=mask)"

/-! ## Products split along the inner axis -/

def splitTile : List String :=
  code "@triton.jit\ndef matmul_kernel_splitK(" ++
  matrixParameters ++
  code s!"  SPLIT_K: tl.constexpr, EVEN_K: tl.constexpr,
  GROUP_SIZE_M: tl.constexpr,
  ACTIVATION: tl.constexpr,
):
  pid = tl.program_id(axis=0)
  pid_z = tl.program_id(1)
  {tileNumbers}" ++
  groupTile

def splitProduct : List String :=
  splitTile ++ innerPart ++ tilePointers ++ innerPartSum ++ activated ++ targets ++ splitStore ++ leakyRelu

def plainSplitProduct : List String :=
  code "@triton.jit\ndef matmul_kernel(" ++
  matrixParameters ++
  code s!"  SPLIT_K: tl.constexpr, GROUP_SIZE_M: tl.constexpr,
):
  pid = tl.program_id(axis=0)
  pid_z = tl.program_id(1)
  {tileNumbers}" ++
  tileOrGroupTile ++ innerPart ++
  code "  offs_am = (pid_m * BLOCK_SIZE_M + tl.arange(0, BLOCK_SIZE_M))
  offs_bn = (pid_n * BLOCK_SIZE_N + tl.arange(0, BLOCK_SIZE_N))
  a_ptrs = a_ptr + offs_am[:, None] * stride_am + offs_k[None, :] * stride_ak
  b_ptrs = b_ptr + offs_k[:, None] * stride_bk + offs_bn[None, :] * stride_bn
  accumulator = tl.zeros((BLOCK_SIZE_M, BLOCK_SIZE_N), dtype=tl.float32)
  for k in range(0, tl.cdiv(K, BLOCK_SIZE_K * SPLIT_K)):
    a = tl.load(a_ptrs)
    b = tl.load(b_ptrs)
    accumulator += tl.dot(a, b)
    a_ptrs += BLOCK_SIZE_K * SPLIT_K * stride_ak
    b_ptrs += BLOCK_SIZE_K * SPLIT_K * stride_bk
  c = accumulator.to(tl.float16)" ++
  targets ++ splitStore

def plainSplitProductFile : String :=
  "import triton\nimport triton.language as tl\n\n" ++ String.join (plainSplitProduct.map (· ++ "\n"))

def profiledProduct : List String :=
  splitTile ++
  ["    offs_k = pid_z * BLOCK_SIZE_K + tl.arange(0, BLOCK_SIZE_K)"] ++
  tilePointers ++ innerPartSum ++ activated ++ targets ++ splitStore ++
  code "@triton.jit\ndef matmul_kernel(" ++
  matrixParameters ++
  code s!"  GROUP_SIZE_M: tl.constexpr, EVEN_K: tl.constexpr,
  ACTIVATION: tl.constexpr,
):
  pid = tl.program_id(axis=0)
  {tileNumbers}" ++
  groupTile ++
  wholeSum

end TileKernel.Kernels
