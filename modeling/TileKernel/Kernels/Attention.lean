import TileKernel.Text

/-! # Attention

Attention in blocks of queries, with the running maximum and sum of the softmax kept per row, and its derivatives. Launches read only
parameters, and simulations end at block pointers, `tl.trans` and `tl.math`, so kernels and loops are kept up to the first of these.
-/

namespace TileKernel.Kernels

open Text

/-! ## Parts of attention -/

def strides : String :=
  "stride_qz, stride_qh, stride_qm, stride_qk,
  stride_kz, stride_kh, stride_kn, stride_kk,
  stride_vz, stride_vh, stride_vk, stride_vn,"

def blockSizes : String := "BLOCK_M: tl.constexpr, BLOCK_DMODEL: tl.constexpr,\n  BLOCK_N: tl.constexpr,"

def blockOffsets : String := "offs_m = start_m * BLOCK_M + tl.arange(0, BLOCK_M)\n  offs_n = tl.arange(0, BLOCK_N)"

def queryBlock (offset start rows : String) : List String :=
  code s!"  Q_block_ptr = tl.make_block_ptr(
    base=Q + {offset},
    shape=(N_CTX, BLOCK_DMODEL),
    strides=(stride_qm, stride_qk),
    offsets=({start}, 0),
    block_shape=({rows}, BLOCK_DMODEL),
    order=(1, 0)
  )"

def columnCall : List String :=
  code "    _bwd_kernel_one_col_block(
      Q, K, V, sm_scale, qk_scale, Out, DO,
      DQ, DK, DV,
      L,
      D,
      stride_dqa, stride_qz, stride_qh, stride_qm, stride_qk,
      stride_kz, stride_kh, stride_kn, stride_kk,
      stride_vz, stride_vh, stride_vk, stride_vn,
      Z, H, N_CTX,
      off_hz, start_n, num_block_n,
      BLOCK_M=BLOCK_M, BLOCK_DMODEL=BLOCK_DMODEL,
      BLOCK_N=BLOCK_N,
      SEQUENCE_PARALLEL=SEQUENCE_PARALLEL,
      CAUSAL=CAUSAL,"

def splitParameters : List String :=
  code s!"  L,
  D,
  {strides}
  Z, H, N_CTX,
  {blockSizes}
):
  start_m = tl.program_id(0)
  off_hz = tl.program_id(1)
  qvk_offset = off_hz * stride_qh"

def preparation : List String :=
  code "  BLOCK_M: tl.constexpr, D_HEAD: tl.constexpr,
):
  off_m = tl.program_id(0) * BLOCK_M + tl.arange(0, BLOCK_M)
  off_n = tl.arange(0, D_HEAD)
  o = tl.load(Out + off_m[:, None] * D_HEAD + off_n[None, :]).to(tl.float32)
  do = tl.load(DO + off_m[:, None] * D_HEAD + off_n[None, :]).to(tl.float32)
  delta = tl.sum(o * do, axis=1)"

def headOperands : List String :=
  code "  Q += off_z * stride_qz + off_h * stride_qh
  K += off_z * stride_kz + off_h * stride_kh
  V += off_z * stride_vz + off_h * stride_vh
  DO += off_z * stride_qz + off_h * stride_qh
  DQ += off_z * stride_qz + off_h * stride_qh
  DK += off_z * stride_kz + off_h * stride_kh
  DV += off_z * stride_vz + off_h * stride_vh"

def queryTiles : List String :=
  code "  offs_qm = lo + tl.arange(0, BLOCK_M)
  offs_n = start_n * BLOCK_M + tl.arange(0, BLOCK_M)
  offs_m = tl.arange(0, BLOCK_N)
  offs_k = tl.arange(0, BLOCK_DMODEL)
  q_ptrs = Q + (offs_qm[:, None] * stride_qm + offs_k[None, :] * stride_qk)
  k_ptrs = K + (offs_n[:, None] * stride_kn + offs_k[None, :] * stride_kk)"

def derivativeTiles : List String :=
  code "  do_ptrs = DO + (offs_qm[:, None] * stride_qm + offs_k[None, :] * stride_qk)
  dq_ptrs = DQ + (offs_qm[:, None] * stride_qm + offs_k[None, :] * stride_qk)
  D_ptrs = D + off_hz * N_CTX
  l_ptrs = L + off_hz * N_CTX"

/-! ## Attention

The values are stored like the keys or transposed, with the sequence along the last axis.
-/

def attentionKernels (transposed : Bool) : List String :=
  code ("@triton.jit\ndef max_fn(x, y):
  return tl.math.max(x, y)\n@triton.jit\ndef _attn_fwd_inner(
  acc, l_i, m_i, q,
  K_block_ptr, V_block_ptr,
  start_m,
  BLOCK_M: tl.constexpr,
  BLOCK_DMODEL: tl.constexpr,
  BLOCK_N: tl.constexpr,
  STAGE: tl.constexpr,
  offs_m: tl.constexpr,
  offs_n: tl.constexpr,
  N_CTX,
  pre_load_v: tl.constexpr,
):
  if STAGE == 1:
    lo, hi = 0, start_m * BLOCK_M
  elif STAGE == 2:
    lo, hi = start_m * BLOCK_M, (start_m + 1) * BLOCK_M
    lo = tl.multiple_of(lo, BLOCK_M)
    K_block_ptr = tl.advance(K_block_ptr, (0, lo))
    V_block_ptr = tl.advance(V_block_ptr, (lo, 0))
  else:
    lo, hi = 0, N_CTX
  for start_n in range(lo, hi, BLOCK_N):
    start_n = tl.multiple_of(start_n, BLOCK_N)
    k = tl.load(K_block_ptr)
    if pre_load_v:
      v = tl.load(V_block_ptr)
    qk = tl.zeros([BLOCK_M, BLOCK_N], dtype=tl.float32)
    if STAGE == 2:
      mask = offs_m[:, None] >= (start_n + offs_n[None, :])
      qk = tl.where(mask, qk, float(\"-inf\"))
    qk += tl.dot(q, k)
    m_ij = tl.maximum(m_i, tl.max(qk, 1))
    qk = qk - m_ij[:, None]
    p = tl.math.exp2(qk)
  return acc, l_i, m_i\n@triton.jit\ndef _attn_fwd(
  Q, K, V, sm_scale, M, Out,
  stride_qz, stride_qh, stride_qm, stride_qk,
  stride_kz, stride_kh, stride_kn, stride_kk,
  stride_vz, stride_vh, " ++ (if transposed then "stride_vn, stride_vk," else "stride_vk, stride_vn,") ++ "
  stride_oz, stride_oh, stride_om, stride_on,
  Z, H,
  N_CTX,
  BLOCK_DMODEL: tl.constexpr,
  STAGE: tl.constexpr,
  BLOCK_M: tl.constexpr,
  BLOCK_N: tl.constexpr,
  pre_load_v: tl.constexpr,
):
  start_m = tl.program_id(0)
  off_hz = tl.program_id(1)
  qkv_offset = off_hz * stride_qh") ++ queryBlock "qkv_offset" "start_m * BLOCK_M" "BLOCK_M" ++
  code "@triton.jit\ndef _bwd_preprocess(
  Out, DO,
  NewDO, Delta," ++ preparation ++
  code s!"  tl.store(NewDO + off_m[:, None] * D_HEAD + off_n[None, :], do)
  tl.store(Delta + off_m, delta)\n@triton.jit\ndef _bwd_kernel(
  Q, K, V, sm_scale, Out, DO,
  DQ, DK, DV,
  L,
  D,
  {strides}
  Z, H, N_CTX, P_SEQ,
  num_block_q, num_block_kv,
  {blockSizes}
  CAUSAL: tl.constexpr,
):
  off_hz = tl.program_id(0)
  off_z = off_hz // H
  off_h = off_hz % H
  qk_scale = sm_scale * 1.44269504" ++ headOperands ++
  code "  qk_scale = sm_scale * 1.44269504
  for start_n in range(0, num_block_kv):
    if CAUSAL:
      lo = tl.math.max(start_n * BLOCK_M - P_SEQ, 0)
    else:
      lo = 0" ++ indented queryTiles ++
  ["        v_ptrs = V + (offs_n[None, :] * stride_qm + offs_k[:, None] * stride_qk)"] ++ indented derivativeTiles ++
  code s!"    dk = tl.zeros([BLOCK_M, BLOCK_DMODEL], dtype=tl.float32)
    dv = tl.zeros([BLOCK_M, BLOCK_DMODEL], dtype=tl.float32)
    k = tl.load(k_ptrs)
    v = tl.load(v_ptrs)
    for start_m in range(lo, num_block_q * BLOCK_M, BLOCK_M):
      offs_m_curr = start_m + offs_m
      q = tl.load(q_ptrs)
      if CAUSAL:
        qk = tl.where(P_SEQ + offs_m_curr[:, None] >= (offs_n[None, :]), float(0.), float(\"-inf\"))
      else:
        qk = tl.zeros([BLOCK_M, BLOCK_N], dtype=tl.float32)
      qk += tl.dot(q, tl.trans(k))
    dk_ptrs = DK + (offs_n[:, None] * stride_kn + offs_k[None, :] * stride_kk)
    dv_ptrs = DV + (offs_n[:, None] * stride_qm + offs_k[None, :] * stride_qk)
    tl.store(dk_ptrs, dk)
    tl.store(dv_ptrs, dv)\n@triton.jit\ndef _bwd_kernel_dk_dv(
  Q, K, V, sm_scale, Out, DO,
  DK, DV," ++ splitParameters ++
  code s!"  qdo_offset = qvk_offset + start_m * BLOCK_M * stride_qm
  {blockOffsets}
  offs_d = tl.arange(0, BLOCK_DMODEL)" ++ queryBlock "qdo_offset" "0" "BLOCK_N" ++
  code "@triton.jit\ndef _bwd_kernel_dq(
  Q, K, V, sm_scale, Out, DO,
  DQ," ++ splitParameters ++
  code s!"  {blockOffsets}
  offs_d = tl.arange(0, BLOCK_DMODEL)" ++
  queryBlock "qvk_offset" "start_m * BLOCK_M" "BLOCK_M"

def attention : List String := attentionKernels false

def attentionTransposed : List String := attentionKernels true

/-! ## Attention for training -/

def flashAttention : List String :=
  code s!"@triton.jit\ndef _fwd_kernel(
  Q, K, V, sm_scale,
  L,
  Out,
  {strides}
  stride_oz, stride_oh, stride_om, stride_on,
  Z, H, N_CTX,
  {blockSizes}
  IS_CAUSAL: tl.constexpr,
):
  start_m = tl.program_id(0)
  off_hz = tl.program_id(1)
  qvk_offset = off_hz * stride_qh" ++ queryBlock "qvk_offset" "start_m * BLOCK_M" "BLOCK_M" ++
  code "@triton.jit\ndef _bwd_preprocess(
  Out, DO,
  Delta," ++ preparation ++
  code s!"  tl.store(Delta + off_m, delta)\n@triton.jit\ndef _bwd_kernel_one_col_block(
  Q, K, V, sm_scale, qk_scale,
  Out, DO,
  DQ, DK, DV,
  L,
  D,
  stride_dqa, {strides}
  Z, H, N_CTX,
  off_hz, start_n, num_block,
  {blockSizes}
  SEQUENCE_PARALLEL: tl.constexpr,
  CAUSAL: tl.constexpr,
):
  if SEQUENCE_PARALLEL:
    DQ += stride_dqa.to(tl.int64) * start_n
  if CAUSAL:
    lo = start_n * BLOCK_M
  else:
    lo = 0" ++ queryTiles ++
  ["    v_ptrs = V + (offs_n[:, None] * stride_vk + offs_k[None, :] * stride_vn)"] ++ derivativeTiles ++
  code s!"  dv = tl.zeros([BLOCK_M, BLOCK_DMODEL], dtype=tl.float32)
  dk = tl.zeros([BLOCK_M, BLOCK_DMODEL], dtype=tl.float32)
  k = tl.load(k_ptrs)
  v = tl.load(v_ptrs)
  for start_m in range(lo, num_block * BLOCK_M, BLOCK_M):
    offs_m_curr = start_m + offs_m
    q = tl.load(q_ptrs)
    if CAUSAL:
      qk = tl.where(offs_m_curr[:, None] >= (offs_n[None, :]), float(0.), float(\"-inf\"))
    else:
      qk = tl.zeros([BLOCK_M, BLOCK_N], dtype=tl.float32)
    qk += tl.dot(q, tl.trans(k))
  dv_ptrs = DV + (offs_n[:, None] * stride_vk + offs_k[None, :] * stride_vn)
  dk_ptrs = DK + (offs_n[:, None] * stride_kn + offs_k[None, :] * stride_kk)
  tl.store(dv_ptrs, dv)
  tl.store(dk_ptrs, dk)\n@triton.jit\ndef _bwd_kernel(
  Q, K, V, sm_scale,
  Out, DO,
  DQ, DK, DV,
  L,
  D,
  stride_dqa, {strides}
  Z, H, N_CTX,
  {blockSizes}
  SEQUENCE_PARALLEL: tl.constexpr,
  CAUSAL: tl.constexpr,
):
  qk_scale = sm_scale * 1.44269504
  off_hz = tl.program_id(0)
  off_z = off_hz // H
  off_h = off_hz % H" ++ headOperands ++
  code "  num_block_n = tl.cdiv(N_CTX, BLOCK_N)
  if not SEQUENCE_PARALLEL:
    for start_n in range(0, num_block_n):" ++ indented columnCall ++
  code "      )
  else:
    start_n = tl.program_id(1)" ++ columnCall ++
  ["        )"]

end TileKernel.Kernels
