import TileKernel.Text

/-! # Kernels on elements and rows

Kernels whose program instances each take a block of elements or a row of a matrix.
-/

namespace TileKernel.Kernels

open Text

def elements : List String :=
  code "):
  pid = tl.program_id(axis=0)
  block_start = pid * BLOCK_SIZE
  offsets = block_start + tl.arange(0, BLOCK_SIZE)
  mask = offsets < n_elements
  x = tl.load(x_ptr + offsets, mask=mask)"

/-! ## Sum of two vectors -/

def vectorAdd : List String :=
  code "@triton.jit\ndef add_kernel(
  x_ptr,
  y_ptr,
  output_ptr,
  n_elements,
  BLOCK_SIZE: tl.constexpr," ++
  elements ++
  code "  y = tl.load(y_ptr + offsets, mask=mask)
  output = x + y
  tl.store(output_ptr + offsets, output, mask=mask)"

/-! ## Arcsine -/

def arcsine : List String :=
  code "@triton.jit\ndef asin_kernel(
    x_ptr,
    y_ptr,
    n_elements,
    BLOCK_SIZE: tl.constexpr," ++
  elements ++
  code "  x = tl.math.asin(x)
  tl.store(y_ptr + offsets, x, mask=mask)"

/-! ## Dropout -/

def dropout : List String :=
  code "@triton.jit\ndef _dropout(
  x_ptr,
  x_keep_ptr,
  output_ptr,
  n_elements,
  p,
  BLOCK_SIZE: tl.constexpr," ++
  elements ++
  code "  x_keep = tl.load(x_keep_ptr + offsets, mask=mask)
  output = tl.where(x_keep, x / (1 - p), 0.0)
  tl.store(output_ptr + offsets, output, mask=mask)\n@triton.jit\ndef _seeded_dropout(
  x_ptr,
  output_ptr,
  n_elements,
  p,
  seed,
  BLOCK_SIZE: tl.constexpr," ++
  elements ++
  code "  random = tl.rand(seed, offsets)
  x_keep = random > p
  output = tl.where(x_keep, x / (1 - p), 0.0)
  tl.store(output_ptr + offsets, output, mask=mask)"

/-! ## Copies -/

def stridedCopy : List String :=
  lines "@triton.jit\ndef kernel(X, stride_xm,\n           Z, stride_zn,\n           BLOCK_M: tl.constexpr, BLOCK_N: tl.constexpr):" ++
  code "  off_m = tl.arange(0, BLOCK_M)
  off_n = tl.arange(0, BLOCK_N)
  Xs = X + off_m[:, None] * stride_xm + off_n[None, :] * 1
  Zs = Z + off_m[:, None] * 1 + off_n[None, :] * stride_zn
  tl.store(Zs, tl.load(Xs))"

def empty : List String :=
  code "@triton.jit\ndef kernel(X, stride_xm, stride_xn, BLOCK: tl.constexpr):
  pass"

/-! ## Small kernels -/

def sample : List String :=
  code "@triton.jit\ndef _helper_add(a, b):
  return a + b\n@triton.jit\ndef _k_simple(x_ptr, y_ptr, out_ptr, n, BLOCK: tl.constexpr):
  pid = tl.program_id(0)
  offs = pid * BLOCK + tl.arange(0, BLOCK)
  mask = offs < n
  x = tl.load(x_ptr + offs, mask=mask)
  y = tl.load(y_ptr + offs, mask=mask)
  tl.store(out_ptr + offs, x * 2 + y - 1, mask=mask)\n@triton.jit\ndef _k_loop(x_ptr, n, BLOCK: tl.constexpr):
  offs = tl.arange(0, BLOCK)
  acc = tl.zeros([16], dtype=tl.float32)
  for i in range(0, n):
    acc += tl.load(x_ptr + offs)
  tl.store(x_ptr + offs, acc)\n@triton.jit\ndef _k_ctrl(x_ptr, flag, BLOCK: tl.constexpr):
  tl.static_assert(BLOCK > 1)
  offs = tl.arange(0, BLOCK)
  x = tl.load(x_ptr + offs)
  y = tl.sum(x, axis=0)
  if flag > 0:
    tl.store(x_ptr + offs, x + y)
  else:
    tl.store(x_ptr + offs, x - y)\n@triton.jit\ndef _k_call(x_ptr, BLOCK: tl.constexpr):
  offs = tl.arange(0, BLOCK)
  x = tl.load(x_ptr + offs)
  tl.store(x_ptr + offs, _helper_add(x, x))"

/-! ## Softmax of rows -/

def softmax : List String :=
  code "@triton.jit\ndef softmax_kernel(
  output_ptr, input_ptr, input_row_stride, output_row_stride, n_cols,
  BLOCK_SIZE: tl.constexpr
):
  row_idx = tl.program_id(0)
  row_start_ptr = input_ptr + row_idx * input_row_stride
  col_offsets = tl.arange(0, BLOCK_SIZE)
  input_ptrs = row_start_ptr + col_offsets
  row = tl.load(input_ptrs, mask=col_offsets < n_cols, other=-float('inf'))
  row_minus_max = row - tl.max(row, axis=0)
  numerator = tl.exp(row_minus_max)
  denominator = tl.sum(numerator, axis=0)
  softmax_output = numerator / denominator
  output_row_start_ptr = output_ptr + row_idx * output_row_stride
  output_ptrs = output_row_start_ptr + col_offsets
  tl.store(output_ptrs, softmax_output, mask=col_offsets < n_cols)"

/-! ## Cross entropy -/

def crossEntropy : List String :=
  code "@triton.jit\ndef _forward(LOGITS, PROBS, IDX, LOSS, N, BLOCK: tl.constexpr):
  row = tl.program_id(0)
  cols = tl.arange(0, BLOCK)
  idx = tl.load(IDX + row)
  LOGITS = LOGITS + row * N + cols
  WRIT_PROBS = PROBS + row * N + cols
  READ_PROBS = PROBS + row * N + idx
  logits = tl.load(LOGITS, mask=cols < N, other=-float('inf'))
  logits = logits.to(tl.float32)
  logits = logits - tl.max(logits, 0)
  probs = tl.log(tl.sum(tl.exp(logits), 0)) - logits
  tl.store(WRIT_PROBS, probs, mask=cols < N)
  tl.debug_barrier()
  probs = tl.load(READ_PROBS)
  tl.store(LOSS + row, probs)\n@triton.jit\ndef _backward(PROBS, IDX, DPROBS, N, BLOCK: tl.constexpr):
  row = tl.program_id(0)
  cols = tl.arange(0, BLOCK)
  idx = tl.load(IDX + row)
  PROBS = PROBS + row * N + cols
  probs = -tl.load(PROBS, mask=cols < N, other=float('inf'))
  probs = tl.exp(probs.to(tl.float32))
  delta = cols == idx
  dout = tl.load(DPROBS + row)
  din = (probs - delta) * dout
  tl.store(PROBS, din.to(PROBS.dtype.element_ty), mask=cols < N)"

/-! ## Normalization of layers

Normalizes the rows of a matrix with weights and biases, and its derivatives. Those of the weights are first summed per group of
rows under a lock.
-/

def layerNorm : List String :=
  code "@triton.jit\ndef _layer_norm_fwd_fused(
  X,
  Y,
  W,
  B,
  Mean,
  Rstd,
  stride,
  N,
  eps,
  BLOCK_SIZE: tl.constexpr,
):
  row = tl.program_id(0)
  Y += row * stride
  X += row * stride
  mean = 0
  _mean = tl.zeros([BLOCK_SIZE], dtype=tl.float32)
  for off in range(0, N, BLOCK_SIZE):
    cols = off + tl.arange(0, BLOCK_SIZE)
    a = tl.load(X + cols, mask=cols < N, other=0.).to(tl.float32)
    _mean += a
  mean = tl.sum(_mean, axis=0) / N
  _var = tl.zeros([BLOCK_SIZE], dtype=tl.float32)
  for off in range(0, N, BLOCK_SIZE):
    cols = off + tl.arange(0, BLOCK_SIZE)
    x = tl.load(X + cols, mask=cols < N, other=0.).to(tl.float32)
    x = tl.where(cols < N, x - mean, 0.)
    _var += x * x
  var = tl.sum(_var, axis=0) / N
  rstd = 1 / tl.sqrt(var + eps)
  tl.store(Mean + row, mean)
  tl.store(Rstd + row, rstd)
  for off in range(0, N, BLOCK_SIZE):
    cols = off + tl.arange(0, BLOCK_SIZE)
    mask = cols < N
    w = tl.load(W + cols, mask=mask)
    b = tl.load(B + cols, mask=mask)
    x = tl.load(X + cols, mask=mask, other=0.).to(tl.float32)
    x_hat = (x - mean) * rstd
    y = x_hat * w + b
    tl.store(Y + cols, y, mask=mask)\n@triton.jit\ndef _layer_norm_bwd_dx_fused(
  DX,
  DY,
  DW,
  DB,
  X,
  W,
  B,
  Mean,
  Rstd,
  Lock,
  stride,
  N,
  eps,
  GROUP_SIZE_M: tl.constexpr,
  BLOCK_SIZE_N: tl.constexpr
):
  row = tl.program_id(0)
  cols = tl.arange(0, BLOCK_SIZE_N)
  mask = cols < N
  X += row * stride
  DY += row * stride
  DX += row * stride
  lock_id = row % GROUP_SIZE_M
  Lock += lock_id
  Count = Lock + GROUP_SIZE_M
  DW = DW + lock_id * N + cols
  DB = DB + lock_id * N + cols
  x = tl.load(X + cols, mask=mask, other=0).to(tl.float32)
  dy = tl.load(DY + cols, mask=mask, other=0).to(tl.float32)
  w = tl.load(W + cols, mask=mask).to(tl.float32)
  mean = tl.load(Mean + row)
  rstd = tl.load(Rstd + row)
  xhat = (x - mean) * rstd
  wdy = w * dy
  xhat = tl.where(mask, xhat, 0.)
  wdy = tl.where(mask, wdy, 0.)
  c1 = tl.sum(xhat * wdy, axis=0) / N
  c2 = tl.sum(wdy, axis=0) / N
  dx = (wdy - (xhat * c1 + c2)) * rstd
  tl.store(DX + cols, dx, mask=mask)
  partial_dw = (dy * xhat).to(w.dtype)
  partial_db = (dy).to(w.dtype)
  while tl.atomic_cas(Lock, 0, 1) == 1:
    pass
  count = tl.load(Count)
  if count == 0:
    tl.atomic_xchg(Count, 1)
  else:
    partial_dw += tl.load(DW, mask=mask)
    partial_db += tl.load(DB, mask=mask)
  tl.store(DW, partial_dw, mask=mask)
  tl.store(DB, partial_db, mask=mask)
  tl.atomic_xchg(Lock, 0)\n@triton.jit\ndef _layer_norm_bwd_dwdb(
  DW,
  DB,
  FINAL_DW,
  FINAL_DB,
  M,
  N,
  BLOCK_SIZE_M: tl.constexpr,
  BLOCK_SIZE_N: tl.constexpr
):
  pid = tl.program_id(0)
  cols = pid * BLOCK_SIZE_N + tl.arange(0, BLOCK_SIZE_N)
  dw = tl.zeros((BLOCK_SIZE_M, BLOCK_SIZE_N), dtype=tl.float32)
  db = tl.zeros((BLOCK_SIZE_M, BLOCK_SIZE_N), dtype=tl.float32)
  for i in range(0, M, BLOCK_SIZE_M):
    rows = i + tl.arange(0, BLOCK_SIZE_M)
    mask = (rows[:, None] < M) & (cols[None, :] < N)
    offs = rows[:, None] * N + cols[None, :]
    dw += tl.load(DW + offs, mask=mask, other=0.)
    db += tl.load(DB + offs, mask=mask, other=0.)
  sum_dw = tl.sum(dw, axis=0)
  sum_db = tl.sum(db, axis=0)
  tl.store(FINAL_DW + cols, sum_dw, mask=cols < N)
  tl.store(FINAL_DB + cols, sum_db, mask=cols < N)"

end TileKernel.Kernels
