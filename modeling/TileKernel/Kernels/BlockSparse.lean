import TileKernel.Text

/-! # Products with block-sparse matrices

Products of dense matrices into a block-sparse one and of a block-sparse matrix with a dense one, and a softmax.
-/

namespace TileKernel.Kernels

open Text

def blockSparseProduct : List String :=
  code "@triton.jit\ndef _sdd_kernel(
  A, B, C,
  stride_za, stride_ha, stride_ma, stride_ak,
  stride_zb, stride_hb, stride_bk, stride_nb,
  stride_zc, stride_hc, stride_mc, stride_nc,
  K, grid_offset, lut,
  TILE_M: tl.constexpr, TILE_N: tl.constexpr, TILE_K: tl.constexpr,
  BLOCK: tl.constexpr, EVEN_K: tl.constexpr
):
  block_id = tl.program_id(0) + grid_offset
  lut += block_id * 3
  off_z = tl.program_id(2)
  off_h = tl.load(lut + 0)
  start_am = tl.load(lut + 1)
  offs_am = start_am * BLOCK + (tl.arange(0, TILE_M) % BLOCK)
  offs_ak = tl.arange(0, TILE_K)
  a_ptrs = A \\
    + off_z * stride_za \\
    + off_h * stride_ha \\
    + offs_am[:, None] * stride_ma \\
    + offs_ak[None, :] * stride_ak
  start_bn = tl.load(lut + 2)
  offs_bn = start_bn * BLOCK + (tl.arange(0, TILE_N) % BLOCK)
  offs_bk = tl.arange(0, TILE_K)
  b_ptrs = B \\
    + off_z * stride_zb \\
    + off_h * stride_hb \\
    + offs_bn[None, :] * stride_nb \\
    + offs_bk[:, None] * stride_bk
  acc = tl.zeros((TILE_M, TILE_N), dtype=tl.float32)
  for k in range(K, 0, -TILE_K):
    if EVEN_K:
      a = tl.load(a_ptrs)
      b = tl.load(b_ptrs)
    else:
      a = tl.load(a_ptrs, mask=offs_ak[None, :] < k, other=0.)
      b = tl.load(b_ptrs, mask=offs_bk[:, None] < k, other=0.)
    acc += tl.dot(a, b, out_dtype=tl.float32)
    a_ptrs += TILE_K * stride_ak
    b_ptrs += TILE_K * stride_bk
  c = acc.to(C.dtype.element_ty)
  offs_cm = tl.arange(0, TILE_M) % BLOCK
  offs_cn = tl.arange(0, TILE_N) % BLOCK
  pc = C \\
    + off_z * stride_zc \\
    + block_id * stride_hc \\
    + offs_cm[:, None] * stride_mc \\
    + offs_cn[None, :] * stride_nc
  tl.store(pc, c, mask=True)\n@triton.jit\ndef _dsd_kernel(
  A, B, C,
  stride_az, stride_ha, stride_am, stride_ak,
  stride_zb, stride_hb, stride_bk, stride_bn,
  stride_zc, stride_hc, stride_cm, stride_cn,
  DS0, DS1, lut,
  TILE_M: tl.constexpr, TILE_N: tl.constexpr, TILE_K: tl.constexpr,
  GROUP_SIZE_M: tl.constexpr, BLOCK: tl.constexpr
):
  pid_m = tl.program_id(0)
  pid_n = tl.program_id(1)
  num_pid_m = tl.num_programs(0)
  num_pid_n = tl.num_programs(1)
  pid_n, pid_m = tl.swizzle2d(pid_n, pid_m, num_pid_n, num_pid_m, GROUP_SIZE_M)
  pidz = tl.program_id(2)
  header = lut + pid_n * 4
  offset = tl.load(header + 0)
  K = tl.load(header + 1)
  column = tl.load(header + 2)
  off_h = tl.load(header + 3)
  pinc = lut + offset
  block_id = tl.load(pinc + 1)
  block_id = tl.multiple_of(block_id, 8)
  offs_am = tl.arange(0, TILE_M)
  offs_ak = tl.arange(0, TILE_K)
  pa = A + pidz * stride_az \\
    + block_id * stride_ha \\
    + offs_am[:, None] * stride_am \\
    + offs_ak[None, :] * stride_ak
  offs_bn = pid_m * TILE_N + tl.arange(0, TILE_N)
  offs_bn = tl.max_contiguous(tl.multiple_of(offs_bn % DS0, TILE_N), TILE_N)
  start_bk = tl.load(pinc)
  start_bk = tl.multiple_of(start_bk, 8)
  offs_bk = start_bk + tl.arange(0, TILE_K)
  pb = B + pidz * stride_zb \\
    + off_h * stride_hb \\
    + offs_bn[None, :] * stride_bn \\
    + offs_bk[:, None] * stride_bk
  acc = tl.zeros((TILE_M, TILE_N), dtype=tl.float32)
  pinc += 2
  inc_a = tl.load(pinc + 1)
  inc_a = tl.multiple_of(inc_a, 8)
  inc_b = tl.load(pinc)
  inc_b = tl.multiple_of(inc_b, 8)
  for k in range(K, 0, -TILE_K):
    a = tl.load(pa)
    b = tl.load(pb)
    acc += tl.dot(a, b, out_dtype=tl.float32)
    pa += inc_a
    pb += inc_b * stride_bk
    pinc += 2
    inc_a = tl.load(pinc + 1)
    inc_a = tl.multiple_of(inc_a, 8)
    inc_b = tl.load(pinc)
    inc_b = tl.multiple_of(inc_b, 8)
  c = acc.to(C.dtype.element_ty)
  offs_cm = column * TILE_M + tl.arange(0, TILE_M)
  offs_cn = pid_m * TILE_N + tl.arange(0, TILE_N)
  pc = C \\
    + off_h * stride_hc \\
    + pidz * stride_zc \\
    + offs_cm[:, None] * stride_cm \\
    + offs_cn[None, :] * stride_cn
  tl.store(pc, c, mask=offs_cn[None, :] < DS0)"

def rowHeader : List String :=
  code "  ROW_SIZE: tl.constexpr,
  BLOCK_SIZE: tl.constexpr,
  IS_DENSE: tl.constexpr,
):
  h = tl.program_id(0)
  m = tl.program_id(1)
  z = tl.program_id(2)
  hm = h * tl.num_programs(1) + m
  lane_n = tl.arange(0, ROW_SIZE) % BLOCK_SIZE
  block_n = tl.arange(0, ROW_SIZE) // BLOCK_SIZE
  header = LUT + (hm // BLOCK_SIZE) * 2
  size = tl.load(header + 0)
  offset = tl.load(header + 1)"

def blockSparseSoftmax : List String :=
  code "@triton.jit\ndef _blocksparse_softmax_fwd(
  Out, A, stride_xz, LUT,
  R, extent, stride_zr, stride_hr,
  scale, is_causal," ++
  rowHeader ++
  code "  off_a = z * stride_xz
  off_a += (offset + block_n) * BLOCK_SIZE * BLOCK_SIZE
  off_a += (m % BLOCK_SIZE) * BLOCK_SIZE
  if IS_DENSE:
    ns = tl.arange(0, ROW_SIZE)
  else:
    off_lut = offset + 2 * tl.num_programs(0) * tl.num_programs(1) // BLOCK_SIZE
    start_n = tl.load(LUT + off_lut + block_n, mask=block_n < size, other=0)
    ns = start_n * BLOCK_SIZE + lane_n
  mask = block_n < size
  a = tl.load(A + off_a + lane_n, mask=mask, other=-float(\"inf\"))
  a = a.to(tl.float32)
  out = a
  out *= scale
  if R is not None:
    R += z * stride_zr
    R += h * stride_hr
    off_lo = (extent - m - 1) + ns
    mask_lo = (off_lo >= 0) & (off_lo < extent)
    rel_logits = tl.load(R + m * extent + off_lo, mask=mask_lo, other=0.0)
    out += rel_logits
  out = out.to(tl.float32)
  out = tl.where((ns > m) & is_causal, -float(\"inf\"), out)
  out = tl.softmax(out)
  tl.store(Out + off_a + lane_n, out, mask=mask)\n@triton.jit\ndef _blocksparse_softmax_bwd(
  DA, stride_zdx,
  DOut, stride_zdout,
  Out, stride_zout,
  scale,
  LUT,
  DR, extent, stride_zr, stride_hr, stride_er,
  is_causal," ++
  rowHeader ++
  code "  off_mn = (offset + block_n) * BLOCK_SIZE * BLOCK_SIZE
  off_mn += (m % BLOCK_SIZE) * BLOCK_SIZE
  mask = block_n < size
  As = Out + z * stride_zout + off_mn
  DOuts = DOut + z * stride_zdout + off_mn
  if IS_DENSE:
    ns = tl.arange(0, ROW_SIZE)
  else:
    off_lut = offset + 2 * tl.num_programs(0) * tl.num_programs(1) // BLOCK_SIZE
    start_n = tl.load(LUT + off_lut + block_n, mask=mask, other=0)
    ns = start_n * BLOCK_SIZE + lane_n
  a = tl.load(As + lane_n, mask=mask, other=0.0)
  a = a.to(tl.float32)
  dout = tl.load(DOuts + lane_n, mask=mask, other=0.0)
  dout = dout.to(tl.float32)
  a = tl.where((ns > m) & is_causal & (a == a), 0., a)
  da = a * (dout - tl.sum(a * dout, 0))
  if DR is not None:
    DR += z * stride_zr
    DR += h * stride_hr
    off_lo = (extent - m - 1) + ns
    mask_lo = (off_lo >= 0) & (off_lo < extent) & mask
    tl.store(DR + m * extent + off_lo, da, mask=mask_lo)
  da = da * scale
  DAs = DA + z * stride_zdx + off_mn
  tl.store(DAs + lane_n, da, mask=mask)"

end TileKernel.Kernels
