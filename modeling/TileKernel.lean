import TileKernel.Host.Programs.Attention
import TileKernel.Host.Programs.Measuring
import TileKernel.Host.Programs.ProductTuning
import TileKernel.Host.Programs.Rows
import TileKernel.Main
import TileKernel.Proofs.Ahead.Hints
import TileKernel.Proofs.Ahead.Linking
import TileKernel.Proofs.Assembly.Labels
import TileKernel.Proofs.BlockSparse.WalkKernel
import TileKernel.Proofs.Compile.Keys
import TileKernel.Proofs.Launch.TensorMaps
import TileKernel.Proofs.Launch.TensorMapStore
import TileKernel.Proofs.Launch.KernelKeys
import TileKernel.Proofs.Lowering.ArgumentTypes
import TileKernel.Proofs.Lowering.Assignments
import TileKernel.Proofs.Lowering.ConstantOperands
import TileKernel.Proofs.Lowering.Counting
import TileKernel.Proofs.Lowering.PassedOperands
import TileKernel.Proofs.Lowering.KernelParameters
import TileKernel.Proofs.Lowering.Returning
import TileKernel.Proofs.Number.Powers
import TileKernel.Proofs.Random.Philox
import TileKernel.Proofs.Simulation.Positions
import TileKernel.Proofs.Tensor.Extremum
import TileKernel.Proofs.Tensor.Uniform
import TileKernel.Proofs.Tiling.Covering
import TileKernel.Proofs.Tiling.Swizzle
import TileKernel.Proofs.Tuning.Pruning
import TileKernel.Proofs.Tuning.Estimates
import TileKernel.Proofs.Tuning.Histories
import TileKernel.Proofs.Tuning.Keys
import TileKernel.Wire.Programs
import TileKernel.Host.Programs.Packaging
