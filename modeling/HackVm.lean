import HackVm.Command.Arguments
import HackVm.Machine.Loader
import HackVm.Main
import HackVm.Proofs.Acceptance
import HackVm.Proofs.Allocation
import HackVm.Proofs.FreshLabels
import HackVm.Proofs.Layout
import HackVm.Proofs.Simulation
import HackVm.Proofs.StraightLine
import HackVm.Proofs.Streaming
import HackVm.Proofs.Build
import HackVm.Proofs.BlockInProgram
import HackVm.Proofs.MemoryAccess
import HackVm.Proofs.CallFrame
import HackVm.Proofs.CallProtocol
import HackVm.Proofs.Comparison
import HackVm.Proofs.Truncation
import HackVm.Proofs.Erasure
import HackVm.Proofs.Renumbering
import HackVm.Proofs.Joining
import HackVm.Proofs.Annotation
import HackVm.Proofs.Restatement
import HackVm.Proofs.Resolution
import HackVm.Proofs.Budget
import HackVm.Proofs.Rebuild
import HackVm.Proofs.Guards
import HackVm.Proofs.Discovery
