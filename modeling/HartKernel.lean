import HartKernel.Simulation.Run
import HartKernel.Proofs.Outcome
import HartKernel.Proofs.Priority.Bitmap
import HartKernel.Proofs.Priority.Ring
import HartKernel.Proofs.Priority.Lanes
import HartKernel.Proofs.Priority.Positions
import HartKernel.Proofs.Stack.Access
import HartKernel.Proofs.Task.Table
import HartKernel.Proofs.Frame.Codec
import HartKernel.Proofs.Kernel.Calls
import HartKernel.Proofs.Kernel.Frames
import HartKernel.Proofs.Kernel.Invariant
import HartKernel.Proofs.Kernel.Atomicity
import HartKernel.Proofs.Schedule.Urgency
import HartKernel.Proofs.Trap.Absence
import HartKernel.Proofs.Trap.Scheduling
import HartKernel.Proofs.Trap.Fatal
import HartKernel.Proofs.Trap.SystemCall
import HartKernel.Proofs.Trap.Nesting
import HartKernel.Proofs.Trap.Isolation
import HartKernel.Proofs.Trap.History
import HartKernel.Proofs.Trap.Rotation
import HartKernel.Proofs.Trap.FirstDispatch
import HartKernel.Proofs.Trap.FirstInterrupt
import HartKernel.Proofs.Trap.Choice
import HartKernel.Proofs.Trap.Handover
import HartKernel.Proofs.Trap.Coalescing
import HartKernel.Proofs.Trap.DataIndependence
import HartKernel.Proofs.Trap.Masking
import HartKernel.Proofs.Trap.Cooperation
import HartKernel.Proofs.Kernel.Exposure
import HartKernel.Proofs.Trap.Waking
import HartKernel.Proofs.Frame.RoundTrip
import HartKernel.Proofs.Frame.Patching
import HartKernel.Proofs.Frame.Kinds
import HartKernel.Proofs.Trap.Capacity
import HartKernel.Proofs.Trap.Creation
import HartKernel.Proofs.Trap.Bookkeeping
