import SlotDispatch.Scenario
import SlotDispatch.State.Lemmas
import SlotDispatch.Workload
import SlotDispatch.Proofs.Acts
import SlotDispatch.Proofs.Run
import SlotDispatch.Proofs.Steps
import SlotDispatch.Proofs.Conservation
import SlotDispatch.Proofs.Built
import SlotDispatch.Proofs.Activation
import SlotDispatch.Proofs.Discipline
import SlotDispatch.Proofs.Exclusivity
import SlotDispatch.Proofs.Potential
import SlotDispatch.Proofs.Shape
import SlotDispatch.Proofs.Accounted
import SlotDispatch.Proofs.Liveness
import SlotDispatch.Proofs.Progress
import SlotDispatch.Proofs.Files
import SlotDispatch.Proofs.Stages
import SlotDispatch.Proofs.FileChanges
import SlotDispatch.Proofs.Known
import SlotDispatch.Proofs.FileSteps
import SlotDispatch.Proofs.Lasting
import SlotDispatch.Proofs.Settlement
import SlotDispatch.Proofs.Walk
import SlotDispatch.Proofs.Binding
import SlotDispatch.Proofs.Surplus
import SlotDispatch.Proofs.Stacking
import SlotDispatch.Proofs.Buffers
import SlotDispatch.Proofs.Attribution
import SlotDispatch.Proofs.Crowd
import SlotDispatch.Proofs.Task
import SlotDispatch.Proofs.Places
import SlotDispatch.Proofs.Totals
import SlotDispatch.Proofs.Wakeups
import SlotDispatch.Proofs.Turns
import SlotDispatch.Proofs.Ending
import SlotDispatch.Proofs.Conclusion
import SlotDispatch.Proofs.Independence
import SlotDispatch.Proofs.Weight
import SlotDispatch.Proofs.Termination
import SlotDispatch.Proofs.Extent
import SlotDispatch.Proofs.Attachment
import SlotDispatch.Proofs.Closing
import SlotDispatch.Proofs.Delivery
import SlotDispatch.Proofs.Shutdown
import SlotDispatch.Proofs.Mounting
import SlotDispatch.Proofs.Panics
import SlotDispatch.Proofs.Leftovers
import SlotDispatch.Proofs.Agreement
import SlotDispatch.Proofs.RoundTrip
import SlotDispatch.Proofs.Pins
import SlotDispatch.Proofs.Courses
import SlotDispatch.Proofs.Parting
import SlotDispatch.Proofs.Resolution
import SlotDispatch.Proofs.Farewell
import SlotDispatch.Proofs.Ahead
import SlotDispatch.Proofs.Grammar
import SlotDispatch.Proofs.NormalForm
import SlotDispatch.Proofs.Reconfiguration
import SlotDispatch.Proofs.Detour
import SlotDispatch.Proofs.Hiding
import SlotDispatch.Proofs.Invisibility
import SlotDispatch.Proofs.Tame
import SlotDispatch.Proofs.Guise
import SlotDispatch.Proofs.Attempts
import SlotDispatch.Proofs.Synchrony
import SlotDispatch.Proofs.Unrolling
import SlotDispatch.Proofs.Deferral
import SlotDispatch.Proofs.Assembly
import SlotDispatch.Proofs.Engagement
import SlotDispatch.Proofs.Tethers
import SlotDispatch.Proofs.Rounds
import SlotDispatch.Proofs.Confinement
import SlotDispatch.Proofs.Retries
