import RobotHarness.Base.Mealy
import RobotHarness.Base.Watermark
import RobotHarness.Base.Simulation
import RobotHarness.Base.Since
import RobotHarness.Base.Word
import RobotHarness.Base.Forward
import RobotHarness.Base.Framing
import RobotHarness.Base.Fallible
import RobotHarness.Base.Table
import RobotHarness.Core.Types
import RobotHarness.Core.Receipt
import RobotHarness.Core.Gate
import RobotHarness.Core.Operation
import RobotHarness.Core.Run
import RobotHarness.Core.Transition
import RobotHarness.Core.Inversion
import RobotHarness.Core.Integrity
import RobotHarness.Core.Persistence
import RobotHarness.Core.Coherence
import RobotHarness.Core.History
import RobotHarness.Core.Admission
import RobotHarness.Core.Revocation
import RobotHarness.Core.Binding
import RobotHarness.Core.Identity
import RobotHarness.Core.Closing
import RobotHarness.Core.Ledger
import RobotHarness.Core.Conflict
import RobotHarness.Core.Candidate
import RobotHarness.Core.Dispatch
import RobotHarness.Core.Handoff
import RobotHarness.Core.Replay
import RobotHarness.Core.Release
import RobotHarness.Core.Settlement
import RobotHarness.Core.Bounds
import RobotHarness.Core.Control
import RobotHarness.Core.Acceptance
import RobotHarness.Core.Delivery
import RobotHarness.Core.Refusal
import RobotHarness.Core.Chronology
import RobotHarness.Core.SourceOrder
import RobotHarness.Core.Alike
import RobotHarness.Core.Contradiction
import RobotHarness.Core.Dereference
import RobotHarness.Motion.Permission
import RobotHarness.Motion.Grant
import RobotHarness.Motion.Drive
import RobotHarness.Motion.Handlers
import RobotHarness.Motion.Update
import RobotHarness.Motion.Scope
import RobotHarness.Compute.Protocol
import RobotHarness.Compute.Process
import RobotHarness.Compute.Squares
import RobotHarness.Compute.Worker
import RobotHarness.Compute.Agreement
import RobotHarness.Compute.Lifecycle
import RobotHarness.Compute.Grammar
import RobotHarness.Compute.Host
import RobotHarness.Compute.Steps
import RobotHarness.Compute.Ownership
import RobotHarness.Compute.Timing
import RobotHarness.Compute.Result
import RobotHarness.Compute.Exact
import RobotHarness.Compute.Draining
import RobotHarness.Compute.Schedules
import RobotHarness.Compute.SystemCalls
import RobotHarness.Compute.Recycling
import RobotHarness.Compute.Refinement
import RobotHarness.Transport.Channel
import RobotHarness.Transport.Frame
import RobotHarness.Transport.Connection
import RobotHarness.Transport.Progress
import RobotHarness.Transport.Ending
import RobotHarness.Python.Gate
import RobotHarness.Python.Execution
import RobotHarness.Python.Navigation
import RobotHarness.Python.Retention
import RobotHarness.Python.Coordination
import RobotHarness.Python.Requests
import RobotHarness.Sample.Host
import RobotHarness.Sample.Moves
import RobotHarness.Sample.Sound
import RobotHarness.Sample.Programs
import RobotHarness.Sample.Result
import RobotHarness.Sample.Plan
import RobotHarness.Sample.Drain
import RobotHarness.Observation.Watch
import RobotHarness.Observation.Obstacle
import RobotHarness.Observation.History
import RobotHarness.Python.Soundness
import RobotHarness.Python.Publication
import RobotHarness.Python.CoordinatorRun
import RobotHarness.Recovery.Protocol
import RobotHarness.Recovery.Owner
import RobotHarness.Recovery.Conservation
import RobotHarness.Recovery.Client
import RobotHarness.Recovery.Delivery
import RobotHarness.Recovery.System
import RobotHarness.Recovery.EndToEnd
import RobotHarness.Python.Ownership
import RobotHarness.Python.SessionHost
import RobotHarness.Python.SessionRules
import RobotHarness.Python.SessionSteps
import RobotHarness.Python.SessionRuns
