import HumanoidMotion.Lib.Machine
import HumanoidMotion.Lib.Wp
import HumanoidMotion.Lib.Selection
import HumanoidMotion.Lib.Streak
import HumanoidMotion.Lib.Lockstep
import HumanoidMotion.Lib.Columns
import HumanoidMotion.Lib.ExactCover
import HumanoidMotion.Lib.Mailboxes
import HumanoidMotion.Types
import HumanoidMotion.Arbitration.ControlArbiter
import HumanoidMotion.Arbitration.Claims
import HumanoidMotion.Arbitration.Winners
import HumanoidMotion.Arbitration.WinnerSet
import HumanoidMotion.Arbitration.Losers
import HumanoidMotion.Motion.GoalMonitor
import HumanoidMotion.Motion.Platform
import HumanoidMotion.Motion.Validation
import HumanoidMotion.Motion.Pipeline
import HumanoidMotion.Motion.Tick
import HumanoidMotion.Motion.System
import HumanoidMotion.Motion.FakeSdk
import HumanoidMotion.Motion.Accepted
import HumanoidMotion.Motion.Terminate
import HumanoidMotion.Motion.Submissions
import HumanoidMotion.Motion.TickRules
import HumanoidMotion.Motion.Turn
import HumanoidMotion.Motion.Steps
import HumanoidMotion.Motion.TickRun
import HumanoidMotion.Motion.Calls
import HumanoidMotion.Motion.Permits
import HumanoidMotion.Motion.Publication
import HumanoidMotion.Motion.Emission
import HumanoidMotion.Motion.Rows
import HumanoidMotion.Motion.TickRows
import HumanoidMotion.Motion.Tables
import HumanoidMotion.Motion.Consistency
import HumanoidMotion.Motion.Ownership
import HumanoidMotion.Motion.Refusals
import HumanoidMotion.Motion.Silencing
import HumanoidMotion.Motion.TickOutput
import HumanoidMotion.Motion.Holds
import HumanoidMotion.Motion.Epoch
import HumanoidMotion.Motion.Lane
import HumanoidMotion.Motion.Bystanders
import HumanoidMotion.Motion.GoalJoints
import HumanoidMotion.Motion.Isolation
import HumanoidMotion.Motion.CallLog
import HumanoidMotion.Motion.StageLog
import HumanoidMotion.Motion.AtRest
import HumanoidMotion.Motion.Elapsed
import HumanoidMotion.Motion.Lifecycle
import HumanoidMotion.Motion.Failures
import HumanoidMotion.Motion.Starts
import HumanoidMotion.Motion.Retry
import HumanoidMotion.Motion.Completion
import HumanoidMotion.Motion.LimitRecovery
import HumanoidMotion.Motion.InputTimestamp
import HumanoidMotion.Motion.SourceTimes
import HumanoidMotion.Node.ControlNode
import HumanoidMotion.Node.Permission
import HumanoidMotion.Node.Handshake
import HumanoidMotion.Node.PermitThreads
import HumanoidMotion.Node.ServoInputs
import HumanoidMotion.Node.Reservation
import HumanoidMotion.Node.PublicJointMapping
import HumanoidMotion.Node.MappingRoundTrip
import HumanoidMotion.Node.MoveTask
import HumanoidMotion.Pose.MoveJPose
import HumanoidMotion.Pose.Verdict
import HumanoidMotion.Pose.PoseRuntime
import HumanoidMotion.Pose.Pause
import HumanoidMotion.Pose.InitialPoses
import HumanoidMotion.Kinematics.SdkKinematics
import HumanoidMotion.Kinematics.NameOrder
import HumanoidMotion.Motion.SdkMotionBackend
import HumanoidMotion.Motion.MovePath
import HumanoidMotion.Motion.FinalRtc
import HumanoidMotion.Motion.Shaped
import HumanoidMotion.Motion.SdkAdapter
import HumanoidMotion.Simulation.Plant
import HumanoidMotion.Simulation.PlantSafety
import HumanoidMotion.Lib.Checked
import HumanoidMotion.Pose.SnapshotPose
import HumanoidMotion.Simulation.Mimics
import HumanoidMotion.Simulation.Viewer
import HumanoidMotion.Tf.TfRuntime
import HumanoidMotion.Tf.FrameTable
import HumanoidMotion.Tf.MeasuredFrames
import HumanoidMotion.Motion.Deadlines
import HumanoidMotion.Node.Freshness
import HumanoidMotion.Motion.MovesStay
import HumanoidMotion.Motion.LimitsKept
import HumanoidMotion.Node.MoveRequest
import HumanoidMotion.Node.MoveAction
import HumanoidMotion.Node.MoveCustody
import HumanoidMotion.Node.MoveLedger
import HumanoidMotion.Node.Output
import HumanoidMotion.Node.Takeover
import HumanoidMotion.Node.OwnedOutput
import HumanoidMotion.Node.EvidenceStream
import HumanoidMotion.Node.Configuration
import HumanoidMotion.Node.JointTargets
import HumanoidMotion.Node.SessionIds
import HumanoidMotion.Node.Admission
