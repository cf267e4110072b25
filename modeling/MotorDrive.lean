import MotorDrive.Library.Numerals
import MotorDrive.Library.History
import MotorDrive.Library.Program
import MotorDrive.Library.Threads
import MotorDrive.Library.Flow
import MotorDrive.Library.Onward
import MotorDrive.Library.Watch
import MotorDrive.Library.Geodesic
import MotorDrive.Library.Calls
import MotorDrive.Library.Hoare
import MotorDrive.Library.Guarded
import MotorDrive.Library.Extrema
import MotorDrive.Library.Validate
import MotorDrive.Library.Groups
import MotorDrive.Library.Plane
import MotorDrive.Library.Text
import MotorDrive.Library.Search
import MotorDrive.Library.Periods
import MotorDrive.Dds.Protocol
import MotorDrive.Dds.Lease
import MotorDrive.Dds.Service
import MotorDrive.Dds.Neutral
import MotorDrive.Dds.Queue
import MotorDrive.Dds.Refresh
import MotorDrive.Dds.Stream
import MotorDrive.Dds.Delivery
import MotorDrive.Dds.Latest
import MotorDrive.Dds.Motion
import MotorDrive.Dds.Configuration
import MotorDrive.Runtime.State
import MotorDrive.Runtime.Safety
import MotorDrive.Runtime.Power
import MotorDrive.Runtime.Commands
import MotorDrive.Runtime.Lifecycle
import MotorDrive.Runtime.Worker
import MotorDrive.Runtime.System
import MotorDrive.Runtime.Flow
import MotorDrive.Runtime.Follows
import MotorDrive.Runtime.FollowsLifecycle
import MotorDrive.Runtime.FollowsWorker
import MotorDrive.Runtime.Frame
import MotorDrive.Runtime.Calls
import MotorDrive.Runtime.Disable
import MotorDrive.Runtime.Batch
import MotorDrive.Runtime.Recover
import MotorDrive.Runtime.Maintenance
import MotorDrive.Runtime.Emergency
import MotorDrive.Runtime.Latch
import MotorDrive.Runtime.Cycle
import MotorDrive.Runtime.Quiescent
import MotorDrive.Runtime.Ownership
import MotorDrive.Runtime.Planning
import MotorDrive.Runtime.Reference
import MotorDrive.Runtime.Schedule
import MotorDrive.Trajectory.Segment
import MotorDrive.Trajectory.Isolation
import MotorDrive.Trajectory.Limits
import MotorDrive.Trajectory.Plan
import MotorDrive.Trajectory.Planned
import MotorDrive.Trajectory.Engine
import MotorDrive.Trajectory.Recovery
import MotorDrive.Trajectory.Cycle
import MotorDrive.Trajectory.Frames
import MotorDrive.Trajectory.Run
import MotorDrive.Trajectory.Motions
import MotorDrive.Trajectory.Bookkeeping
import MotorDrive.Trajectory.Fifo
import MotorDrive.Trajectory.Ticks
import MotorDrive.Trajectory.Restabilize
import MotorDrive.Trajectory.Settling
import MotorDrive.Control.Mailbox
import MotorDrive.Control.Commands
import MotorDrive.Control.Cycle
import MotorDrive.Control.Run
import MotorDrive.Control.Joints
import MotorDrive.Control.Valid
import MotorDrive.Control.Follow
import MotorDrive.Control.Hold
import MotorDrive.Control.Envelope
import MotorDrive.Control.Degraded
import MotorDrive.Control.Tracking
import MotorDrive.Control.Reference
import MotorDrive.Control.Torque
import MotorDrive.Control.Gravity
import MotorDrive.Control.Gripper
import MotorDrive.Control.GripperPosition
import MotorDrive.Control.Retreat
import MotorDrive.Control.Product
import MotorDrive.Control.Coherence
import MotorDrive.Damiao.Protocol
import MotorDrive.Damiao.Codec
import MotorDrive.Damiao.Registers
import MotorDrive.Damiao.Traffic
import MotorDrive.Damiao.Write
import MotorDrive.Damiao.Mode
import MotorDrive.Damiao.Controller
import MotorDrive.Damiao.Feedback
import MotorDrive.Damiao.Filter
import MotorDrive.Damiao.Bulk
import MotorDrive.Damiao.Report
import MotorDrive.Damiao.Discovery
import MotorDrive.Damiao.Presence
import MotorDrive.Damiao.Routing
import MotorDrive.Damiao.Accounting
import MotorDrive.Damiao.Group
import MotorDrive.Damiao.Dispatch
import MotorDrive.Damiao.Socket
import MotorDrive.Cartesian.Continuity
import MotorDrive.Cartesian.Arc
import MotorDrive.Cartesian.Rotation
import MotorDrive.Cartesian.InverseKinematics
import MotorDrive.Cartesian.Timing
import MotorDrive.Cartesian.Piecewise
import MotorDrive.Cartesian.Pose
import MotorDrive.Cartesian.Schedule
import MotorDrive.Cartesian.Planner
import MotorDrive.Trajectory.Acceptance
import MotorDrive.Cartesian.Planned
import MotorDrive.Cartesian.Accepted
