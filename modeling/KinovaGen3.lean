import KinovaGen3.Arbitration.ControlStatus
import KinovaGen3.Arbitration.Estop
import KinovaGen3.Arbitration.Halts
import KinovaGen3.Arbitration.Releases
import KinovaGen3.Arbitration.Retained
import KinovaGen3.Arbitration.Server
import KinovaGen3.Arbitration.Steps
import KinovaGen3.Backend.Health
import KinovaGen3.Backend.PublishState
import KinovaGen3.Backend.Ros2Backend
import KinovaGen3.Contact.ContactServer
import KinovaGen3.Contact.Servers
import KinovaGen3.Contact.Stop
import KinovaGen3.Contact.Thresholds
import KinovaGen3.Core.Double
import KinovaGen3.Core.Messages
import KinovaGen3.Description.LoadMount
import KinovaGen3.Description.RobotDescription
import KinovaGen3.Description.Yaml
import KinovaGen3.GoTo.Finite
import KinovaGen3.GoTo.Prefixes
import KinovaGen3.GoTo.Presets
import KinovaGen3.GoTo.Requested
import KinovaGen3.GoTo.Servers
import KinovaGen3.GoTo.StartJoints
import KinovaGen3.GoTo.Targets
import KinovaGen3.Library.ActionProtocol
import KinovaGen3.Library.Delivery
import KinovaGen3.Library.Interaction
import KinovaGen3.Library.LatchedTopic
import KinovaGen3.Library.OrderedLog
import KinovaGen3.Library.RaisingSort
import KinovaGen3.Library.Register
import KinovaGen3.Library.RetainedTopic
import KinovaGen3.Library.Run
import KinovaGen3.Library.WrappedCounter
import KinovaGen3.Lifecycle.Authority
import KinovaGen3.Lifecycle.Cancel
import KinovaGen3.Lifecycle.Contact
import KinovaGen3.Lifecycle.Ending
import KinovaGen3.Lifecycle.Executed
import KinovaGen3.Lifecycle.ExecutedTargets
import KinovaGen3.Lifecycle.Feedback
import KinovaGen3.Lifecycle.FeedbackOrder
import KinovaGen3.Lifecycle.FeedbackRelay
import KinovaGen3.Lifecycle.FeedbackSteps
import KinovaGen3.Lifecycle.Goal
import KinovaGen3.Lifecycle.PlannerCancels
import KinovaGen3.Lifecycle.PlanningCancel
import KinovaGen3.Lifecycle.Progress
import KinovaGen3.Lifecycle.Protocol
import KinovaGen3.Lifecycle.Results
import KinovaGen3.Lifecycle.Settlement
import KinovaGen3.Lifecycle.SharedPlanner
import KinovaGen3.Lifecycle.Steps
import KinovaGen3.Lifecycle.Submission
import KinovaGen3.Lifecycle.System
import KinovaGen3.Lifecycle.Transitions
import KinovaGen3.Link.LinkServer
import KinovaGen3.Link.OwnClear
import KinovaGen3.Mapping.Lossless
import KinovaGen3.Mapping.MessageMapping
import KinovaGen3.Mapping.Profiles
import KinovaGen3.Params.Bringup
import KinovaGen3.Params.Contact
import KinovaGen3.Params.Parameters
import KinovaGen3.Params.SpeedScale
import KinovaGen3.Planning.CancelSlot
import KinovaGen3.Planning.PlanLegs
import KinovaGen3.Planning.PlanLegsSpec
import KinovaGen3.Planning.PlannerClient
import KinovaGen3.Safety.Limits
import KinovaGen3.Status.Topics
import KinovaGen3.Streaming.Close
import KinovaGen3.Streaming.Label
import KinovaGen3.Streaming.Session
import KinovaGen3.Streaming.Setpoints
import KinovaGen3.Streaming.StreamServer
