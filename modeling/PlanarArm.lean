import PlanarArm.Arm.Error
import PlanarArm.Arm.Joint
import PlanarArm.Arm.Kinematics
import PlanarArm.Arm.Model
import PlanarArm.Arm.Point
import PlanarArm.Command.Basic
import PlanarArm.Command.Completion
import PlanarArm.Command.Id
import PlanarArm.Command.Line
import PlanarArm.Command.Queue
import PlanarArm.Command.Record
import PlanarArm.Command.Schema
import PlanarArm.Command.Timestamp
import PlanarArm.Command.Wire
import PlanarArm.Console.Launch
import PlanarArm.Console.Shell
import PlanarArm.Decimal.Binary64
import PlanarArm.Decimal.Fixed
import PlanarArm.Decimal.Reader
import PlanarArm.Decimal.Rounding
import PlanarArm.Decimal.Shortest
import PlanarArm.Json.Basic
import PlanarArm.Json.Reader
import PlanarArm.Json.Record
import PlanarArm.Json.Token
import PlanarArm.Json.Wanted
import PlanarArm.Json.Writer
import PlanarArm.Main
import PlanarArm.Motion
import PlanarArm.Scalar.Basic
import PlanarArm.Scalar.Binary64
import PlanarArm.Scalar.Root
import PlanarArm.Proofs.Simulator.History
import PlanarArm.Proofs.Simulator.Issues
import PlanarArm.Proofs.Simulator.Steps
import PlanarArm.Script.Outcome
import PlanarArm.Script.Run
import PlanarArm.Script.Statement
import PlanarArm.Session.Agent
import PlanarArm.Session.Basic
import PlanarArm.Session.Bench
import PlanarArm.Session.Broadcast
import PlanarArm.Session.Correlation
import PlanarArm.Session.FrameClock
import PlanarArm.Session.FrameInterval
import PlanarArm.Session.Listening
import PlanarArm.Session.World
import PlanarArm.Settings.Basic
import PlanarArm.Settings.LogFormat
import PlanarArm.Simulator.Basic
import PlanarArm.Simulator.Running
import PlanarArm.Simulator.Snapshot
import PlanarArm.Text.Blank
import PlanarArm.Text.Calendar
import PlanarArm.Text.Lines
import PlanarArm.Toml.Basic
import PlanarArm.Toml.Lexical
import PlanarArm.Toml.Reader
import PlanarArm.Toolpath.Basic
import PlanarArm.Toolpath.Shared
import PlanarArm.Proofs.Simulator.Order
import PlanarArm.Proofs.Command.SubId
import PlanarArm.Proofs.Simulator.Outstanding
import PlanarArm.Proofs.Session.Journal
import PlanarArm.Proofs.Session.Tally
import PlanarArm.Proofs.Session.Balance
import PlanarArm.Proofs.Session.Answers
import PlanarArm.Proofs.Session.Receipts
import PlanarArm.Proofs.Session.Course
import PlanarArm.Proofs.Session.Once
import PlanarArm.Proofs.Motion
import PlanarArm.Proofs.Simulator.Progress
import PlanarArm.Proofs.Scalar.Finite
import PlanarArm.Proofs.Arm.Model
import PlanarArm.Proofs.Arm.Direction
import PlanarArm.Proofs.Arm.Inverse
import PlanarArm.Proofs.Arm.Return
import PlanarArm.Proofs.Simulator.Running
import PlanarArm.Proofs.Simulator.Ranges
import PlanarArm.Proofs.Simulator.Truth
import PlanarArm.Proofs.Simulator.Rest
import PlanarArm.Proofs.Simulator.Pace
import PlanarArm.Proofs.Session.Snapshots
import PlanarArm.Proofs.Session.Lag
import PlanarArm.Proofs.Simulator.Settled
import PlanarArm.Proofs.Simulator.Waypoints
import PlanarArm.Proofs.Session.Calm
import PlanarArm.Proofs.Session.Scheduled
import PlanarArm.Proofs.Session.Ahead
import PlanarArm.Proofs.Session.OnBench
import PlanarArm.Proofs.Script.OnBench
import PlanarArm.Proofs.Script.Success
import PlanarArm.Proofs.Toolpath.Blocks
import PlanarArm.Proofs.Toolpath.Holders
import PlanarArm.Proofs.Toolpath.Independent
import PlanarArm.Proofs.Toolpath.Sharing
import PlanarArm.Proofs.Simulator.Gap
import PlanarArm.Proofs.Simulator.Draining
import PlanarArm.Proofs.Simulator.Residue
import PlanarArm.Proofs.Simulator.Trace
import PlanarArm.Proofs.Simulator.Verdicts
import PlanarArm.Proofs.Session.Refusal
import PlanarArm.Proofs.Script.Loss
import PlanarArm.Proofs.Scalar.Layout
import PlanarArm.Proofs.Scalar.Reciprocal
import PlanarArm.Proofs.Session.FrameInterval
import PlanarArm.Proofs.Simulator.Beside
import PlanarArm.Proofs.Simulator.Frames
import PlanarArm.Proofs.Scalar.Whole
import PlanarArm.Proofs.Script.StepCount
import PlanarArm.Proofs.Script.Grammar
import PlanarArm.Proofs.Json.OneLine
import PlanarArm.Proofs.Script.InOrder
import PlanarArm.Proofs.Session.Awaits
import PlanarArm.Proofs.Motion.Time
import PlanarArm.Proofs.Command.Message
import PlanarArm.Proofs.Session.Ring
import PlanarArm.Proofs.Session.Hearing
import PlanarArm.Proofs.Session.Listening
import PlanarArm.Proofs.Simulator.TakingUp
import PlanarArm.Proofs.Simulator.StartLoop
import PlanarArm.Proofs.Session.FrameClock
import PlanarArm.Proofs.Session.FrameTime
import PlanarArm.Proofs.Session.TakingUp
import PlanarArm.Proofs.Session.Sleep
