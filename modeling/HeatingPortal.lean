import HeatingPortal.Form.Render
import HeatingPortal.Main
import HeatingPortal.Notice.Announcement
import HeatingPortal.Plant.Bridge
import HeatingPortal.Plant.Override
import HeatingPortal.Proofs.Answers
import HeatingPortal.Proofs.Authorization
import HeatingPortal.Proofs.Contexts
import HeatingPortal.Proofs.Effects
import HeatingPortal.Proofs.Indicator
import HeatingPortal.Proofs.Sessions
import HeatingPortal.Proofs.StandardCallers
import HeatingPortal.Settings.Load
import HeatingPortal.Text.Percent
import HeatingPortal.Web.Session
import HeatingPortal.Proofs.Calls
import HeatingPortal.Proofs.Reach
import HeatingPortal.Proofs.Visibility
import HeatingPortal.Proofs.Integers
import HeatingPortal.Proofs.LoadedSettings
import HeatingPortal.Proofs.Paths
import HeatingPortal.Proofs.Commits
import HeatingPortal.Proofs.WorkingPlant
import HeatingPortal.Proofs.ReadBack
import HeatingPortal.Proofs.Publication
import HeatingPortal.Proofs.Rejections
import HeatingPortal.Proofs.Replay
import HeatingPortal.Proofs.Interleavings
import HeatingPortal.Proofs.Rounding
import HeatingPortal.Proofs.ShortestDecimal
import HeatingPortal.Proofs.JsonText
import HeatingPortal.Proofs.Bridged
import HeatingPortal.Proofs.Overtaking
import HeatingPortal.Proofs.Repetition
import HeatingPortal.Proofs.NodeValues
import HeatingPortal.Proofs.LoadedShapes
import HeatingPortal.Proofs.OneDecimal
import HeatingPortal.Proofs.SentBack
import HeatingPortal.Proofs.Untouched
import HeatingPortal.Proofs.Literals
import HeatingPortal.Proofs.OfferedChoices
import HeatingPortal.Proofs.PlanProtocol
import HeatingPortal.Proofs.ReachablePages
import HeatingPortal.Proofs.NamedCallers
import HeatingPortal.Proofs.NearestDouble
import HeatingPortal.Proofs.PlainDecimals
import HeatingPortal.Proofs.SettledOffset
import HeatingPortal.Proofs.FieldVerdicts
import HeatingPortal.Proofs.ShownAgain
import HeatingPortal.Proofs.Addresses
import HeatingPortal.Proofs.CallLists
import HeatingPortal.Proofs.FirstReadable
import HeatingPortal.Proofs.SensorReadings
import HeatingPortal.Proofs.RetryDelays
import HeatingPortal.Proofs.UnreadBlocks
