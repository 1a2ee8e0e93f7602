import ClusterPower.Binary64
import ClusterPower.Bmc.Gateway
import ClusterPower.Bmc.Network
import ClusterPower.Bmc.Refusal
import ClusterPower.Campaign.Admission
import ClusterPower.Campaign.Course
import ClusterPower.Cap.Error
import ClusterPower.Cap.Groups
import ClusterPower.Cap.Reading
import ClusterPower.Cap.Request
import ClusterPower.Cap.Rollout
import ClusterPower.Command
import ClusterPower.CommandLine.Invocation
import ClusterPower.CommandLine.Reading
import ClusterPower.CommandLine.Service
import ClusterPower.CommandLine.Session
import ClusterPower.Conversation
import ClusterPower.Coupling
import ClusterPower.FanOut
import ClusterPower.Http.Address
import ClusterPower.Http.Certificate
import ClusterPower.Http.CertificateBundle
import ClusterPower.Http.Exchange
import ClusterPower.Http.IpAddress
import ClusterPower.Http.RequestUri
import ClusterPower.Http.SocketAddress
import ClusterPower.Http.Status
import ClusterPower.Inventory
import ClusterPower.Job
import ClusterPower.Json.Basic
import ClusterPower.Json.Reader
import ClusterPower.Json.Record
import ClusterPower.Json.Token
import ClusterPower.Json.Writer
import ClusterPower.Main
import ClusterPower.Outcome
import ClusterPower.Path
import ClusterPower.Pool.Basic
import ClusterPower.Pool.Settle
import ClusterPower.Redfish.Power
import ClusterPower.Redfish.Request
import ClusterPower.Redfish.Resource
import ClusterPower.Service.Routes
import ClusterPower.Settings.Basic
import ClusterPower.Settings.Document
import ClusterPower.Settings.Json
import ClusterPower.StateReport
import ClusterPower.Table
import ClusterPower.Target.Basic
import ClusterPower.Target.Description
import ClusterPower.Target.Json
import ClusterPower.Text.Base64
import ClusterPower.Text.Blank
import ClusterPower.Text.Cased
import ClusterPower.Text.Concealed
import ClusterPower.Text.Integer
import ClusterPower.Text.LowerCase
import ClusterPower.Text.Quoted
import ClusterPower.Text.Ranges
import ClusterPower.Text.Reader
import ClusterPower.Text.Search
import ClusterPower.Text.Utf8
import ClusterPower.Toml.Document
import ClusterPower.Toml.Layout
import ClusterPower.Toml.Number
import ClusterPower.Toml.Text
import ClusterPower.Toml.Tree
import ClusterPower.Transition
import ClusterPower.Word
import ClusterPower.Xname
import ClusterPower.Proofs.Bmc.OwnTarget
import ClusterPower.Proofs.Pool.Operation
import ClusterPower.Proofs.Pool.Turn
import ClusterPower.Proofs.FanOut.Ledger
import ClusterPower.Proofs.FanOut.Orderly
import ClusterPower.Proofs.FanOut.Submission
import ClusterPower.Proofs.Pool.Rest
import ClusterPower.Proofs.FanOut.Rest
import ClusterPower.Proofs.FanOut.Delivery
import ClusterPower.Proofs.Campaign.Runs
import ClusterPower.Proofs.Coupling
import ClusterPower.Proofs.Campaign.Sequence
import ClusterPower.Proofs.Campaign.Refusal
import ClusterPower.Proofs.FanOut.Answer
import ClusterPower.Proofs.Xname
import ClusterPower.Proofs.Coupling.Arrangement
import ClusterPower.Proofs.FanOut.Dialogue
import ClusterPower.Proofs.Bmc.Confirmation
import ClusterPower.Proofs.Campaign.Lines
import ClusterPower.Proofs.Campaign.Rounds
import ClusterPower.Proofs.Campaign.Stages
import ClusterPower.Proofs.Campaign.Precedence
import ClusterPower.Proofs.Campaign.Restart
import ClusterPower.Proofs.Campaign.Success
import ClusterPower.Proofs.Cap.Carriage
import ClusterPower.Proofs.Bmc.Exchange
import ClusterPower.Proofs.Bmc.Conclusions
import ClusterPower.Proofs.ResetToken
import ClusterPower.Proofs.Bmc.PowerChange
import ClusterPower.Proofs.Bmc.CapChange
import ClusterPower.Proofs.Coupling.Separation
import ClusterPower.Proofs.Campaign.Stops
import ClusterPower.Proofs.Campaign.PowerDown
import ClusterPower.Proofs.Bmc.Simulation
import ClusterPower.Proofs.Campaign.Simulation
import ClusterPower.Proofs.Bmc.LastAnswer
import ClusterPower.Proofs.Pool.Acceptance
import ClusterPower.Proofs.Pool.Running
import ClusterPower.Proofs.FanOut.Progress
import ClusterPower.Proofs.Replies
import ClusterPower.Proofs.FanOut.Exchanges
import ClusterPower.Proofs.Campaign.Replies
import ClusterPower.Proofs.Campaign.Confluence
import ClusterPower.Proofs.Campaign.BlockedRoles
import ClusterPower.Proofs.Bmc.PowerButton
import ClusterPower.Proofs.Bmc.ClientLock
import ClusterPower.Proofs.Bmc.Errand
import ClusterPower.Proofs.Bmc.ClientUse
import ClusterPower.Proofs.Coupling.Stability
import ClusterPower.Proofs.Twins
import ClusterPower.Proofs.Bmc.Password
import ClusterPower.Proofs.Cap.Namesakes
import ClusterPower.Proofs.Json.RoundTrip
import ClusterPower.Proofs.Json.Records
import ClusterPower.Proofs.Redfish.RoundTrip
import ClusterPower.Proofs.Target.RoundTrip
import ClusterPower.Proofs.Json.Equality
import ClusterPower.Proofs.Documents
import ClusterPower.Proofs.Coupling.Fewest
import ClusterPower.Proofs.Bmc.Polling
import ClusterPower.Proofs.Campaign.Waits
import ClusterPower.Proofs.Campaign.Tally
import ClusterPower.Proofs.Campaign.LastPoll
import ClusterPower.Proofs.Campaign.RoundRecords
import ClusterPower.Proofs.Campaign.Unarranged
import ClusterPower.Proofs.Cap.Order
import ClusterPower.Proofs.Cap.Commands
import ClusterPower.Proofs.Json.Literals
import ClusterPower.Proofs.Json.Written
import ClusterPower.Proofs.Cap.ReadBack
import ClusterPower.Proofs.Campaign.Limits
import ClusterPower.Proofs.Campaign.Repetition
import ClusterPower.Proofs.Sorting
import ClusterPower.Proofs.Cap.Decoding
import ClusterPower.Proofs.Cap.Resources
import ClusterPower.Proofs.Cap.Grouping
import ClusterPower.Proofs.Cap.HostBounds
import ClusterPower.Proofs.StateReport
import ClusterPower.Proofs.Settings.GivenRules
import ClusterPower.Proofs.Bmc.Reasons
import ClusterPower.Proofs.Json.Members
import ClusterPower.Proofs.Bmc.MediaType
import ClusterPower.Proofs.Bmc.Refusals
import ClusterPower.Proofs.Pool.Offers
import ClusterPower.Proofs.Xname.Grammar
import ClusterPower.Proofs.Path
import ClusterPower.Proofs.Cap.Collections
