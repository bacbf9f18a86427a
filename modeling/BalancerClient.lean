import BalancerClient.Catalog.Column
import BalancerClient.Catalog.Functions
import BalancerClient.Catalog.Listeners
import BalancerClient.Catalog.LoadBalancers
import BalancerClient.Catalog.Operations
import BalancerClient.Catalog.Regions
import BalancerClient.Catalog.ServerGroups
import BalancerClient.Catalog.Shared
import BalancerClient.Catalog.Tags
import BalancerClient.Catalog.Types
import BalancerClient.Catalog.Values
import BalancerClient.Client.Connection
import BalancerClient.Client.Options
import BalancerClient.Client.Response
import BalancerClient.Client.Settings
import BalancerClient.Client.Signing
import BalancerClient.Client.UserAgent
import BalancerClient.Echo.Server
import BalancerClient.Exchange.Attempt
import BalancerClient.Exchange.Execute
import BalancerClient.Exchange.Network
import BalancerClient.Exchange.Reply
import BalancerClient.Exchange.Trace
import BalancerClient.Failure.CredentialsError
import BalancerClient.Failure.Error
import BalancerClient.Failure.Layout
import BalancerClient.Failure.Payload
import BalancerClient.Failure.Record
import BalancerClient.Failure.Status
import BalancerClient.Http.Address
import BalancerClient.Http.Domain
import BalancerClient.Http.Form
import BalancerClient.Http.Headers
import BalancerClient.Http.Host
import BalancerClient.Http.Message
import BalancerClient.Http.Percent
import BalancerClient.Http.Url
import BalancerClient.Http.Written
import BalancerClient.Json.Basic
import BalancerClient.Json.Decode
import BalancerClient.Json.Parser
import BalancerClient.Json.Printer
import BalancerClient.Json.Skip
import BalancerClient.Json.Text
import BalancerClient.Message.Constraints
import BalancerClient.Message.Decode
import BalancerClient.Message.Encode
import BalancerClient.Message.Shape
import BalancerClient.Message.Update
import BalancerClient.Number.Binary64
import BalancerClient.Number.Shortest
import BalancerClient.Operation.Descriptor
import BalancerClient.Request.Flatten
import BalancerClient.Request.Parameters
import BalancerClient.Request.Wire
import BalancerClient.Session.Call
import BalancerClient.Session.Client
import BalancerClient.Session.Stub
import BalancerClient.Session.Trail
import BalancerClient.Session.Transport
import BalancerClient.Text.Base64
import BalancerClient.Text.Hex
import BalancerClient.Text.Hidden
import BalancerClient.Text.Lenient
import BalancerClient.Text.Pieces
import BalancerClient.Text.Punycode
import BalancerClient.Text.Quoted
import BalancerClient.Text.Utf8
import BalancerClient.Validation.Check
import BalancerClient.Validation.Validator
import BalancerClient.Validation.Violation
import BalancerClient.Proofs.Client.Region
import BalancerClient.Proofs.Client.Resolution
import BalancerClient.Proofs.Echo.Account
import BalancerClient.Proofs.Exchange.Carried
import BalancerClient.Proofs.Exchange.Merging
import BalancerClient.Proofs.Exchange.Onward
import BalancerClient.Proofs.Exchange.Outcome
import BalancerClient.Proofs.Exchange.Precedence
import BalancerClient.Proofs.Failure.Classes
import BalancerClient.Proofs.Failure.Members
import BalancerClient.Proofs.Failure.Recognition
import BalancerClient.Proofs.Failure.RoundTrip
import BalancerClient.Proofs.Http.Authority
import BalancerClient.Proofs.Http.Origin
import BalancerClient.Proofs.Http.Path
import BalancerClient.Proofs.Http.Target
import BalancerClient.Proofs.Json.Numbers
import BalancerClient.Proofs.Json.Octets
import BalancerClient.Proofs.Json.Reading
import BalancerClient.Proofs.Json.RoundTrip
import BalancerClient.Proofs.Json.Skipping
import BalancerClient.Proofs.Json.Strings
import BalancerClient.Proofs.Json.Tokens
import BalancerClient.Proofs.Json.WellFormed
import BalancerClient.Proofs.Message.Catalog
import BalancerClient.Proofs.Message.Conformance
import BalancerClient.Proofs.Message.Encode
import BalancerClient.Proofs.Message.Labels
import BalancerClient.Proofs.Message.Parts
import BalancerClient.Proofs.Message.RoundTrip
import BalancerClient.Proofs.Message.Scalars
import BalancerClient.Proofs.Message.Settings
import BalancerClient.Proofs.Message.Slots
import BalancerClient.Proofs.Request.Fields
import BalancerClient.Proofs.Request.Frame
import BalancerClient.Proofs.Request.Leaves
import BalancerClient.Proofs.Request.Names
import BalancerClient.Proofs.Request.Normal
import BalancerClient.Proofs.Request.Numbering
import BalancerClient.Proofs.Request.Overlay
import BalancerClient.Proofs.Request.Packing
import BalancerClient.Proofs.Request.Parameters
import BalancerClient.Proofs.Request.Presence
import BalancerClient.Proofs.Request.Sources
import BalancerClient.Proofs.Request.Violations
import BalancerClient.Proofs.Session.Dispatch
import BalancerClient.Proofs.Session.Ledger
import BalancerClient.Proofs.Session.Sendable
import BalancerClient.Proofs.Validation.Constraints
import BalancerClient.Proofs.Validation.Findings
import BalancerClient.Proofs.Validation.Gathering
import BalancerClient.Proofs.Validation.Positions
