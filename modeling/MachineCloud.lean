import MachineCloud.Number.Shortest
import MachineCloud.Text.Blank
import MachineCloud.Text.Digit
import MachineCloud.Text.Printable
import MachineCloud.Text.Quoted
import MachineCloud.Text.Base64
import MachineCloud.Text.Percent
import MachineCloud.Number.Numeral
import MachineCloud.Value
import MachineCloud.Json.Reader
import MachineCloud.Json.Writer
import MachineCloud.Failure.Chain
import MachineCloud.World
import MachineCloud.Server
import MachineCloud.Server.Sharing
import MachineCloud.Settings.Logging
import MachineCloud.Account.PrivateKey
import MachineCloud.Account.Key
import MachineCloud.Api
import MachineCloud.Client.Registry
import MachineCloud.Machine.Lookup
import MachineCloud.Machine.Addresses
import MachineCloud.Secret.Loader
import MachineCloud.Listing
import MachineCloud.Command.Run
import MachineCloud.Main
import MachineCloud.Proofs.KeyFlow.Exchange
import MachineCloud.Proofs.Number.Exact
import MachineCloud.Proofs.KeyFlow.Expiry
import MachineCloud.Proofs.KeyFlow.Run
import MachineCloud.Proofs.KeyFlow.History
import MachineCloud.Proofs.KeyFlow.Atomicity
import MachineCloud.Proofs.KeyFlow.Lifetime
import MachineCloud.Proofs.Api.Sending
import MachineCloud.Proofs.Machine.Deletion
import MachineCloud.Proofs.Machine.Backend
import MachineCloud.Proofs.Machine.Reconciliation
import MachineCloud.Proofs.Api.Operation
import MachineCloud.Proofs.Api.Status
import MachineCloud.Proofs.Machine.Preservation
import MachineCloud.Proofs.Text.Utf8
import MachineCloud.Proofs.World.Confined
import MachineCloud.Proofs.Client.Conduct
import MachineCloud.Proofs.Client.Opening
import MachineCloud.Proofs.Text.Base64
import MachineCloud.Proofs.Text.Percent
import MachineCloud.Proofs.Secret.Encoding
import MachineCloud.Proofs.Value.Equality
import MachineCloud.Proofs.Server.Spec
import MachineCloud.Proofs.Interspersed
import MachineCloud.Proofs.Lists
import MachineCloud.Proofs.Server.Payload
import MachineCloud.Proofs.Server.Labels
import MachineCloud.Proofs.Api.Address
import MachineCloud.Proofs.Api.Typed
import MachineCloud.Proofs.Api.RoundTrip
import MachineCloud.Proofs.Command.Stages
import MachineCloud.Proofs.Command.Sessions
import MachineCloud.Proofs.Command.Ending
import MachineCloud.Proofs.Settings.EnvFile
import MachineCloud.Proofs.Command.Grammar
import MachineCloud.Proofs.Command.EnvironmentFile
import MachineCloud.Proofs.Failure.Walk
import MachineCloud.Proofs.Machine.Calls
import MachineCloud.Proofs.Machine.Restriction
import MachineCloud.Proofs.Secret.Validity
import MachineCloud.Proofs.Secret.Reporting
import MachineCloud.Proofs.Secret.UserData
import MachineCloud.Proofs.Client.Selector
import MachineCloud.Proofs.Command.Precedence
import MachineCloud.Proofs.Account.Parsing
import MachineCloud.Proofs.Json.Printing
import MachineCloud.Proofs.Account.Acceptance
import MachineCloud.Proofs.Account.Assertion
import MachineCloud.Proofs.Listing.Json
import MachineCloud.Proofs.Listing.Servers
