import PodReach.Calendar.Date
import PodReach.Calendar.Iso
import PodReach.Calendar.Moment
import PodReach.Client
import PodReach.Client.Exchange
import PodReach.Command.Container
import PodReach.Command.Forward
import PodReach.Command.Pods
import PodReach.Command.Selection
import PodReach.Command.Target
import PodReach.CommandLine.Parameter
import PodReach.CommandLine.Task
import PodReach.CommandLine.Usage
import PodReach.Config.Basic
import PodReach.Config.Files
import PodReach.Discovery.Collect
import PodReach.Discovery.Resolve
import PodReach.Discovery.Wait
import PodReach.Fault
import PodReach.Forward.Listener
import PodReach.Forward.Port
import PodReach.Forward.Relay
import PodReach.Forward.Run
import PodReach.Http.Request
import PodReach.Http.Url
import PodReach.Instant
import PodReach.Journal
import PodReach.Json.Reader
import PodReach.Json.Value
import PodReach.Json.Writer
import PodReach.Kubeconfig.Attachment
import PodReach.Kubeconfig.Basic
import PodReach.Kubeconfig.Credentials
import PodReach.Kubeconfig.Expiry
import PodReach.Kubeconfig.Part
import PodReach.Kubeconfig.Plugin
import PodReach.Kubeconfig.Provider
import PodReach.Kubeconfig.Token
import PodReach.LogFile
import PodReach.Main
import PodReach.Mistake
import PodReach.Net.Address
import PodReach.Number.Decimal
import PodReach.Number.Double
import PodReach.Pod.Basic
import PodReach.Pod.Display
import PodReach.Pod.Reading
import PodReach.Pod.Status
import PodReach.Program.Menu
import PodReach.Program.Run
import PodReach.Program.Settings
import PodReach.Selector
import PodReach.Session.Attach
import PodReach.Session.ExitStatus
import PodReach.Session.LogLines
import PodReach.Session.Relay
import PodReach.Setup
import PodReach.Text.Base64
import PodReach.Text.Blank
import PodReach.Text.Digit
import PodReach.Text.Hex
import PodReach.Text.Integer
import PodReach.Text.Percent
import PodReach.Text.Printable
import PodReach.Text.Quoted
import PodReach.Text.Similarity
import PodReach.Text.Surrogate
import PodReach.Text.Utf8
import PodReach.World.Api
import PodReach.World.Basic
import PodReach.World.Effects
import PodReach.World.Path
import PodReach.Yaml.Assembly
import PodReach.Yaml.Cursor
import PodReach.Yaml.Defect
import PodReach.Yaml.Kind
import PodReach.Yaml.Node
import PodReach.Yaml.Parts
import PodReach.Yaml.Reader
import PodReach.Yaml.Scalar.Block
import PodReach.Yaml.Scalar.Plain
import PodReach.Yaml.Scalar.Quoted
import PodReach.Yaml.Scalar.Reading
import PodReach.Yaml.Scalar.Timestamp
import PodReach.Yaml.Token
import PodReach.Yaml.Token.Name
import PodReach.Yaml.Token.Stream
import PodReach.Yaml.Value
import PodReach.Yaml.Writer
import PodReach.Proofs.Number.Counting
import PodReach.Proofs.World.Steps
import PodReach.Proofs.Discovery.Newest
import PodReach.Proofs.Discovery.Polling
import PodReach.Proofs.Discovery.NewestSearch
import PodReach.Proofs.Discovery.RunningSearch
import PodReach.Proofs.Discovery.Resolution
import PodReach.Proofs.Text.Utf8
import PodReach.Proofs.Session.LogLines
import PodReach.Proofs.Session.Iteration
import PodReach.Proofs.Session.LocalInput
import PodReach.Proofs.Session.Output
import PodReach.Proofs.Session.Ending
import PodReach.Proofs.Command.GoingBack
import PodReach.Proofs.Discovery.Bystanders
import PodReach.Proofs.World.Sockets
import PodReach.Proofs.Forward.Listening
import PodReach.Proofs.Forward.Outcome
import PodReach.Proofs.World.Calls
import PodReach.Proofs.World.Quiet
import PodReach.Proofs.World.Conduct
import PodReach.Proofs.Program.Quiet
import PodReach.Proofs.Setup.Conduct
import PodReach.Proofs.Program.Conduct
import PodReach.Proofs.Forward.Conduct
import PodReach.Proofs.Program.Tasks
import PodReach.Proofs.Program.Confinement
import PodReach.Proofs.Program.Failure
import PodReach.Proofs.Setup.Objects
import PodReach.Proofs.Setup.Readiness
import PodReach.Proofs.Setup.Stages
import PodReach.Proofs.Setup.Clients
import PodReach.Proofs.Setup.Turns
import PodReach.Proofs.Setup.Concurrent
import PodReach.Proofs.Text.Blank
import PodReach.Proofs.Text.Integer
import PodReach.Proofs.Outcome
import PodReach.Proofs.Forward.Port
import PodReach.Proofs.Session.ExitStatus
import PodReach.Proofs.Setup.PullSecrets
import PodReach.Proofs.World.Endurance
import PodReach.Proofs.Forward.Endurance
import PodReach.Proofs.Session.Endurance
import PodReach.Proofs.Command.Endurance
import PodReach.Proofs.Program.Menu
import PodReach.Proofs.Forward.Relay
import PodReach.Proofs.Setup.Deployment
import PodReach.Proofs.Yaml.Keys
import PodReach.Proofs.Config.Merge
import PodReach.Proofs.Config.Loading
import PodReach.Proofs.Config.Wizard
import PodReach.Proofs.Session.Turns
import PodReach.Proofs.Program.ShellFallback
import PodReach.Proofs.Number.Spending
import PodReach.Proofs.Discovery.Endless
import PodReach.Proofs.Yaml.Same
import PodReach.Proofs.Kubeconfig.Merging
import PodReach.Proofs.Kubeconfig.Provider
import PodReach.Proofs.Net.Address
import PodReach.Proofs.Command.Exposure
import PodReach.Proofs.Age
import PodReach.Proofs.Discovery.Collecting
import PodReach.Proofs.Command.Listing
import PodReach.Proofs.Session.Terminal
import PodReach.Proofs.Instant
import PodReach.Proofs.Discovery.Choice
import PodReach.Proofs.Forward.Addresses
