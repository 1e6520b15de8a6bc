import InjectingProxy.App.Task
import InjectingProxy.Main
import InjectingProxy.Proofs.Gate
import InjectingProxy.Proofs.InjectedError
import InjectingProxy.Proofs.Metrics.Ledger
import InjectingProxy.Proofs.App.Schedule
import InjectingProxy.Proofs.App.Interleaving
import InjectingProxy.Proofs.App.Forwarding
import InjectingProxy.Proofs.App.Target
import InjectingProxy.Proofs.App.Isolation
import InjectingProxy.Proofs.App.Location
import InjectingProxy.Proofs.Url.Build
import InjectingProxy.Proofs.Relay
import InjectingProxy.Proofs.Streaming
import InjectingProxy.Proofs.Release
import InjectingProxy.Proofs.Url.Host
import InjectingProxy.Proofs.App.Headers
import InjectingProxy.Proofs.Url.Idna
import InjectingProxy.Proofs.Number.Reading
import InjectingProxy.Proofs.Url.Reading
import InjectingProxy.Proofs.Url.Destination
import InjectingProxy.Proofs.Url.Redirect
import InjectingProxy.Proofs.Redirect
import InjectingProxy.Proofs.WellFormed
import InjectingProxy.Proofs.App.Address
import InjectingProxy.Proofs.App.Announcement
import InjectingProxy.Proofs.App.Balance
import InjectingProxy.Proofs.CommandLine.Arguments
import InjectingProxy.Proofs.CommandLine.Launch
import InjectingProxy.Proofs.Refusal
import InjectingProxy.Proofs.Url.Parameters
import InjectingProxy.Proofs.Server.Calls
import InjectingProxy.Proofs.Server.Deadline
import InjectingProxy.Proofs.Url.Asked
import InjectingProxy.Proofs.Metrics.History
import InjectingProxy.Proofs.Config.Backend
import InjectingProxy.Proofs.Gate.Turns
import InjectingProxy.Proofs.Config.Validation
import InjectingProxy.Proofs.CommandLine.Choices
