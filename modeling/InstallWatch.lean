import InstallWatch.Main
import InstallWatch.Proofs.Rendezvous.Choice
import InstallWatch.Failure
import InstallWatch.Lifetime.Scope
import InstallWatch.Proofs.Command.BadFile
import InstallWatch.Proofs.Command.WaitForApi
import InstallWatch.Proofs.Json.Depth
import InstallWatch.Proofs.Asset.History
import InstallWatch.Proofs.Lifetime.Cancellation
import InstallWatch.Proofs.Lifetime.Registrations
import InstallWatch.Proofs.Rendezvous.Respelling
import InstallWatch.Proofs.Service.Closing
import InstallWatch.Proofs.Service.Reuse
import InstallWatch.Proofs.Service.Connection
import InstallWatch.Proofs.Service.Liveness
import InstallWatch.Proofs.Command.Events
import InstallWatch.Proofs.Service.Overrides
import InstallWatch.Proofs.Service.Destination
import InstallWatch.Proofs.Service.Ending
import InstallWatch.Proofs.Asset.TopLevel
import InstallWatch.Proofs.Asset.Bundle
import InstallWatch.Proofs.Rendezvous.Agreement
import InstallWatch.Proofs.Attempts
import InstallWatch.Proofs.Service.Location
import InstallWatch.Proofs.Service.Identity
import InstallWatch.Proofs.Command.Status
import InstallWatch.Proofs.Journal.Runs
import InstallWatch.Proofs.Environment.Expansion
import InstallWatch.Proofs.Schema.Roundtrip
