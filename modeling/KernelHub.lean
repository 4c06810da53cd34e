import KernelHub.Calendar
import KernelHub.Catalog
import KernelHub.Config
import KernelHub.Config.File
import KernelHub.Double
import KernelHub.Double.Shortest
import KernelHub.Entries
import KernelHub.Gateway.Channel
import KernelHub.Gateway.Client
import KernelHub.Gateway.Config
import KernelHub.Gateway.Headers
import KernelHub.Hex
import KernelHub.Host
import KernelHub.HostError
import KernelHub.Hub
import KernelHub.Hub.Call
import KernelHub.Hub.Work
import KernelHub.Ids
import KernelHub.Ids.Wire
import KernelHub.Instant
import KernelHub.Instant.Reader
import KernelHub.Json
import KernelHub.Json.Document
import KernelHub.Json.Printer
import KernelHub.Json.Reader
import KernelHub.Json.Record
import KernelHub.KernelError
import KernelHub.Memory.Host
import KernelHub.Memory.Kernel
import KernelHub.Message
import KernelHub.Model
import KernelHub.Proofs.Bridge
import KernelHub.Proofs.Coherence
import KernelHub.Proofs.Course
import KernelHub.Proofs.Course.Phases
import KernelHub.Proofs.Course.Steady
import KernelHub.Proofs.Entries
import KernelHub.Proofs.Hosted
import KernelHub.Proofs.Hosted.Accounts
import KernelHub.Proofs.Hosted.Arrivals
import KernelHub.Proofs.Hosted.Exact
import KernelHub.Proofs.Hosted.Losses
import KernelHub.Proofs.Hosted.Overlaps
import KernelHub.Proofs.Hosted.Serial
import KernelHub.Proofs.Hosted.Standing
import KernelHub.Proofs.Ledger
import KernelHub.Proofs.Ledger.Mirror
import KernelHub.Proofs.Ledger.Sequence
import KernelHub.Proofs.Ledger.Simulation
import KernelHub.Proofs.Memory
import KernelHub.Proofs.Memory.Busy
import KernelHub.Proofs.Progress
import KernelHub.Proofs.Relay
import KernelHub.Proofs.Relay.Closing
import KernelHub.Proofs.Solo
import KernelHub.Proofs.Table
import KernelHub.Proofs.Traffic
import KernelHub.Proofs.Traffic.Bindings
import KernelHub.Proofs.Traffic.Guards
import KernelHub.Proofs.Traffic.Issue
import KernelHub.Proofs.Traffic.Owners
import KernelHub.Proofs.Traffic.Places
import KernelHub.Proofs.Traffic.Shift
import KernelHub.Proofs.Traffic.Threads
import KernelHub.Proofs.Uuid
import KernelHub.Proofs.Work
import KernelHub.Session
import KernelHub.Simulation.Files
import KernelHub.Simulation.Stage
import KernelHub.Simulation.Tap
import KernelHub.Simulation.Task
import KernelHub.Simulation.World
import KernelHub.Spec
import KernelHub.Table
import KernelHub.Text.Blank
import KernelHub.Text.Packed
import KernelHub.Toml
import KernelHub.Toml.Moment
import KernelHub.Toml.Reader
import KernelHub.Url
import KernelHub.Url.Host
import KernelHub.Url.Idna
import KernelHub.Url.Idna.Composition
import KernelHub.Url.Idna.Direction
import KernelHub.Url.Idna.Joining
import KernelHub.Url.Idna.Mapping
import KernelHub.Url.Idna.Spelling
import KernelHub.Url.Percent
import KernelHub.Url.Punycode
import KernelHub.Url.Reader
import KernelHub.Uuid
import KernelHub.Uuid.Reader
import KernelHub.Proofs.Catalog
import KernelHub.Proofs.Catalog.Merges
import KernelHub.Proofs.Listing
import KernelHub.Proofs.Memory.Bare
import KernelHub.Proofs.Ledger.Jobs
import KernelHub.Proofs.Memory.Stop
import KernelHub.Proofs.Site
import KernelHub.Proofs.Site.Effects
import KernelHub.Proofs.Site.Kernels
import KernelHub.Proofs.Site.Agreement
import KernelHub.Proofs.Site.Indifference
import KernelHub.Proofs.Veil
import KernelHub.Proofs.Veil.Calls
import KernelHub.Proofs.Deeds
import KernelHub.Proofs.Veil.Secrecy
import KernelHub.Proofs.Blame
import KernelHub.Proofs.Url
import KernelHub.Proofs.Gateway.Routes
import KernelHub.Proofs.Json.Numbers
import KernelHub.Proofs.Json.Strings
import KernelHub.Proofs.Json.Doubles
import KernelHub.Proofs.Json.Text
import KernelHub.Proofs.Double
import KernelHub.Proofs.Json
import KernelHub.Proofs.Json.Values
import KernelHub.Proofs.Json.Records
import KernelHub.Proofs.Wire
import KernelHub.Proofs.Calendar
import KernelHub.Proofs.Instant
import KernelHub.Proofs.Model
import KernelHub.Proofs.Gateway.Channels
import KernelHub.Proofs.Url.Parts
import KernelHub.Proofs.Gateway.Addresses
import KernelHub.Proofs.Gateway.Headers
import KernelHub.Proofs.Catalog.Lookup
import KernelHub.Proofs.Missing
import KernelHub.Proofs.Launch
import KernelHub.Proofs.Memory.Dealings
import KernelHub.Proofs.Memory.Lobby
import KernelHub.Proofs.Memory.Echo
import KernelHub.Proofs.Memory.Tally
import KernelHub.Proofs.Ids
import KernelHub.Proofs.Uuid.Order
import KernelHub.Proofs.Gateway.Models
import KernelHub.Proofs.Json.Spelling
import KernelHub.Proofs.Spelling
import KernelHub.Proofs.Clearing
import KernelHub.Proofs.Veil.Renaming
