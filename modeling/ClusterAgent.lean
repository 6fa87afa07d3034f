import ClusterAgent.Main
import ClusterAgent.Net.Address
import ClusterAgent.Net.Literal
import ClusterAgent.Net.Url
import ClusterAgent.Numeric.Binary64
import ClusterAgent.Peer.Basic
import ClusterAgent.Peer.Handler
import ClusterAgent.Peer.Pool
import ClusterAgent.Proofs.Aliases
import ClusterAgent.Proofs.Announce
import ClusterAgent.Proofs.AsciiText
import ClusterAgent.Proofs.Batches
import ClusterAgent.Proofs.BodyLimit
import ClusterAgent.Proofs.Draining
import ClusterAgent.Proofs.ExclusionQueries
import ClusterAgent.Proofs.FirstConnection
import ClusterAgent.Proofs.FormBody
import ClusterAgent.Proofs.Health
import ClusterAgent.Proofs.HostContexts
import ClusterAgent.Proofs.InfoAnswer
import ClusterAgent.Proofs.InfoErrors
import ClusterAgent.Proofs.InfoFields
import ClusterAgent.Proofs.InfoLines
import ClusterAgent.Proofs.InfoRun
import ClusterAgent.Proofs.ProxyListChange
import ClusterAgent.Proofs.ReaderTermination
import ClusterAgent.Proofs.RefusedSync
import ClusterAgent.Proofs.Reset
import ClusterAgent.Proofs.ResponseStream
import ClusterAgent.Proofs.Sending
import ClusterAgent.Proofs.Staging
import ClusterAgent.Proofs.StateChanges
import ClusterAgent.Proofs.StatusPass
import ClusterAgent.Proofs.SyncChanges
import ClusterAgent.Proofs.SyncRebuild
import ClusterAgent.Proofs.TopologyInvariant
import ClusterAgent.Proofs.Utf8
import ClusterAgent.Proofs.Withheld
import ClusterAgent.Proofs.WriteRetry
import ClusterAgent.Protocol.Command
import ClusterAgent.Protocol.FormEncoding
import ClusterAgent.Protocol.Inventory
import ClusterAgent.Protocol.NodeSettings
import ClusterAgent.Protocol.Replies
import ClusterAgent.Protocol.Request
import ClusterAgent.Protocol.Requests
import ClusterAgent.Reconcile
import ClusterAgent.Service.Basic
import ClusterAgent.Service.Scripted
import ClusterAgent.Settings.Config
import ClusterAgent.Settings.Duration
import ClusterAgent.Settings.LogLevel
import ClusterAgent.Settings.ProxyList
import ClusterAgent.Settings.Schedule
import ClusterAgent.Settings.Zones
import ClusterAgent.Text.Blank
import ClusterAgent.Text.Bytes
import ClusterAgent.Text.Capitals
import ClusterAgent.Text.Numeral
import ClusterAgent.Text.Printable
import ClusterAgent.Text.Quoted
import ClusterAgent.Topology.Basic
import ClusterAgent.Topology.Exclusions
import ClusterAgent.Topology.Sync
import ClusterAgent.Wire.Response
import ClusterAgent.Yaml.Compose
import ClusterAgent.Yaml.Decode
import ClusterAgent.Yaml.Parser
import ClusterAgent.Yaml.Reader
import ClusterAgent.Yaml.Resolve
import ClusterAgent.Yaml.Scanner
