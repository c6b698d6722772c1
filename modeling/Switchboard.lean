import Switchboard.Definition.SessionId
import Switchboard.Http.Service
import Switchboard.Json.Printer
import Switchboard.Net.Connection
import Switchboard.Proofs.Admin.Effect
import Switchboard.Proofs.AllOrNothing
import Switchboard.Proofs.BoundSessions
import Switchboard.Proofs.DefaultNames
import Switchboard.Proofs.Definition.RoundTrip
import Switchboard.Proofs.Delegation
import Switchboard.Proofs.EndpointHealth
import Switchboard.Proofs.EntryEdits
import Switchboard.Proofs.Failover
import Switchboard.Proofs.FirstMatch
import Switchboard.Proofs.Forwarding
import Switchboard.Proofs.HitCounts
import Switchboard.Proofs.InlineRoutes
import Switchboard.Proofs.Json.Removal
import Switchboard.Proofs.Lifecycle
import Switchboard.Proofs.ListenerAccounting
import Switchboard.Proofs.LiveTable
import Switchboard.Proofs.LoadOrder
import Switchboard.Proofs.Locality
import Switchboard.Proofs.MetadataPaths
import Switchboard.Proofs.Names
import Switchboard.Proofs.Net.Address
import Switchboard.Proofs.Predicate.Places
import Switchboard.Proofs.Predicate.Rearrangement
import Switchboard.Proofs.Predicate.WholeNumbers
import Switchboard.Proofs.Proxy.Acts
import Switchboard.Proofs.Proxy.Ownership
import Switchboard.Proofs.Proxy.Refinement
import Switchboard.Proofs.Proxy.Streams
import Switchboard.Proofs.Proxy.Teardown
import Switchboard.Proofs.Proxy.Traffic
import Switchboard.Proofs.Proxy.Turn
import Switchboard.Proofs.PutBack
import Switchboard.Proofs.Reconnects
import Switchboard.Proofs.References
import Switchboard.Proofs.RoundRobin
import Switchboard.Proofs.Routing.Applied
import Switchboard.Proofs.Session.Attempts
import Switchboard.Proofs.Session.Episode
import Switchboard.Proofs.SessionIds
import Switchboard.Proofs.SessionNames
import Switchboard.Proofs.StreamHolding
import Switchboard.Proofs.Strictness
import Switchboard.Proxy.Run
