/-
What a session knows at first of the connection it was made for.
-/
import Switchboard.Json.Basic
import Switchboard.Net.Address

namespace Switchboard

/-- An address and a port as they stand in the name of a connection. -/
def SocketAddress.plain (a : SocketAddress) : String := a.ip.render ++ ":" ++ toString a.port

/-- The metadata of a connection that a listener accepted. -/
def connectionMetadata (listener : String) (peer host : SocketAddress) : Json := .ofFields
  [("name", "TCP:" ++ peer.plain ++ "-" ++ host.plain),
    ("listener", listener),
    ("IP", .ofFields [("src_addr", peer.ip.render), ("dst_addr", host.ip.render)]),
    ("TCP", .ofFields [("src_port", .nat peer.port), ("dst_port", .nat host.port)])]

end Switchboard
