/-!
# Config — Transport

The transport options of a node.  The panel does not send them; they are set where the node runs.
-/

namespace ProxyNode

/-- Which protocols a node listens on. -/
inductive Mode where
  | tcpOnly
  | udpOnly
  | tcpAndUdp
  deriving DecidableEq, Repr

namespace Mode

def all : List Mode := [.tcpOnly, .udpOnly, .tcpAndUdp]

def name : Mode → String
  | .tcpOnly => "tcp_only"
  | .udpOnly => "udp_only"
  | .tcpAndUdp => "tcp_and_udp"

def ofName? (s : String) : Option Mode := all.find? fun m => m.name == s

def tcp : Mode → Bool
  | .udpOnly => false
  | _ => true

def udp : Mode → Bool
  | .tcpOnly => false
  | _ => true

theorem ofName?_name (m : Mode) : ofName? m.name = some m := by
  cases m <;> rfl

end Mode

structure Transport where
  mode : Mode := .tcpAndUdp
  timeout : Int := 300
  udpTimeout : Int := 300
  noDelay : Bool := false
  fastOpen : Bool := false
  keepAlive : Option Int := none
  mptcp : Bool := false
  dns : Option String := none
  ipv6First : Bool := false
  udpMaxAssociations : Option Int := none
  udpMtu : Int := 1500
  timestampLimit : Int := 30
  complyWithIncoming : Bool := false
  relay : Option String := none
  deriving DecidableEq, Repr

end ProxyNode
