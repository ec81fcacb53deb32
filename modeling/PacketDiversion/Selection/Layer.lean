/-!
# Layers

The layer of the network stack that a session is attached to. The driver counts layers from zero;
configuration text and log lines name them.
-/

namespace PacketDiversion

/-- Interception point of the network stack. -/
inductive Layer
  | network
  | networkForward
  | flow
  | socket
  | reflect
  deriving DecidableEq, Repr

namespace Layer

/-- Every layer, in the order of the driver's codes. -/
def all : List Layer := [network, networkForward, flow, socket, reflect]

instance : Inhabited Layer := ⟨network⟩

def code : Layer → Nat
  | network => 0
  | networkForward => 1
  | flow => 2
  | socket => 3
  | reflect => 4

def ofCode? (n : Nat) : Option Layer := all.find? fun l => l.code == n

def name : Layer → String
  | network => "network"
  | networkForward => "network_forward"
  | flow => "flow"
  | socket => "socket"
  | reflect => "reflect"

/-- The layer that a name stands for; names are matched exactly. -/
def ofName? (s : String) : Option Layer := all.find? fun l => l.name == s

/-- The layer's title in the description of an address record. -/
def title : Layer → String
  | network => "Network"
  | networkForward => "NetworkForward"
  | flow => "Flow"
  | socket => "Socket"
  | reflect => "Reflect"

end Layer

end PacketDiversion
