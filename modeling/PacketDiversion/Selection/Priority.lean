/-!
# Priorities

Sessions on one layer see a packet in the order of their priorities, highest first. The driver
takes priorities in a range that is symmetric around zero.
-/

namespace PacketDiversion.Priority

def highest : Int := 30000

def lowest : Int := -highest

/-- The priority of a session that asks for none. -/
def default : Int := 0

def Valid (p : Int) : Prop := lowest ≤ p ∧ p ≤ highest

instance (p : Int) : Decidable (Valid p) := inferInstanceAs (Decidable (_ ∧ _))

end PacketDiversion.Priority
