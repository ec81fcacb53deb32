/-!
# Driver versions

The layout of requests is the one of a few driver versions. A version is accepted when its text is
one of the supported texts.
-/

namespace PacketDiversion

structure Version where
  /-- Changes with the layout of requests. -/
  major : UInt64
  /-- Changes within one layout. -/
  minor : UInt64
  deriving DecidableEq, Repr

namespace Version

/-- A version as it is written: `2.1`. -/
def text (v : Version) : String := s!"{v.major.toNat}.{v.minor.toNat}"

/-- Texts of the versions whose requests are laid out as in this library. -/
def supported : List String := ["2.0", "2.1", "2.2"]

/-- Whether the library can talk to a driver of this version. -/
def isSupported (v : Version) : Bool := supported.contains v.text

/-- Versions are ordered by their major number, then by their minor number. -/
def cmp (a b : Version) : Ordering := (compare a.major b.major).then (compare a.minor b.minor)

/-- Both numbers with their names. -/
def description (v : Version) : String :=
  s!"Version \x7b major: {v.major.toNat}, minor: {v.minor.toNat} \x7d"

end Version

end PacketDiversion
