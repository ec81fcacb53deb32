/-!
# Errors of the operating system

A call to the operating system fails with a numeric code or, rarely, with a text of its own. What a
code usually means when it comes from the driver is its `Diagnosis`.
-/

namespace PacketDiversion

/-- An error as the operating system reports it. -/
inductive HostError
  | code (n : Int)
  | other (text : String)
  deriving DecidableEq, Repr

namespace HostError

/-- The error's code, if it has one. -/
def code? : HostError → Option Int
  | code n => some n
  | other _ => none

def text : HostError → String
  | code n => s!"os error {n}"
  | other text => text

/-- Code of a request that the driver has taken but not finished. -/
def pendingCode : Int := 997

/-- Whether the error says that the request is still under way. -/
def isPending (e : HostError) : Bool := e.code? == some pendingCode

end HostError

/-! ### Diagnoses -/

/-- What an error code means when it comes from the driver. -/
inductive Diagnosis
  | driverFilesMissing
  | accessDenied
  | invalidParameter
  | unsignedDriver
  | priorUnloadFailed
  | serviceMissing
  | driverBlocked
  | filteringEngineStopped
  | insufficientBuffer
  | noData
  | hostUnreachable
  deriving DecidableEq, Repr

namespace Diagnosis

def codes : List (Int × Diagnosis) :=
  [(2, driverFilesMissing), (5, accessDenied), (87, invalidParameter), (577, unsignedDriver),
    (654, priorUnloadFailed), (1060, serviceMissing), (1275, driverBlocked),
    (1753, filteringEngineStopped), (122, insufficientBuffer), (232, noData),
    (1232, hostUnreachable)]

/-- The diagnosis of an error code, if the driver is known to report it. -/
def ofCode? (n : Int) : Option Diagnosis := codes.lookup n

def title : Diagnosis → String
  | driverFilesMissing => "DriverFilesMissing"
  | accessDenied => "AccessDenied"
  | invalidParameter => "InvalidParameter"
  | unsignedDriver => "UnsignedDriver"
  | priorUnloadFailed => "PriorUnloadFailed"
  | serviceMissing => "ServiceMissing"
  | driverBlocked => "DriverBlocked"
  | filteringEngineStopped => "FilteringEngineStopped"
  | insufficientBuffer => "InsufficientBuffer"
  | noData => "NoData"
  | hostUnreachable => "HostUnreachable"

/-- What an operator can make of it. -/
def hint : Diagnosis → String
  | driverFilesMissing => "the driver .sys files were not found next to the driver library"
  | accessDenied => "the process must run with Administrator privileges"
  | invalidParameter => "the filter string, layer, priority, or flags are invalid"
  | unsignedDriver => "the driver signature could not be verified"
  | priorUnloadFailed => "an incompatible driver version is still loaded; reboot to unload it"
  | serviceMissing => "the driver service is not installed and NO_INSTALL was requested"
  | driverBlocked => "the driver was blocked by security software or a virtualization host"
  | filteringEngineStopped => "the Base Filtering Engine service is disabled"
  | insufficientBuffer => "the packet is larger than the supplied buffer"
  | noData => "the session was shut down and its queue is empty"
  | hostUnreachable => "an impostor packet was injected with an expired TTL or hop limit"

end Diagnosis

end PacketDiversion
