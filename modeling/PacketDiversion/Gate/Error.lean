import PacketDiversion.Session.Error
import PacketDiversion.Version

/-!
# Rejections of the version gate

Why a process must not drive the installed driver at all.
-/

namespace PacketDiversion

/-- Why the gate turned a driver, or this process, down. -/
inductive Rejection
  | emulationUnknown (source : HostError)
  | emulated
  | library (file : String) (source : HostError)
  /-- The library lacks the routine that opens sessions. -/
  | routine (file symbol : String) (source : HostError)
  | version (cause : SessionError)
  /-- The driver's version is none that the library can talk to. -/
  | unsupported (reported : Version)
  deriving DecidableEq, Repr

def Rejection.message : Rejection → String
  | emulationUnknown source =>
    s!"unable to determine whether the process is running under WOW64: {source.text}"
  | emulated =>
    "a 32-bit process cannot drive the packet diversion driver on a 64-bit system; "
      ++ "use a 64-bit build"
  | library file source => s!"failed to load `{file}`: {source.text}"
  | routine file symbol source => s!"`{symbol}` not found in `{file}`: {source.text}"
  | version cause => s!"failed to read the driver version: {cause.message}"
  | unsupported reported => s!"unsupported driver version: {reported.text}"

def driverLibrary : String := "WinDivert.dll"

/-- The routine of that library which opens sessions. -/
def openRoutine : String := "WinDivertOpen"

end PacketDiversion
