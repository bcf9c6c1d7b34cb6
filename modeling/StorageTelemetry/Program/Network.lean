import StorageTelemetry.Settings.Basic
import StorageTelemetry.SystemError

namespace StorageTelemetry

/-!
# Listening for requests

The metrics are served on an address and a port.  The operating system may
refuse them.
-/

/-- What a machine lets a program listen on. -/
structure Network where
  hasAddress : String → Bool
  isTaken : UInt16 → Bool
  allowsLowPorts : Bool

namespace Network

/-- The first port that needs no privilege. -/
def firstOpenPort : UInt16 := 1024

/-- Whether a port needs a privilege.  Port zero stands for any free port. -/
def isLowPort (port : UInt16) : Bool := port ≠ 0 && port < firstOpenPort

/-- Begins to listen.  The privilege is looked at before the address. -/
def listen (network : Network) (server : ServerSettings) : Except SystemError Unit :=
  if isLowPort server.port && !network.allowsLowPorts then .error .permissionDenied
  else if !network.hasAddress server.address then .error .addressNotAvailable
  else if network.isTaken server.port then .error .addressInUse
  else .ok ()

end Network
end StorageTelemetry
