namespace StorageTelemetry

/-!
# Refusals of the operating system

The operating system names what it refuses by a number.
-/

/-- Why the operating system refuses something. -/
inductive SystemError
  | noSuchFile
  | permissionDenied
  | addressInUse
  | addressNotAvailable
deriving DecidableEq

namespace SystemError

def code : SystemError → Nat
  | noSuchFile => 2
  | permissionDenied => 13
  | addressInUse => 98
  | addressNotAvailable => 99

def title : SystemError → String
  | noSuchFile => "No such file or directory"
  | permissionDenied => "Permission denied"
  | addressInUse => "Address already in use"
  | addressNotAvailable => "Cannot assign requested address"

def message (refusal : SystemError) : String :=
  refusal.title ++ " (os error " ++ toString refusal.code ++ ")"

end SystemError
end StorageTelemetry
