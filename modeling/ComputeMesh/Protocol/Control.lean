import ComputeMesh.Lib.Datetime
import ComputeMesh.Lib.Json

/-!
# The control envelope

`protocol/control.py`: the envelope every control message arrives in, as it is after parsing, and the
structured error a refused one is answered with.
-/

namespace ComputeMesh.Protocol

structure ControlEnvelope where
  protocolMajor : ℕ
  protocolMinor : ℕ
  messageType : String
  requestId : String
  correlationId : String
  actorId : String
  targetId : String
  issuedAt : UtcTime
  expiresAt : UtcTime
  expectedRevision : ℕ
  payload : Dict String Json

/-- `StructuredError`, with the texts of its details. -/
structure StructuredError where
  code : String
  category : String
  retryable : Bool
  message : String
  requestId : Option String
  details : List (String × String)
  deriving DecidableEq

def supportedProtocolMajor : ℕ := 0

def currentProtocolMinor : ℕ := 2

end ComputeMesh.Protocol
