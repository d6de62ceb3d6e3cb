/-!
# Phases of a session

A session starts with a first package from the client. The server answers with a request and
the client with a response, in turns, until a request ends the session or is not understood.
-/

namespace DeviceManagement

/-- Where a session stands. -/
inductive Phase where
  /-- No session is running. -/
  | idle
  /-- The first package is being sent. -/
  | initiating
  /-- A request is being read. -/
  | reading
  /-- A request has been read that wants a response. -/
  | responding
  /-- A request has ended the session. -/
  | ended
  deriving DecidableEq, Repr

/-- What a request means for its session. -/
inductive Outcome where
  /-- The session goes on with a response. -/
  | continue
  /-- The server ends the session. -/
  | ended
  /-- The request cannot be read, which ends the session too. -/
  | unreadable
  deriving DecidableEq, Repr

/-- Why a session ended. -/
inductive SessionEnd where
  | endCommand
  | decodeFailure
  deriving DecidableEq, Repr

/-- The name of the reason a session ended for. -/
def SessionEnd.name : SessionEnd → String
  | endCommand => "EndCommand"
  | decodeFailure => "DecodeFailure"

end DeviceManagement
