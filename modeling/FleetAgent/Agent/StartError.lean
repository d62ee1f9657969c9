import FleetAgent.Identity.Store
/-!
# Why an agent does not start
-/

namespace FleetAgent

/-- Why an agent does not start. None of these is tried again. -/
inductive StartError where
  /-- The device is not registered, and there is no token to register it with. -/
  | missingToken
  /-- The identity cannot be loaded or saved. -/
  | identity (e : IdentityError)
  /-- The directory of the configuration cannot be created. -/
  | confDir (path : String) (fault : IoFault)
  /-- The agent was shut down before it had an identity. -/
  | canceled
deriving DecidableEq

namespace StartError

/-- The message for a reader, if it has a fixed wording. -/
def message? : StartError → Option String
  | .missingToken => some "device is not registered and no registration token was provided"
  | .identity e => e.message?
  | .confDir _ _ => none
  | .canceled => some "agent start canceled"

end StartError

end FleetAgent
