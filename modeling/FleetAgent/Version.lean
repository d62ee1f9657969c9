/-!
# The name of the program and its version
-/

namespace FleetAgent

/-- The name of the program. -/
def programName : String := "deviceplane-agent"

/-- The version of the program. -/
def version : String := "0.1.0"

end FleetAgent
