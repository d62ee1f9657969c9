import FleetAgent.Reporting
import FleetAgent.Text.Base64
import FleetAgent.Version
import FleetAgent.Wire.Bundle
import FleetAgent.Wire.Device
/-!
# Requests and what is made of the replies

A *call* is an operation with what is to be told to the controller. Its request says how the
controller is asked, and its reply is read in one of four ways: as a registration, as a bundle, as
a bare success, or as the success of a deletion, for which it is enough that there is nothing left
to delete.

A `Call` makes a `Request`, and a `Reply` is read by `readRegistration`, `readBundle`, `readDone` or
`readDeletion`. What a request shows of the access key is `authorization?`.
-/

namespace FleetAgent.Controller

/-! ### Calls -/

/-- An operation with what is to be told to the controller, if anything is. -/
structure Call where
  /-- What is asked for. -/
  operation : Operation
  /-- What is told. -/
  body? : Option Json

namespace Call

/-- Registers the device with a token. -/
def register (token : String) : Call := ⟨.register, some (registrationRequest token)⟩

/-- Asks for the bundle. -/
def getBundle : Call := ⟨.getBundle, none⟩

/-- Tells the description of the device. -/
def setInfo (info : DeviceInfo) : Call := ⟨.setInfo, some info.toJson⟩

/-- Forwards metrics of the device. -/
def sendDeviceMetrics (metrics : Json) : Call := ⟨.sendDeviceMetrics, some metrics⟩

/-- Forwards metrics of its services. -/
def sendServiceMetrics (metrics : Json) : Call := ⟨.sendServiceMetrics, some metrics⟩

/-- Tells the observation `o`, at the place of its key. -/
def setObservation (o : Observation) : Call :=
  ⟨o.kind.assignment o.key, some (o.kind.valueJson o.value)⟩

/-- Deletes the observation of `kind` with the key `key`. Nothing is told. -/
def deleteObservation (kind : ObservationKind) (key : kind.Key) : Call :=
  ⟨kind.deletion key, none⟩

end Call

/-! ### Requests -/

/-- A request as it is sent, without what is the same for all requests of a client. -/
structure Request where
  /-- How something is asked for. -/
  method : Method
  /-- What is asked for: the path and the query of the URL. -/
  target : String
  /-- Who asks. -/
  authorization? : Option String
  /-- What is told. -/
  body? : Option String
deriving Repr, DecidableEq

/-- How the agent names itself. -/
def userAgent : String := programName ++ "/" ++ version

/-- The type of what is told, if anything is. -/
def Request.contentType? (r : Request) : Option String :=
  r.body?.map fun _ => "application/json"

/-- How a device shows its key: as the name of a user with an empty password. -/
def authorization (key : AccessKey) : String :=
  "Basic " ++ String.ofList (Text.Base64.encode (Text.Utf8.encode (key.secret ++ ":")))

/-- The characters that may stand in the value of a header: those of ASCII that can be seen, the
space and the tab. -/
def isHeaderCharacter (c : Char) : Bool :=
  c == '\t' || (0x20 ≤ c.toNat && c.toNat < 0x7F)

/-- The header by which a device shows its key. What cannot stand in a header is left out. -/
def authorization? (key : AccessKey) : Option String :=
  let value := authorization key
  if value.toList.all isHeaderCharacter then some value else none

/-- Nothing is left out: all that is written of a key can stand in a header. -/
theorem authorization?_eq (key : AccessKey) : authorization? key = some (authorization key) := by
  refine if_pos (List.all_eq_true.mpr fun c hc => ?_)
  rw [authorization, String.toList_append, List.mem_append] at hc
  obtain hc | hc := hc
  · have hall : "Basic ".toList.all isHeaderCharacter = true := by decide
    exact List.all_eq_true.mp hall c hc
  · rw [String.toList_ofList] at hc
    obtain ⟨hlo, hhi⟩ := Text.Base64.of_mem_encode hc
    rw [isHeaderCharacter, decide_eq_true (Nat.le_of_lt hlo), decide_eq_true hhi, Bool.and_self,
      Bool.or_true]

/-! ### Replies -/

/-- A reply, read to its end. Its headers do not matter. -/
structure Reply where
  /-- Its status. -/
  status : Status
  /-- Its body. -/
  body : List UInt8

/-- The body of a reply that grants what was asked for. Any status but a success is a refusal, and
its body is kept as a text. -/
def grantedBody (reply : Except TransportError Reply) : Except TransportError (List UInt8) := do
  let reply ← reply
  if reply.status.isSuccess then return reply.body
  else throw (.refused reply.status (Text.Utf8.decodeLossy reply.body))

/-- Whether something was done. What the body says does not matter. -/
def readDone (reply : Except TransportError Reply) : Except ClientError Unit :=
  match grantedBody reply with
  | .ok _ => .ok ()
  | .error e => .error (.transport e)

/-- Whether something is gone. What is not there is gone, too, so that a deletion may be tried
again. -/
def readDeletion (reply : Except TransportError Reply) : Except ClientError Unit :=
  match grantedBody reply with
  | .ok _ => .ok ()
  | .error e => if e.isNotFound then .ok () else .error (.transport e)

/-- The registration that was asked for, if the body is one. -/
def readRegistration (reply : Except TransportError Reply) : Except ClientError Registration :=
  match grantedBody reply with
  | .error e => .error (.transport e)
  | .ok body => (Wire.decode Wire.registration body).mapError (.decode "register")

/-- Whether `body` is empty up to blanks of ASCII. -/
def isBlankBody (body : List UInt8) : Bool :=
  body.all fun b => Text.isAsciiBlank (Char.ofNat b.toNat)

/-- The bundle that was asked for. A blank body stands for the empty bundle, and is not decoded. -/
def readBundle (reply : Except TransportError Reply) : Except ClientError Bundle :=
  match grantedBody reply with
  | .error e => .error (.transport e)
  | .ok body =>
    if isBlankBody body then .ok .empty
    else (Wire.decode Wire.bundle body).mapError (.decode "bundle")

end FleetAgent.Controller
