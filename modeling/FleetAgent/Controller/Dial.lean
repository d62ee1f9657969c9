import FleetAgent.Controller.Client
/-!
# Dialling the controller

Connections for messages are asked for with the URL as it is written: nothing in it is resolved or
encoded (`Dial.target?`), so some characters cannot stand in it (`Dial.isForbidden`). The tunnel has
a place of its own (`Client.startTunnel`); other connections are dialled at a path that the
controller tells (`Client.startDialBack`).
-/

namespace FleetAgent.Controller

/-- A request for a connection. Where it is sent to is left to the client's base URL. -/
structure Dial where
  /-- What is asked for: what stands behind the authority of the URL, without the fragment. -/
  target : String
  /-- Who asks. -/
  authorization? : Option String
deriving Repr, DecidableEq

namespace Dial

/-- Who asks, or the empty text. -/
def authorization (d : Dial) : String :=
  d.authorization?.getD ""

/-- The characters that cannot stand in the URL of a connection: blanks, controls, and a few that
delimit. -/
def isForbidden (c : Char) : Bool :=
  c.toNat ≤ 0x20 || c.toNat == 0x7F || c == '<' || c == '>' || c == '|' || c == '^' || c == '\x60'

/-- The authority of `url` and what stands behind it, up to the fragment; `none` if there is no
`://`. -/
def cutUrl? (url : String) : Option (List Char × List Char) :=
  (Text.splitAtText [':', '/', '/'] url.toList).map fun (_, rest) =>
    let authority := rest.takeWhile fun c => c != '/' && c != '?' && c != '#'
    (authority, (rest.drop authority.length).takeWhile (· != '#'))

/-- The target of `url`, if it can be dialled. A target starts with a slash, which is put before it
if need be. -/
def target? (url : String) : Option String := do
  let (authority, rest) ← cutUrl? url
  if authority.isEmpty || authority.any isForbidden || rest.any isForbidden then none
  else match rest with
    | '/' :: _ => some (String.ofList rest)
    | _ => some (String.ofList ('/' :: rest))

end Dial

namespace Client

/-- Starts to dial at the place of `segments`: the request that is sent, or why there is none. As
for other calls, the context is looked at last. -/
def startDial (c : Client) (ctx : Context) (signal : Signal) (now : Moment) (key : AccessKey)
    (segments : List String) : Except ClientError Dial := do
  let url ← (webSocketUrl c.baseUrl segments).mapError .transport
  match Dial.target? url with
  | none => throw (.transport .webSocket)
  | some target =>
    allow ctx signal now
    return ⟨target, authorization? key⟩

/-- Starts to open the tunnel, at the place of the device that the client is for. -/
def startTunnel (c : Client) (ctx : Context) (signal : Signal) (now : Moment) :
    Except ClientError Dial :=
  match c.identity? with
  | none => .error .notRegistered
  | some i => c.startDial ctx signal now i.accessKey (connectionPlace c.project i.deviceId)

/-- Starts to dial back at `path`, which the controller has told. Slashes at its start do not
matter, and the rest of it stands in the URL as it is. -/
def startDialBack (c : Client) (ctx : Context) (signal : Signal) (now : Moment) (path : String) :
    Except ClientError Dial :=
  match c.identity? with
  | none => .error .notRegistered
  | some i => c.startDial ctx signal now i.accessKey [Text.dropLeading '/' path]

end Client

/-! ### Replies -/

/-- The reply to a request for a connection, as far as it matters to the one that dials. -/
inductive DialReply where
  /-- There is a connection. -/
  | connected
  /-- The controller refused. -/
  | refused (reply : Reply)
  /-- There was no reply. -/
  | broken

/-- Whether there is a connection, and why not. -/
def DialReply.result : DialReply → Except ClientError Unit
  | .connected => .ok ()
  | .refused reply =>
    .error (.transport (.refused reply.status (Text.Utf8.decodeLossy reply.body)))
  | .broken => .error (.transport .webSocket)

end FleetAgent.Controller
