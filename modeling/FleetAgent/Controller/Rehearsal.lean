import FleetAgent.Controller.Dial
/-!
# Trying out a client

A client is tried out against a controller that does what it was prepared to do: it replies, closes
the connection without a reply, or keeps silent; or it is not there at all. A call is made at the
moment zero and may be called off before it, when its request arrives, or after some time.
-/

namespace FleetAgent.Controller

/-- What a prepared controller does with a request. -/
inductive PreparedReply where
  /-- It replies. -/
  | reply (r : Reply)
  /-- It never replies. -/
  | silence
  /-- It closes the connection. -/
  | hangUp

/-- When a call is called off. -/
inductive CallOff where
  | never
  | beforehand
  | onArrival
  /-- It is given up after some milliseconds. -/
  | after (timeout : Nat)
deriving Repr, DecidableEq

namespace CallOff

/-- The signal when a call is made. -/
def signal : CallOff → Signal
  | .beforehand => Signal.fresh.trigger
  | _ => .fresh

/-- The context of a call. -/
def context : CallOff → Context
  | .after timeout => Context.root.withTimeout 0 timeout
  | _ => .root

/-- The signal once the request has arrived. -/
def signalOnArrival (c : CallOff) : Signal :=
  match c with
  | .onArrival => c.signal.trigger
  | _ => c.signal

end CallOff

/-- What comes back from a prepared controller. -/
def PreparedReply.incoming? : PreparedReply → Option (Except TransportError Reply)
  | .reply r => some (.ok r)
  | .silence => none
  | .hangUp => some (.error .network)

/-- How a request ends whose reply comes at once or never. -/
def Flight.conclude (f : Flight) (signal : Signal)
    (reply? : Option (Except TransportError Reply)) : Except TransportError Reply :=
  let last := f.sent + patience
  match f.poll signal f.sent reply? with
  | some r => r
  | none => (f.poll signal (min (f.context.deadline?.getD last) last) reply?).getD (.error .timeout)

namespace Client

/-- Tries a call: how it ends, and the requests that arrive. -/
def tryCall {α : Type} (c : Client) (isThere : Bool) (callOff : CallOff) (prepared : PreparedReply)
    (call : Call) (read : Except TransportError Reply → Except ClientError α) :
    Except ClientError α × List Request :=
  match c.start callOff.context callOff.signal 0 call with
  | .error e => (.error e, [])
  | .ok request =>
    if isThere then
      let flight : Flight := ⟨callOff.context, 0⟩
      (read (flight.conclude callOff.signalOnArrival prepared.incoming?), [request])
    else (read (.error .network), [])

/-- Tries to dial: how it ends, if it does, and the requests that arrive. `start` is what starts
it. -/
def tryDial (isThere : Bool) (callOff : CallOff) (prepared? : Option DialReply)
    (start : Context → Signal → Moment → Except ClientError Dial) :
    Option (Except ClientError Unit) × List Dial :=
  match start callOff.context callOff.signal 0 with
  | .error e => (some (.error e), [])
  | .ok dial =>
    if isThere then
      let end? (now : Moment) := callOff.context.poll callOff.signalOnArrival now prepared?
      match end? 0 <|> callOff.context.deadline?.bind end? with
      | none => (none, [dial])
      | some (.error i) => (some (.error (.transport (.ofInterruption i))), [dial])
      | some (.ok reply) => (some reply.result, [dial])
    else (some (.error (.transport .webSocket)), [])

end Client

end FleetAgent.Controller
