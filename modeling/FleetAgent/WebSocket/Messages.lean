import FleetAgent.Text.Utf8
import FleetAgent.WebSocket.Frame
/-!
# Messages

A message is carried by one frame, or by several of which the last one ends it; frames about the
connection may come in between. Binary and text messages are both taken as bytes, but the bytes of a
text have to be text. A connection ends when the controller closes it, and fails when something
comes that should not.

`take` is what becomes of a `Fragment` when one more frame has come, and `messages` are those that a
stream carries.
-/

namespace FleetAgent.WebSocket

/-- How the receiving of messages has gone on, behind those that are complete. -/
inductive Ending where
  /-- More may come. -/
  | more
  /-- The controller has closed the connection. -/
  | closed
  /-- The connection has failed. -/
  | failed
deriving Repr, DecidableEq

/-- The part of a message that has been received, as long as it is not complete. -/
structure Fragment where
  /-- Whether it is a text. -/
  isText : Bool
  /-- The bytes so far. -/
  bytes : List UInt8
deriving Repr, DecidableEq

/-- Whether bytes are text. -/
def isText (bytes : List UInt8) : Bool :=
  (Text.Utf8.decode? bytes).isSome

/-- Whether what a closing frame carries is in order: nothing, or a number of two bytes and a
text. -/
def isFarewell (payload : List UInt8) : Bool :=
  match payload with
  | [] => true
  | [_] => false
  | _ :: _ :: reason => isText reason

/-- What a frame leads to. -/
inductive Received where
  /-- Nothing is complete; the fragment is what has been received of a message. -/
  | waiting (fragment? : Option Fragment)
  /-- A message is complete. -/
  | message (bytes : List UInt8)
  /-- The controller has closed the connection. -/
  | closed
  /-- The frame should not have come. -/
  | failed
deriving Repr, DecidableEq

/-- Adds a part to the message, which is complete if the part is the last. A text that is no text
fails the connection only then. -/
def complete (isLast : Bool) (f : Fragment) : Received :=
  if ¬ isLast then .waiting (some f)
  else if f.isText && !isText f.bytes then .failed
  else .message f.bytes

/-- Takes the frame `f`, with the fragment that has been received before it. A frame about the
connection leaves the fragment as it is. -/
def take (fragment? : Option Fragment) (f : Frame) : Received :=
  match f.opcode, fragment? with
  | .ping, _ | .pong, _ => .waiting fragment?
  | .close, _ => if isFarewell f.payload then .closed else .failed
  | .continuation, some g => complete f.isLast { g with bytes := g.bytes ++ f.payload }
  | .continuation, none => .failed
  | .text, none => complete f.isLast ⟨true, f.payload⟩
  | .binary, none => complete f.isLast ⟨false, f.payload⟩
  | .text, some _ | .binary, some _ => .failed

/-- The messages of the stream `bytes`, behind a fragment that has been received, and how it goes
on. What stands behind a frame that ends the connection is not looked at. -/
def messages (fragment? : Option Fragment) (bytes : List UInt8) :
    List (List UInt8) × Ending :=
  match _h : Frame.read bytes with
  | .incomplete => ([], .more)
  | .malformed => ([], .failed)
  | .frame f rest =>
    match take fragment? f with
    | .waiting fragment? => messages fragment? rest
    | .message m =>
      let (ms, ending) := messages none rest
      (m :: ms, ending)
    | .closed => ([], .closed)
    | .failed => ([], .failed)
termination_by bytes.length
decreasing_by all_goals exact Frame.length_lt_of_read _h

/-- The messages of a connection that carries the given bytes and then breaks off. -/
def messagesToEnd (bytes : List UInt8) : List (List UInt8) × Ending :=
  let (ms, ending) := messages none bytes
  (ms, if ending = .more then .failed else ending)

end FleetAgent.WebSocket
