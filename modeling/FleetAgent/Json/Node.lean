import FleetAgent.Json.Value
/-!
# JSON texts as far as they can be read

A text is read into a tree of *nodes* in the order in which it is written. The tree tells more than
a value: keys stand as often as they are written, and where the text breaks off or is malformed the
tree ends in a *broken* node or a broken ending. A record is decoded by walking the tree, so that of
a broken text and a field of the wrong type the one that stands first is reported.

A part of a text is either *taken*, as a value, or *passed over*, when no field wants it. Passing
over asks less: texts may hold ill-formed UTF-8 and lone surrogates, numbers may be too great, and
there is no limit on nesting. Wherever the two differ, a node keeps both answers.

`Node.take` gives the value of a node, or the first fault; it counts the levels of nesting from
`depth` on and stops at `maxNesting`. `Node.pass` gives the first fault of passing over it.
`Json.toNode` is the node of a value.
-/

namespace FleetAgent.Json

/-- What is wrong with a text. -/
inductive Fault where
  /-- It is not JSON. -/
  | malformed
  /-- It ends too early. -/
  | truncated
deriving Repr, DecidableEq

/-- How an array or an object ends. -/
inductive Ending where
  /-- With its bracket. -/
  | closed
  /-- Not at all; the two faults are those of taking it and of passing over it. -/
  | broken (taken passed : Fault)
deriving Repr, DecidableEq

/-- A JSON text as far as it can be read. A node ends what is read of the text if it is broken or
has a broken ending. -/
inductive Node where
  | null
  | boolean (b : Bool)
  /-- A number; none if it is too great. -/
  | number (n : Option Number)
  /-- A string that is closed. -/
  | text (s : Except Fault String)
  | array (items : List Node) (ending : Ending)
  | object (members : List (Except Fault String × Node)) (ending : Ending)
  /-- What stands here cannot be read; the two faults are those of taking it and of passing over
  it. -/
  | broken (taken passed : Fault)

/-- The greatest number of arrays and objects that may be open at one place of a text. -/
def maxNesting : Nat := 127

namespace Ending

/-- The fault of taking something with this ending. -/
def take : Ending → Except Fault Unit
  | .closed => .ok ()
  | .broken taken _ => .error taken

/-- The fault of passing over something with this ending. -/
def pass : Ending → Except Fault Unit
  | .closed => .ok ()
  | .broken _ passed => .error passed

end Ending

/-! ### Taking and passing over -/

mutual

/-- The value of a node that stands within `depth` arrays and objects, or the first fault in it.
Objects are collected: their members are sorted, and of several with one key the last counts. -/
def Node.take (depth : Nat) : Node → Except Fault Json
  | .null => .ok .null
  | .boolean b => .ok (.boolean b)
  | .number (some n) => .ok (.number n)
  | .number none => .error .malformed
  | .text (.ok s) => .ok (.text s)
  | .text (.error f) => .error f
  | .array items ending =>
    if maxNesting ≤ depth then .error .malformed
    else do
      let items ← takeItems (depth + 1) items
      ending.take
      return .array items
  | .object members ending =>
    if maxNesting ≤ depth then .error .malformed
    else do
      let members ← takeMembers (depth + 1) members
      ending.take
      return .object (collect members)
  | .broken taken _ => .error taken

/-- The values of the items of an array. -/
def takeItems (depth : Nat) : List Node → Except Fault (List Json)
  | [] => .ok []
  | n :: r => do
    let v ← n.take depth
    let vs ← takeItems depth r
    return v :: vs

/-- The members of an object, in the order in which they are written. -/
def takeMembers (depth : Nat) :
    List (Except Fault String × Node) → Except Fault (List (String × Json))
  | [] => .ok []
  | (key, n) :: r => do
    let key ← key
    let v ← n.take depth
    let vs ← takeMembers depth r
    return (key, v) :: vs

end

mutual

/-- Passes over a node, or gives the first fault in it. Neither depth nor what stands in texts and
numbers matters. -/
def Node.pass : Node → Except Fault Unit
  | .array items ending => do
    passItems items
    ending.pass
  | .object members ending => do
    passMembers members
    ending.pass
  | .broken _ passed => .error passed
  | _ => .ok ()

/-- Passes over the items of an array. -/
def passItems : List Node → Except Fault Unit
  | [] => .ok ()
  | n :: r => do
    n.pass
    passItems r

/-- Passes over the members of an object. -/
def passMembers : List (Except Fault String × Node) → Except Fault Unit
  | [] => .ok ()
  | (_, n) :: r => do
    n.pass
    passMembers r

end

/-! ### Values as nodes -/

mutual

/-- The node of a value, as a reader gives it for any text of the value. -/
def toNode : Json → Node
  | .null => .null
  | .boolean b => .boolean b
  | .number n => .number (some n)
  | .text s => .text (.ok s)
  | .array items => .array (toNodes items) .closed
  | .object members => .object (toNodeMembers members) .closed

/-- The nodes of the items of an array. -/
def toNodes : List Json → List Node
  | [] => []
  | v :: r => v.toNode :: toNodes r

/-- The nodes of the members of an object. -/
def toNodeMembers : List (String × Json) → List (Except Fault String × Node)
  | [] => []
  | (k, v) :: r => (.ok k, v.toNode) :: toNodeMembers r

end

end FleetAgent.Json
