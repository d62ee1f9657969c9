import FleetAgent.Identifier
import FleetAgent.Json.Reader
/-!
# Decoding records

Records come as JSON objects, and most of them also as arrays of their fields in order. A decoder
walks the nodes of a text in the order in which they stand and reports the first thing that is
wrong: a fault of the text, or a value that does not fit. Fields that are missing are noticed last.

Lists of the bundle are *lenient*: an element that does not fit is left out and noted. The notes
survive when decoding fails later, so a decoder keeps them beside its outcome.

A `Decoder` gives a value or a `DecodeError`, and a list of `Skipped`. `record` and `openRecord`
walk the `Slot`s of a record, by `fillMembers` over an object and by `fillItems` over an array;
`elements` is the lenient list. `decodeNoting` decodes a whole text with its notes, `decode`
without.
-/

namespace FleetAgent.Wire

open FleetAgent.Json (Fault Node Ending Number)

/-! ### Errors -/

/-- What was found in the place of something else, as a message tells it. -/
inductive Shape where
  | null
  | boolean (b : Bool)
  | number (n : Number)
  | text (s : String)
  | sequence
  | map
deriving DecidableEq

/-- What should have stood in a place. -/
inductive Wanted where
  | text
  | sequence
  | map
  | record (name : String)
deriving Repr, DecidableEq

/-- Why a value does not fit in its place. -/
inductive Mismatch where
  /-- It is of another type. -/
  | wrongType (found : Shape) (wanted : Wanted)
  /-- A field is not there. -/
  | missingField (name : String)
  /-- A field is there twice. -/
  | duplicateField (name : String)
  /-- An array ends before a field that must be there. -/
  | tooFew (count : Nat) (record : String) (fields : Nat)
  /-- An array goes on behind the last field. -/
  | surplus (count : Nat)
  /-- A text is not an identifier. -/
  | identifier (error : IdentifierError)
  /-- An element of a list does not fit, and may not be left out. -/
  | element (inner : Mismatch)
deriving DecidableEq

/-- Why decoding fails. -/
inductive DecodeError where
  /-- The text is at fault. -/
  | fault (f : Fault)
  /-- A value does not fit. -/
  | mismatch (m : Mismatch)
deriving DecidableEq

namespace Shape

/-- The words for a value in messages. -/
def describe : Shape → String
  | .null => "null"
  | .boolean b => "boolean `" ++ (if b then "true" else "false") ++ "`"
  | .number (.integer value _) => "integer `" ++ toString value ++ "`"
  | .number (.double value) => "floating point `" ++ Json.Number.layout.renderFloat value ++ "`"
  | .text s => "string " ++ Text.quote s
  | .sequence => "sequence"
  | .map => "map"

end Shape

/-- The words for what should have stood in a place. -/
def Wanted.describe : Wanted → String
  | .text => "a string"
  | .sequence => "a sequence"
  | .map => "a map"
  | .record name => "struct " ++ name

/-- The message for a reader. -/
def Mismatch.message : Mismatch → String
  | .wrongType found wanted =>
    "invalid type: " ++ found.describe ++ ", expected " ++ wanted.describe
  | .missingField name => "missing field `" ++ name ++ "`"
  | .duplicateField name => "duplicate field `" ++ name ++ "`"
  | .tooFew count record fields =>
    "invalid length " ++ toString count ++ ", expected struct " ++ record ++ " with " ++
      toString fields ++ (if fields = 1 then " element" else " elements")
  | .surplus count =>
    "invalid length " ++ toString count ++ ", expected fewer elements in array"
  | .identifier e => e.message
  | .element inner => inner.message

/-- The message for a reader, if there is one of a fixed wording. -/
def DecodeError.message? : DecodeError → Option String
  | .fault _ => none
  | .mismatch m => some m.message

/-! ### Notes on what was left out -/

/-- The lists of a bundle whose elements may be left out. -/
inductive EntryKind where
  | application
  | applicationStatus
  | serviceStatus
  | serviceState
deriving Repr, DecidableEq

/-- The word for a list in notes. -/
def EntryKind.label : EntryKind → String
  | .application => "application"
  | .applicationStatus => "application_status"
  | .serviceStatus => "service_status"
  | .serviceState => "service_state"

/-- A note on something that was left out. -/
inductive Skipped where
  /-- An element of a list. -/
  | entry (kind : EntryKind) (error : DecodeError) (entry : Json)
  /-- A service of a release, by its name. -/
  | service (name : String) (error : IdentifierError)

/-! ### Decoders -/

/-- A computation of an `α` that may fail and notes what it leaves out. Notes are kept when it
fails. -/
abbrev Decoder (α : Type) := ExceptT DecodeError (StateM (List Skipped)) α

namespace Decoder

variable {α β σ : Type}

/-- The outcome of the decoder `d` and its notes, in the order in which they were taken. -/
def outcome (d : Decoder α) : Except DecodeError α × List Skipped :=
  d.run.run []

/-- Notes something that is left out. -/
def skip (s : Skipped) : Decoder Unit :=
  modify (· ++ [s])

/-- Fails because a value does not fit. -/
def mismatch (m : Mismatch) : Decoder α :=
  throw (.mismatch m)

/-- Goes on unless the text is at fault. -/
def taking (r : Except Fault α) : Decoder α :=
  match r with
  | .ok a => pure a
  | .error f => throw (.fault f)

end Decoder

open Decoder

variable {α β σ : Type}

/-- Fails on a node that is not what should stand there, `wanted`. A node that cannot be taken is at
fault itself. -/
def wrongType (wanted : Wanted) : Node → Decoder α
  | .null => mismatch (.wrongType .null wanted)
  | .boolean b => mismatch (.wrongType (.boolean b) wanted)
  | .number (some n) => mismatch (.wrongType (.number n) wanted)
  | .number none => throw (.fault .malformed)
  | .text (.ok s) => mismatch (.wrongType (.text s) wanted)
  | .text (.error f) => throw (.fault f)
  | .array _ _ => mismatch (.wrongType .sequence wanted)
  | .object _ _ => mismatch (.wrongType .map wanted)
  | .broken taken _ => throw (.fault taken)

/-- A text. -/
def text : Node → Decoder String
  | .text s => taking s
  | n => wrongType .text n

/-- Something that may be `null`, and is decoded by `d` if it is not. -/
def optional (d : Node → Decoder α) : Node → Decoder (Option α)
  | .null => pure none
  | n => some <$> d n

/-- An identifier of a kind: a text that is valid. -/
def identifier (kind : Kind) (n : Node) : Decoder (Identifier kind) := do
  match Identifier.parse kind (← text n) with
  | .ok a => return a
  | .error e => mismatch (.identifier e)

/-- Any values in an array that may be `null`, which stands for none. -/
def values (depth : Nat) : Node → Decoder (List Json)
  | .null => pure []
  | .array items ending => do
    let vs ← taking (Json.takeItems (depth + 1) items)
    taking ending.take
    return vs
  | n => wrongType .sequence n

/-- Any members of an object that may be `null`, which stands for none. -/
def anyMembers (depth : Nat) : Node → Decoder (List (String × Json))
  | .null => pure []
  | .object members ending => do
    let vs ← taking (Json.takeMembers (depth + 1) members)
    taking ending.take
    return Json.collect vs
  | n => wrongType .map n

/-- Decodes the elements of a list one by one with `d`. Those that do not fit are left out with a
note if `spare` allows it, and otherwise fail the list. -/
def elements (kind : EntryKind) (spare : Json → Bool) (d : Node → Decoder α) :
    List Json → Decoder (List α)
  | [] => pure []
  | v :: r => do
    let a ← tryCatch (some <$> d v.toNode) fun e => do
      if spare v then
        skip (.entry kind e v)
        return none
      else match e with
        | .mismatch m => mismatch (.element m)
        | .fault f => throw (.fault f)
    let as ← elements kind spare d r
    return match a with
      | some a => a :: as
      | none => as

/-! ### Records -/

/-- A field of a record that is filled while the members of an object are walked. `σ` holds the
fields that have been filled. -/
structure Slot (σ : Type) where
  /-- The name of the field. -/
  name : String
  /-- Whether an array may end before it. -/
  hasDefault : Bool
  /-- Whether it has been filled. -/
  isFilled : σ → Bool
  /-- Fills it. -/
  fill : σ → Node → Decoder σ

/-- A field that is decoded by `d`, seen and set through the two functions. -/
def Slot.of (name : String) (hasDefault : Bool) (get : σ → Option α) (set : σ → α → σ)
    (d : Node → Decoder α) : Slot σ where
  name := name
  hasDefault := hasDefault
  isFilled s := (get s).isSome
  fill s n := return set s (← d n)

/-- What is done with a member that is no field. -/
abbrev Unknown (σ : Type) := σ → String → Node → Decoder σ

/-- Passes over members that are no field. -/
def ignored : Unknown σ := fun s _ n => do
  taking n.pass
  return s

/-- Fills the field `name` with the node `n`. A field that is filled already is there twice. -/
def fillMember (slots : List (Slot σ)) (unknown : Unknown σ) (s : σ) (name : String) (n : Node) :
    Decoder σ :=
  match slots.find? (·.name == name) with
  | some slot => if slot.isFilled s then mismatch (.duplicateField name) else slot.fill s n
  | none => unknown s name n

/-- Walks the members of an object in order, and fills their fields in `s`. -/
def fillMembers (slots : List (Slot σ)) (unknown : Unknown σ) :
    σ → List (Except Fault String × Node) → Decoder σ
  | s, [] => pure s
  | s, (key, n) :: r => do
    let name ← taking key
    let s ← fillMember slots unknown s name n
    fillMembers slots unknown s r

/-- Walks the items of an array and the fields side by side. `all` is the number of items of the
whole array, `place` that of the fields already filled. -/
def fillItems (record : String) (fields all : Nat) (ending : Ending) :
    Nat → List (Slot σ) → σ → List Node → Decoder σ
  | _, [], s, [] => do
    taking ending.take
    return s
  | _, [], _, _ :: _ => mismatch (.surplus all)
  | place, slot :: slots, s, [] => do
    taking ending.take
    if slot.hasDefault then fillItems record fields all ending (place + 1) slots s []
    else mismatch (.tooFew place record fields)
  | place, slot :: slots, s, n :: r => do
    let s ← slot.fill s n
    fillItems record fields all ending (place + 1) slots s r

/-- A record that comes as an object or as an array of its fields. `slots` are the fields in order,
and `init` is what they are filled into. -/
def record (name : String) (slots : List (Slot σ)) (init : σ) : Node → Decoder σ
  | .object members ending => do
    let s ← fillMembers slots ignored init members
    taking ending.take
    return s
  | .array items ending =>
    fillItems name slots.length items.length ending 0 slots init items
  | n => wrongType (.record name) n

/-- A record that comes as an object only, and keeps the members that are no field of it, as
`unknown` says. -/
def openRecord (name : String) (slots : List (Slot σ)) (unknown : Unknown σ) (init : σ) :
    Node → Decoder σ
  | .object members ending => do
    let s ← fillMembers slots unknown init members
    taking ending.take
    return s
  | n => wrongType (.record name) n

/-- The value of the field `name`, which must be there. -/
def required (name : String) : Option α → Decoder α
  | some a => pure a
  | none => mismatch (.missingField name)

/-! ### Whole texts -/

/-- An outcome as it is seen for a whole text, of which `ended` tells whether anything follows the
value. An array that goes on behind the last field is then malformed, for a bracket should stand
there. -/
def ofText (ended : Bool) : Except DecodeError α → Except DecodeError α
  | .ok a => if ended then .ok a else .error (.fault .malformed)
  | .error (.mismatch (.surplus _)) => .error (.fault .malformed)
  | .error e => .error e

/-- Decodes the symbols of a text with `d`, and gives the notes on what was left out. -/
def decodeSymbols (d : Node → Decoder α) (s : List Text.Symbol) :
    Except DecodeError α × List Skipped :=
  let document := Json.Reader.document s
  let (result, notes) := (d document.root).outcome
  (ofText document.ended result, notes)

/-- Decodes a byte string, and gives the notes on what was left out. -/
def decodeNoting (d : Node → Decoder α) (bytes : List UInt8) :
    Except DecodeError α × List Skipped :=
  decodeSymbols d (Text.Utf8.symbols bytes)

/-- Decodes a byte string. -/
def decode (d : Node → Decoder α) (bytes : List UInt8) : Except DecodeError α :=
  (decodeNoting d bytes).1

end FleetAgent.Wire
