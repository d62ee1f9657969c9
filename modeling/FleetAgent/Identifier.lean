import FleetAgent.Text.Blank
import FleetAgent.Text.Quoted
/-!
# Identifiers

Projects, devices, applications and services are named by texts that stand as one segment in the
path of a request. An identifier is therefore a text that is not empty and holds none of the
characters that end a segment, are dropped or are rewritten on the way (`isReserved`): `/`, `?`,
`#`, `%`, blanks and controls. The four kinds are kept apart by an index of the type `Identifier`,
and validity is a field of it, so every identifier in hand is known to be valid. `Identifier.parse`
is the only way to get one from a text, and accepts all that are valid
(`Identifier.parse_eq_ok_iff`).
-/

namespace FleetAgent

/-- The four kinds of things that are named by an identifier. -/
inductive Kind where
  | project
  | device
  | application
  | service
deriving Repr, DecidableEq

/-- The words for a kind in messages. -/
def Kind.label : Kind → String
  | .project => "project id"
  | .device => "device id"
  | .application => "application id"
  | .service => "service name"

/-- The characters that no identifier holds. -/
def isReserved (c : Char) : Bool :=
  c == '/' || c == '?' || c == '#' || c == '%' || Text.isBlank c || Text.isControl c

/-- A text `s` that can stand as one segment of a path: it is not empty and holds no reserved
character. -/
def ValidSegment (s : String) : Prop :=
  s ≠ "" ∧ s.toList.find? isReserved = none

instance (s : String) : Decidable (ValidSegment s) :=
  inferInstanceAs (Decidable (_ ∧ _))

/-- An identifier of the given kind. Those of different kinds cannot be mixed up, though their texts
may be the same. -/
structure Identifier (kind : Kind) where
  /-- The text of the identifier. -/
  text : String
  /-- The text can stand as one segment of a path. -/
  valid : ValidSegment text
deriving DecidableEq

/-- The name of a project. -/
abbrev ProjectId := Identifier .project
/-- The name of a device. -/
abbrev DeviceId := Identifier .device
/-- The name of an application. -/
abbrev ApplicationId := Identifier .application
/-- The name of a service within its application. -/
abbrev ServiceName := Identifier .service

/-- Why a text is not an identifier, with the kind that was asked for. -/
inductive IdentifierError where
  /-- The text is empty. -/
  | empty (kind : Kind)
  /-- The text holds a reserved character; `c` is the first. -/
  | invalidCharacter (kind : Kind) (c : Char) (value : String)
deriving Repr, DecidableEq

namespace IdentifierError

/-- The kind of identifier that was asked for. -/
def kind : IdentifierError → Kind
  | .empty k => k
  | .invalidCharacter k _ _ => k

/-- The message for a reader. -/
def message : IdentifierError → String
  | .empty k => k.label ++ " cannot be empty"
  | .invalidCharacter k c value =>
    "invalid character " ++ Text.quoteChar c ++ " in " ++ k.label ++ " '" ++ value ++ "'"

end IdentifierError

namespace Identifier

variable {kind : Kind}

/-- Checks the text `s` and takes it as an identifier, as it is. -/
def parse (kind : Kind) (s : String) : Except IdentifierError (Identifier kind) :=
  if h : s = "" then .error (.empty kind)
  else match hc : s.toList.find? isReserved with
    | some c => .error (.invalidCharacter kind c s)
    | none => .ok ⟨s, h, hc⟩

instance : ToString (Identifier kind) := ⟨Identifier.text⟩

/-- Identifiers are ordered by the code points of their texts, which is also the order of their
UTF-8 bytes. -/
instance : Ord (Identifier kind) := ⟨compareOn Identifier.text⟩

instance : Std.TransOrd (Identifier kind) :=
  inferInstanceAs (Std.TransCmp (compareOn Identifier.text))

theorem text_injective {a b : Identifier kind} (h : a.text = b.text) : a = b := by
  cases a; cases b; simp_all

instance : Std.LawfulEqOrd (Identifier kind) where
  compare_self {a} := show compare a.text a.text = .eq from Std.ReflCmp.compare_self
  eq_of_compare {a b} h :=
    text_injective (Std.LawfulEqCmp.eq_of_compare (show compare a.text b.text = .eq from h))

/-! ### Parsing -/

@[simp]
theorem parse_text (a : Identifier kind) : parse kind a.text = .ok a := by
  obtain ⟨s, hs, hc⟩ := a
  unfold parse
  rw [dif_neg hs]
  split
  · simp_all
  · rfl

/-- **Parsing accepts exactly the valid segments**, and keeps the text as it is. -/
theorem parse_eq_ok_iff {s : String} {a : Identifier kind} :
    parse kind s = .ok a ↔ a.text = s := by
  constructor
  · intro h
    unfold parse at h
    split at h
    · cases h
    · split at h
      · cases h
      · cases h; rfl
  · rintro rfl
    exact parse_text a

/-- A text is accepted, as any kind of identifier, exactly if it is a valid segment. -/
theorem parse_isOk_iff {s : String} : (∃ a, parse kind s = .ok a) ↔ ValidSegment s :=
  ⟨fun ⟨a, h⟩ => parse_eq_ok_iff.1 h ▸ a.valid, fun h => ⟨⟨s, h⟩, parse_text ⟨s, h⟩⟩⟩

end Identifier

end FleetAgent
