import FleetAgent.Proofs.Json.Taken
import FleetAgent.Proofs.Wire.Record
import FleetAgent.Wire.Bundle
/-!
# What stands in a field

The decoders of single values, each with the nodes that it decodes and what it gives for them: a
text and an identifier come from a text node (`yields_text`, `yields_identifier`), and what is
missing fails where it is required (`yields_required`).

The members of an object that was taken as a value are the fields of its node (`hasField_of_get?`),
and are taken as they are, one level further in (`take_of_get?`). With these `FieldGives` is read
off the value alone: `FieldGives.of_object` gives what stands in a field by a look at the member of
its name. `openRecord_succeeds` says the same of success: an object decodes as an open record if the
members that are fields decode on their own.
-/

namespace FleetAgent.Wire

open FleetAgent.Json (Node Ending)
open Decoder

variable {α : Type} {n : Node} {x y : List Skipped}

/-! ### Texts and identifiers -/

/-- A node of another type gives nothing: it does not fit, or is at fault itself. -/
theorem not_yields_wrongType {wanted : Wanted} {a : α} : ¬ (wrongType wanted n).Yields x a y := by
  match n with
  | .null | .boolean _ | .number (some _) | .text (.ok _) | .array _ _ | .object _ _ =>
    exact not_yields_mismatch _
  | .number none | .text (.error _) | .broken _ _ => exact not_yields_throw _

/-- A text `s` comes from a text node without a fault, and from no other. -/
theorem yields_text {s : String} : (text n).Yields x s y ↔ n = .text (.ok s) ∧ x = y := by
  match n with
  | .text r =>
    rw [text, yields_taking, Node.text.injEq]
  | .null | .boolean _ | .number _ | .array _ _ | .object _ _ | .broken _ _ =>
    refine ⟨fun h => ?_, fun h => nomatch h.1⟩
    simp only [text] at h
    exact absurd h not_yields_wrongType

/-- An identifier `a` is a text that can stand as a segment; it comes from the node of its text and
from no other. -/
theorem yields_identifier {kind : Kind} {a : Identifier kind} :
    (identifier kind n).Yields x a y ↔ n = .text (.ok a.text) ∧ x = y := by
  rw [identifier, yields_bind]
  constructor
  · rintro ⟨s, z, hs, h⟩
    obtain ⟨rfl, rfl⟩ := yields_text.mp hs
    split at h
    next b hb =>
      obtain ⟨rfl, rfl⟩ := yields_pure.mp h
      rw [Identifier.parse_eq_ok_iff.mp hb]
      exact ⟨rfl, rfl⟩
    next => exact absurd h (not_yields_mismatch _)
  · rintro ⟨rfl, rfl⟩
    refine ⟨a.text, x, yields_text.mpr ⟨rfl, rfl⟩, ?_⟩
    rw [Identifier.parse_text]
    exact yields_pure.mpr ⟨rfl, rfl⟩

/-- What may be `null` is decoded by `d` if it is not. -/
theorem yields_optional_of_ne_null {d : Node → Decoder α} {o : Option α} (hn : n ≠ .null) :
    (optional d n).Yields x o y ↔ ∃ a, (d n).Yields x a y ∧ some a = o := by
  match n with
  | .null => exact absurd rfl hn
  | .boolean _ | .number _ | .text _ | .array _ _ | .object _ _ | .broken _ _ =>
    exact yields_map

/-- A field that is required is given if it is there, as `o`, and fails the record otherwise. -/
theorem yields_required {name : String} {o : Option α} {a : α} :
    (required name o).Yields x a y ↔ o = some a ∧ x = y := by
  cases o with
  | none => exact ⟨fun h => absurd h (not_yields_mismatch _), fun h => nomatch h.1⟩
  | some b => rw [required, yields_pure, Option.some.injEq]

theorem succeeds_required {name : String} {o : Option α} (h : ∃ a, o = some a) :
    (required name o).Succeeds := by
  obtain ⟨a, rfl⟩ := h
  exact succeeds_pure

/-! ### Lists and objects of any values -/

/-- The values of a list come from `null`, as none, or from an array that is closed and whose items
can be taken, one level further in. -/
theorem yields_values {depth : Nat} {vs : List Json} (h : (values depth n).Yields x vs y) :
    n = .null ∧ vs = [] ∨
      ∃ items, n = .array items .closed ∧ Json.takeItems (depth + 1) items = .ok vs := by
  match n with
  | .null => exact .inl ⟨rfl, (yields_pure.mp h).1.symm⟩
  | .array items ending =>
    simp only [values, yields_bind, yields_taking, yields_pure] at h
    obtain ⟨ws, -, ⟨hws, rfl⟩, u, -, ⟨hend, rfl⟩, rfl, -⟩ := h
    rw [Json.Ending.take_eq_ok_iff] at hend
    exact .inr ⟨items, by rw [hend], hws⟩
  | .boolean _ | .number _ | .text _ | .object _ _ | .broken _ _ =>
    simp only [values] at h
    exact absurd h not_yields_wrongType

/-- The `members` of a value that was taken are taken as they are: they are sorted, so
`Json.collect` changes nothing. -/
theorem eq_of_yields_anyMembers {depth : Nat} {members vs : List (String × Json)}
    (htake : (Json.object members).toNode.take depth = .ok (.object members))
    (h : (anyMembers depth (Json.object members).toNode).Yields x vs y) : vs = members := by
  obtain ⟨written, ws, hnode, hws, hcollect⟩ := Json.exists_of_take_eq_object htake
  rw [hnode] at h
  simp only [anyMembers, yields_bind, yields_taking, yields_pure] at h
  obtain ⟨us, -, ⟨hus, rfl⟩, u, -, -, hvs, -⟩ := h
  rw [hws] at hus
  rw [← hvs, hcollect, Except.ok.inj hus]

/-! ### Members of a value -/

theorem exists_of_get? {v w : Json} {name : String} (h : v.get? name = some w) :
    ∃ members, v = .object members ∧ (name, w) ∈ members := by
  cases v with
  | object members => exact ⟨members, rfl, Json.mem_of_lookup h⟩
  | null | boolean _ | number _ | text _ | array _ => cases h

/-- A member `w` of an object is a field of its node, wherever an array would have it: the `place`
is only for arrays. -/
theorem hasField_of_get? {v w : Json} {name : String} (place : Nat) (h : v.get? name = some w) :
    v.toNode.HasField name place w.toNode := by
  obtain ⟨members, rfl, hmem⟩ := exists_of_get? h
  exact .member (Json.mem_toNodeMembers.mpr ⟨w, hmem, rfl⟩)

/-- What the member of a `name` holds was taken one level further in, and so at any level further
out. -/
theorem take_of_get? {v w : Json} {name : String} {depth outer : Nat}
    (hv : v.toNode.take depth = .ok v) (hle : outer ≤ depth + 1) (h : v.get? name = some w) :
    w.toNode.take outer = .ok w := by
  obtain ⟨members, rfl, hmem⟩ := exists_of_get? h
  exact Json.take_toNode_of_mem hv hle hmem

/-- The member of that `name` is a text, if it is there. -/
def IsTextIfAny (v : Json) (name : String) : Prop :=
  ∀ w, v.get? name = some w → ∃ s, w = .text s

/-- What a record ends up with in a field that is a member of an object: what the member of that
`name` decodes to, and nothing if there is none. The members are sorted, so there is one of a name
at most. -/
theorem FieldGives.of_object {members : List (String × Json)} {name : String} {place : Nat}
    {d : Node → Decoder α} {r : Option α} (hsorted : Json.Sorted members)
    (h : FieldGives name place d (Json.object members).toNode r) :
    match (Json.object members).get? name with
    | some w => ∃ a, (d w.toNode).CanYield a ∧ r = some a
    | none => r = none := by
  split
  next w hw => exact h.1 _ (hasField_of_get? place hw)
  next hnone =>
    rcases r with _ | a
    · rfl
    · obtain ⟨m, hm, -⟩ := h.2 a rfl
      cases hm with
      | member hm =>
        obtain ⟨w, hw, -⟩ := Json.mem_toNodeMembers.mp hm
        have hget := (Json.lookup_eq_some_iff hsorted.nodup_keys).mpr hw
        exact absurd (hnone.symm.trans hget) (Option.some_ne_none w).symm

/-- Keeping a member leaves what `add` does not touch. -/
theorem keeps_keep {σ β : Type} {get : σ → β} {depth : Nat} {add : σ → String → Json → σ}
    (h : ∀ s k v, get (add s k v) = get s) (key : String) :
    Keeps get fun s n => keep depth add s key n := by
  intro s n x t y hkeep
  simp only [keep, yields_bind, yields_taking, yields_pure] at hkeep
  obtain ⟨v, -, -, rfl, -⟩ := hkeep
  exact h s key v

/-- Members that are no field are kept as they are: what was taken once can be taken again. -/
theorem succeeds_keep {σ : Type} {depth : Nat} {add : σ → String → Json → σ} {v : Json}
    (h : v.toNode.take depth = .ok v) (s : σ) (key : String) :
    (keep depth add s key v.toNode).Succeeds :=
  (succeeds_taking h).bind fun _ _ => succeeds_pure

/-- What decodes as an open record is an object. -/
theorem exists_of_openRecord {σ : Type} {label : String} {slots : List (Slot σ)}
    {unknown : Unknown σ} {init t : σ} {v : Json} {x y : List Skipped}
    (h : (openRecord label slots unknown init v.toNode).Yields x t y) :
    ∃ members, v = .object members := by
  cases v with
  | object members => exact ⟨members, rfl⟩
  | null | boolean _ | number _ | text _ | array _ =>
    simp only [Json.toNode, openRecord] at h
    exact absurd h not_yields_wrongType

/-- **An object decodes as an open record** if the `members` that are fields decode on their own,
and the slots do not interfere (`hsep`). -/
theorem openRecord_succeeds {σ : Type} {label : String} {slots : List (Slot σ)} {depth : Nat}
    {add : σ → String → Json → σ} {init : σ} {members : List (String × Json)}
    (hsep : ∀ slot ∈ slots, slot.IsSeparate slots (keep (depth + 1) add))
    (hinit : ∀ slot ∈ slots, slot.isFilled init = false)
    (htake : (Json.object members).toNode.take depth = .ok (.object members))
    (hfields : ∀ slot ∈ slots, ∀ w, (Json.object members).get? slot.name = some w →
      ∀ s, (slot.fill s w.toNode).Succeeds) :
    (openRecord label slots (keep (depth + 1) add) init (Json.object members).toNode).Succeeds := by
  have hsorted := Json.sorted_of_take htake
  refine (fillMembers_succeeds hsep hsorted.nodup_keys_toNodeMembers ?_).bind fun s _ => ?_
  · intro m hm
    rw [Json.toNodeMembers_eq_map] at hm
    obtain ⟨⟨k, w⟩, hw, rfl⟩ := List.mem_map.mp hm
    refine ⟨k, rfl, ⟨?_, fun _ s => ?_⟩, fun slot hslot _ => hinit slot hslot⟩
    · rintro slot hslot rfl
      exact hfields slot hslot w ((Json.lookup_eq_some_iff hsorted.nodup_keys).mpr hw)
    · exact succeeds_keep (Json.take_toNode_of_mem htake (Nat.le_refl _) hw) s k
  · exact (succeeds_taking rfl).bind fun _ _ => succeeds_pure

end FleetAgent.Wire
