import FleetAgent.Proofs.Wire.Kept
import FleetAgent.Proofs.Wire.Notes
import Mathlib.Data.List.Nodup
/-!
# Forms of open records

The open records of a bundle are decoded in one way. While the members of an object are walked, a
draft is filled; those that are no field are kept beside it; and in the end a record is made of the
draft. `OpenForm` describes such a record by its fields (`OpenField`), each with the kind of values
that it holds (`FieldKind`), and carries the laws that its draft obeys.

What is known of a record follows from its form, once for all of them:

* `OpenForm.of_canYield`: each field of a record that was decoded was read from its member, and what
  was kept are the other members;
* `OpenForm.succeeds`: an object decodes if its members can be read, field by field;
* `OpenForm.notesOnly`: decoding notes what decoding the fields notes;
* `OpenForm.readsBack_of_canYield`: a record that was decoded is decoded from what it is written as,
  if values of the kinds of its fields are (`FieldKind.Returns`);
* `OpenForm.exists_rewritten`: what is written of a record that was decoded is known key by key.

The laws are those that the walk over the members asks for. With them a field of a form is a field
of its slots (`OpenForm.isField`) and the form is an open record (`OpenForm.isOpen`), so that the
lemmas on records apply. A draft and its record hold the same in each field: `OpenField.Holds`,
which `finish` is required to establish, carries a value from the one to the other.
-/

namespace FleetAgent.Wire

open FleetAgent.Json (Node)
open Decoder

/-- The value `v` is taken within `depth` arrays and objects as one that `d` gives `a` for. -/
def ReadsBack {α : Type} (depth : Nat) (d : Node → Decoder α) (v : Json) (a : α) : Prop :=
  ∃ w, v.toNode.take depth = .ok w ∧ (d w.toNode).Gives a

/-! ### Kinds of fields -/

/-- A kind of values that a field may hold: how they are decoded and written, and what holds where
no member stands. -/
structure FieldKind where
  /-- The values. -/
  α : Type
  /-- How a value is decoded. -/
  decoder : Node → Decoder α
  /-- What is written for a value, if anything is. -/
  write : α → Option Json
  /-- What a field without a member holds. A field without such a value must have a member. -/
  default? : Option α

namespace FieldKind

variable (k : FieldKind)

/-- The value `a` is read where `w?` is the member of a field: it is decoded from the member, or is
the default if there is none. -/
def Reads (w? : Option Json) (a : k.α) : Prop :=
  match w? with
  | some w => (k.decoder w.toNode).CanYield a
  | none => k.default? = some a

/-- Some value is read where `w?` is the member of a field, whatever was noted before. Without a
member there must be a default. -/
def CanRead (w? : Option Json) : Prop :=
  match w? with
  | some w => (k.decoder w.toNode).Succeeds
  | none => k.default?.isSome

/-- The value `a` is read back from what is written for it within `depth` arrays and objects. If
nothing is written for it, it must be the default. -/
def ReadsBack (depth : Nat) (a : k.α) : Prop :=
  match k.write a with
  | some w => w.toNode.take depth = .ok w ∧ (k.decoder w.toNode).Gives a
  | none => k.default? = some a

/-- A value of the kind that was read is read back, if its member was taken within `depth` arrays
and objects or there was none. -/
def Returns (depth : Nat) : Prop :=
  ∀ ⦃w? : Option Json⦄ ⦃a : k.α⦄, (∀ w ∈ w?, w.toNode.take depth = .ok w) → k.Reads w? a →
    k.ReadsBack depth a

end FieldKind

/-! ### Forms -/

/-- A field of an open record. While the record is decoded its value stands in a draft of type `σ`,
and then in the record of type `ρ`. -/
structure OpenField (σ ρ : Type) where
  /-- The name of the member. -/
  name : String
  /-- What it holds. -/
  kind : FieldKind
  /-- Its value in a draft, if it has been filled. -/
  get : σ → Option kind.α
  /-- Fills it in a draft. -/
  set : σ → kind.α → σ
  /-- Its value in a record. -/
  value : ρ → kind.α

/-- The slot that fills the field. An array may end before it if there is a default. -/
def OpenField.slot {σ ρ : Type} (f : OpenField σ ρ) : Slot σ :=
  .of f.name f.kind.default?.isSome f.get f.set f.kind.decoder

/-- The value that the field has in the record `r` comes from the draft `s`: it was filled with it,
or it was not filled and the value is the default. -/
def OpenField.Holds {σ ρ : Type} (f : OpenField σ ρ) (s : σ) (r : ρ) : Prop :=
  match f.kind.default? with
  | some a => (f.get s).getD a = f.value r
  | none => f.get s = some (f.value r)

/-- How a record of type `ρ` is decoded by way of a draft of type `σ`. -/
structure OpenForm (σ ρ : Type) where
  /-- The name of the record in messages. -/
  label : String
  /-- The fields in the order of the record. -/
  fields : List (OpenField σ ρ)
  /-- The draft in which nothing is filled. -/
  init : σ
  /-- What a draft keeps beside the fields. -/
  extra : σ → Extra
  /-- Sets what a draft keeps. -/
  setExtra : σ → Extra → σ
  /-- What a record keeps beside the fields. -/
  kept : ρ → Extra
  /-- Makes a record of a draft. -/
  finish : σ → Decoder ρ
  /-- The fields have different names. -/
  nodup_names : (fields.map (·.name)).Nodup := by simp
  /-- No field is filled in the beginning. -/
  get_init : ∀ f ∈ fields, f.get init = none := by simp
  /-- Nothing is kept in the beginning. -/
  extra_init : extra init = [] := by rfl
  /-- A field that is set is filled. -/
  get_set : ∀ f ∈ fields, ∀ s a, f.get (f.set s a) = some a := by simp
  /-- Setting a field leaves the others. -/
  get_set_of_ne : ∀ f ∈ fields, ∀ g ∈ fields, g.name ≠ f.name → ∀ s a,
    f.get (g.set s a) = f.get s := by simp
  /-- Setting a field leaves what is kept. -/
  extra_set : ∀ f ∈ fields, ∀ s a, extra (f.set s a) = extra s := by simp
  /-- Keeping a member leaves the fields. -/
  get_setExtra : ∀ f ∈ fields, ∀ s e, f.get (setExtra s e) = f.get s := by simp
  /-- What is kept is what was set. -/
  extra_setExtra : ∀ s e, extra (setExtra s e) = e := by intros; rfl
  /-- The record that is made has its fields from the draft and keeps what the draft keeps. It is
  the only such record, and nothing is noted. -/
  yields_finish : ∀ {s x r y}, (finish s).Yields x r y ↔
      x = y ∧ extra s = kept r ∧ ∀ f ∈ fields, f.Holds s r := by
    rintro s x ⟨⟩ y
    simp only [yields_bind, yields_required, yields_pure, List.forall_mem_cons,
      List.forall_mem_nil, OpenField.Holds]
    constructor <;> intro h <;> simp_all
  /-- A record is made if every field is filled that has no default. -/
  succeeds_finish : ∀ {s}, (∀ f ∈ fields, f.kind.default? = none → ∃ a, f.get s = some a) →
    (finish s).Succeeds
  /-- If no record is made, nothing is noted either. -/
  notesOnly_finish : ∀ {s p}, (finish s).NotesOnly p

namespace OpenField

variable {σ ρ : Type} {f : OpenField σ ρ} {s : σ} {r : ρ}

/-- A field `f` that was filled with its value in the record `r` holds it in the draft `s`. -/
theorem holds_of_get (h : f.get s = some (f.value r)) : f.Holds s r := by
  rw [Holds]
  split
  · rw [h, Option.getD_some]
  · exact h

/-- A field `f` that was not filled in the draft holds its value in the record `r` if that is the
default. -/
theorem holds_of_default (hget : f.get s = none) (h : f.kind.default? = some (f.value r)) :
    f.Holds s r := by
  rw [Holds, h, hget]
  rfl

theorem Holds.value_eq (h : f.Holds s r) {a : f.kind.α} (hget : f.get s = some a) :
    f.value r = a := by
  rw [Holds] at h
  split at h
  · rw [← h, hget, Option.getD_some]
  · exact Option.some.inj (h.symm.trans hget)

theorem Holds.default?_eq (h : f.Holds s r) (hget : f.get s = none) :
    f.kind.default? = some (f.value r) := by
  rw [Holds] at h
  split at h
  next a ha => rw [ha, ← h, hget, Option.getD_none]
  next => exact absurd (h.symm.trans hget) (Option.some_ne_none _)

end OpenField

namespace OpenForm

variable {σ ρ : Type} (F : OpenForm σ ρ)

/-- The names of the fields, in the order of the record. -/
def names : List String :=
  F.fields.map (·.name)

/-- The slots of the fields, in the order of the record. -/
def slots : List (Slot σ) :=
  F.fields.map (·.slot)

/-- Keeps the member of a `key` that is no field, with its `value`, among those kept before. -/
def add (s : σ) (key : String) (value : Json) : σ :=
  F.setExtra s (Json.setMember key value (F.extra s))

/-- The record of the node `n` within `depth` arrays and objects: the draft is filled by a walk over
the members, and then finished. -/
def decoder (depth : Nat) (n : Node) : Decoder ρ := do
  F.finish (← openRecord F.label F.slots (keep (depth + 1) F.add) F.init n)

/-- The members that are written as the fields of the record `r`, in their order. A field for which
nothing is written is left out. -/
def written (r : ρ) : Extra :=
  F.fields.filterMap fun f => (f.kind.write (f.value r)).map (f.name, ·)

@[simp]
theorem map_name_slots : F.slots.map (·.name) = F.names := by
  rw [slots, List.map_map]
  rfl

/-! ### The slots of a form -/

variable {F} {f : OpenField σ ρ} {depth outer : Nat}

/-- A `slot` is found by its name if no other of the `slots` has the name. -/
theorem find?_slot {slots : List (Slot σ)} (hnodup : (slots.map (·.name)).Nodup) {slot : Slot σ}
    (hslot : slot ∈ slots) : slots.find? (·.name == slot.name) = some slot := by
  induction slots with
  | nil => cases hslot
  | cons head slots ih =>
    rw [List.map_cons, List.nodup_cons] at hnodup
    rcases List.mem_cons.mp hslot with rfl | hslot
    · exact List.find?_cons_of_pos (beq_self_eq_true _)
    · have hne : head.name ≠ slot.name := fun heq => hnodup.1 (heq ▸ List.mem_map_of_mem hslot)
      rw [List.find?_cons_of_neg (by simpa using hne)]
      exact ih hnodup.2 hslot

/-- **A field of a form is a field of its slots**: it is found under its name, and nothing else
touches it. The laws of the draft say just that. -/
theorem isField {place : Nat} (hat : F.fields[place]? = some f) :
    IsField F.slots (keep (depth + 1) F.add) f.name place f.get f.kind.decoder := by
  have hf : f ∈ F.fields := List.mem_of_getElem? hat
  have hslot : F.slots[place]? = some f.slot := by rw [slots, List.getElem?_map, hat]; rfl
  have hnodup : (F.slots.map (·.name)).Nodup := by rw [map_name_slots]; exact F.nodup_names
  refine isField_of hslot ((find?_slot hnodup (List.mem_of_getElem? hslot)).trans hslot.symm)
    (F.get_set f hf) ?_ (keeps_keep fun s _ _ => F.get_setExtra f hf s _)
  -- Another slot stands at another place, so that it has another name.
  intro other ho
  obtain ⟨i, hne, hi⟩ := List.mem_eraseIdx_iff_getElem?.mp ho
  rw [slots, List.getElem?_map, Option.map_eq_some_iff] at hi
  obtain ⟨g, hg, rfl⟩ := hi
  refine keeps_of (F.get_set_of_ne f hf g (List.mem_of_getElem? hg) fun heq => hne ?_)
  obtain ⟨hlt, -⟩ := List.getElem?_eq_some_iff.mp hg
  refine (List.getElem?_inj (by rwa [List.length_map]) F.nodup_names).mp ?_
  rw [List.getElem?_map, List.getElem?_map, hg, hat, Option.map_some, Option.map_some, heq]

/-- **A form is an open record**: each field is filled by its slot only, and what is no field is set
among what is kept. -/
theorem isOpen (F : OpenForm σ ρ) (depth : Nat) : IsOpen depth F.slots F.add F.init F.extra where
  separate slot hslot := by
    obtain ⟨place, hat⟩ := List.mem_iff_getElem?.mp hslot
    have hfield := hat
    rw [slots, List.getElem?_map, Option.map_eq_some_iff] at hfield
    obtain ⟨f, hf, rfl⟩ := hfield
    exact (isField hf).isSeparate hat
  unfilled := by
    refine List.forall_mem_map.mpr fun f hf => ?_
    show (f.get F.init).isSome = false
    rw [F.get_init f hf]
    rfl
  empty := F.extra_init
  sets s _ _ := F.extra_setExtra s _
  leaves := List.forall_mem_map.mpr fun f hf => keeps_of (F.extra_set f hf)

/-! ### Records that were decoded -/

/-- **What a record was decoded from**: an object, of which its fields were read from their members,
and whose other members it keeps as they stood there. -/
theorem of_canYield {v : Json} (htake : v.toNode.take depth = .ok v) (hle : outer ≤ depth) {r : ρ}
    (h : (F.decoder outer v.toNode).CanYield r) :
    ∃ members, v = .object members ∧ F.kept r = beside F.names members ∧
      ∀ f ∈ F.fields, f.kind.Reads (v.get? f.name) (f.value r) := by
  obtain ⟨x, y, h⟩ := h
  obtain ⟨draft, z, hdraft, hfinish⟩ := yields_bind.mp h
  obtain ⟨-, hkept, hvalues⟩ := F.yields_finish.mp hfinish
  obtain ⟨members, rfl⟩ := exists_of_openRecord hdraft
  refine ⟨members, rfl, ?_, fun f hf => ?_⟩
  · rw [← hkept, (F.isOpen outer).keeps htake hle hdraft, map_name_slots]
  · obtain ⟨place, hat⟩ := List.mem_iff_getElem?.mp hf
    have hgives := ((isField hat).openRecord (F.get_init f hf) hdraft).of_object
      (Json.sorted_of_take htake)
    -- The field was filled from its member, or stayed empty and holds its default.
    split at hgives
    next w hw =>
      obtain ⟨a, ha, hget⟩ := hgives
      rw [hw, (hvalues f hf).value_eq hget]
      exact ha
    next hnone =>
      rw [hnone]
      exact (hvalues f hf).default?_eq hgives

/-- A field `f` of a record `r` that was decoded was read from its member `w`, if it has one. -/
theorem canYield_of_get? {v w : Json} {r : ρ} (h : (F.decoder depth v.toNode).CanYield r)
    (hf : f ∈ F.fields) (hget : v.get? f.name = some w) :
    (f.kind.decoder w.toNode).CanYield (f.value r) := by
  obtain ⟨x, y, h⟩ := h
  obtain ⟨draft, z, hdraft, hfinish⟩ := yields_bind.mp h
  obtain ⟨-, -, hvalues⟩ := F.yields_finish.mp hfinish
  obtain ⟨place, hat⟩ := List.mem_iff_getElem?.mp hf
  have hgives := (isField hat).openRecord (F.get_init f hf) hdraft
  obtain ⟨a, ha, hfilled⟩ := hgives.1 _ (hasField_of_get? place hget)
  rw [(hvalues f hf).value_eq hfilled]
  exact ha

/-- What a record keeps is sorted, beside the fields, and taken as it is: it stood in a value that
was taken. -/
theorem kept_of_canYield {v : Json} (htake : v.toNode.take depth = .ok v) (hle : outer ≤ depth)
    {r : ρ} (h : (F.decoder outer v.toNode).CanYield r) :
    Kept (depth + 1) F.names (F.kept r) := by
  obtain ⟨members, rfl, hkept, -⟩ := of_canYield htake hle h
  rw [hkept]
  exact kept_beside htake

/-- **An object decodes** if each field can be read from its member, or do without. Members that are
no field do not matter. -/
theorem succeeds {members : Extra}
    (htake : (Json.object members).toNode.take depth = .ok (.object members))
    (h : ∀ f ∈ F.fields, f.kind.CanRead ((Json.object members).get? f.name)) :
    (F.decoder depth (Json.object members).toNode).Succeeds := by
  refine (openRecord_succeeds (F.isOpen depth).separate (F.isOpen depth).unfilled htake ?_).bind
    fun draft hdraft => ?_
  · refine List.forall_mem_map.mpr fun f hf w hw s => succeeds_fill_of ?_
    have hread := h f hf
    rwa [show (Json.object members).get? f.name = some w from hw] at hread
  · refine F.succeeds_finish fun f hf hrequired => ?_
    obtain ⟨x, y, hdraft⟩ := hdraft
    obtain ⟨place, hat⟩ := List.mem_iff_getElem?.mp hf
    have hgives := ((isField hat).openRecord (F.get_init f hf) hdraft).of_object
      (Json.sorted_of_take htake)
    split at hgives
    next w hw =>
      obtain ⟨a, -, hget⟩ := hgives
      exact ⟨a, hget⟩
    next hnone =>
      -- A field without a member has a default.
      have hread := h f hf
      rw [hnone, FieldKind.CanRead, hrequired] at hread
      cases hread

/-- **Decoding an open record notes** what decoding its fields notes: notes of the sort `p`, if each
field takes only such. -/
theorem notesOnly {p : Skipped → Prop} {n : Node}
    (h : ∀ f ∈ F.fields, ∀ n, (f.kind.decoder n).NotesOnly p) : (F.decoder depth n).NotesOnly p :=
  (notesOnly_openRecord (List.forall_mem_map.mpr fun f hf => notesOnly_fill_of (h f hf))
    (fun _ _ _ => notesOnly_keep) _ _ n).bind fun _ => F.notesOnly_finish

/-! ### Records that are written -/

/-- The `fields` that are written keep their order, and each is written once at most. -/
theorem map_filterMap_sublist (fields : List (OpenField σ ρ)) (r : ρ) :
    ((fields.filterMap fun f => (f.kind.write (f.value r)).map (f.name, ·)).map (·.1)).Sublist
      (fields.map (·.name)) := by
  induction fields with
  | nil => exact List.Sublist.slnil
  | cons f fields ih =>
    rw [List.filterMap_cons]
    cases f.kind.write (f.value r) with
    | none => exact ih.cons f.name
    | some w => exact ih.cons_cons f.name

theorem nodup_written (F : OpenForm σ ρ) (r : ρ) : ((F.written r).map (·.1)).Nodup :=
  F.nodup_names.sublist (map_filterMap_sublist F.fields r)

/-- A member `m` is written if it is that of a field `f`, with what the kind of `f` writes for its
value. -/
theorem mem_written {r : ρ} {m : String × Json} :
    m ∈ F.written r ↔ ∃ f ∈ F.fields, f.name = m.1 ∧ f.kind.write (f.value r) = some m.2 := by
  rw [written, List.mem_filterMap]
  refine exists_congr fun f => and_congr_right fun _ => ?_
  rw [Option.map_eq_some_iff]
  constructor
  · rintro ⟨w, hw, rfl⟩
    exact ⟨rfl, hw⟩
  · rintro ⟨hname, hw⟩
    exact ⟨m.2, hw, Prod.ext hname rfl⟩

theorem lookup_written (r : ρ) (hf : f ∈ F.fields) :
    Json.lookup f.name (F.written r) = f.kind.write (f.value r) := by
  ext w
  rw [Json.lookup_eq_some_iff (F.nodup_written r), mem_written]
  constructor
  · rintro ⟨g, hg, hname, hw⟩
    obtain rfl : g = f := List.inj_on_of_nodup_map F.nodup_names hg hf hname
    exact hw
  · intro hw
    exact ⟨f, hf, rfl, hw⟩

/-- What is written of a record `r` are `Fields`, as they may stand before what is kept, if each is
taken as it is. -/
theorem fields_written {r : ρ}
    (h : ∀ f ∈ F.fields, ∀ w ∈ f.kind.write (f.value r), w.toNode.take depth = .ok w) :
    Fields depth F.names (F.written r) where
  nodup := F.nodup_written r
  named m hm := by
    obtain ⟨f, hf, hname, -⟩ := mem_written.mp hm
    exact List.mem_map.mpr ⟨f, hf, hname⟩
  taken m hm := by
    obtain ⟨f, hf, -, hw⟩ := mem_written.mp hm
    exact h f hf m.2 hw

/-- The fields of a record `r` that was decoded are read back, if their kinds return what they read
(`hreturns`). -/
theorem readsBack_fields {v : Json} (htake : v.toNode.take depth = .ok v) (hle : outer ≤ depth)
    {r : ρ} (h : (F.decoder outer v.toNode).CanYield r)
    (hreturns : ∀ f ∈ F.fields, f.kind.Returns (depth + 1)) :
    ∀ f ∈ F.fields, f.kind.ReadsBack (depth + 1) (f.value r) := by
  intro f hf
  obtain ⟨-, -, -, hreads⟩ := of_canYield htake hle h
  exact hreturns f hf (fun w hw => take_of_get? htake (Nat.le_refl _) hw) (hreads f hf)

/-- What is written for `fields` that are read back is taken as it is. -/
theorem take_of_write {r : ρ} {fields : List (OpenField σ ρ)}
    (hfields : ∀ f ∈ fields, f.kind.ReadsBack depth (f.value r)) :
    ∀ f ∈ fields, ∀ w ∈ f.kind.write (f.value r), w.toNode.take depth = .ok w := by
  intro f hf w hw
  have hback := hfields f hf
  rw [FieldKind.ReadsBack, Option.mem_def.mp hw] at hback
  exact hback.1

/-- A record `r` is decoded from what it is written as, if its fields are read back (`hfields`) and
what it keeps is such as it is kept (`hkept`). What it kept before is found beside the fields
again. -/
theorem readsBack {r : ρ} (hkept : Kept (depth + 1) F.names (F.kept r))
    (hfields : ∀ f ∈ F.fields, f.kind.ReadsBack (depth + 1) (f.value r))
    (hdepth : depth < Json.maxNesting) (hle : outer ≤ depth) :
    ReadsBack depth (F.decoder outer) (.object (F.written r ++ F.kept r)) r := by
  have hwritten : Fields (depth + 1) F.names (F.written r) :=
    fields_written (take_of_write hfields)
  refine ⟨_, hkept.take_written hwritten hdepth, fun x => ?_⟩
  obtain ⟨draft, hdraft, hextra⟩ := (F.isOpen outer).yields_written F.label
    (by rwa [map_name_slots]) (by rwa [map_name_slots]) hdepth hle
    (List.forall_mem_map.mpr fun f hf w hw s => by
      have hback := hfields f hf
      rw [FieldKind.ReadsBack, ← lookup_written r hf, show Json.lookup f.name _ = some w from hw]
        at hback
      exact ⟨_, gives_fill_of hback.2 s⟩) x
  -- The draft was filled. Its fields are compared with those of the record one by one.
  refine yields_bind.mpr ⟨draft, x, hdraft, F.yields_finish.mpr ⟨rfl, hextra, fun f hf => ?_⟩⟩
  obtain ⟨place, hat⟩ := List.mem_iff_getElem?.mp hf
  have hgives := (isField hat).openRecord (F.get_init f hf) hdraft
  have hget : (Json.object (Json.collect (F.written r ++ F.kept r))).get? f.name =
      f.kind.write (f.value r) :=
    (hkept.get?_collect hwritten (List.mem_map_of_mem hf)).trans (lookup_written r hf)
  have hback := hfields f hf
  rw [FieldKind.ReadsBack] at hback
  cases hw : f.kind.write (f.value r) with
  | none =>
    rw [hw] at hback hget
    exact OpenField.holds_of_default (hgives.eq_none (Json.sorted_collect _) hget) hback
  | some w =>
    rw [hw] at hback hget
    exact OpenField.holds_of_get (hgives.eq_some hget hback.2)

/-- **A record that was decoded is decoded from what it is written as**: its fields are read back,
for each was read, and what it keeps came from a value that was taken. -/
theorem readsBack_of_canYield {v : Json} (htake : v.toNode.take depth = .ok v)
    (hle : outer ≤ depth) {r : ρ} (h : (F.decoder outer v.toNode).CanYield r)
    (hreturns : ∀ f ∈ F.fields, f.kind.Returns (depth + 1)) :
    ReadsBack depth (F.decoder outer) (.object (F.written r ++ F.kept r)) r := by
  obtain ⟨members, rfl, -⟩ := of_canYield htake hle h
  obtain ⟨hdepth, -⟩ := Json.take_object_eq_ok_iff.mp htake
  exact readsBack (kept_of_canYield htake hle h) (readsBack_fields htake hle h hreturns) hdepth hle

/-- **What is written of a record that was decoded is known key by key.** Where `rewritten` says
what is written under a key in the place of what stood there, and changes nothing under a key that
is no field, it suffices to look at each field. -/
theorem exists_rewritten {members : Extra} {rewritten : String → Option Json → Option Json}
    (htake : (Json.object members).toNode.take depth = .ok (.object members)) (hle : outer ≤ depth)
    {r : ρ} (h : (F.decoder outer (Json.object members).toNode).CanYield r)
    (hreturns : ∀ f ∈ F.fields, f.kind.Returns (depth + 1))
    (hnames : ∀ f ∈ F.fields, ∀ a, f.kind.Reads (Json.lookup f.name members) a →
      f.kind.write a = rewritten f.name (Json.lookup f.name members))
    (hothers : ∀ key ∉ F.names, ∀ w?, rewritten key w? = w?) :
    ∃ m, (Json.object (F.written r ++ F.kept r)).toNode.take depth = .ok (.object m) ∧
      ∀ key, Json.lookup key m = rewritten key (Json.lookup key members) := by
  obtain ⟨_, heq, hkept, hreads⟩ := of_canYield htake hle h
  obtain rfl := Json.object.inj heq
  have hbeside : Kept (depth + 1) F.names (F.kept r) := kept_of_canYield htake hle h
  have hfields : Fields (depth + 1) F.names (F.written r) :=
    fields_written (take_of_write (readsBack_fields htake hle h hreturns))
  obtain ⟨hdepth, -⟩ := Json.take_object_eq_ok_iff.mp htake
  refine ⟨_, hbeside.take_written hfields hdepth, fun key => ?_⟩
  by_cases hkey : key ∈ F.names
  · obtain ⟨f, hf, rfl⟩ := List.mem_map.mp hkey
    rw [← hnames f hf _ (hreads f hf), ← lookup_written r hf]
    exact hbeside.get?_collect hfields hkey
  -- What is not a field is looked up beside the fields, where it has always stood.
  · have hne : ∀ m ∈ F.written r, m.1 ≠ key := fun m hm heq => hkey (heq ▸ hfields.named m hm)
    rw [hothers key hkey, Json.lookup_collect (hbeside.nodup_append hfields),
      Json.lookup_append_of_not_mem_left hne, hkept, lookup_beside hkey]

end OpenForm

end FleetAgent.Wire
