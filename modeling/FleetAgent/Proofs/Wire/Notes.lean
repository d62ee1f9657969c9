import FleetAgent.Proofs.Wire.Quiet
/-!
# What decoders note

A decoder comes to the same result whatever was noted before, and adds its own notes behind:
`Decoder.NotesOnly p d` says so, and that its own notes are all of the sort `p`. So a decoder that
only notes what is `False` notes nothing, even if it fails. Since the notes before do not matter,
the outcome of a decoder from no notes tells all of its runs (`NotesOnly.run_eq`). The building
blocks of decoders keep the property, and what a record notes is what the decoders of its fields
note (`notesOnly_record`, `notesOnly_openRecord`).

Among the fields of a record the notes of one `sort` may be those of one field, namely if the other
slots and the members that are no field take none of the `sort`. Then what was noted of the `sort`
was noted while this field was decoded; `FieldNotes` states it, and `IsField.record_noting` and
`IsField.openRecord_noting` prove it. Over the members of an object the induction goes with them,
and before the field is filled the notes of the `sort` are as they were. Over the items of an array
it goes with the slots and counts the `place` down.

A walk fails without a note at the first member that fails, if it and those before it note nothing
(`exists_fails_fillMembers`).
-/

namespace FleetAgent.Wire

open FleetAgent.Json (Fault Node Ending)

namespace Decoder

variable {α β : Type} {p q : Skipped → Prop} {d : Decoder α} {x y : List Skipped} {a : α}
  {e : DecodeError}

/-- The decoder `d` comes to the same result `r` whatever was noted before, and adds the same
`notes` behind; these are all of the sort `p`. -/
def NotesOnly (p : Skipped → Prop) (d : Decoder α) : Prop :=
  ∃ r notes, (∀ s ∈ notes, p s) ∧ ∀ x, d.run.run x = (r, x ++ notes)

/-! ### Outcomes -/

/-- **The outcome tells all runs**: from the notes `x` the decoder comes to the same result, and its
notes stand behind `x`. -/
theorem NotesOnly.run_eq (h : d.NotesOnly p) (x : List Skipped) :
    d.run.run x = (d.outcome.1, x ++ d.outcome.2) := by
  obtain ⟨r, notes, -, hrun⟩ := h
  have houtcome : d.outcome = (r, notes) := hrun []
  rw [hrun, houtcome]

theorem NotesOnly.of_mem_outcome (h : d.NotesOnly p) {s : Skipped} (hs : s ∈ d.outcome.2) :
    p s := by
  obtain ⟨r, notes, hnotes, hrun⟩ := h
  have houtcome : d.outcome = (r, notes) := hrun []
  rw [houtcome] at hs
  exact hnotes s hs

/-- The decoder gives `a` exactly if that is its outcome, and then ends with its own notes behind
`x`. -/
theorem NotesOnly.yields_iff (h : d.NotesOnly p) :
    d.Yields x a y ↔ d.outcome.1 = .ok a ∧ y = x ++ d.outcome.2 := by
  rw [Yields, h.run_eq, Prod.mk.injEq, eq_comm (a := y)]

/-- The decoder fails with `e` exactly if that is its outcome, and then ends with its own notes
behind `x`. -/
theorem NotesOnly.fails_iff (h : d.NotesOnly p) :
    d.Fails x e y ↔ d.outcome.1 = .error e ∧ y = x ++ d.outcome.2 := by
  rw [Fails, h.run_eq, Prod.mk.injEq, eq_comm (a := y)]

/-- Notes of a sort `p` are also of any sort `q` that comprises it. -/
theorem NotesOnly.imp (h : d.NotesOnly p) (hpq : ∀ s, p s → q s) : d.NotesOnly q := by
  obtain ⟨r, notes, hnotes, hrun⟩ := h
  exact ⟨r, notes, fun s hs => hpq s (hnotes s hs), hrun⟩

theorem NotesOnly.outcome_notes_eq_nil (h : d.NotesOnly fun _ => False) : d.outcome.2 = [] :=
  List.eq_nil_iff_forall_not_mem.mpr fun _ hs => h.of_mem_outcome hs

/-- Without notes the run ends with those that were there. -/
theorem NotesOnly.run_of_false (h : d.NotesOnly fun _ => False) (x : List Skipped) :
    d.run.run x = (d.outcome.1, x) := by
  rw [h.run_eq, h.outcome_notes_eq_nil, List.append_nil]

theorem NotesOnly.quiet (h : d.NotesOnly fun _ => False) : d.Quiet := by
  intro x a y hy
  have hrun : (d.outcome.1, x) = (.ok a, y) := (h.run_of_false x).symm.trans hy
  exact (Prod.mk.inj hrun).2.symm

/-- A decoder that yields no value fails, and without a note if it notes nothing. -/
theorem NotesOnly.exists_fails (h : d.NotesOnly fun _ => False) (hnot : ∀ a, ¬ d.CanYield a)
    (x : List Skipped) : ∃ e, d.Fails x e x := by
  have hrun := h.run_of_false x
  cases houtcome : d.outcome.1 with
  | ok a =>
    rw [houtcome] at hrun
    exact absurd ⟨x, x, hrun⟩ (hnot a)
  | error e =>
    rw [houtcome] at hrun
    exact ⟨e, hrun⟩

/-- Where the first step fails, so do all. -/
theorem Fails.bind {β : Type} (h : d.Fails x e y) (f : α → Decoder β) : (d >>= f).Fails x e y := by
  rw [Fails, run_bind, show d.run.run x = (.error e, y) from h]

/-- A sequence fails with `e` where its second decoder does, if the first one gives something. -/
theorem Yields.bind_fails {β : Type} {f : α → Decoder β} (h : d.Yields x a y) {z : List Skipped}
    (hf : (f a).Fails y e z) : (d >>= f).Fails x e z := by
  rw [Fails, run_bind, show d.run.run x = (.ok a, y) from h]
  exact hf

/-! ### Building blocks -/

/-- A decoder that leaves the notes as they are and comes to the same result `r` notes nothing. -/
theorem notesOnly_of_run {r : Except DecodeError α} (h : ∀ x, d.run.run x = (r, x)) :
    d.NotesOnly p :=
  ⟨r, [], by simp, fun x => by rw [h, List.append_nil]⟩

theorem notesOnly_pure : (pure a : Decoder α).NotesOnly p :=
  notesOnly_of_run fun _ => rfl

theorem notesOnly_throw : (throw e : Decoder α).NotesOnly p :=
  notesOnly_of_run fun _ => rfl

theorem notesOnly_mismatch {m : Mismatch} : (mismatch m : Decoder α).NotesOnly p :=
  notesOnly_throw

theorem notesOnly_taking {r : Except Fault α} : (taking r).NotesOnly p := by
  cases r with
  | ok a => exact notesOnly_pure
  | error f => exact notesOnly_throw

/-- A note that is taken is of the sort `p` if it is. -/
theorem notesOnly_skip {s : Skipped} (hs : p s) : (skip s).NotesOnly p :=
  ⟨.ok (), [s], by simpa using hs, fun _ => rfl⟩

/-- The notes of a sequence are those of its two decoders. Whatever was noted before the second one
starts, it adds the same. -/
theorem NotesOnly.bind {f : α → Decoder β} (hd : d.NotesOnly p) (hf : ∀ a, (f a).NotesOnly p) :
    (d >>= f).NotesOnly p := by
  obtain ⟨r, notes, hnotes, hrun⟩ := hd
  cases r with
  | error e =>
    refine ⟨.error e, notes, hnotes, fun x => ?_⟩
    rw [run_bind, hrun]
  | ok a =>
    obtain ⟨r', more, hmore, hrun'⟩ := hf a
    refine ⟨r', notes ++ more, fun s hs => ?_, fun x => ?_⟩
    · exact (List.mem_append.mp hs).elim (hnotes s) (hmore s)
    · rw [run_bind, hrun, ← List.append_assoc]
      exact hrun' _

theorem NotesOnly.map (hd : d.NotesOnly p) (g : α → β) : (g <$> d).NotesOnly p := by
  rw [map_eq_pure_bind]
  exact hd.bind fun _ => notesOnly_pure

/-- Where failures are caught, the notes are those of the decoder and of the handler. -/
theorem NotesOnly.tryCatch {f : DecodeError → Decoder α} (hd : d.NotesOnly p)
    (hf : ∀ e, (f e).NotesOnly p) : (tryCatch d f).NotesOnly p := by
  obtain ⟨r, notes, hnotes, hrun⟩ := hd
  cases r with
  | ok a =>
    refine ⟨.ok a, notes, hnotes, fun x => ?_⟩
    rw [run_tryCatch, hrun]
  | error e =>
    obtain ⟨r', more, hmore, hrun'⟩ := hf e
    refine ⟨r', notes ++ more, fun s hs => ?_, fun x => ?_⟩
    · exact (List.mem_append.mp hs).elim (hnotes s) (hmore s)
    · rw [run_tryCatch, hrun, ← List.append_assoc]
      exact hrun' _

end Decoder

open Decoder

variable {α σ : Type} {p : Skipped → Prop} {slots : List (Slot σ)} {unknown : Unknown σ}

/-! ### Single values -/

theorem notesOnly_wrongType {wanted : Wanted} {n : Node} :
    (wrongType wanted n : Decoder α).NotesOnly p := by
  match n with
  | .null | .boolean _ | .number (some _) | .text (.ok _) | .array _ _ | .object _ _ =>
    exact notesOnly_mismatch
  | .number none | .text (.error _) | .broken _ _ => exact notesOnly_throw

theorem notesOnly_text {n : Node} : (text n).NotesOnly p := by
  match n with
  | .text _ => exact notesOnly_taking
  | .null | .boolean _ | .number _ | .array _ _ | .object _ _ | .broken _ _ =>
    simp only [text]
    exact notesOnly_wrongType

theorem notesOnly_identifier {kind : Kind} {n : Node} : (identifier kind n).NotesOnly p := by
  refine notesOnly_text.bind fun s => ?_
  split
  · exact notesOnly_pure
  · exact notesOnly_mismatch

/-- What may be `null` is worth the notes of its decoder. -/
theorem notesOnly_optional {d : Node → Decoder α} (hd : ∀ n, (d n).NotesOnly p) (n : Node) :
    (optional d n).NotesOnly p := by
  match n with
  | .null => exact notesOnly_pure
  | .boolean _ | .number _ | .text _ | .array _ _ | .object _ _ | .broken _ _ =>
    exact (hd _).map some

theorem notesOnly_serviceStateKind {n : Node} : (serviceStateKind n).NotesOnly p := by
  refine (notesOnly_optional (fun _ => notesOnly_text) n).bind fun o => ?_
  cases o <;> exact notesOnly_pure

theorem notesOnly_values {depth : Nat} {n : Node} : (values depth n).NotesOnly p := by
  match n with
  | .null => exact notesOnly_pure
  | .array _ _ =>
    exact notesOnly_taking.bind fun _ => notesOnly_taking.bind fun _ => notesOnly_pure
  | .boolean _ | .number _ | .text _ | .object _ _ | .broken _ _ =>
    simp only [values]
    exact notesOnly_wrongType

theorem notesOnly_anyMembers {depth : Nat} {n : Node} : (anyMembers depth n).NotesOnly p := by
  match n with
  | .null => exact notesOnly_pure
  | .object _ _ =>
    exact notesOnly_taking.bind fun _ => notesOnly_taking.bind fun _ => notesOnly_pure
  | .boolean _ | .number _ | .text _ | .array _ _ | .broken _ _ =>
    simp only [anyMembers]
    exact notesOnly_wrongType

theorem notesOnly_required {name : String} {o : Option α} : (required name o).NotesOnly p := by
  cases o with
  | none => exact notesOnly_mismatch
  | some a => exact notesOnly_pure

/-! ### Records -/

theorem notesOnly_keep {depth : Nat} {add : σ → String → Json → σ} {s : σ} {key : String}
    {n : Node} : (keep depth add s key n).NotesOnly p :=
  notesOnly_taking.bind fun _ => notesOnly_pure

theorem notesOnly_ignored {s : σ} {key : String} {n : Node} : (ignored s key n).NotesOnly p :=
  notesOnly_taking.bind fun _ => notesOnly_pure

theorem notesOnly_fill_of {name : String} {hasDefault : Bool} {get : σ → Option α}
    {set : σ → α → σ} {d : Node → Decoder α} (hd : ∀ n, (d n).NotesOnly p) (s : σ) (n : Node) :
    ((Slot.of name hasDefault get set d).fill s n).NotesOnly p :=
  (hd n).bind fun _ => notesOnly_pure

section Records

variable (hfill : ∀ slot ∈ slots, ∀ s n, (slot.fill s n).NotesOnly p)
include hfill

/-- Filling in a member notes what the slots note, and what `unknown` notes for a key that is no
field. -/
theorem notesOnly_fillMember (hunknown : ∀ s key n, (unknown s key n).NotesOnly p) (s : σ)
    (key : String) (n : Node) : (fillMember slots unknown s key n).NotesOnly p := by
  unfold fillMember
  split
  next slot hslot =>
    split
    · exact notesOnly_mismatch
    · exact hfill slot (List.mem_of_find?_eq_some hslot) s n
  next => exact hunknown s key n

theorem notesOnly_fillMembers (hunknown : ∀ s key n, (unknown s key n).NotesOnly p) (s : σ)
    (members : List (Except Fault String × Node)) :
    (fillMembers slots unknown s members).NotesOnly p := by
  induction members generalizing s with
  | nil => exact notesOnly_pure
  | cons m members ih =>
    exact notesOnly_taking.bind fun key =>
      (notesOnly_fillMember hfill hunknown s key m.2).bind fun t => ih t

/-- A walk over items notes what the slots note. -/
theorem notesOnly_fillItems {record : String} {fields all : Nat} {ending : Ending} (place : Nat)
    (s : σ) (items : List Node) :
    (fillItems record fields all ending place slots s items).NotesOnly p := by
  induction slots generalizing place s items with
  | nil =>
    cases items with
    | nil => exact notesOnly_taking.bind fun _ => notesOnly_pure
    | cons n items => exact notesOnly_mismatch
  | cons slot slots ih =>
    obtain ⟨hslot, hslots⟩ := List.forall_mem_cons.mp hfill
    cases items with
    | nil =>
      refine notesOnly_taking.bind fun _ => ?_
      split
      · exact ih hslots _ s []
      · exact notesOnly_mismatch
    | cons n items => exact (hslot s n).bind fun t => ih hslots _ t items

/-- A record notes what its slots note: members that are no field are passed over. -/
theorem notesOnly_record (label : String) (init : σ) (n : Node) :
    (record label slots init n).NotesOnly p := by
  match n with
  | .object members ending =>
    exact (notesOnly_fillMembers hfill (fun _ _ _ => notesOnly_ignored) init members).bind
      fun _ => notesOnly_taking.bind fun _ => notesOnly_pure
  | .array items ending => exact notesOnly_fillItems hfill 0 init items
  | .null | .boolean _ | .number _ | .text _ | .broken _ _ =>
    simp only [record]
    exact notesOnly_wrongType

/-- An open record notes what its slots and `unknown` note. -/
theorem notesOnly_openRecord (hunknown : ∀ s key n, (unknown s key n).NotesOnly p)
    (label : String) (init : σ) (n : Node) :
    (openRecord label slots unknown init n).NotesOnly p := by
  match n with
  | .object members ending =>
    exact (notesOnly_fillMembers hfill hunknown init members).bind
      fun _ => notesOnly_taking.bind fun _ => notesOnly_pure
  | .null | .boolean _ | .number _ | .text _ | .array _ _ | .broken _ _ =>
    simp only [openRecord]
    exact notesOnly_wrongType

end Records

/-- **A walk fails without a note** at the member of the `key`, if that fails without a note
(`hfails`) and those in `front` of it note nothing (`hfront`). -/
theorem exists_fails_fillMembers {front back : List (Except Fault String × Node)} {key : String}
    {n : Node} (hfront : ∀ m ∈ front, ∀ k, m.1 = .ok k → ∀ s,
      (fillMember slots unknown s k m.2).NotesOnly fun _ => False)
    (hfails : ∀ s x, ∃ e, (fillMember slots unknown s key n).Fails x e x) (s : σ)
    (x : List Skipped) :
    ∃ e, (fillMembers slots unknown s (front ++ (.ok key, n) :: back)).Fails x e x := by
  induction front generalizing s with
  | nil =>
    obtain ⟨e, he⟩ := hfails s x
    have htaking : (taking (.ok key)).Yields x key x := yields_taking.mpr ⟨rfl, rfl⟩
    exact ⟨e, htaking.bind_fails (he.bind _)⟩
  | cons m front ih =>
    obtain ⟨hm, hrest⟩ := List.forall_mem_cons.mp hfront
    obtain ⟨first, node⟩ := m
    -- A key that cannot be read is a fault, before its member is looked at.
    cases first with
    | error f => exact ⟨.fault f, rfl⟩
    | ok k =>
      have hrun := (hm k rfl s).run_of_false x
      have htaking : (taking (.ok k)).Yields x k x := yields_taking.mpr ⟨rfl, rfl⟩
      cases houtcome : (fillMember slots unknown s k node).outcome.1 with
      | error e =>
        rw [houtcome] at hrun
        exact ⟨e, htaking.bind_fails (Fails.bind hrun _)⟩
      | ok u =>
        rw [houtcome] at hrun
        obtain ⟨e, he⟩ := ih hrest u
        exact ⟨e, htaking.bind_fails (Yields.bind_fails hrun he)⟩

/-! ### The notes of one field -/

section Noting

variable {β : Type} {sort : Skipped → Bool} {name : String} {place : Nat} {get : σ → Option α}
  {d : Node → Decoder α} {s t : σ} {x y : List Skipped}

/-- A decoder that takes no note of a `sort` leaves the notes of that `sort` as they were. -/
theorem filter_eq_of_notesOnly {d : Decoder β} {b : β} (h : d.NotesOnly fun s => sort s = false)
    (hy : d.Yields x b y) : y.filter sort = x.filter sort := by
  obtain ⟨-, rfl⟩ := h.yields_iff.mp hy
  have hnone : d.outcome.2.filter sort = [] :=
    List.filter_eq_nil_iff.mpr fun s hs => by simp [h.of_mem_outcome hs]
  rw [List.filter_append, hnone, List.append_nil]

/-- What a record ends up with in a field is `r`, and the notes were `x` before and are `y` behind.
Either the field is not there, has been left empty and nothing was noted of the `sort`; or it holds
what its node `m` decodes to, and what was noted of the `sort` was noted while `m` was decoded,
between `x'` and `y'`. -/
def FieldNotes (sort : Skipped → Bool) (name : String) (place : Nat) (d : Node → Decoder α)
    (n : Node) (x y : List Skipped) (r : Option α) : Prop :=
  ((∀ m, ¬ n.HasField name place m) ∧ r = none ∧ y.filter sort = x.filter sort) ∨
    ∃ m a x' y', n.HasField name place m ∧ (d m).Yields x' a y' ∧ r = some a ∧
      x'.filter sort = x.filter sort ∧ y.filter sort = y'.filter sort

namespace IsField

variable (hf : IsField slots unknown name place get d)
include hf

section Objects

variable {members : List (Except Fault String × Node)}
  (hothers : ∀ other ∈ slots.eraseIdx place, ∀ s n,
    (other.fill s n).NotesOnly fun s => sort s = false)
  (hunknown : ∀ s key n, (unknown s key n).NotesOnly fun s => sort s = false)
include hothers hunknown

/-- A member of another name than the field is worth no note of the `sort`: another slot fills it,
or none. -/
theorem notesOnly_fillMember_of_ne {key : String} (hne : key ≠ name) (s : σ) (n : Node) :
    (Wire.fillMember slots unknown s key n).NotesOnly fun s => sort s = false := by
  unfold Wire.fillMember
  split
  next other hother =>
    split
    · exact notesOnly_mismatch
    · exact hothers other (hf.mem_eraseIdx_of_find? hother hne) s n
  next => exact hunknown s key n

/-- Once the field is filled, there are no more notes of the `sort`. Another member of its name
would be there twice, and any other takes none. -/
theorem filter_eq_of_some {a : α} (ha : get s = some a)
    (h : (fillMembers slots unknown s members).Yields x t y) : y.filter sort = x.filter sort := by
  induction members generalizing s x with
  | nil =>
    obtain ⟨-, rfl⟩ := yields_pure.mp h
    rfl
  | cons m members ih =>
    obtain ⟨k, -, u, z, hm, hrest⟩ := yields_fillMembers_cons.mp h
    obtain ⟨-, hs, -⟩ | ⟨hne, hu⟩ := hf.fillMember hm
    · rw [ha] at hs
      cases hs
    · have hother := hf.notesOnly_fillMember_of_ne hothers hunknown hne s m.2
      rw [ih (hu.trans ha) hrest, filter_eq_of_notesOnly hother hm]

/-- Over the members of an object, the notes of the `sort` are those of the field: of the member
that fills it, or none if there is no such member. -/
theorem fillMembers_noting (hs : get s = none) (ending : Ending)
    (h : (fillMembers slots unknown s members).Yields x t y) :
    FieldNotes sort name place d (.object members ending) x y (get t) := by
  induction members generalizing s x with
  | nil =>
    obtain ⟨rfl, rfl⟩ := yields_pure.mp h
    refine .inl ⟨fun m hm => ?_, hs, rfl⟩
    cases hm with
    | member hm => cases hm
  | cons m members ih =>
    obtain ⟨key, n⟩ := m
    obtain ⟨k, rfl, u, z, hm, hrest⟩ := yields_fillMembers_cons.mp h
    obtain ⟨rfl, -, a, ha, hu⟩ | ⟨hne, hu⟩ := hf.fillMember hm
    · -- This member fills the field, and no other does.
      exact .inr ⟨n, a, x, z, .member List.mem_cons_self, ha, hf.fillMembers_of_some hrest hu, rfl,
        hf.filter_eq_of_some hothers hunknown hu hrest⟩
    · have hother := hf.notesOnly_fillMember_of_ne hothers hunknown hne s n
      have hzx := filter_eq_of_notesOnly hother hm
      obtain ⟨habsent, ht, hyz⟩ | ⟨m, a, x', y', hm', ha, ht, hx', hy'⟩ := ih (hu.trans hs) hrest
      · refine .inl ⟨fun m hm' => ?_, ht, hyz.trans hzx⟩
        cases hm' with
        | member hm' =>
          obtain heq | hm' := List.mem_cons.mp hm'
          · exact hne (Except.ok.inj (Prod.mk.inj heq).1).symm
          · exact habsent m (.member hm')
      · refine .inr ⟨m, a, x', y', ?_, ha, ht, hx'.trans hzx, hy'⟩
        cases hm' with
        | member hm' => exact .member (List.mem_cons_of_mem _ hm')

end Objects

end IsField

section Items

variable {record : String} {fields all : Nat} {ending : Ending} {first : Nat}
  {rest : List (Slot σ)} {items : List Node}

/-- An item `n` more in front moves the fields by one place. -/
theorem FieldNotes.cons {n : Node} {r : Option α}
    (h : FieldNotes sort name place d (.array items ending) x y r) :
    FieldNotes sort name (place + 1) d (.array (n :: items) ending) x y r := by
  obtain ⟨habsent, hrest⟩ | ⟨m, a, x', y', hm, hrest⟩ := h
  · refine .inl ⟨fun m hm => ?_, hrest⟩
    cases hm with
    | item hm => exact habsent m (.item hm)
  · cases hm with
    | item hm => exact .inr ⟨m, a, x', y', .item hm, hrest⟩

/-- No item is at any place of an empty array. -/
theorem not_hasField_nil {m : Node} : ¬ (Node.array [] ending).HasField name place m := by
  intro hm
  cases hm with
  | item hm => cases hm

/-- Over the items of an array, the notes of the `sort` are those of the item at the `place` of the
field, if there is one. The slots `rest` and the items go along together from the field `first`
on. -/
theorem fillItems_noting {slot : Slot σ} {place : Nat} (hat : rest[place]? = some slot)
    (hfill : ∀ ⦃s n x t y⦄, (slot.fill s n).Yields x t y → ∃ a, (d n).Yields x a y ∧ get t = some a)
    (hkeep : ∀ other ∈ rest.eraseIdx place, Keeps get other.fill)
    (hothers : ∀ other ∈ rest.eraseIdx place, ∀ s n,
      (other.fill s n).NotesOnly fun s => sort s = false)
    (hs : get s = none)
    (h : (fillItems record fields all ending first rest s items).Yields x t y) :
    FieldNotes sort name place d (.array items ending) x y (get t) := by
  -- The fields and the items go along together; the field is at the head when its place is zero.
  induction rest generalizing s x items first place with
  | nil => cases hat
  | cons head rest ih =>
    match items, place with
    | [], 0 =>
      rw [fillItems, yields_bind] at h
      obtain ⟨_, z, hend, h⟩ := h
      obtain ⟨-, rfl⟩ := yields_taking.mp hend
      split at h
      · have hrest : (fillItems record fields all ending (first + 1) rest s []).NotesOnly
            fun s => sort s = false := notesOnly_fillItems hothers (first + 1) s []
        exact .inl ⟨fun _ => not_hasField_nil, (fillItems_of_keeps hkeep h).trans hs,
          filter_eq_of_notesOnly hrest h⟩
      · exact absurd h (not_yields_mismatch _)
    | [], place + 1 =>
      rw [fillItems, yields_bind] at h
      obtain ⟨_, z, hend, h⟩ := h
      obtain ⟨-, rfl⟩ := yields_taking.mp hend
      split at h
      · obtain ⟨-, hrest⟩ | ⟨m, a, x', y', hm, -⟩ :=
          ih hat (fun other ho => hkeep other (List.mem_cons_of_mem _ ho))
            (fun other ho => hothers other (List.mem_cons_of_mem _ ho)) hs h
        · exact .inl ⟨fun _ => not_hasField_nil, hrest⟩
        · exact absurd hm not_hasField_nil
      · exact absurd h (not_yields_mismatch _)
    | n :: items, 0 =>
      obtain rfl : head = slot := Option.some.inj hat
      rw [fillItems, yields_bind] at h
      obtain ⟨u, z, hu, h⟩ := h
      obtain ⟨a, ha, hget⟩ := hfill hu
      have hrest : (fillItems record fields all ending (first + 1) rest u items).NotesOnly
          fun s => sort s = false := notesOnly_fillItems hothers (first + 1) u items
      exact .inr ⟨n, a, x, z, .item rfl, ha, (fillItems_of_keeps hkeep h).trans hget, rfl,
        filter_eq_of_notesOnly hrest h⟩
    | n :: items, place + 1 =>
      rw [fillItems, yields_bind] at h
      obtain ⟨u, z, hu, h⟩ := h
      have hhead : get u = get s := hkeep head List.mem_cons_self hu
      have hzx := filter_eq_of_notesOnly (hothers head List.mem_cons_self s n) hu
      have hrest := ih hat (fun other ho => hkeep other (List.mem_cons_of_mem _ ho))
        (fun other ho => hothers other (List.mem_cons_of_mem _ ho)) (hhead.trans hs) h
      unfold FieldNotes at hrest
      rw [hzx] at hrest
      exact FieldNotes.cons hrest

end Items

/-- **The notes of a record** that are of one `sort` are those of the field that takes such notes,
if the others take none (`hothers`) and the field was empty. -/
theorem IsField.record_noting (hf : IsField slots ignored name place get d)
    (hothers : ∀ other ∈ slots.eraseIdx place, ∀ s n,
      (other.fill s n).NotesOnly fun s => sort s = false)
    (hs : get s = none) {label : String} {n : Node}
    (h : (Wire.record label slots s n).Yields x t y) :
    FieldNotes sort name place d n x y (get t) := by
  match n with
  | .object members ending =>
    simp only [Wire.record, yields_bind, yields_taking, yields_pure] at h
    obtain ⟨_, _, hm, _, _, ⟨-, rfl⟩, rfl, rfl⟩ := h
    exact hf.fillMembers_noting hothers (fun _ _ _ => notesOnly_ignored) hs ending hm
  | .array items ending =>
    obtain ⟨slot, hat, -, -, hfill⟩ := hf.own
    exact fillItems_noting hat hfill hf.others hothers hs h
  | .null | .boolean _ | .number _ | .text _ | .broken _ _ =>
    simp only [Wire.record] at h
    exact absurd h not_yields_wrongType

/-- **The notes of an open record** that are of one `sort` are those of the field that takes such
notes, if neither the others (`hothers`) nor the members that are no field (`hunknown`) take any. -/
theorem IsField.openRecord_noting (hf : IsField slots unknown name place get d)
    (hothers : ∀ other ∈ slots.eraseIdx place, ∀ s n,
      (other.fill s n).NotesOnly fun s => sort s = false)
    (hunknown : ∀ s key n, (unknown s key n).NotesOnly fun s => sort s = false)
    (hs : get s = none) {label : String} {n : Node}
    (h : (Wire.openRecord label slots unknown s n).Yields x t y) :
    FieldNotes sort name place d n x y (get t) := by
  match n with
  | .object members ending =>
    simp only [Wire.openRecord, yields_bind, yields_taking, yields_pure] at h
    obtain ⟨_, _, hm, _, _, ⟨-, rfl⟩, rfl, rfl⟩ := h
    exact hf.fillMembers_noting hothers hunknown hs ending hm
  | .null | .boolean _ | .number _ | .text _ | .array _ _ | .broken _ _ =>
    simp only [Wire.openRecord] at h
    exact absurd h not_yields_wrongType

end Noting

end FleetAgent.Wire
