import FleetAgent.Proofs.Orphans
import FleetAgent.Proofs.Wire.Forms
import FleetAgent.Proofs.Wire.Lists
/-!
# Which listed observations are left over

A document lists observations; its bundle holds those of them that decode. An element decodes
exactly if it names its observation (`Names`) and the fields that the agent reads beside the name
are of their types (`WellTyped`): `names_of_canYield` and `succeeds_of_names` are the two
directions, each by the form of the kind, whose fields are identifiers, texts and a state.

`mem_orphanKeys_iff_lists` puts this together with the classification: an observation is left over
if it is not desired and some element lists it that is well typed. An observation that is listed
only by elements with a field of a wrong type is never left over, and so never deleted, though it
has a name: `not_mem_orphanKeys_null_release`.
-/

namespace FleetAgent

namespace ObservationKind

/-- The name of the list of a kind in a document. -/
def list : ObservationKind → String
  | .applicationStatus => "applicationStatuses"
  | .serviceStatus => "serviceStatuses"
  | .serviceState => "serviceStates"

/-- The place of the list of a kind in a document that is an array. -/
def place : ObservationKind → Nat
  | .applicationStatus => 1
  | .serviceStatus => 2
  | .serviceState => 3

/-- The element of a list names the observation with this key: the members that identify it are
texts, and those of the key. -/
def Names : (kind : ObservationKind) → Json → kind.Key → Prop
  | .applicationStatus, v, a => v.get? "applicationId" = some (.text a.text)
  | .serviceStatus, v, key | .serviceState, v, key =>
    v.get? "applicationId" = some (.text key.application.text) ∧
      v.get? "service" = some (.text key.service.text)

/-- The fields of an element that are read beside its names have their types. A field that is
missing does not count; a release or a message that is `null` has the wrong type, and a state may be
`null`. -/
def WellTyped : ObservationKind → Json → Prop
  | .applicationStatus, v | .serviceStatus, v => Wire.IsTextIfAny v "currentReleaseId"
  | .serviceState, v =>
    (∀ w, v.get? "state" = some w → w = .null ∨ ∃ s, w = .text s) ∧
      Wire.IsTextIfAny v "errorMessage"

end ObservationKind

namespace ObservationKind

open Wire

/-! ### Elements of the lists -/

/-- The list of a bundle that holds the observations of a kind. -/
def entryKind : ObservationKind → EntryKind
  | .applicationStatus => .applicationStatus
  | .serviceStatus => .serviceStatus
  | .serviceState => .serviceState

/-- The draft in which an element of the list of a kind is filled. -/
abbrev Draft : ObservationKind → Type
  | .applicationStatus => ApplicationStatusDraft
  | .serviceStatus => ServiceStatusDraft
  | .serviceState => ServiceStateDraft

/-- The form of the elements of the list of a kind. -/
def form : (kind : ObservationKind) → OpenForm kind.Draft kind.entryKind.Entry
  | .applicationStatus => ApplicationStatus.form
  | .serviceStatus => ServiceStatus.form
  | .serviceState => ServiceState.form

/-- The key of the observation that an element is about. -/
def keyOf : (kind : ObservationKind) → kind.entryKind.Entry → kind.Key
  | .applicationStatus, s => s.applicationId
  | .serviceStatus, s => s.key
  | .serviceState, s => s.key

variable {kind : ObservationKind} {depth : Nat} {v : Json}

/-- The elements of the list of a kind are decoded by its form. -/
theorem decoder_form (kind : ObservationKind) : kind.form.decoder 0 = kind.entryKind.decoder := by
  cases kind <;> rfl

/-- An element of the list of a kind is written by its form. -/
theorem write_form (kind : ObservationKind) (e : kind.entryKind.Entry) :
    kind.entryKind.write e = .object (kind.form.written e ++ kind.form.kept e) := by
  cases kind <;> rfl

theorem forall_fields_form {p : FieldKind → Prop} (hid : ∀ k, p (.identifier k)) (htext : p .text)
    (hstate : p .state) (kind : ObservationKind) : ∀ f ∈ kind.form.fields, p f.kind := by
  cases kind with
  | applicationStatus =>
    exact List.forall_mem_cons.mpr ⟨hid _, List.forall_mem_singleton.mpr htext⟩
  | serviceStatus =>
    exact List.forall_mem_cons.mpr ⟨hid _, List.forall_mem_cons.mpr
      ⟨hid _, List.forall_mem_singleton.mpr htext⟩⟩
  | serviceState =>
    exact List.forall_mem_cons.mpr ⟨hid _, List.forall_mem_cons.mpr
      ⟨hid _, List.forall_mem_cons.mpr ⟨hstate, List.forall_mem_singleton.mpr htext⟩⟩⟩

theorem notesOnly_form {p : Skipped → Prop} (kind : ObservationKind) (depth : Nat) (n : Json.Node) :
    (kind.form.decoder depth n).NotesOnly p :=
  OpenForm.notesOnly <| forall_fields_form (p := fun k => ∀ n, (k.decoder n).NotesOnly p)
    (fun _ _ => notesOnly_identifier) (fun _ => notesOnly_text)
    (fun _ => notesOnly_serviceStateKind) kind

theorem returns_form (kind : ObservationKind) (depth : Nat) :
    ∀ f ∈ kind.form.fields, f.kind.Returns depth :=
  forall_fields_form (p := fun k => k.Returns depth) FieldKind.returns_identifier
    FieldKind.returns_text FieldKind.returns_state kind

/-- The observations of a bundle `b` are the keys of the entries of its list. -/
theorem observed_eq (kind : ObservationKind) (b : Bundle) :
    kind.observed b = (kind.entryKind.entries b).map kind.keyOf := by
  cases kind <;> rfl

/-- **An element `v` that decodes** to `e` names the observation of `e`, and is well typed. The form
says of each field what was read from its member. -/
theorem names_of_canYield (htake : v.toNode.take depth = .ok v) {e : kind.entryKind.Entry}
    (h : (kind.form.decoder depth v.toNode).CanYield e) :
    kind.Names v (kind.keyOf e) ∧ kind.WellTyped v := by
  obtain ⟨-, -, -, hreads⟩ := OpenForm.of_canYield htake (Nat.le_refl depth) h
  have htext : ∀ {name : String} {s : String}, FieldKind.text.Reads (v.get? name) s →
      IsTextIfAny v name := by
    intro name s hs w hw
    have heq := FieldKind.eq_of_reads_text hs
    rw [hw] at heq
    exact ⟨s, heq.symm⟩
  cases kind with
  | applicationStatus =>
    obtain ⟨hid, hrest⟩ := List.forall_mem_cons.mp hreads
    obtain ⟨hrelease, -⟩ := List.forall_mem_cons.mp hrest
    exact ⟨FieldKind.eq_of_reads_identifier hid, htext hrelease⟩
  | serviceStatus =>
    obtain ⟨hid, hrest⟩ := List.forall_mem_cons.mp hreads
    obtain ⟨hservice, hrest⟩ := List.forall_mem_cons.mp hrest
    obtain ⟨hrelease, -⟩ := List.forall_mem_cons.mp hrest
    exact ⟨⟨FieldKind.eq_of_reads_identifier hid, FieldKind.eq_of_reads_identifier hservice⟩,
      htext hrelease⟩
  | serviceState =>
    obtain ⟨hid, hrest⟩ := List.forall_mem_cons.mp hreads
    obtain ⟨hservice, hrest⟩ := List.forall_mem_cons.mp hrest
    obtain ⟨hstate, hrest⟩ := List.forall_mem_cons.mp hrest
    obtain ⟨herror, -⟩ := List.forall_mem_cons.mp hrest
    refine ⟨⟨FieldKind.eq_of_reads_identifier hid, FieldKind.eq_of_reads_identifier hservice⟩,
      fun w hw => ?_, htext herror⟩
    obtain heq | ⟨hnone | hnull, -⟩ := FieldKind.eq_of_reads_state hstate
    · exact .inr ⟨_, Option.some.inj (hw.symm.trans heq)⟩
    · cases hw.symm.trans hnone
    · exact .inl (Option.some.inj (hw.symm.trans hnull))

/-- **An element `v` decodes** if it names the observation `key` and is well typed: then each field
of its form can be read. -/
theorem succeeds_of_names (htake : v.toNode.take depth = .ok v) {key : kind.Key}
    (hkey : kind.Names v key) (htyped : kind.WellTyped v) :
    (kind.form.decoder depth v.toNode).Succeeds := by
  cases kind with
  | applicationStatus =>
    obtain ⟨members, rfl, -⟩ := exists_of_get? hkey
    refine OpenForm.succeeds htake ?_
    exact List.forall_mem_cons.mpr ⟨FieldKind.canRead_identifier hkey,
      List.forall_mem_singleton.mpr (FieldKind.canRead_text htyped)⟩
  | serviceStatus =>
    obtain ⟨hid, hservice⟩ := hkey
    obtain ⟨members, rfl, -⟩ := exists_of_get? hid
    refine OpenForm.succeeds htake ?_
    exact List.forall_mem_cons.mpr ⟨FieldKind.canRead_identifier hid, List.forall_mem_cons.mpr
      ⟨FieldKind.canRead_identifier hservice,
        List.forall_mem_singleton.mpr (FieldKind.canRead_text htyped)⟩⟩
  | serviceState =>
    obtain ⟨hid, hservice⟩ := hkey
    obtain ⟨members, rfl, -⟩ := exists_of_get? hid
    refine OpenForm.succeeds htake ?_
    exact List.forall_mem_cons.mpr ⟨FieldKind.canRead_identifier hid, List.forall_mem_cons.mpr
      ⟨FieldKind.canRead_identifier hservice, List.forall_mem_cons.mpr
        ⟨FieldKind.canRead_state htyped.1,
          List.forall_mem_singleton.mpr (FieldKind.canRead_text htyped.2)⟩⟩⟩

end ObservationKind

namespace Wire

/-! ### The observations of a document -/

variable {bytes : List UInt8} {b : Bundle}

/-- An element `v` names one observation at most, for an identifier is known by its text. -/
theorem eq_of_names {kind : ObservationKind} {v : Json} {key key' : kind.Key}
    (h : kind.Names v key) (h' : kind.Names v key') : key = key' := by
  have htext : ∀ {name : String} {k : Kind} {a c : Identifier k},
      v.get? name = some (.text a.text) → v.get? name = some (.text c.text) → a = c := by
    intro name k a c ha hc
    exact Identifier.text_injective (Json.text.inj (Option.some.inj (ha.symm.trans hc)))
  cases kind with
  | applicationStatus => exact htext h h'
  | serviceStatus | serviceState =>
    obtain ⟨a, s⟩ := key
    obtain ⟨a', s'⟩ := key'
    rw [ServiceKey.mk.injEq]
    exact ⟨htext h.1 h'.1, htext h.2 h'.2⟩

/-- **The observations of a bundle** are those that some element `v` of the document `Names` that is
`WellTyped`. An element that is left out does not decode, so it is not well typed or names none. -/
theorem mem_observed_iff_lists (h : decode bundle bytes = .ok b) (kind : ObservationKind)
    {key : kind.Key} :
    key ∈ kind.observed b ↔
      ∃ v, Lists bytes kind.list kind.place v ∧ kind.Names v key ∧ kind.WellTyped v := by
  have hholds := holds_of_decode h kind.entryKind
  rw [show kind.entryKind.name = kind.list by cases kind <;> rfl,
    show kind.entryKind.place = kind.place by cases kind <;> rfl, ← kind.decoder_form] at hholds
  have htake : ∀ {v}, Lists bytes kind.list kind.place v → v.toNode.take 0 = .ok v := by
    rintro v ⟨items, ending, n, -, -, hv⟩
    exact Json.take_toNode hv (Nat.zero_le _)
  rw [kind.observed_eq]
  constructor
  · intro hkey
    obtain ⟨e, he, rfl⟩ := List.mem_map.mp hkey
    obtain ⟨v, hv, hd⟩ := hholds.listed e he
    exact ⟨v, hv, ObservationKind.names_of_canYield (htake hv) hd⟩
  · rintro ⟨v, hv, hnames, htyped⟩
    -- What was left out does not decode, and a well-typed element does.
    obtain ⟨e, he, hd⟩ | ⟨-, hfails⟩ := hholds.kept hv
    · rw [eq_of_names hnames (ObservationKind.names_of_canYield (htake hv) hd).1]
      exact List.mem_map_of_mem he
    · exact absurd (ObservationKind.succeeds_of_names (htake hv) hnames htyped) hfails

/-- **Which listed observations are left over**: those that are not desired (`classify` gives a
reason) and that some element `v` of the document names that is well typed. -/
theorem mem_orphanKeys_iff_lists (h : decode bundle bytes = .ok b) (kind : ObservationKind)
    (key : kind.Key) :
    key ∈ kind.orphanKeys b ↔ kind.classify b key ≠ none ∧
      ∃ v, Lists bytes kind.list kind.place v ∧ kind.Names v key ∧ kind.WellTyped v := by
  rw [ObservationKind.mem_orphanKeys_iff, mem_observed_iff_lists h, and_comm]

/-- The status of an application `a` as an element of its list, with some more members. -/
def statusEntry (more : List (String × Json)) : Json :=
  .object (("applicationId", .text "a") :: more)

/-- A document that lists the element as its only status. -/
def statusDocument (more : List (String × Json)) : List UInt8 :=
  Text.Utf8.encode (Json.compact (.object [("applicationStatuses", .array [statusEntry more])]))

/-- The element is listed, if the members `more` hold integers only and are sorted. -/
theorem lists_statusDocument {more : List (String × Json)} (hexact : Json.ExactMembers more)
    (htake : (statusEntry more).toNode.take 2 = .ok (statusEntry more)) :
    Lists (statusDocument more) "applicationStatuses" 1 (statusEntry more) := by
  refine lists_of_root_eq (root_compact ?_) rfl 1 List.mem_cons_self htake
  simpa [statusEntry, Json.Exact, Json.ExactItems, Json.ExactMembers] using hexact

/-- A status without a release is left over if nothing is desired: a missing release is well
typed. -/
theorem mem_orphanKeys_iff_lists_bare_status :
    ∃ (b : Bundle) (a : ApplicationId), decode bundle (statusDocument []) = .ok b ∧
      Lists (statusDocument []) "applicationStatuses" 1 (statusEntry []) ∧
      a ∈ ObservationKind.applicationStatus.orphanKeys b := by
  have hlists : Lists (statusDocument []) "applicationStatuses" 1 (statusEntry []) :=
    lists_statusDocument trivial rfl
  obtain ⟨b, hb, hids⟩ := exists_of_map_toOption
    (show (decode bundle (statusDocument [])).toOption.map Bundle.applicationIds = some [] by
      decide +kernel)
  refine ⟨b, ⟨"a", by decide⟩, hb, hlists, ?_⟩
  refine (mem_orphanKeys_iff_lists hb .applicationStatus _).mpr
    ⟨?_, statusEntry [], hlists, rfl, ?_⟩
  · show b.desiredApplications.classify _ ≠ none
    rw [Bundle.desiredApplications, hids]
    decide
  · intro w hw
    cases hw

/-- **A status whose release is `null` is never deleted**, though it is listed with its name and not
desired. -/
theorem not_mem_orphanKeys_null_release :
    ∃ (b : Bundle) (v : Json) (a : ApplicationId),
      decode bundle (statusDocument [("currentReleaseId", .null)]) = .ok b ∧
      Lists (statusDocument [("currentReleaseId", .null)]) "applicationStatuses" 1 v ∧
      ObservationKind.applicationStatus.Names v a ∧
      ObservationKind.applicationStatus.classify b a ≠ none ∧
      a ∉ ObservationKind.applicationStatus.orphanKeys b := by
  obtain ⟨b, hb, hlists⟩ := exists_of_map_toOption
    (show (decode bundle (statusDocument [("currentReleaseId", .null)])).toOption.map
        (fun b => (b.applicationIds, ObservationKind.applicationStatus.orphanKeys b)) =
          some ([], []) by
      decide +kernel)
  obtain ⟨hids, horphans⟩ := Prod.mk.inj hlists
  refine ⟨b, statusEntry [("currentReleaseId", .null)], ⟨"a", by decide⟩, hb,
    lists_statusDocument ⟨trivial, trivial⟩ rfl, rfl, ?_, ?_⟩
  · show b.desiredApplications.classify _ ≠ none
    rw [Bundle.desiredApplications, hids]
    decide
  · rw [horphans]
    exact List.not_mem_nil

end Wire

end FleetAgent
