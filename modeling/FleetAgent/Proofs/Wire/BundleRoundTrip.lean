import FleetAgent.Proofs.Wire.Entries
import FleetAgent.Proofs.Wire.Observations
import FleetAgent.Proofs.Wire.RoundTrip
/-!
# Bundles that were written are decoded

A record that was decoded is decoded from what it is written as (`ReadsBack`): its fields are found
by their names, and what it keeps is neither taken for a field nor lost among them. The forms of the
records say this of each (`OpenForm.readsBack_of_canYield`), an entry of the applications puts two
of them together (`applicationEntry_readsBack`), and the lists hold entries of four kinds
(`EntryKind.readsBack_of_mem`). Each record stands one level further in than what holds it, so the
hypotheses count the levels up to `Json.maxNesting`.

So a bundle that was decoded is written and decoded as often as one likes without a change
(`decode_compact_of_decode`), unless it keeps numbers that are not written exactly. Those are among
its `opaqueValues`, the values that the agent passes on without a look at them.
-/

namespace FleetAgent.Wire

open FleetAgent.Json (Node)
open Decoder

variable {α : Type}

/-! ### Records -/

section Records

variable {depth outer : Nat} {v : Json} (htake : v.toNode.take depth = .ok v) (hle : outer ≤ depth)
include htake hle

theorem application_readsBack {a : Application} (h : (application outer v.toNode).CanYield a) :
    ReadsBack depth (application outer) a.toJson a := by
  rw [Application.toJson_form]
  exact OpenForm.readsBack_of_canYield (F := Application.form) htake hle h
    (List.forall_mem_cons.mpr ⟨FieldKind.returns_identifier _,
      List.forall_mem_singleton.mpr FieldKind.returns_textIfAny⟩)

/-- A release `r` that was decoded is read back. Its configuration stands one level further in. -/
theorem release_readsBack (hdepth : depth + 1 < Json.maxNesting) {r : Release}
    (h : (release outer v.toNode).CanYield r) : ReadsBack depth (release outer) r.toJson r := by
  rw [Release.toJson_form outer]
  exact OpenForm.readsBack_of_canYield (F := Release.form outer) htake hle h
    (List.forall_mem_cons.mpr ⟨FieldKind.returns_textIfAny,
      List.forall_mem_singleton.mpr (FieldKind.returns_config hle hdepth)⟩)

theorem observation_readsBack (kind : ObservationKind) {e : kind.entryKind.Entry}
    (h : (kind.form.decoder outer v.toNode).CanYield e) :
    ReadsBack depth (kind.form.decoder outer) (kind.entryKind.write e) e := by
  rw [ObservationKind.write_form]
  exact OpenForm.readsBack_of_canYield htake hle h (kind.returns_form (depth + 1))

/-- A release that may be absent is read as it was written in its entry: as `null` if it is
absent. -/
theorem latestRelease_readsBack (hdepth : depth + 1 < Json.maxNesting) {latest : Option Release}
    (h : (optional (release outer) v.toNode).CanYield latest) :
    ReadsBack depth (optional (release outer)) (latest.elim .null (·.toJson)) latest := by
  obtain ⟨x, y, h⟩ := h
  cases latest with
  | none => exact ⟨.null, rfl, gives_pure none⟩
  | some r =>
    have hr : (release outer v.toNode).CanYield r := by
      by_cases hnull : v.toNode = .null
      · rw [hnull] at h
        cases (yields_pure.mp h).1
      · obtain ⟨s, hs, heq⟩ := (yields_optional_of_ne_null hnull).mp h
        obtain rfl := Option.some.inj heq
        exact hs.canYield
    obtain ⟨w, hw, hgives⟩ := release_readsBack htake hle hdepth hr
    refine ⟨w, hw, gives_optional ?_ hgives⟩
    -- What is written of a release is an object.
    obtain ⟨-, -, vs, -, rfl⟩ := Json.take_object_eq_ok_iff.mp hw
    exact fun h => Node.noConfusion h

end Records

/-! ### Entries of the applications -/

/-- What is written as the entry `e` is decoded as one, if its two members are. -/
theorem entry_readsBack {depth outer : Nat} {e : ApplicationEntry}
    (hdepth : depth < Json.maxNesting)
    (happlication : ReadsBack (depth + 1) (application (outer + 1)) e.application.toJson
      e.application)
    (hrelease : ReadsBack (depth + 1) (optional (release (outer + 1)))
      (e.latestRelease.elim .null (·.toJson)) e.latestRelease) :
    ReadsBack depth (applicationEntry outer) e.toJson e := by
  have hwritten : e.toJson = .object [("application", e.application.toJson),
      ("latestRelease", e.latestRelease.elim .null (·.toJson))] := by
    obtain ⟨a, latest⟩ := e
    cases latest <;> rfl
  rw [hwritten]
  obtain ⟨w, hw, hgives⟩ := happlication
  obtain ⟨u, hu, hlatest⟩ := hrelease
  have hsorted : Json.Sorted [("application", w), ("latestRelease", u)] := by
    simp only [Json.Sorted, List.pairwise_pair]
    decide
  refine ⟨.object [("application", w), ("latestRelease", u)], ?_, fun x => ?_⟩
  · refine Json.take_object_eq_ok_iff.mpr ⟨hdepth, rfl, _, ?_,
      congrArg Json.object (Json.collect_of_sorted hsorted)⟩
    exact Json.takeMembers_cons_eq_ok_iff.mpr ⟨_, rfl, w, hw, _,
      Json.takeMembers_cons_eq_ok_iff.mpr ⟨_, rfl, u, hu, _, rfl, rfl⟩, rfl⟩
  · -- Each of the two members fills its field.
    refine yields_bind.mpr ⟨⟨some e.application, some e.latestRelease⟩, x,
      yields_bind.mpr ⟨_, x, ?_, rfl⟩, rfl⟩
    refine yields_fillMembers_cons.mpr ⟨_, rfl, ⟨some e.application, none⟩, x, ?_, ?_⟩
    · exact yields_fill_of.mpr ⟨e.application, hgives x, rfl⟩
    · refine yields_fillMembers_cons.mpr ⟨_, rfl, ⟨some e.application, some e.latestRelease⟩, x,
        ?_, rfl⟩
      exact yields_fill_of.mpr ⟨e.latestRelease, hlatest x, rfl⟩

/-- An entry `e` that was decoded is read back. It was decoded from an object or from an array of
its fields, and is written as an object. -/
theorem applicationEntry_readsBack {depth outer : Nat} {v : Json}
    (htake : v.toNode.take depth = .ok v) (hle : outer ≤ depth)
    (hdepth : depth + 2 < Json.maxNesting) {e : ApplicationEntry}
    (h : (applicationEntry outer v.toNode).CanYield e) :
    ReadsBack depth (applicationEntry outer) e.toJson e := by
  obtain ⟨x, y, h⟩ := h
  rw [applicationEntry, yields_bind] at h
  obtain ⟨draft, z, hdraft, h⟩ := h
  obtain ⟨a, z', ha, hpure⟩ := yields_bind.mp h
  obtain ⟨rfl, -⟩ := yields_pure.mp hpure
  obtain ⟨ha, -⟩ := yields_required.mp ha
  refine entry_readsBack (by omega) ?_ ?_
  · obtain ⟨m, hm, hd⟩ := ((isField_application outer).record rfl hdraft).2 a ha
    obtain ⟨w, hw, rfl⟩ := (hasField_toNode_iff htake).mp hm
    exact application_readsBack (take_of_field? htake hw) (Nat.succ_le_succ hle) hd
  · -- A release that was not listed is none.
    cases hlatest : draft.latestRelease with
    | none => exact ⟨.null, rfl, gives_pure none⟩
    | some latest =>
      obtain ⟨m, hm, hd⟩ := ((isField_latestRelease outer).record rfl hdraft).2 latest hlatest
      obtain ⟨w, hw, rfl⟩ := (hasField_toNode_iff htake).mp hm
      exact latestRelease_readsBack (take_of_field? htake hw) (Nat.succ_le_succ hle) hdepth hd

/-- **What a bundle `b` lists that was decoded is read back**, element by element, two levels inside
the document. -/
theorem EntryKind.readsBack_of_mem {bytes : List UInt8} {b : Bundle}
    (h : decode bundle bytes = .ok b) (kind : EntryKind) :
    ∀ e ∈ kind.entries b, ReadsBack 2 kind.decoder (kind.write e) e := by
  intro e he
  obtain ⟨v, ⟨items, ending, n, -, -, hv⟩, hd⟩ := (holds_of_decode h kind).listed e he
  -- An element was taken as a value before it was decoded.
  have htake : v.toNode.take 2 = .ok v := Json.take_toNode hv (Nat.le_refl _)
  cases kind with
  | application => exact applicationEntry_readsBack htake (Nat.zero_le _) (by decide) hd
  | applicationStatus => exact observation_readsBack htake (Nat.zero_le _) .applicationStatus hd
  | serviceStatus => exact observation_readsBack htake (Nat.zero_le _) .serviceStatus hd
  | serviceState => exact observation_readsBack htake (Nat.zero_le _) .serviceState hd

/-! ### Lists -/

/-- The list `as` is read back if its elements are, and none of them is left out. -/
theorem gives_elements {kind : EntryKind} {spare : Json → Bool} {d : Node → Decoder α}
    {toJson : α → Json} {as : List α} (h : ∀ a ∈ as, ReadsBack 2 d (toJson a) a) :
    (values 1 (Json.array (as.map toJson)).toNode >>= elements kind spare d).Gives as := by
  obtain ⟨vs, hvs, helements⟩ : ∃ vs,
      Json.takeItems 2 (Json.toNodes (as.map toJson)) = .ok vs ∧
        (elements kind spare d vs).Gives as := by
    induction as with
    | nil => exact ⟨[], rfl, gives_pure []⟩
    | cons a as ih =>
      obtain ⟨v, hv, ha⟩ := h a List.mem_cons_self
      obtain ⟨vs, hvs, has⟩ := ih fun a' ha' => h a' (List.mem_cons_of_mem _ ha')
      refine ⟨v :: vs, Json.takeItems_cons_eq_ok_iff.mpr ⟨v, hv, vs, hvs, rfl⟩, ?_⟩
      exact ((ha.map some).tryCatch _).bind (has.bind (gives_pure _))
  exact ((gives_taking hvs).bind ((gives_taking rfl).bind (gives_pure vs))).bind helements

/-- The bundle `b` is read back if the elements of its four lists are. -/
theorem bundle_gives {b : Bundle}
    (h : ∀ kind : EntryKind, ∀ e ∈ kind.entries b, ReadsBack 2 kind.decoder (kind.write e) e) :
    (bundle b.toJson.toNode).Gives b := by
  have hlist : ∀ kind : EntryKind,
      (kind.decodeList (Json.array ((kind.entries b).map kind.write)).toNode).Gives
        (kind.entries b) :=
    fun kind => gives_elements (h kind)
  intro x
  refine yields_bind.mpr ⟨⟨some b.applications, some b.applicationStatuses,
    some b.serviceStatuses, some b.serviceStates⟩, x, yields_bind.mpr ⟨_, x, ?_, rfl⟩, rfl⟩
  -- Each of the four lists fills its field.
  refine yields_fillMembers_cons.mpr ⟨_, rfl, ⟨some b.applications, none, none, none⟩, x,
    yields_fill_of.mpr ⟨_, hlist .application x, rfl⟩, ?_⟩
  refine yields_fillMembers_cons.mpr ⟨_, rfl,
    ⟨some b.applications, some b.applicationStatuses, none, none⟩, x,
    yields_fill_of.mpr ⟨_, hlist .applicationStatus x, rfl⟩, ?_⟩
  refine yields_fillMembers_cons.mpr ⟨_, rfl,
    ⟨some b.applications, some b.applicationStatuses, some b.serviceStatuses, none⟩, x,
    yields_fill_of.mpr ⟨_, hlist .serviceStatus x, rfl⟩, ?_⟩
  exact yields_fillMembers_cons.mpr ⟨_, rfl, _, x,
    yields_fill_of.mpr ⟨_, hlist .serviceState x, rfl⟩, rfl⟩

/-! ### Values that the agent does not interpret -/

theorem exact_object_iff {members : List (String × Json)} :
    (Json.object members).Exact ↔ ∀ m ∈ members, m.2.Exact := by
  rw [Json.Exact]
  induction members with
  | nil => simp [Json.ExactMembers]
  | cons m members ih => rw [Json.ExactMembers, ih, List.forall_mem_cons]

theorem exact_array_iff {items : List Json} : (Json.array items).Exact ↔ ∀ v ∈ items, v.Exact := by
  rw [Json.Exact]
  induction items with
  | nil => simp [Json.ExactItems]
  | cons v items ih => rw [Json.ExactItems, ih, List.forall_mem_cons]

/-- A text is written exactly, and so is one that is left out. -/
theorem exact_of_mem_memberIfSome {name : String} {o : Option String} :
    ∀ m ∈ Json.memberIfSome name o, m.2.Exact := by
  cases o with
  | none => exact fun _ hm => absurd hm List.not_mem_nil
  | some s => exact List.forall_mem_singleton.mpr trivial

end FleetAgent.Wire

namespace FleetAgent

/-- What the agent does not interpret of a release: the values of its configuration, and the members
that are no field. -/
def Release.opaqueValues (r : Release) : List Json :=
  r.config.map (·.2) ++ r.extra.map (·.2)

/-- What the agent does not interpret of an entry: the members of the application that are no field,
and what it does not interpret of the release. -/
def ApplicationEntry.opaqueValues (e : ApplicationEntry) : List Json :=
  e.application.extra.map (·.2) ++ e.latestRelease.elim [] (·.opaqueValues)

/-- What the agent does not interpret of a bundle: that of its entries, and the members of its
observations that are no field. -/
def Bundle.opaqueValues (b : Bundle) : List Json :=
  b.applications.flatMap (·.opaqueValues) ++
    b.applicationStatuses.flatMap (·.extra.map (·.2)) ++
    b.serviceStatuses.flatMap (·.extra.map (·.2)) ++
    b.serviceStates.flatMap (·.extra.map (·.2))

namespace Wire

/-- A release is written exactly if its `opaqueValues` are. -/
theorem exact_release {r : Release} (h : ∀ v ∈ r.opaqueValues, v.Exact) : r.toJson.Exact := by
  simp only [Release.opaqueValues, List.forall_mem_append, List.forall_mem_map] at h
  refine exact_object_iff.mpr (List.forall_mem_append.mpr ⟨?_, List.forall_mem_cons.mpr ⟨?_, h.2⟩⟩)
  · exact exact_of_mem_memberIfSome
  · exact exact_object_iff.mpr (List.forall_mem_map.mpr h.1)

/-- An entry is written exactly if its `opaqueValues` are. -/
theorem exact_applicationEntry {e : ApplicationEntry} (h : ∀ v ∈ e.opaqueValues, v.Exact) :
    e.toJson.Exact := by
  obtain ⟨a, latest⟩ := e
  simp only [ApplicationEntry.opaqueValues, List.forall_mem_append, List.forall_mem_map] at h
  have happlication : a.toJson.Exact :=
    exact_object_iff.mpr (List.forall_mem_append.mpr
      ⟨List.forall_mem_cons.mpr ⟨trivial, exact_of_mem_memberIfSome⟩, h.1⟩)
  refine exact_object_iff.mpr (List.forall_mem_cons.mpr
    ⟨happlication, List.forall_mem_singleton.mpr ?_⟩)
  cases latest with
  | none => trivial
  | some r => exact exact_release h.2

/-- A bundle is written exactly if its `opaqueValues` are: all else are texts. -/
theorem exact_bundle {b : Bundle} (h : ∀ v ∈ b.opaqueValues, v.Exact) : b.toJson.Exact := by
  simp only [Bundle.opaqueValues, List.forall_mem_append, List.forall_mem_flatMap,
    List.forall_mem_map] at h
  obtain ⟨⟨⟨happs, hstatuses⟩, hservices⟩, hstates⟩ := h
  simp only [Bundle.toJson, exact_object_iff, exact_array_iff, List.forall_mem_cons,
    List.forall_mem_map]
  refine ⟨?_, ?_, ?_, ?_, fun m hm => absurd hm List.not_mem_nil⟩
  · exact fun e he => exact_applicationEntry (happs e he)
  · intro s hs
    simpa [ApplicationStatus.toJson, exact_object_iff, Json.Exact] using hstatuses s hs
  · intro s hs
    simpa [ServiceStatus.toJson, exact_object_iff, Json.Exact] using hservices s hs
  · intro s hs
    simpa [ServiceState.toJson, exact_object_iff, Json.Exact] using hstates s hs

/-! ### Written and decoded -/

/-- **A bundle that was decoded is decoded from what it is written as**, without a note and without
a change, from whatever `bytes` it came: so it is written the same, desires the same and has the
same orphans. Only its `opaqueValues` must be written exactly. -/
theorem decode_compact_of_decode {bytes : List UInt8} {b : Bundle}
    (h : decode bundle bytes = .ok b) (hexact : ∀ v ∈ b.opaqueValues, v.Exact) :
    ∃ b', decodeNoting bundle (Text.Utf8.encode b.toJson.compact) = (.ok b', []) ∧ b' = b ∧
      b'.toJson.compact = b.toJson.compact ∧
      b'.desiredApplications = b.desiredApplications ∧ b'.desiredServices = b.desiredServices ∧
      ∀ kind : ObservationKind, kind.orphans b' = kind.orphans b := by
  refine ⟨b, ?_, rfl, rfl, rfl, rfl, fun _ => rfl⟩
  exact decodeNoting_of_document (Json.Reader.document_compact (exact_bundle hexact))
    (bundle_gives (EntryKind.readsBack_of_mem h) [])

/-- A document that is an array, with an entry that is left out, a list that is `null`, members that
are no fields at every level, and a state that the agent does not know. -/
def straySpellings : Json :=
  .array [
    .array [
      .object [("application", .object [("id", .text "sh op")])],
      .object [
        ("latestRelease", .object [
          ("owner", .array [.null, .number (.integer (-2) (by decide))]),
          ("config", .object [("front", .null), ("x/y", .null)])]),
        ("application", .object [
          ("tags", .object [("z", .boolean true), ("b", .text "c")]), ("name", .null),
          ("id", .text "shop")])]],
    .null,
    .array [],
    .array [
      .object [("state", .text "melting"), ("service", .text "till"),
        ("applicationId", .text "shop")]]]

/-- What the document holds. -/
def strayBundle : Bundle where
  applications := [{
    application := {
      id := ⟨"shop", by decide⟩
      name := none
      extra := [("tags", .object [("b", .text "c"), ("z", .boolean true)])] }
    latestRelease := some {
      id := none
      config := [(⟨"front", by decide⟩, .null)]
      extra := [("owner", .array [.null, .number (.integer (-2) (by decide))])] } }]
  applicationStatuses := []
  serviceStatuses := []
  serviceStates := [{
    applicationId := ⟨"shop", by decide⟩
    service := ⟨"till", by decide⟩
    state := .other "melting"
    errorMessage := ""
    extra := [] }]

theorem decode_straySpellings :
    decode bundle (Text.Utf8.encode straySpellings.compact) = .ok strayBundle := by
  have hexact : straySpellings.Exact := by
    simp [straySpellings, Json.Exact, Json.ExactItems, Json.ExactMembers]
  rw [decode, decodeNoting, decodeSymbols, Json.Reader.document_compact hexact]
  rfl

/-- The bundle of the document is decoded from what it is written as, though the document was an
array and spelled otherwise. -/
theorem decode_compact_of_decode_stray :
    (decode bundle (Text.Utf8.encode straySpellings.compact) = .ok strayBundle ∧
      ∀ v ∈ strayBundle.opaqueValues, v.Exact) ∧
    ∃ b', decodeNoting bundle (Text.Utf8.encode strayBundle.toJson.compact) = (.ok b', []) ∧
      b' = strayBundle ∧ b'.toJson.compact = strayBundle.toJson.compact := by
  have hexact : ∀ v ∈ strayBundle.opaqueValues, v.Exact := by
    simp [strayBundle, Bundle.opaqueValues, ApplicationEntry.opaqueValues, Release.opaqueValues,
      Json.Exact, Json.ExactItems, Json.ExactMembers]
  obtain ⟨b', hb, heq, htext, -⟩ := decode_compact_of_decode decode_straySpellings hexact
  exact ⟨⟨decode_straySpellings, hexact⟩, b', hb, heq, htext⟩

end Wire

end FleetAgent
