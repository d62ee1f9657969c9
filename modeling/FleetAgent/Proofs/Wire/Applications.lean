import FleetAgent.Proofs.Desired
import FleetAgent.Proofs.Orphans
import FleetAgent.Proofs.Wire.Forms
import FleetAgent.Proofs.Wire.Lists
/-!
# Nothing that a document lists as desired is left over

An element of the list of applications that names an application protects the observations of that
application, and those of the services in its configuration: `not_orphan_of_lists`. It is a
statement about every document that decodes, every element that it lists and every name, valid or
not.

If the element decodes, it puts its names into the desired sets (`id_of_applicationEntry`,
`services_of_applicationEntry`); if it does not, its identifier is invalid, and no observation can
have it (`not_validSegment_of_hasInvalidId`). A service that is left out of a configuration likewise
has a name that no observation can have, so `mem_validServices` loses nothing.
-/

namespace FleetAgent.Wire

open FleetAgent.Json (Node Ending)
open Decoder

/-! ### Applications -/

theorem isField_application (depth : Nat) : IsField (applicationEntrySlots depth) ignored
    "application" 0 ApplicationEntryDraft.application (application (depth + 1)) :=
  isField_of rfl rfl (fun _ _ => rfl) (by simp [applicationEntrySlots, keeps_of])
    fun _ => keeps_ignored

/-- The slot of the latest release fills `ApplicationEntryDraft.latestRelease`, and nothing else
touches it. -/
theorem isField_latestRelease (depth : Nat) : IsField (applicationEntrySlots depth) ignored
    "latestRelease" 1 ApplicationEntryDraft.latestRelease (optional (release (depth + 1))) :=
  isField_of rfl rfl (fun _ _ => rfl) (by simp [applicationEntrySlots, keeps_of])
    fun _ => keeps_ignored

/-- An application that was decoded from `w` has the text `s` as its identifier that stands
there. -/
theorem text_of_application {depth : Nat} {w : Json} {a : Application} {s : String}
    (h : (application depth w.toNode).CanYield a) (hid : w.get? "id" = some (.text s)) :
    a.id.text = s := by
  rw [← Application.decoder_form] at h
  have hread : (identifier .application (Json.text s).toNode).CanYield a.id :=
    OpenForm.canYield_of_get? h List.mem_cons_self hid
  exact (Json.text.inj (text_of_canYield_identifier hread)).symm

/-- **An entry that decodes has the identifier that it was listed with**, which stands in the member
`w` of the element `v`. -/
theorem id_of_applicationEntry {depth : Nat} {v w : Json} {e : ApplicationEntry} {s : String}
    (h : (applicationEntry depth v.toNode).CanYield e) (happ : v.get? "application" = some w)
    (hid : w.get? "id" = some (.text s)) : e.application.id.text = s := by
  obtain ⟨x, y, h⟩ := h
  rw [applicationEntry, yields_bind] at h
  obtain ⟨draft, z, hdraft, h⟩ := h
  obtain ⟨a, z', hreq, h⟩ := yields_bind.mp h
  obtain ⟨rfl, -⟩ := yields_pure.mp h
  obtain ⟨hsome, -⟩ := yields_required.mp hreq
  have hfield := (isField_application depth).record rfl hdraft
  obtain ⟨b, hb, hget⟩ := hfield.1 _ (hasField_of_get? 0 happ)
  obtain rfl := Option.some.inj (hget.symm.trans hsome)
  exact text_of_application hb hid

/-! ### Services -/

/-- The services of a configuration are its valid names: a service `s` is among them exactly if its
text is the name of a member. -/
theorem mem_validServices {members : List (String × Json)} {services : List (ServiceName × Json)}
    (h : (validServices members).CanYield services) {s : ServiceName} :
    s ∈ services.map (·.1) ↔ s.text ∈ members.map (·.1) := by
  induction members generalizing services with
  | nil =>
    obtain ⟨x, y, h⟩ := h
    obtain ⟨rfl, -⟩ := yields_pure.mp h
    simp
  | cons m members ih =>
    obtain ⟨name, v⟩ := m
    obtain ⟨x, y, h⟩ := h
    rw [validServices] at h
    split at h
    next r hr =>
      obtain ⟨rest, z, hrest, h⟩ := yields_bind.mp h
      obtain ⟨rfl, -⟩ := yields_pure.mp h
      rw [List.map_cons, List.map_cons, List.mem_cons, List.mem_cons, ih hrest.canYield]
      have hname : r.text = name := Identifier.parse_eq_ok_iff.mp hr
      refine or_congr_left ⟨fun h => h ▸ hname, fun h => ?_⟩
      exact Identifier.text_injective (h.trans hname.symm)
    next e he =>
      obtain ⟨-, z, -, h⟩ := yields_bind.mp h
      rw [ih h.canYield, List.map_cons, List.mem_cons]
      refine ⟨.inr, Or.rec (fun hs => ?_) id⟩
      -- An identifier has no invalid text.
      rw [← show s.text = name from hs, Identifier.parse_text] at he
      cases he

/-- The services of a configuration that was decoded from an object are the valid names among its
`members`. -/
theorem mem_of_config {depth : Nat} {members : List (String × Json)}
    (htake : (Json.object members).toNode.take depth = .ok (.object members))
    {services : List (ServiceName × Json)}
    (h : (config depth (Json.object members).toNode).CanYield services) {s : ServiceName} :
    s ∈ services.map (·.1) ↔ s.text ∈ members.map (·.1) := by
  obtain ⟨x, y, h⟩ := h
  obtain ⟨vs, z, hvs, h⟩ := yields_bind.mp h
  rw [mem_validServices h.canYield, eq_of_yields_anyMembers htake hvs]

/-- The services of a release `r` that was decoded are the valid names of its configuration, the
`members`. -/
theorem config_of_release {depth : Nat} {w : Json} {r : Release} {members : List (String × Json)}
    (htake : w.toNode.take depth = .ok w) (h : (release depth w.toNode).CanYield r)
    (hconfig : w.get? "config" = some (.object members)) {s : ServiceName} :
    s ∈ r.config.map (·.1) ↔ s.text ∈ members.map (·.1) := by
  rw [← Release.decoder_form] at h
  have hread : (config (depth + 1) (Json.object members).toNode).CanYield r.config :=
    OpenForm.canYield_of_get? h (List.mem_cons_of_mem _ List.mem_cons_self) hconfig
  exact mem_of_config (take_of_get? htake (Nat.le_refl _) hconfig) hread

/-- **An entry that decodes has the services of its configuration**, except for invalid names: a
service `s` is among them exactly if its text is listed. -/
theorem services_of_applicationEntry {depth : Nat} {v w : Json} {e : ApplicationEntry}
    {members : List (String × Json)} (htake : v.toNode.take depth = .ok v)
    (h : (applicationEntry depth v.toNode).CanYield e)
    (hrelease : v.get? "latestRelease" = some w)
    (hconfig : w.get? "config" = some (.object members)) {s : ServiceName} :
    s ∈ e.services ↔ s.text ∈ members.map (·.1) := by
  obtain ⟨x, y, h⟩ := h
  rw [applicationEntry, yields_bind] at h
  obtain ⟨draft, z, hdraft, h⟩ := h
  obtain ⟨a, z', -, hpure⟩ := yields_bind.mp h
  obtain ⟨rfl, -⟩ := yields_pure.mp hpure
  have hfield := (isField_latestRelease depth).record rfl hdraft
  obtain ⟨o, ⟨x', y', ho⟩, hget⟩ := hfield.1 _ (hasField_of_get? 1 hrelease)
  obtain ⟨written, rfl, -⟩ := exists_of_get? hconfig
  have hne : (Json.object written).toNode ≠ .null := fun h => Node.noConfusion h
  obtain ⟨r, hr, rfl⟩ := (yields_optional_of_ne_null hne).mp ho
  rw [ApplicationEntry.services, hget]
  exact config_of_release (take_of_get? htake (Nat.le_refl _) hrelease) hr.canYield hconfig

/-! ### Observations that are desired -/

/-- An element `v` is left out only if no application can have its identifier `s`. -/
theorem not_validSegment_of_hasInvalidId {v w : Json} {s : String} (h : hasInvalidId v = true)
    (happ : v.get? "application" = some w) (hid : w.get? "id" = some (.text s)) :
    ¬ ValidSegment s := by
  rw [hasInvalidId, happ, Option.bind_some, hid, Option.bind_some] at h
  simpa [Json.text?] using h

/-- An element that names an application is an entry of the bundle with that identifier `s`, or no
application can have `s`. -/
theorem exists_entry_of_lists {bytes : List UInt8} {b : Bundle} (h : decode bundle bytes = .ok b)
    {v w : Json} {s : String} (hv : Lists bytes "applications" 0 v)
    (happ : v.get? "application" = some w) (hid : w.get? "id" = some (.text s)) :
    (∃ e ∈ b.applications, e.application.id.text = s ∧ (applicationEntry 0 v.toNode).CanYield e) ∨
      ¬ ValidSegment s := by
  rcases (holds_of_decode h .application).kept hv with ⟨e, he, hd⟩ | ⟨hinvalid, -⟩
  · exact .inl ⟨e, he, id_of_applicationEntry hd happ hid, hd⟩
  · exact .inr (not_validSegment_of_hasInvalidId hinvalid happ hid)

/-- **Nothing that a document lists as desired is left over**, whatever else it lists. If an element
of its applications names the application `s`, then no status of an application `s` is an orphan,
and no status or state of a service of `s` that its configuration names. This holds of names that
are no identifiers as well. -/
theorem not_orphan_of_lists {bytes : List UInt8} {b : Bundle} (h : decode bundle bytes = .ok b)
    {v w : Json} {s : String} (hv : Lists bytes "applications" 0 v)
    (happ : v.get? "application" = some w) (hid : w.get? "id" = some (.text s)) :
    (∀ o ∈ ObservationKind.applicationStatus.orphans b, o.key.text ≠ s) ∧
      ∀ r members name, v.get? "latestRelease" = some r → r.get? "config" = some (.object members) →
        name ∈ members.map (·.1) →
        (∀ o ∈ ObservationKind.serviceStatus.orphans b,
          ¬ (o.key.application.text = s ∧ o.key.service.text = name)) ∧
        ∀ o ∈ ObservationKind.serviceState.orphans b,
          ¬ (o.key.application.text = s ∧ o.key.service.text = name) := by
  have hentry := exists_entry_of_lists h hv happ hid
  constructor
  · rintro o ho rfl
    obtain ⟨-, hreason⟩ := (ObservationKind.mem_orphans_iff _ b).mp ho
    obtain ⟨e, he, hs, -⟩ := hentry.resolve_right (not_not_intro o.key.valid)
    have hdesired : b.desiredApplications.classify o.key = none :=
      Bundle.classify_application_eq_none_iff.mpr ⟨e, he, Identifier.text_injective hs⟩
    exact Option.some_ne_none _ (hreason.symm.trans hdesired)
  · intro r members name hrelease hconfig hname
    obtain ⟨items, ending, n, -, -, htake⟩ := hv
    have hself : v.toNode.take 0 = .ok v := Json.take_toNode htake (Nat.zero_le _)
    -- Statuses and states of services are classified alike.
    have hdesired : ∀ key : ServiceKey, key.application.text = s → key.service.text = name →
        b.desiredServices.classify key = none := by
      rintro key rfl rfl
      obtain ⟨e, he, hs, hd⟩ := hentry.resolve_right (not_not_intro key.application.valid)
      refine Bundle.classify_service_eq_none_iff.mpr ⟨e, he, Identifier.text_injective hs, ?_⟩
      exact (services_of_applicationEntry hself hd hrelease hconfig).mpr hname
    constructor
    · rintro o ho ⟨ha, hs⟩
      obtain ⟨-, hreason⟩ := (ObservationKind.mem_orphans_iff _ b).mp ho
      exact Option.some_ne_none _ (hreason.symm.trans (hdesired o.key ha hs))
    · rintro o ho ⟨ha, hs⟩
      obtain ⟨-, hreason⟩ := (ObservationKind.mem_orphans_iff _ b).mp ho
      exact Option.some_ne_none _ (hreason.symm.trans (hdesired o.key ha hs))

/-- An entry with a service. -/
def webEntry : Json :=
  .object [("application", .object [("id", .text "a")]),
    ("latestRelease", .object [("config", .object [("web", .null)])])]

/-- A document that lists the entry behind one with an invalid identifier, and a state of its
service. -/
def webDocument : Json :=
  .object [
    ("applications", .array [.object [("application", .object [("id", .text "a b")])], webEntry]),
    ("serviceStates", .array [
      .object [("applicationId", .text "a"), ("service", .text "web")]])]

theorem exact_webDocument : webDocument.Exact := by
  simp [webDocument, webEntry, Json.Exact, Json.ExactItems, Json.ExactMembers]

/-- A service that is listed behind an entry with an invalid identifier is not left over: the entry
is left out, and those behind it are decoded. -/
theorem not_orphan_of_lists_behind_invalid :
    ∃ b, decode bundle (Text.Utf8.encode webDocument.compact) = .ok b ∧
      ObservationKind.serviceState.observed b = [⟨⟨"a", by decide⟩, ⟨"web", by decide⟩⟩] ∧
      Lists (Text.Utf8.encode webDocument.compact) "applications" 0 webEntry ∧
      ∀ o ∈ ObservationKind.serviceState.orphans b,
        ¬ (o.key.application.text = "a" ∧ o.key.service.text = "web") := by
  have hv : Lists (Text.Utf8.encode webDocument.compact) "applications" 0 webEntry :=
    lists_of_root_eq (root_compact exact_webDocument) rfl 0
      (List.mem_cons_of_mem _ List.mem_cons_self) rfl
  obtain ⟨b, hb, hobserved⟩ := exists_of_map_toOption
    (show (decode bundle (Text.Utf8.encode webDocument.compact)).toOption.map
        (ObservationKind.observed .serviceState) = some [⟨⟨"a", by decide⟩, ⟨"web", by decide⟩⟩] by
      decide +kernel)
  have hservices := (not_orphan_of_lists hb hv rfl rfl).2
  exact ⟨b, hb, hobserved, hv, (hservices _ _ "web" rfl rfl List.mem_cons_self).2⟩

end FleetAgent.Wire
