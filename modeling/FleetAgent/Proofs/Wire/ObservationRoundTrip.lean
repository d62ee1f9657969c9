import FleetAgent.Proofs.Wire.Elements
/-!
# Observations that were read lose nothing

An observation that was decoded and is written again holds what it held
(`ObservationKind.roundTrip_keeps`): every member of the object stands there as it was, whether it
is known or not and whatever is in it, and there are no others. Only texts that may be missing
appear as what they stand for, and so does a state that is `null` (`ObservationKind.rewritten`).

The forms of the observations tell the keys that are fields from the others
(`OpenForm.exists_rewritten`), so that only what is written of a field is left to be compared with
what stood there (`ObservationKind.write_eq_rewritten`). That is so field by field, by the lemma on
the kind of the field.
-/

namespace FleetAgent

/-- What stands behind a `key` of an observation that was decoded and written again, if `w?` stood
there before. All but the fields with a default keep what stood there. -/
def ObservationKind.rewritten : ObservationKind → String → Option Json → Option Json
  | .applicationStatus, "currentReleaseId", none
  | .serviceStatus, "currentReleaseId", none
  | .serviceState, "errorMessage", none => some (.text "")
  | .serviceState, "state", none
  | .serviceState, "state", some .null => some (.text "service state unknown")
  | _, _, w? => w?

namespace ObservationKind

open Wire

theorem rewritten_of_not_mem {kind : ObservationKind} {key : String} (hkey : key ∉ kind.form.names)
    (w? : Option Json) : kind.rewritten key w? = w? := by
  rw [ObservationKind.rewritten.eq_def]
  split
  · exact absurd (by decide) hkey
  · exact absurd (by decide) hkey
  · exact absurd (by decide) hkey
  · exact absurd (by decide) hkey
  · exact absurd (by decide) hkey
  · rfl

/-- **Each field is written as what it is rewritten to**: an identifier and a text that stands there
as they are, and a text that is missing as the empty one. A state that is missing or `null` is
written as the unknown one. -/
theorem write_eq_rewritten (kind : ObservationKind) {w? : Option Json} :
    ∀ f ∈ kind.form.fields, ∀ a, f.kind.Reads w? a →
      f.kind.write a = kind.rewritten f.name w? := by
  -- What stands in a field that is a text is rewritten to itself, and nothing to the empty text.
  have htext : ∀ {name : String} {s : String}, FieldKind.text.Reads w? s →
      kind.rewritten name none = some (.text "") →
      (∀ w, kind.rewritten name (some w) = some w) →
      some (.text s) = kind.rewritten name w? := by
    intro name s hs hnone hsome
    rw [FieldKind.eq_of_reads_text hs]
    cases w? with
    | none => exact hnone.symm
    | some w => exact (hsome w).symm
  cases kind with
  | applicationStatus =>
    exact List.forall_mem_cons.mpr ⟨fun _ ha => (FieldKind.eq_of_reads_identifier ha).symm,
      List.forall_mem_singleton.mpr fun _ hs => htext hs rfl fun _ => rfl⟩
  | serviceStatus =>
    exact List.forall_mem_cons.mpr ⟨fun _ ha => (FieldKind.eq_of_reads_identifier ha).symm,
      List.forall_mem_cons.mpr ⟨fun _ ha => (FieldKind.eq_of_reads_identifier ha).symm,
        List.forall_mem_singleton.mpr fun _ hs => htext hs rfl fun _ => rfl⟩⟩
  | serviceState =>
    refine List.forall_mem_cons.mpr ⟨fun _ ha => (FieldKind.eq_of_reads_identifier ha).symm,
      List.forall_mem_cons.mpr ⟨fun _ ha => (FieldKind.eq_of_reads_identifier ha).symm,
        List.forall_mem_cons.mpr ⟨fun k hk => ?_,
          List.forall_mem_singleton.mpr fun _ hs => htext hs rfl fun _ => rfl⟩⟩⟩
    obtain rfl | ⟨rfl | rfl, rfl⟩ := FieldKind.eq_of_reads_state hk <;> rfl

/-- **Observations survive a round trip.** If an object that a text holds decodes as an observation,
that is written as an object that holds under every key what stood there, but for the texts and the
state that are written though they were missing or `null`. -/
theorem roundTrip_keeps (kind : ObservationKind) {members : List (String × Json)}
    (hv : ∃ n : Json.Node, n.take 0 = .ok (.object members)) {e : kind.entryKind.Entry}
    (h : kind.entryKind.own (.object members) = .ok e) :
    ∃ r, (kind.entryKind.write e).toNode.take 0 = .ok (.object r) ∧
      ∀ key, Json.lookup key r = kind.rewritten key (Json.lookup key members) := by
  obtain ⟨n, hn⟩ := hv
  -- What a text holds is read again as it is.
  have htake := Json.take_toNode hn (Nat.le_refl _)
  have hyield : (kind.entryKind.decoder (Json.object members).toNode).CanYield e :=
    ⟨[], _, (EntryKind.notesOnly_decoder _).yields_iff.mpr ⟨h, rfl⟩⟩
  rw [← decoder_form] at hyield
  rw [write_form]
  exact OpenForm.exists_rewritten htake (Nat.le_refl 0) hyield (kind.returns_form 1)
    (fun f hf a ha => write_eq_rewritten kind f hf a ha) fun _ hkey => rewritten_of_not_mem hkey

/-- A state that is `null`, with a member that is unknown and without a message. -/
def labelledMembers : List (String × Json) :=
  [("applicationId", .text "app1"), ("labels", .object [("zone", .array [.null, .text "b"])]),
    ("service", .text "web"), ("state", .null)]

/-- **The unknown member stays as it is**, and what was missing is written. -/
theorem roundTrip_keeps_labels :
    ∃ (e : ServiceState) (r : List (String × Json)),
      serviceState.entryKind.own (.object labelledMembers) = .ok e ∧
      e.toJson.toNode.take 0 = .ok (.object r) ∧
      (∀ key, Json.lookup key r = serviceState.rewritten key (Json.lookup key labelledMembers)) ∧
      r = [("applicationId", .text "app1"), ("errorMessage", .text ""),
        ("labels", .object [("zone", .array [.null, .text "b"])]), ("service", .text "web"),
        ("state", .text "service state unknown")] := by
  have hv : ∃ n : Json.Node, n.take 0 = .ok (.object labelledMembers) :=
    ⟨(Json.object labelledMembers).toNode, rfl⟩
  let e : ServiceState := ⟨⟨"app1", by decide⟩, ⟨"web", by decide⟩, .unknown, "",
    [("labels", .object [("zone", .array [.null, .text "b"])])]⟩
  have he : serviceState.entryKind.own (.object labelledMembers) = .ok e := by
    rfl
  obtain ⟨r, hr, hkeys⟩ := roundTrip_keeps .serviceState hv he
  exact ⟨e, r, he, hr, hkeys, (Json.object.inj (Except.ok.inj hr)).symm⟩

end ObservationKind

end FleetAgent
