import FleetAgent.Proofs.Wire.BundleRoundTrip
import FleetAgent.Tunnel.ControlMessage
/-!
# Bodies that were written are decoded

What a device tells and is told piece by piece, and what it keeps, is decoded from what it is
written as (`BodyKind.roundTrip_iff`). `BodyKind` names the six kinds of bodies, and
`BodyKind.write` and `BodyKind.decoder` are what they differ in.

A record is filled member by member: each member that is written fills the field of its name
(`gives_fillMembers_of_find`), and a text that is left out leaves its field open
(`gives_fillMembers_memberIfSome`). The members of a body are put together in the order in which
they are written, by `gives_fillMembers_append`.

The one body that may come back otherwise is a report on a state that has the text of another one
(`BodyKind.canonical`). Bodies that are not of this sort are told apart by their texts, since a text
decodes to one body (`eq_of_decodeNoting`).
-/

namespace FleetAgent

open FleetAgent.Json (Node)

/-! ### States by their texts -/

/-- The state `k` is what its text stands for, unless it is an unknown state with the text of a
known one. -/
theorem ServiceStateKind.isCanonical_iff {k : ServiceStateKind} :
    k.IsCanonical ↔
      ∀ known : ServiceStateKind, (∀ s, known ≠ .other s) → k ≠ .other known.text := by
  constructor
  · rintro hk known hknown rfl
    have hother : ofText known.text = .other known.text := hk
    cases known with
    | other s => exact hknown s rfl
    | _ => cases hother
  · intro h
    cases k with
    | other s =>
      -- A text that stands for a known state would be the text of that state.
      by_contra hk
      refine h (ofText s) (fun t ht => hk ?_) (congrArg other (text_ofText s).symm)
      rw [IsCanonical, text, ht, ← text_ofText s, ht]
      rfl
    | _ => rfl

namespace Wire

open Decoder

/-! ### Records that are filled member by member -/

section Walk

variable {α σ : Type} {slots : List (Slot σ)} {unknown : Unknown σ} {name : String}
  {hasDefault : Bool} {s t u : σ}

/-- A walk over `members` and then `more` fills from the ones and goes on with the others. -/
theorem fillMembers_append {members more : List (Except Json.Fault String × Node)} :
    fillMembers slots unknown s (members ++ more) =
      fillMembers slots unknown s members >>= fun t => fillMembers slots unknown t more := by
  induction members generalizing s with
  | nil => exact (pure_bind _ _).symm
  | cons m members ih =>
    obtain ⟨key, n⟩ := m
    simp only [List.cons_append, fillMembers, bind_assoc, ih]

/-- A walk over `members` and `more` that are written behind one another gives what the second part
makes of what the first one gives. -/
theorem gives_fillMembers_append {members more : List (String × Json)}
    (h : (fillMembers slots unknown s (Json.toNodeMembers members)).Gives t)
    (hmore : (fillMembers slots unknown t (Json.toNodeMembers more)).Gives u) :
    (fillMembers slots unknown s (Json.toNodeMembers (members ++ more))).Gives u := by
  rw [Json.toNodeMembers_eq_map, List.map_append, ← Json.toNodeMembers_eq_map,
    ← Json.toNodeMembers_eq_map, fillMembers_append]
  exact h.bind hmore

/-- A member `name` that is written fills the field of that name, which was empty, with what its
value decodes to. -/
theorem gives_fillMembers_of_find {get : σ → Option α} {set : σ → α → σ} {d : Node → Decoder α}
    (hslot : slots.find? (·.name == name) = some (.of name hasDefault get set d))
    (hopen : get s = none) {w : Json} {a : α} (hd : (d w.toNode).Gives a) :
    (fillMembers slots unknown s (Json.toNodeMembers [(name, w)])).Gives (set s a) := by
  refine fun x => yields_fillMembers_cons.mpr
    ⟨name, rfl, set s a, x, ?_, yields_pure.mpr ⟨rfl, rfl⟩⟩
  have hunfilled : (Slot.of name hasDefault get set d).isFilled s = false :=
    Option.isSome_eq_false_iff.mpr (Option.isNone_iff_eq_none.mpr hopen)
  rw [fillMember, hslot]
  dsimp only
  rw [hunfilled]
  exact gives_fill_of hd s x

/-- A text that is left out when it is absent is what its field holds, and leaves it open otherwise.
`put` fills the field. -/
theorem gives_fillMembers_memberIfSome {get : σ → Option (Option String)}
    {set : σ → Option String → σ} (put : Option (Option String) → σ) (o : Option String)
    (hslot : slots.find? (·.name == name) = some (.of name hasDefault get set (optional text)))
    (hopen : get (put none) = none) (hset : ∀ a, set (put none) a = put (some a)) :
    (fillMembers slots unknown (put none) (Json.toNodeMembers (Json.memberIfSome name o))).Gives
      (put (o.map some)) := by
  cases o with
  | none => exact gives_pure _
  | some s =>
    have htext : (optional text (Json.text s).toNode).Gives (some s) :=
      gives_optional (fun h => Node.noConfusion h) (gives_text s)
    rw [Option.map_some, ← hset]
    exact gives_fillMembers_of_find hslot hopen htext

/-- A record gives what its `members` fill: the object ends without a fault. -/
theorem gives_record {label : String} {members : List (String × Json)}
    (h : (fillMembers slots ignored s (Json.toNodeMembers members)).Gives t) :
    (record label slots s (Json.object members).toNode).Gives t :=
  h.bind ((gives_taking rfl).bind (gives_pure t))

end Walk

/-- What stands in a field that was filled if there was a text is the text `o`, if any. -/
theorem getD_map_some (o : Option String) : (o.map some).getD none = o := by
  cases o <;> rfl

/-! ### Descriptions -/

/-- The description `r` of a system is decoded from what it is written as: each of its texts is
written if it is there. -/
theorem gives_osRelease (r : OsRelease) : (osRelease r.toJson.toNode).Gives r := by
  -- The members stand in the order of the fields.
  refine (gives_record (gives_fillMembers_append (gives_fillMembers_append
    (gives_fillMembers_append (gives_fillMembers_append (gives_fillMembers_append
      (gives_fillMembers_memberIfSome (fun a => OsReleaseDraft.mk a none none none none none)
        r.prettyName rfl rfl fun _ => rfl)
      (gives_fillMembers_memberIfSome (fun a => OsReleaseDraft.mk _ a none none none none)
        r.name rfl rfl fun _ => rfl))
      (gives_fillMembers_memberIfSome (fun a => OsReleaseDraft.mk _ _ a none none none)
        r.versionId rfl rfl fun _ => rfl))
      (gives_fillMembers_memberIfSome (fun a => OsReleaseDraft.mk _ _ _ a none none)
        r.version rfl rfl fun _ => rfl))
      (gives_fillMembers_memberIfSome (fun a => OsReleaseDraft.mk _ _ _ _ a none)
        r.id rfl rfl fun _ => rfl))
      (gives_fillMembers_memberIfSome (fun a => OsReleaseDraft.mk _ _ _ _ _ a)
        r.idLike rfl rfl fun _ => rfl))).bind ?_
  simp only [getD_map_some]
  exact gives_pure r

/-- The description `i` of a device is decoded from what it is written as. -/
theorem gives_deviceInfo (i : DeviceInfo) : (deviceInfo i.toJson.toNode).Gives i := by
  refine (gives_record (gives_fillMembers_append (gives_fillMembers_append
      (gives_fillMembers_of_find rfl rfl (gives_text i.agentVersion))
      (gives_fillMembers_memberIfSome (fun a => DeviceInfoDraft.mk (some i.agentVersion) a none)
        i.ipAddress rfl rfl fun _ => rfl))
      (gives_fillMembers_of_find rfl rfl (gives_osRelease i.osRelease)))).bind ?_
  refine (gives_pure i.agentVersion).bind ?_
  simp only [getD_map_some]
  exact gives_pure i

/-! ### Reports -/

/-- The report on a release is decoded from what it is written as. The `label` is only for
messages. -/
theorem gives_releaseReport (label : String) (r : ReleaseReport) :
    (releaseReport label r.toJson.toNode).Gives r :=
  (gives_record (gives_fillMembers_of_find rfl rfl (gives_text r.currentReleaseId))).bind
    ((gives_pure r.currentReleaseId).bind (gives_pure r))

/-- A state is read as what its text stands for. -/
theorem gives_serviceStateKind_text (s : String) :
    (serviceStateKind (Json.text s).toNode).Gives (.ofText s) := by
  have hgives := gives_serviceStateKind (ServiceStateKind.isCanonical_ofText s)
  rwa [ServiceStateKind.text_ofText] at hgives

/-- The report `r` comes back with the state that its text stands for (`ServiceStateKind.ofText`),
and with its message as it was. -/
theorem gives_serviceStateReport (r : ServiceStateReport) :
    (serviceStateReport r.toJson.toNode).Gives { r with state := .ofText r.state.text } := by
  have hstate := gives_serviceStateKind_text r.state.text
  rw [ServiceStateReport.toJson]
  -- An empty message is not written, and a field that is open is read as the empty message.
  split
  next hempty =>
    rw [hempty]
    exact (gives_record (gives_fillMembers_of_find rfl rfl hstate)).bind (gives_pure _)
  next =>
    exact (gives_record (gives_fillMembers_append (gives_fillMembers_of_find rfl rfl hstate)
      (gives_fillMembers_of_find rfl rfl (gives_text r.errorMessage)))).bind (gives_pure _)

/-! ### Messages on the control connection -/

/-- The message `m` on the control connection is decoded from what it is written as. -/
theorem gives_controlMessage (m : ControlMessage) :
    (ControlMessage.ofNode m.toJson.toNode).Gives m := by
  refine (gives_record (gives_fillMembers_append (gives_fillMembers_append
      (gives_fillMembers_of_find rfl rfl (gives_text m.command))
      (gives_fillMembers_memberIfSome (fun a => ControlMessage.Draft.mk (some m.command) a none)
        m.connPath rfl rfl fun _ => rfl))
      (gives_fillMembers_memberIfSome (fun a => ControlMessage.Draft.mk (some m.command) _ a)
        m.err rfl rfl fun _ => rfl))).bind ?_
  refine (gives_pure m.command).bind ?_
  simp only [getD_map_some]
  exact gives_pure m

/-! ### What can be written exactly -/

theorem exact_osRelease (r : OsRelease) : r.toJson.Exact := by
  refine exact_object_iff.mpr ?_
  simp only [OsRelease.members, List.forall_mem_append]
  exact ⟨⟨⟨⟨⟨exact_of_mem_memberIfSome, exact_of_mem_memberIfSome⟩, exact_of_mem_memberIfSome⟩,
    exact_of_mem_memberIfSome⟩, exact_of_mem_memberIfSome⟩, exact_of_mem_memberIfSome⟩

theorem exact_deviceInfo (i : DeviceInfo) : i.toJson.Exact :=
  exact_object_iff.mpr (List.forall_mem_cons.mpr ⟨trivial, List.forall_mem_append.mpr
    ⟨exact_of_mem_memberIfSome, List.forall_mem_singleton.mpr (exact_osRelease i.osRelease)⟩⟩)

theorem exact_serviceStateReport (r : ServiceStateReport) : r.toJson.Exact := by
  rw [ServiceStateReport.toJson]
  split
  · exact ⟨trivial, trivial⟩
  · exact ⟨trivial, trivial, trivial⟩

theorem exact_controlMessage (m : ControlMessage) : m.toJson.Exact :=
  exact_object_iff.mpr (List.forall_mem_cons.mpr ⟨trivial, List.forall_mem_append.mpr
    ⟨exact_of_mem_memberIfSome, exact_of_mem_memberIfSome⟩⟩)

/-! ### Bodies of all kinds -/

/-- What is written on its own. -/
inductive BodyKind where
  | applicationStatusReport
  | serviceStatusReport
  | serviceStateReport
  | deviceInfo
  | controlMessage
  | identity

namespace BodyKind

/-- A body of a kind. -/
def Body : BodyKind → Type
  | .applicationStatusReport | .serviceStatusReport => ReleaseReport
  | .serviceStateReport => ServiceStateReport
  | .deviceInfo => DeviceInfo
  | .controlMessage => ControlMessage
  | .identity => Identity

/-- A body as JSON. -/
def write : (kind : BodyKind) → kind.Body → Json
  | .applicationStatusReport, r => ReleaseReport.toJson r
  | .serviceStatusReport, r => ReleaseReport.toJson r
  | .serviceStateReport, r => ServiceStateReport.toJson r
  | .deviceInfo, i => DeviceInfo.toJson i
  | .controlMessage, m => ControlMessage.toJson m
  | .identity, i => Identity.toJson i

/-- The body of a node. -/
def decoder : (kind : BodyKind) → Node → Decoder kind.Body
  | .applicationStatusReport => Wire.applicationStatusReport
  | .serviceStatusReport => Wire.serviceStatusReport
  | .serviceStateReport => Wire.serviceStateReport
  | .deviceInfo => Wire.deviceInfo
  | .controlMessage => ControlMessage.ofNode
  | .identity => Wire.identity

/-- What a body comes back as: a state as what its text stands for. -/
def canonical : (kind : BodyKind) → kind.Body → kind.Body
  | .serviceStateReport, r =>
    { state := .ofText (ServiceStateReport.state r).text, errorMessage := r.errorMessage }
  | .applicationStatusReport, r => r
  | .serviceStatusReport, r => r
  | .deviceInfo, i => i
  | .controlMessage, m => m
  | .identity, i => i

/-- Whether a body is no report on an unknown state that has the text of a known one. -/
def IsCanonical : (kind : BodyKind) → kind.Body → Prop
  | .serviceStateReport, r => ∀ known : ServiceStateKind, (∀ s, known ≠ .other s) →
    ServiceStateReport.state r ≠ .other known.text
  | _, _ => True

variable {kind : BodyKind} {b b' : kind.Body}

theorem canonical_eq_self_iff : kind.canonical b = b ↔ kind.IsCanonical b := by
  cases kind with
  | serviceStateReport =>
    obtain ⟨state, message⟩ := b
    refine Iff.trans ?_ ServiceStateKind.isCanonical_iff
    exact ⟨fun h => (ServiceStateReport.mk.inj h).1,
      fun h => congrArg (ServiceStateReport.mk · message) h⟩
  | _ => exact iff_of_true rfl trivial

/-- The body `b` is decoded from its value as `kind.canonical b`, without a note. -/
theorem gives_canonical (kind : BodyKind) (b : kind.Body) :
    (kind.decoder (kind.write b).toNode).Gives (kind.canonical b) := by
  cases kind with
  | applicationStatusReport => exact gives_releaseReport _ b
  | serviceStatusReport => exact gives_releaseReport _ b
  | serviceStateReport => exact gives_serviceStateReport b
  | deviceInfo => exact gives_deviceInfo b
  | controlMessage => exact gives_controlMessage b
  | identity => exact yields_identity b

theorem exact_write (kind : BodyKind) (b : kind.Body) : (kind.write b).Exact := by
  cases kind with
  | applicationStatusReport => exact ⟨trivial, trivial⟩
  | serviceStatusReport => exact ⟨trivial, trivial⟩
  | serviceStateReport => exact exact_serviceStateReport b
  | deviceInfo => exact exact_deviceInfo b
  | controlMessage => exact exact_controlMessage b
  | identity => exact exact_identity b

/-- The body `b` is decoded from its compact text as `kind.canonical b`. -/
theorem decodeNoting_compact (kind : BodyKind) (b : kind.Body) :
    decodeNoting kind.decoder (Text.Utf8.encode (kind.write b).compact) =
      (.ok (kind.canonical b), []) :=
  decodeNoting_of_document (Json.Reader.document_compact (exact_write kind b))
    (gives_canonical kind b [])

/-- The body `b` is decoded from its indented text as `kind.canonical b`. -/
theorem decodeNoting_indented (kind : BodyKind) (b : kind.Body) :
    decodeNoting kind.decoder (Text.Utf8.encode (kind.write b).indented) =
      (.ok (kind.canonical b), []) :=
  decodeNoting_of_document (Json.Reader.document_indented (exact_write kind b))
    (gives_canonical kind b [])

theorem comes_back_iff :
    ((.ok (kind.canonical b), []) : Except DecodeError kind.Body × List Skipped) = (.ok b, []) ↔
      kind.IsCanonical b := by
  rw [← canonical_eq_self_iff, Prod.mk.injEq, Except.ok.injEq, and_iff_left rfl]

/-- Texts that decode alike are those of one body, if both bodies are canonical: `canonical` changes
neither. -/
theorem eq_of_decodeNoting {text text' : String} (hb : kind.IsCanonical b)
    (hb' : kind.IsCanonical b')
    (h : decodeNoting kind.decoder (Text.Utf8.encode text) = (.ok (kind.canonical b), []))
    (h' : decodeNoting kind.decoder (Text.Utf8.encode text') = (.ok (kind.canonical b'), []))
    (heq : text = text') : b = b' := by
  -- Decoding is a function: one text gives one body.
  rw [heq, h', canonical_eq_self_iff.mpr hb, canonical_eq_self_iff.mpr hb'] at h
  exact (Except.ok.inj (Prod.mk.inj h).1).symm

/-- **A body is decoded from what it is written as**, compact or indented, without a note and
without a change, exactly unless it is a report on an unknown state that has the text of a known one
(`IsCanonical`). All others are told apart by what they are written as. -/
theorem roundTrip_iff (kind : BodyKind) (b : kind.Body) :
    (decodeNoting kind.decoder (Text.Utf8.encode (kind.write b).compact) = (.ok b, []) ↔
      kind.IsCanonical b) ∧
    (decodeNoting kind.decoder (Text.Utf8.encode (kind.write b).indented) = (.ok b, []) ↔
      kind.IsCanonical b) ∧
    ∀ b', kind.IsCanonical b → kind.IsCanonical b' →
      ((kind.write b).compact = (kind.write b').compact ↔ b = b') ∧
      ((kind.write b).indented = (kind.write b').indented ↔ b = b') := by
  refine ⟨?_, ?_, fun b' hb hb' => ⟨⟨?_, ?_⟩, ?_, ?_⟩⟩
  · rw [decodeNoting_compact]
    exact comes_back_iff
  · rw [decodeNoting_indented]
    exact comes_back_iff
  · exact eq_of_decodeNoting hb hb' (decodeNoting_compact kind b) (decodeNoting_compact kind b')
  · exact fun h => by rw [h]
  · exact eq_of_decodeNoting hb hb' (decodeNoting_indented kind b) (decodeNoting_indented kind b')
  · exact fun h => by rw [h]

/-- A description with characters that are escaped, without an address. -/
def quotedInfo : DeviceInfo where
  agentVersion := "0.1\\\"\u0001"
  ipAddress := none
  osRelease := { prettyName := some "Dé\tbian\n", id := some "" }

/-- A description with escapes comes back. A report on a known state is told apart from one on a
state that is only spelled like it, and one on an unknown state with its text does not come back. -/
theorem roundTrip_iff_quoted :
    decodeNoting deviceInfo.decoder (Text.Utf8.encode quotedInfo.toJson.compact) =
      (.ok quotedInfo, []) ∧
    (ServiceStateReport.toJson ⟨.running, ""⟩).compact ≠
      (ServiceStateReport.toJson ⟨.other "Running", ""⟩).compact ∧
    decodeNoting serviceStateReport.decoder (Text.Utf8.encode
      (ServiceStateReport.toJson ⟨.other "running", ""⟩).compact) ≠
        (.ok ⟨.other "running", ""⟩, []) := by
  have hknown : serviceStateReport.IsCanonical (⟨.running, ""⟩ : ServiceStateReport) :=
    canonical_eq_self_iff.mp rfl
  have hspelled : serviceStateReport.IsCanonical (⟨.other "Running", ""⟩ : ServiceStateReport) :=
    canonical_eq_self_iff.mp rfl
  refine ⟨(roundTrip_iff .deviceInfo quotedInfo).1.mpr trivial, fun h => ?_, fun h => ?_⟩
  · have heq := ((roundTrip_iff .serviceStateReport ⟨.running, ""⟩).2.2 _ hknown hspelled).1.mp h
    cases heq
  · exact (roundTrip_iff .serviceStateReport ⟨.other "running", ""⟩).1.mp h .running nofun rfl

end BodyKind

end Wire

end FleetAgent
