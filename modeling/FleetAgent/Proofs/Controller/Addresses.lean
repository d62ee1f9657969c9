import FleetAgent.Proofs.Orphans
import FleetAgent.Proofs.Url.PlainBase
import FleetAgent.Reporting
/-!
# What requests ask for

A request asks for the segments of its operation (`Operation.segments`) behind those of the base
URL. They are composed to a text (`joinUrl`), and what is asked for is what the text is read as
(`Url.parse`). An operation asks for its segments exactly if these are plain (`Operation.IsPlain`),
and requests about different observations ask for different things if their segments are plain:
`requests_faithful_iff`. An identifier that is not plain can ask for the observation of another one
(`deletion_of_orphan_meets_desired`).

The base is a `PlainBase`, and `PlainBase.parse_address` says what a composed text is read as: the
URL of the base with other segments. So everything comes down to segments, and
`ObservationKind.resource_inj` tells observations by theirs.
-/

namespace FleetAgent

open FleetAgent.Controller
open FleetAgent.Url (slashed)

/-! ### Segments of operations -/

namespace Controller.Operation

variable {project : ProjectId} {device : DeviceId} {op : Operation} {s : String}

/-- The fixed segments of an application's place are valid, and so is the identifier `a`. -/
theorem validSegment_applicationStatusPlace {a : ApplicationId}
    (hs : s ∈ applicationStatusPlace a) : ValidSegment s := by
  simp only [applicationStatusPlace, List.mem_cons, List.not_mem_nil, or_false] at hs
  rcases hs with rfl | rfl | rfl
  · decide
  · exact a.valid
  · decide

theorem validSegment_servicePlace {key : ServiceKey} {collection : String}
    (hcollection : ValidSegment collection) (hs : s ∈ servicePlace key collection) :
    ValidSegment s := by
  simp only [servicePlace, List.mem_cons, List.not_mem_nil, or_false] at hs
  rcases hs with rfl | rfl | rfl | rfl | rfl
  · decide
  · exact key.application.valid
  · decide
  · exact key.service.valid
  · exact hcollection

/-- Every place consists of valid segments, by cases on the operation. -/
theorem validSegment_place {place : List String} (h : op.place? = some place) (hs : s ∈ place) :
    ValidSegment s := by
  cases op with
  | register => cases h
  | getBundle | setInfo | sendDeviceMetrics | sendServiceMetrics =>
    obtain rfl := Option.some.inj h
    revert s
    decide
  | setApplicationStatus a | deleteApplicationStatus a =>
    obtain rfl := Option.some.inj h
    exact validSegment_applicationStatusPlace hs
  | setServiceStatus key | deleteServiceStatus key | setServiceState key
  | deleteServiceState key =>
    obtain rfl := Option.some.inj h
    exact validSegment_servicePlace (by decide) hs

/-- Only valid segments are asked for: no identifier holds a slash. -/
theorem validSegment_segments (hs : s ∈ op.segments project device) : ValidSegment s := by
  rw [segments] at hs
  split at hs
  -- Registration stands beside the device, under the project.
  next =>
    simp only [registrationPlace, List.mem_cons, List.not_mem_nil, or_false] at hs
    rcases hs with rfl | rfl | rfl | rfl
    · decide
    · exact project.valid
    · decide
    · decide
  next place hplace =>
    simp only [devicePlace, List.mem_append, List.mem_cons, List.not_mem_nil, or_false] at hs
    rcases hs with (rfl | rfl | rfl | rfl) | hs
    · decide
    · exact project.valid
    · decide
    · exact device.valid
    · exact validSegment_place hplace hs

theorem segments_ne_nil : op.segments project device ≠ [] := by
  rw [segments]
  split <;> exact List.cons_ne_nil _ _

/-- Whether `op` asks for plain segments only. -/
def IsPlain (project : ProjectId) (device : DeviceId) (op : Operation) : Prop :=
  ∀ s ∈ op.segments project device, Url.IsPlain s

instance : Decidable (op.IsPlain project device) :=
  inferInstanceAs (Decidable (∀ s ∈ op.segments project device, Url.IsPlain s))

end Controller.Operation

namespace ObservationKind

variable {project : ProjectId} {device : DeviceId}

/-- Whether `op` is about the observation of `key`: sets or deletes it. -/
def Concerns (kind : ObservationKind) (key : kind.Key) (op : Operation) : Prop :=
  op = kind.deletion key ∨ op = kind.assignment key

/-- The segments of the observation of `key`, behind those of the device. -/
def resource : (kind : ObservationKind) → kind.Key → List String
  | .applicationStatus, a => applicationStatusPlace a
  | .serviceStatus, key => servicePlace key "deviceservicestatuses"
  | .serviceState, key => servicePlace key "deviceservicestates"

theorem Concerns.place?_eq {kind : ObservationKind} {key : kind.Key} {op : Operation}
    (h : kind.Concerns key op) : op.place? = some (kind.resource key) := by
  rcases h with rfl | rfl <;> cases kind <;> rfl

theorem servicePlace_inj {key key' : ServiceKey} {collection collection' : String}
    (h : servicePlace key collection = servicePlace key' collection') :
    key = key' ∧ collection = collection' := by
  simp only [servicePlace, List.cons.injEq, and_true, true_and] at h
  obtain ⟨happlication, hservice, hcollection⟩ := h
  refine ⟨?_, hcollection⟩
  cases key
  cases key'
  congr
  · exact Identifier.text_injective happlication
  · exact Identifier.text_injective hservice

/-- An observation is told from the segments of its `resource`: the kind and the key together, as
there are two collections of services. -/
theorem resource_inj {kind kind' : ObservationKind} {key : kind.Key} {key' : kind'.Key}
    (h : kind.resource key = kind'.resource key') :
    (⟨kind, key⟩ : (kind : ObservationKind) × kind.Key) = ⟨kind', key'⟩ := by
  cases kind <;> cases kind'
  case applicationStatus.applicationStatus =>
    obtain rfl : key = key' := Identifier.text_injective (List.cons.inj (List.cons.inj h).2).1
    rfl
  case serviceStatus.serviceStatus | serviceState.serviceState =>
    obtain ⟨rfl, -⟩ := servicePlace_inj h
    rfl
  case serviceStatus.serviceState | serviceState.serviceStatus =>
    exact absurd (servicePlace_inj h).2 (by decide)
  -- The places of applications have fewer segments.
  all_goals
    refine absurd (congrArg List.length h) ?_
    simp [resource, applicationStatusPlace, servicePlace]

/-- Operations `op` and `op'` with the same segments are about the same observation; the segments of
the device are the same in front of both. -/
theorem eq_of_segments_eq {kind kind' : ObservationKind} {key : kind.Key} {key' : kind'.Key}
    {op op' : Operation} (h : kind.Concerns key op) (h' : kind'.Concerns key' op')
    (hsegments : op.segments project device = op'.segments project device) :
    (⟨kind, key⟩ : (kind : ObservationKind) × kind.Key) = ⟨kind', key'⟩ := by
  rw [Operation.segments, h.place?_eq, Operation.segments, h'.place?_eq] at hsegments
  exact resource_inj (List.append_cancel_left hsegments)

end ObservationKind

/-! ### Requests of a client -/

namespace PlainBase

variable (base : PlainBase) (project : ProjectId) (identity : Identity)

/-- The client of a device, for a controller at the base. -/
def client : Client :=
  (Client.create base.text project).withIdentity identity

/-- The segments of `op`, behind those of the base. -/
def segments (op : Operation) : List String :=
  base.path ++ op.segments project identity.deviceId

/-- They are valid, since those of the base are plain words. -/
theorem validSegment_segments {op : Operation} {s : String}
    (hs : s ∈ base.segments project identity op) : ValidSegment s := by
  rcases List.mem_append.mp hs with hs | hs
  · exact base.validSegment_path hs
  · exact Operation.validSegment_segments hs

theorem segments_ne_nil {op : Operation} : base.segments project identity op ≠ [] :=
  List.append_ne_nil_of_right_ne_nil _ Operation.segments_ne_nil

/-- The segments of the base are plain in any case, so it depends on those of `op` alone. -/
theorem forall_isPlain_segments {op : Operation} :
    (∀ s ∈ base.segments project identity op, Url.IsPlain s) ↔
      op.IsPlain project identity.deviceId := by
  constructor
  · exact fun h s hs => h s (List.mem_append_right _ hs)
  · intro h s hs
    rcases List.mem_append.mp hs with hs | hs
    · exact base.isPlain_path hs
    · exact h s hs

/-- The text of a base ends in a character `c` that is no slash: the last of a segment, or of the
authority. -/
theorem exists_text_eq_append : ∃ cs c, base.text.toList = cs ++ [c] ∧ c ≠ '/' := by
  rw [text, toList_origin]
  rcases List.eq_nil_or_concat base.path with hpath | ⟨front, s, hpath⟩
  · -- There is no path, and the text ends as the authority does.
    obtain ⟨cs, c, hcs⟩ := (List.eq_nil_or_concat base.authority.toList).resolve_left
      (mt String.toList_eq_nil_iff.mp base.authority_ne)
    refine ⟨base.scheme.toList ++ ':' :: '/' :: '/' :: cs, c, ?_, ?_⟩
    · rw [hpath, hcs]
      simp [slashed]
    · exact (base.of_mem_authority (c := c) (by simp [hcs])).2.1
  · have hs := base.validSegment_path (s := s) (by simp [hpath])
    obtain ⟨cs, c, hcs⟩ := (List.eq_nil_or_concat s.toList).resolve_left
      (mt String.toList_eq_nil_iff.mp hs.1)
    refine ⟨base.scheme.toList ++
      ':' :: '/' :: '/' :: (base.authority.toList ++ slashed front ++ '/' :: cs), c, ?_, ?_⟩
    · rw [hpath, slashed, List.concat_eq_append, List.flatMap_append, List.flatMap_singleton, hcs]
      simp [slashed]
    · exact (Url.of_mem_validSegment hs (by simp [hcs])).1

/-- There is no slash at the end of the text of a `base`, so a client takes it as it is. -/
theorem dropTrailing_text : Text.dropTrailing '/' base.text = base.text := by
  obtain ⟨cs, c, hcs, hc⟩ := base.exists_text_eq_append
  refine Url.dropTrailing_eq_self ?_
  rw [hcs, List.getLast?_concat]
  exact fun h => hc (Option.some.inj h)

/-- What a client composes for `op`: the text of the base with the segments of `op` joined to it,
and the header, for every operation but registration. -/
theorem address_client (op : Operation) :
    (base.client project identity).address op =
      .ok (joinUrl base.text (op.segments project identity.deviceId),
        op.place?.map fun _ => authorization identity.accessKey) := by
  unfold Client.address Operation.segments client Client.withIdentity Client.create
  rw [dropTrailing_text]
  cases op.place? with
  | none => rfl
  | some place =>
    dsimp only
    rw [authorization?_eq]
    rfl

/-- What is composed for an operation `op` is read as the base `u` with the segments of the
operation. -/
theorem parse_address {u : Url} (hu : Url.parse base.text = .ok u) (op : Operation) :
    Url.parse (joinUrl base.text (op.segments project identity.deviceId)) =
      .ok (u.withSegments (base.segments project identity op)) := by
  rw [parse_joinUrl fun s hs => Operation.validSegment_segments hs, hu]
  rfl

/-- The request of a `call`: its target is what the composed text is read as, and nothing in it
fails. -/
theorem request_client {u : Url} (hu : Url.parse base.text = .ok u) (call : Call) :
    (base.client project identity).request? call = .ok (some {
      method := call.operation.method
      target := (u.withSegments (base.segments project identity call.operation)).target
      authorization? := call.operation.place?.map fun _ => authorization identity.accessKey
      body? := call.body?.map (·.compact) }) := by
  have hscheme : u.scheme = "http" ∨ u.scheme = "https" := by
    rw [(of_parse_text hu).1, scheme]
    split
    · exact .inr rfl
    · exact .inl rfl
  rw [Client.request?, address_client]
  simp only [bind, Except.bind]
  rw [parse_address base project identity hu]
  exact if_pos hscheme

/-- Requests `r` and `r'` about observations that ask for the same target, by plain segments, are
about the same observation: plain segments are read back from the target. -/
theorem eq_of_target_eq {u : Url} (hu : Url.parse base.text = .ok u) {kind kind' : ObservationKind}
    {key : kind.Key} {key' : kind'.Key} {call call' : Call} {r r' : Request}
    (h : kind.Concerns key call.operation) (h' : kind'.Concerns key' call'.operation)
    (hplain : call.operation.IsPlain project identity.deviceId)
    (hplain' : call'.operation.IsPlain project identity.deviceId)
    (hr : (base.client project identity).request? call = .ok (some r))
    (hr' : (base.client project identity).request? call' = .ok (some r'))
    (htarget : r.target = r'.target) :
    (⟨kind, key⟩ : (kind : ObservationKind) × kind.Key) = ⟨kind', key'⟩ := by
  rw [request_client base project identity hu] at hr hr'
  obtain rfl := Option.some.inj (Except.ok.inj hr)
  obtain rfl := Option.some.inj (Except.ok.inj hr')
  have hquery := (of_parse_text hu).2.1
  -- The targets are the paths here, as the base has no query; plain paths tell their segments.
  have hsegments := Url.parseSegments_inj_of_plain (base.segments_ne_nil project identity)
    (base.segments_ne_nil project identity)
    (fun s hs => base.validSegment_segments project identity hs)
    (fun s hs => base.validSegment_segments project identity hs)
    ((base.forall_isPlain_segments project identity).mpr hplain)
    ((base.forall_isPlain_segments project identity).mpr hplain')
    (by rw [← Url.toList_target_withSegments hquery, ← Url.toList_target_withSegments hquery,
      show (u.withSegments _).target = (u.withSegments _).target from htarget])
  exact ObservationKind.eq_of_segments_eq h h' (List.append_cancel_left hsegments)

/-- **Requests ask for the segments of their operations, exactly if these are plain.** The URL of a
`call` is composed and read without an error, and only its path differs from the base `u`. Plain
requests about different observations ask for different things: deletions of different keys, and the
deletion of an orphan and any request about an observation that is desired. -/
theorem requests_faithful_iff {u : Url} (hu : Url.parse base.text = .ok u) :
    (∀ call : Call, ∃ text authorization? url r,
      (base.client project identity).address call.operation = .ok (text, authorization?) ∧
      Url.parse text = .ok url ∧
      (base.client project identity).request? call = .ok (some r) ∧
      r.target = url.target ∧ { url with path := u.path } = u ∧
      (url.HasSegments (base.path ++ call.operation.segments project identity.deviceId) ↔
        ∀ s ∈ call.operation.segments project identity.deviceId, Url.IsPlain s)) ∧
    (∀ (kind : ObservationKind) (key key' : kind.Key) (r r' : Request), key ≠ key' →
      (kind.deletion key).IsPlain project identity.deviceId →
      (kind.deletion key').IsPlain project identity.deviceId →
      (base.client project identity).request? (.deleteObservation kind key) = .ok (some r) →
      (base.client project identity).request? (.deleteObservation kind key') = .ok (some r') →
      r.target ≠ r'.target) ∧
    ∀ (b : Bundle) (kind kind' : ObservationKind) (o : Orphan kind.Key) (key : kind'.Key)
      (call : Call) (r r' : Request), o ∈ kind.orphans b → kind'.classify b key = none →
      kind'.Concerns key call.operation →
      (kind.deletion o.key).IsPlain project identity.deviceId →
      call.operation.IsPlain project identity.deviceId →
      (base.client project identity).request? (.deleteObservation kind o.key) = .ok (some r) →
      (base.client project identity).request? call = .ok (some r') →
      r.target ≠ r'.target := by
  obtain ⟨-, hquery, hfragment⟩ := of_parse_text hu
  refine ⟨fun call => ?_, ?_, ?_⟩
  · refine ⟨_, _, _, _, base.address_client project identity _,
      base.parse_address project identity hu _, base.request_client project identity hu call,
      rfl, rfl, ?_⟩
    refine Iff.trans ?_ (base.forall_isPlain_segments project identity)
    exact Url.hasSegments_withSegments_iff hquery hfragment
      (base.segments_ne_nil project identity)
      fun s hs => base.validSegment_segments project identity hs
  · intro kind key key' r r' hne hplain hplain' hr hr' htarget
    have heq := base.eq_of_target_eq project identity hu (.inl rfl) (.inl rfl) hplain hplain' hr hr'
      htarget
    exact hne (eq_of_heq (Sigma.mk.inj heq).2)
  · intro b kind kind' o key call r r' ho hdesired hconcerns hplain hplain' hr hr' htarget
    have heq := base.eq_of_target_eq project identity hu (.inl rfl) hconcerns hplain hplain' hr hr'
      htarget
    -- An orphan is classified as such, and the desired observation would be the orphan.
    have horphan := ((kind.mem_orphans_iff b).mp ho).2
    obtain ⟨rfl, hkey⟩ := Sigma.mk.inj heq
    rw [eq_of_heq hkey, hdesired] at horphan
    cases horphan

/-! ### A controller on the device itself -/

/-- A base with a port and a path. -/
def localBase : PlainBase where
  secure := false
  authority := "127.0.0.1:8080"
  path := ["api"]
  authority_ne := by decide
  authority_plain := by decide
  path_plain := by decide

/-- What the base is read as. -/
def localUrl : Url where
  scheme := "http"
  username := ""
  password := ""
  host := some (.ipv4 0x7F000001)
  port := some 8080
  path := .segments ["api"]
  query := none
  fragment := none

def localProject : ProjectId := ⟨"prj", by decide⟩

def localIdentity : Identity := ⟨⟨"dev", by decide⟩, ⟨"k"⟩⟩

/-- A service of the application `a`. -/
def serviceKey (service : ServiceName) : ServiceKey :=
  ⟨⟨"a", by decide⟩, service⟩

def web : ServiceName := ⟨"web", by decide⟩

/-- A bundle that desires the service `web` and lists the status of another one. -/
def webBundle (other : ServiceName) : Bundle :=
  { Bundle.empty with
    applications := [{
      application := { id := (serviceKey web).application, name := none, extra := [] }
      latestRelease := some { id := none, config := [(web, .null)], extra := [] } }]
    serviceStatuses := [{
      applicationId := (serviceKey other).application, service := other
      currentReleaseId := "", extra := [] }] }

theorem parse_localBase : Url.parse localBase.text = .ok localUrl := by
  rfl

/-- A name outside ASCII is plain. -/
def accented : ServiceName := ⟨"wéb", by decide⟩

theorem requests_faithful_iff_accented :
    ∃ text authorization? url r r' r'',
      Url.parse localBase.text = .ok localUrl ∧
      (localBase.client localProject localIdentity).address
        (.deleteServiceStatus (serviceKey accented)) = .ok (text, authorization?) ∧
      Url.parse text = .ok url ∧
      url.HasSegments ["api", "projects", "prj", "devices", "dev", "applications", "a",
        "services", "wéb", "deviceservicestatuses"] ∧
      (localBase.client localProject localIdentity).request?
        (.deleteObservation .serviceStatus (serviceKey accented)) = .ok (some r) ∧
      (localBase.client localProject localIdentity).request?
        (.deleteObservation .serviceStatus (serviceKey web)) = .ok (some r') ∧
      (localBase.client localProject localIdentity).request?
        ⟨.setServiceStatus (serviceKey web), none⟩ = .ok (some r'') ∧
      r.target = url.target ∧ r.target ≠ r'.target ∧ r.target ≠ r''.target := by
  obtain ⟨hfaithful, hkeys, horphans⟩ :=
    requests_faithful_iff localBase localProject localIdentity parse_localBase
  obtain ⟨text, authorization?, url, r, haddress, hurl, hr, htarget, -, hsegments⟩ :=
    hfaithful (.deleteObservation .serviceStatus (serviceKey accented))
  obtain ⟨-, -, -, r', -, -, hr', -⟩ :=
    hfaithful (.deleteObservation .serviceStatus (serviceKey web))
  obtain ⟨-, -, -, r'', -, -, hr'', -⟩ := hfaithful ⟨.setServiceStatus (serviceKey web), none⟩
  have hplain : (ObservationKind.serviceStatus.deletion (serviceKey accented)).IsPlain localProject
      localIdentity.deviceId := by
    decide
  have hplain' : (ObservationKind.serviceStatus.deletion (serviceKey web)).IsPlain localProject
      localIdentity.deviceId := by
    decide
  have horphan : ⟨serviceKey accented, .serviceGone⟩ ∈
      ObservationKind.serviceStatus.orphans (webBundle accented) := by
    decide +kernel
  have hdesired : ObservationKind.serviceStatus.classify (webBundle accented) (serviceKey web) =
      none := by
    decide +kernel
  -- The two deletions have different keys, and `web` is desired in the bundle.
  refine ⟨text, authorization?, url, r, r', r'', parse_localBase, haddress, hurl,
    hsegments.mpr hplain, hr, hr', hr'', htarget, ?_, ?_⟩
  · exact hkeys .serviceStatus (serviceKey accented) (serviceKey web) r r' (by decide) hplain
      hplain' hr hr'
  · exact horphans (webBundle accented) .serviceStatus .serviceStatus
      ⟨serviceKey accented, .serviceGone⟩ (serviceKey web) _ r r'' horphan hdesired (.inr rfl)
      hplain hplain' hr hr''

/-- A name that leads to the place of the service `web`. -/
def backslashed : ServiceName := ⟨"x\\..\\web", by decide⟩

/-- **A deletion can ask for what is desired**: the status of the service behind backslashes is left
over, and its deletion asks for the status of `web`. The URL has not the segments of the
operation. -/
theorem deletion_of_orphan_meets_desired :
    ⟨serviceKey backslashed, .serviceGone⟩ ∈
        ObservationKind.serviceStatus.orphans (webBundle backslashed) ∧
      ObservationKind.serviceStatus.classify (webBundle backslashed) (serviceKey web) = none ∧
      serviceKey backslashed ≠ serviceKey web ∧
      (∃ r,
        (localBase.client localProject localIdentity).request?
          (.deleteObservation .serviceStatus (serviceKey backslashed)) = .ok (some r) ∧
        (localBase.client localProject localIdentity).request?
          (.deleteObservation .serviceStatus (serviceKey web)) = .ok (some r)) ∧
      ∃ text authorization? url,
        (localBase.client localProject localIdentity).address
          (.deleteServiceStatus (serviceKey backslashed)) = .ok (text, authorization?) ∧
        Url.parse text = .ok url ∧
        ¬ url.HasSegments ["api", "projects", "prj", "devices", "dev", "applications", "a",
          "services", "x\\..\\web", "deviceservicestatuses"] := by
  -- What stands behind the backslashes goes up and comes down again at `web`.
  have htarget : (localUrl.withSegments (localBase.segments localProject localIdentity
        (Call.deleteObservation .serviceStatus (serviceKey web)).operation)).target =
      (localUrl.withSegments (localBase.segments localProject localIdentity
        (Call.deleteObservation .serviceStatus (serviceKey backslashed)).operation)).target := by
    decide +kernel
  refine ⟨by decide +kernel, by decide +kernel, by decide, ?_, ?_⟩
  · refine ⟨_, request_client localBase localProject localIdentity parse_localBase _, ?_⟩
    rw [request_client localBase localProject localIdentity parse_localBase, htarget]
    rfl
  · refine ⟨_, _, _, address_client localBase localProject localIdentity _,
      parse_address localBase localProject localIdentity parse_localBase _, fun h => ?_⟩
    have hplain := (Url.hasSegments_withSegments_iff rfl rfl
      (localBase.segments_ne_nil localProject localIdentity)
      fun s hs => localBase.validSegment_segments localProject localIdentity hs).mp h
    exact absurd (hplain "x\\..\\web" (by decide)) (by decide)

end PlainBase

end FleetAgent
