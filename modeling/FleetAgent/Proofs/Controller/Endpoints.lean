import FleetAgent.Proofs.Controller.Addresses
/-!
# Operations are told apart by their URLs

An operation of a client has a method and a URL, whose text is composed of the base and the segments
of the operation. From the text the segments are read back (`Client.splitOn_address`), whatever
stands in the identifiers: some of them may be spelled like a fixed segment. So under one base a URL
tells the project, the device, and the operation up to its counterpart: an observation is set and
deleted at one place, by different methods. That is `Client.address_unambiguous`.

It is shown in three steps: a place tells the operation (`Operation.place?_eq_iff`), segments tell
the place (`Operation.segments_eq_iff`), and the text tells the segments (`joinUrl_inj`).
-/

namespace FleetAgent.Controller

open FleetAgent.Text (splitOn)
open FleetAgent.Url (slashed)

namespace Operation

variable {op op' : Operation} {project project' : ProjectId} {device device' : DeviceId}

/-! ### Places -/

/-- One of `op` and `op'` sets an observation, and the other one deletes it. -/
def IsCounterpart (op op' : Operation) : Prop :=
  ∃ (kind : ObservationKind) (key : kind.Key),
    (op = kind.assignment key ∧ op' = kind.deletion key) ∨
      (op = kind.deletion key ∧ op' = kind.assignment key)

/-- The operations that are about no observation. -/
def others : List Operation :=
  [.register, .getBundle, .setInfo, .sendDeviceMetrics, .sendServiceMetrics]

/-- Every operation is one of `others`, or about an observation. -/
theorem mem_others_or_concerns (op : Operation) :
    op ∈ others ∨ ∃ (kind : ObservationKind) (key : kind.Key), kind.Concerns key op := by
  cases op with
  | register | getBundle | setInfo | sendDeviceMetrics | sendServiceMetrics =>
    exact .inl (by decide)
  | setApplicationStatus a => exact .inr ⟨.applicationStatus, a, .inr rfl⟩
  | deleteApplicationStatus a => exact .inr ⟨.applicationStatus, a, .inl rfl⟩
  | setServiceStatus key => exact .inr ⟨.serviceStatus, key, .inr rfl⟩
  | deleteServiceStatus key => exact .inr ⟨.serviceStatus, key, .inl rfl⟩
  | setServiceState key => exact .inr ⟨.serviceState, key, .inr rfl⟩
  | deleteServiceState key => exact .inr ⟨.serviceState, key, .inl rfl⟩

/-- The place of an observation lies among the applications, and no place of `others` does. -/
theorem place?_ne_of_mem_others (h : op ∈ others) {kind : ObservationKind} {key : kind.Key}
    (hconcerns : kind.Concerns key op') : op.place? ≠ op'.place? := by
  have hothers : ∀ op ∈ others, ∀ place ∈ op.place?, place.head? ≠ some "applications" := by
    decide
  have hresource : (kind.resource key).head? = some "applications" := by
    cases kind <;> rfl
  intro hplace
  rw [hconcerns.place?_eq] at hplace
  exact hothers op h _ hplace hresource

/-- The operations of `others` have five different places, that of registration being none. -/
theorem eq_of_place?_eq_of_mem_others (h : op ∈ others) (h' : op' ∈ others)
    (hplace : op.place? = op'.place?) : op = op' := by
  have hothers : ∀ op ∈ others, ∀ op' ∈ others, op.place? = op'.place? → op = op' := by
    decide
  exact hothers op h op' h' hplace

/-- What sets an observation and what deletes it have different methods. -/
theorem IsCounterpart.method_ne (h : op.IsCounterpart op') : op.method ≠ op'.method := by
  obtain ⟨kind, key, ⟨rfl, rfl⟩ | ⟨rfl, rfl⟩⟩ := h
  · cases kind <;> exact fun hmethod => nomatch hmethod
  · cases kind <;> exact fun hmethod => nomatch hmethod

theorem IsCounterpart.place?_eq (h : op.IsCounterpart op') : op.place? = op'.place? := by
  obtain ⟨kind, key, ⟨rfl, rfl⟩ | ⟨rfl, rfl⟩⟩ := h <;> cases kind <;> rfl

/-- Operations about one observation are the same, or counterparts. -/
theorem eq_or_isCounterpart {kind : ObservationKind} {key : kind.Key}
    (h : kind.Concerns key op) (h' : kind.Concerns key op') :
    op = op' ∨ op.IsCounterpart op' := by
  rcases h with rfl | rfl <;> rcases h' with rfl | rfl
  · exact .inl rfl
  · exact .inr ⟨kind, key, .inr ⟨rfl, rfl⟩⟩
  · exact .inr ⟨kind, key, .inl ⟨rfl, rfl⟩⟩
  · exact .inl rfl

/-- **A place tells the operation** up to its counterpart. Either operation may be one of `others`
or about an observation; if both are about one, `ObservationKind.resource_inj` makes it the same. -/
theorem place?_eq_iff : op.place? = op'.place? ↔ op = op' ∨ op.IsCounterpart op' := by
  constructor
  · intro hplace
    rcases op.mem_others_or_concerns with h | ⟨kind, key, h⟩ <;>
      rcases op'.mem_others_or_concerns with h' | ⟨kind', key', h'⟩
    · exact .inl (eq_of_place?_eq_of_mem_others h h' hplace)
    · exact absurd hplace (place?_ne_of_mem_others h h')
    · exact absurd hplace.symm (place?_ne_of_mem_others h' h)
    · -- Both are about observations: the kind and the key are told together, by a pair.
      have hresource : kind.resource key = kind'.resource key' := by
        rw [h.place?_eq, h'.place?_eq] at hplace
        exact Option.some.inj hplace
      obtain ⟨rfl, hkey⟩ := Sigma.mk.inj (ObservationKind.resource_inj hresource)
      rw [← eq_of_heq hkey] at h'
      exact eq_or_isCounterpart h h'
  · rintro (rfl | h)
    · rfl
    · exact h.place?_eq

/-! ### Segments -/

theorem place_ne_nil {place : List String} (h : op.place? = some place) : place ≠ [] := by
  rcases op.mem_others_or_concerns with hother | ⟨kind, key, hconcerns⟩
  · have hothers : ∀ op ∈ others, ∀ place ∈ op.place?, place ≠ [] := by
      decide
    exact hothers op hother place h
  · rw [hconcerns.place?_eq] at h
    obtain rfl := Option.some.inj h
    cases kind <;> exact List.cons_ne_nil _ _

/-- Registration is the only operation without a place under the device. -/
theorem place?_eq_none_iff : op.place? = none ↔ op = .register := by
  cases op <;> simp [place?]

/-- **Segments tell** the project, the device unless it is to be registered, and the place. A device
may be called `register`: what is asked for it has segments behind that. -/
theorem segments_eq_iff :
    op.segments project device = op'.segments project' device' ↔
      project = project' ∧ (op = .register ∨ device = device') ∧ op.place? = op'.place? := by
  rw [← place?_eq_none_iff, segments, segments]
  cases hplace : op.place? with
  | none =>
    cases hplace' : op'.place? with
    | none =>
      simp only [registrationPlace, List.cons.injEq, and_true, true_and, true_or]
      exact ⟨Identifier.text_injective, congrArg _⟩
    -- A device may be called `register`, but then there are segments behind it.
    | some place' =>
      have hne := place_ne_nil hplace'
      simp [registrationPlace, devicePlace, hne.symm]
  | some place =>
    cases hplace' : op'.place? with
    | none =>
      have hne := place_ne_nil hplace
      simp [registrationPlace, devicePlace, hne]
    | some place' =>
      simp only [devicePlace, List.cons_append, List.nil_append, List.cons.injEq, true_and,
        reduceCtorEq, false_or, Option.some.injEq]
      constructor
      · rintro ⟨hproject, hdevice, hplaces⟩
        exact ⟨Identifier.text_injective hproject, Identifier.text_injective hdevice, hplaces⟩
      · rintro ⟨rfl, rfl, rfl⟩
        exact ⟨rfl, rfl, rfl⟩

end Operation

/-! ### URLs -/

/-- Valid segments are told from the text that is composed of them behind `base`, as there is no
slash in them. -/
theorem joinUrl_inj {base : String} {segments segments' : List String}
    (h : ∀ s ∈ segments, ValidSegment s) (h' : ∀ s ∈ segments', ValidSegment s) :
    joinUrl base segments = joinUrl base segments' ↔ segments = segments' := by
  have hfree : ∀ {t : List String}, (∀ s ∈ t, ValidSegment s) → ∀ s ∈ t, '/' ∉ s.toList :=
    fun ht s hs hc => (Url.of_mem_validSegment (ht s hs) hc).1 rfl
  rw [← String.toList_inj, PlainBase.toList_joinUrl, PlainBase.toList_joinUrl,
    List.append_cancel_left_eq]
  exact Url.slashed_inj (hfree h) (hfree h')

/-- What stands behind `base` and a slash is divided into the segments. -/
theorem splitOn_joinUrl (base : String) {segments : List String} (hne : segments ≠ [])
    (h : ∀ s ∈ segments, ValidSegment s) :
    ∃ path, (joinUrl base segments).toList = base.toList ++ '/' :: path ∧
      splitOn '/' path = segments.map String.toList := by
  obtain ⟨s, rest, rfl⟩ := List.exists_cons_of_ne_nil hne
  refine ⟨s.toList ++ slashed rest, ?_, Url.splitOn_slashed fun t ht hc =>
    (Url.of_mem_validSegment (h t ht) hc).1 rfl⟩
  rw [PlainBase.toList_joinUrl]
  rfl

namespace Client

variable {c c' : Client} {op op' : Operation} {url url' : String} {who who' : Option String}

/-- The device that a client asks for, if it is registered. -/
def device? (c : Client) : Option DeviceId :=
  c.identity?.map (·.deviceId)

/-- What a client asks for: the segments of `op`, for its device. Registration has no device, and
then any will do. -/
theorem url_of_address (h : c.address op = .ok (url, who)) {device : DeviceId}
    (hdevice : op = .register ∨ c.device? = some device) :
    url = joinUrl c.baseUrl (op.segments c.project device) := by
  rw [address] at h
  rw [Operation.segments]
  cases hplace : op.place? with
  | none =>
    rw [hplace] at h
    exact (congrArg Prod.fst (Except.ok.inj h)).symm
  | some place =>
    rw [hplace] at h
    cases hidentity : c.identity? with
    | none =>
      rw [hidentity] at h
      cases h
    | some i =>
      -- A registration has no place, so the device is that of the client.
      have hregister : op ≠ .register := by
        rintro rfl
        cases hplace
      have hi : i.deviceId = device := by
        simpa [device?, hidentity] using hdevice.resolve_left hregister
      rw [hidentity] at h
      rw [← hi]
      exact (congrArg Prod.fst (Except.ok.inj h)).symm

/-- A client `c` can ask only for its device, if not for a registration. -/
theorem device_of_address (h : c.address op = .ok (url, who)) :
    op = .register ∨ ∃ device, c.device? = some device := by
  by_cases hregister : op = .register
  · exact .inl hregister
  · right
    obtain ⟨place, hplace⟩ := Option.ne_none_iff_exists'.mp
      (mt Operation.place?_eq_none_iff.mp hregister)
    rw [address, hplace] at h
    cases hidentity : c.identity? with
    | none =>
      rw [hidentity] at h
      cases h
    | some i => exact ⟨i.deviceId, by rw [device?, hidentity]; rfl⟩

/-- The text of a `url` is divided into the segments of its operation `op` again, behind the
base. -/
theorem splitOn_address (h : c.address op = .ok (url, who)) {device : DeviceId}
    (hdevice : op = .register ∨ c.device? = some device) :
    ∃ path, url.toList = c.baseUrl.toList ++ '/' :: path ∧
      splitOn '/' path = (op.segments c.project device).map String.toList := by
  rw [url_of_address h hdevice]
  exact splitOn_joinUrl _ Operation.segments_ne_nil fun s hs => Operation.validSegment_segments hs

/-- Under one base, `url` and `url'` are the same exactly if the project, the device and the place
are. -/
theorem url_eq_iff (hbase : c.baseUrl = c'.baseUrl) (h : c.address op = .ok (url, who))
    (h' : c'.address op' = .ok (url', who')) :
    url = url' ↔ c.project = c'.project ∧ (op = .register ∨ c.device? = c'.device?) ∧
      op.place? = op'.place? := by
  have hjoin : ∀ {device device' : DeviceId}, (op = .register ∨ c.device? = some device) →
      (op' = .register ∨ c'.device? = some device') →
        (url = url' ↔ c.project = c'.project ∧ (op = .register ∨ device = device') ∧
          op.place? = op'.place?) := by
    intro device device' hdevice hdevice'
    rw [url_of_address h hdevice, url_of_address h' hdevice', ← hbase,
      joinUrl_inj (fun s hs => Operation.validSegment_segments hs)
        fun s hs => Operation.validSegment_segments hs, Operation.segments_eq_iff]
  -- For a registration any device will do.
  have hsome : ∀ {c : Client} {op : Operation}, (op = .register ∨ ∃ d, c.device? = some d) →
      ∃ d, op = .register ∨ c.device? = some d := by
    rintro c op (h | ⟨d, h⟩)
    · exact ⟨⟨"-", by decide⟩, .inl h⟩
    · exact ⟨d, .inr h⟩
  obtain ⟨device, hdevice⟩ := hsome (device_of_address h)
  obtain ⟨device', hdevice'⟩ := hsome (device_of_address h')
  rw [hjoin hdevice hdevice']
  refine and_congr_right fun _ => ?_
  by_cases hregister : op = .register
  · simp [hregister]
  by_cases hregister' : op' = .register
  · -- The places differ, so that both sides fail.
    have hplace : op.place? ≠ op'.place? := by
      rw [hregister', ne_eq, show Operation.place? .register = none from rfl,
        Operation.place?_eq_none_iff]
      exact hregister
    simp [hplace]
  · rw [hdevice.resolve_left hregister, hdevice'.resolve_left hregister', Option.some.injEq]

/-- **The table of endpoints is unambiguous**, under one base and whatever the identifiers are.
`url` and `url'` are the same only for the same project, the same device unless it is to be
registered, and the same operation or its counterpart, which has another method. With the method a
URL tells the operation. And the segments of an operation are what the text behind the base is
divided into. -/
theorem address_unambiguous (hbase : c.baseUrl = c'.baseUrl)
    (h : c.address op = .ok (url, who)) (h' : c'.address op' = .ok (url', who')) :
    (url = url' ↔ c.project = c'.project ∧ (op = .register ∨ c.device? = c'.device?) ∧
      (op = op' ∨ op.IsCounterpart op' ∧ op.method ≠ op'.method)) ∧
    (op.method = op'.method ∧ url = url' ↔
      c.project = c'.project ∧ (op = .register ∨ c.device? = c'.device?) ∧ op = op') ∧
    ∀ device, op = .register ∨ c.device? = some device →
      ∃ path, url.toList = c.baseUrl.toList ++ '/' :: path ∧
        splitOn '/' path = (op.segments c.project device).map String.toList := by
  -- Counterparts differ in their methods, so nothing is added by saying so.
  have hplace : op.place? = op'.place? ↔
      op = op' ∨ op.IsCounterpart op' ∧ op.method ≠ op'.method := by
    rw [Operation.place?_eq_iff]
    exact or_congr_right ⟨fun h => ⟨h, h.method_ne⟩, And.left⟩
  refine ⟨by rw [url_eq_iff hbase h h', hplace], ?_, fun device => splitOn_address h⟩
  rw [url_eq_iff hbase h h', hplace]
  constructor
  · rintro ⟨hmethod, hproject, hdevice, heq | ⟨-, hne⟩⟩
    · exact ⟨hproject, hdevice, heq⟩
    · exact absurd hmethod hne
  · rintro ⟨hproject, hdevice, rfl⟩
    exact ⟨rfl, hproject, hdevice, .inl rfl⟩

/-- The client of a device that is called `register`. -/
def registerClient : Client :=
  (Client.create "http://ctl/api/" ⟨"devices", by decide⟩).withIdentity
    ⟨⟨"register", by decide⟩, ⟨"k"⟩⟩

/-- A service whose name and application are spelled like fixed segments. -/
def spelledKey : ServiceKey :=
  ⟨⟨"services", by decide⟩, ⟨"deviceservicestatuses", by decide⟩⟩

/-- Neither a device that is called `register` nor a service that is spelled like a fixed segment
makes two URLs the same. -/
theorem address_unambiguous_spelled :
    ∃ url url' who,
      registerClient.address .register =
        .ok ("http://ctl/api/projects/devices/devices/register", none) ∧
      registerClient.address (.setServiceStatus spelledKey) = .ok (url, who) ∧
      registerClient.address (.deleteServiceState spelledKey) = .ok (url', who) ∧
      "http://ctl/api/projects/devices/devices/register" ≠ url ∧ url ≠ url' ∧
      ∃ path, url.toList = "http://ctl/api".toList ++ '/' :: path ∧
        splitOn '/' path = ["projects", "devices", "devices", "register", "applications",
          "services", "services", "deviceservicestatuses", "deviceservicestatuses"].map
            String.toList := by
  have hregister : registerClient.address .register =
      .ok ("http://ctl/api/projects/devices/devices/register", none) := by
    decide +kernel
  have hset : registerClient.address (.setServiceStatus spelledKey) =
      .ok ("http://ctl/api/projects/devices/devices/register/applications/services/services/" ++
        "deviceservicestatuses/deviceservicestatuses", some "Basic azo=") := by
    decide +kernel
  have hdelete : registerClient.address (.deleteServiceState spelledKey) =
      .ok ("http://ctl/api/projects/devices/devices/register/applications/services/services/" ++
        "deviceservicestatuses/deviceservicestates", some "Basic azo=") := by
    decide +kernel
  obtain ⟨hsame, -, -⟩ := address_unambiguous rfl hregister hset
  obtain ⟨hsame', -, hsplit⟩ := address_unambiguous rfl hset hdelete
  refine ⟨_, _, _, hregister, hset, hdelete, fun heq => ?_, fun heq => ?_,
    hsplit ⟨"register", by decide⟩ (.inr rfl)⟩
  · obtain ⟨-, -, hop | ⟨⟨kind, key, ⟨hop, -⟩ | ⟨hop, -⟩⟩, -⟩⟩ := hsame.mp heq
    · cases hop
    · cases kind <;> cases hop
    · cases kind <;> cases hop
  · obtain ⟨-, -, hop | ⟨⟨kind, key, ⟨hop, hop'⟩ | ⟨hop, -⟩⟩, -⟩⟩ := hsame'.mp heq
    · cases hop
    · cases kind with
      | applicationStatus => cases hop
      | serviceStatus => cases hop'
      | serviceState => cases hop
    · cases kind <;> cases hop

end Client

end FleetAgent.Controller
