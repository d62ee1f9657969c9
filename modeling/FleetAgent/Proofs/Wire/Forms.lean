import FleetAgent.Proofs.Wire.OpenForm
/-!
# The forms of the records of a bundle

The five open records of a bundle as forms (`Application.form`, `Release.form`,
`ApplicationStatus.form`, `ServiceStatus.form`, `ServiceState.form`). Their decoders are those of
the forms, by definition (`decoder_form` of each), and what they are written as is what the forms
write (`toJson_form`). So a change to a record is a change to its form.

Their fields are of five kinds only: `FieldKind.identifier`, `text`, `textIfAny`, `state` and
`config`. What there is to know of a field is a lemma on its kind: what stands there if a value was
read (`FieldKind.eq_of_reads_identifier` and those that follow it), when a value can be read
(`canRead_identifier` and so on), and that it is read back from what is written for it
(`returns_identifier` and so on).

Only a configuration takes more than its own text to be read back (`returns_config`). It loses the
services with an invalid name when it is read; what is left of its members is sorted as they were,
and is then read as it was written (`gives_config`).
-/

namespace FleetAgent.Wire

open FleetAgent.Json (Node)
open Decoder

/-! ### Single values -/

theorem text_of_canYield_text {w : Json} {s : String} (h : (text w.toNode).CanYield s) :
    w = .text s := by
  obtain ⟨x, y, h⟩ := h
  obtain ⟨hnode, -⟩ := yields_text.mp h
  cases w with
  | text t => rw [Except.ok.inj (Node.text.inj hnode)]
  | null | boolean _ | number _ | array _ | object _ => cases hnode

theorem text_of_canYield_identifier {kind : Kind} {w : Json} {a : Identifier kind}
    (h : (identifier kind w.toNode).CanYield a) : w = .text a.text := by
  obtain ⟨x, y, h⟩ := h
  exact text_of_canYield_text ⟨x, y, yields_text.mpr (yields_identifier.mp h)⟩

/-- A state is decoded from `null` or from a text. -/
theorem text_of_canYield_serviceStateKind {w : Json} {k : ServiceStateKind}
    (h : (serviceStateKind w.toNode).CanYield k) : w = .null ∨ ∃ s, w = .text s := by
  cases w with
  | null => exact .inl rfl
  | text s => exact .inr ⟨s, rfl⟩
  | boolean _ | number _ | array _ | object _ =>
    obtain ⟨x, y, h⟩ := h
    obtain ⟨o, z, ho, -⟩ := yields_bind.mp h
    obtain ⟨s, hs, -⟩ := (yields_optional_of_ne_null (fun h => Node.noConfusion h)).mp ho
    cases text_of_canYield_text hs.canYield

theorem succeeds_text (s : String) : (text (Json.text s).toNode).Succeeds :=
  fun x => ⟨s, x, yields_text.mpr ⟨rfl, rfl⟩⟩

theorem succeeds_identifier {kind : Kind} (a : Identifier kind) :
    (identifier kind (Json.text a.text).toNode).Succeeds :=
  fun x => ⟨a, x, yields_identifier.mpr ⟨rfl, rfl⟩⟩

/-- Any text decodes as a state, and so does `null`: a text that is not known is a state of its
own. -/
theorem succeeds_serviceStateKind {w : Json} (h : w = .null ∨ ∃ s, w = .text s) :
    (serviceStateKind w.toNode).Succeeds := by
  have hopt : (optional text w.toNode).Succeeds := by
    rcases h with rfl | ⟨s, rfl⟩
    · exact succeeds_pure
    · exact (succeeds_text s).map some
  refine hopt.bind fun o _ => ?_
  cases o <;> exact succeeds_pure

/-- A state was decoded from its text, or is the unknown one and was decoded from `null`. -/
theorem eq_of_canYield_serviceStateKind {w : Json} {k : ServiceStateKind}
    (h : (serviceStateKind w.toNode).CanYield k) : w = .null ∧ k = .unknown ∨ w = .text k.text := by
  rcases text_of_canYield_serviceStateKind h with rfl | ⟨s, rfl⟩ <;> obtain ⟨x, y, h⟩ := h <;>
    obtain ⟨o, z, ho, h⟩ := yields_bind.mp h
  · obtain ⟨rfl, -⟩ := yields_pure.mp ho
    exact .inl ⟨rfl, (yields_pure.mp h).1.symm⟩
  · obtain ⟨t, ht, rfl⟩ := (yields_optional_of_ne_null (fun h => Node.noConfusion h)).mp ho
    obtain rfl := Json.text.inj (text_of_canYield_text ht.canYield)
    obtain ⟨rfl, -⟩ := yields_pure.mp h
    exact .inr (congrArg Json.text (ServiceStateKind.text_ofText s).symm)

theorem isCanonical_of_canYield {n : Node} {k : ServiceStateKind}
    (h : (serviceStateKind n).CanYield k) : k.IsCanonical := by
  obtain ⟨x, y, h⟩ := h
  obtain ⟨o, z, -, h⟩ := yields_bind.mp h
  cases o with
  | none =>
    obtain ⟨rfl, -⟩ := yields_pure.mp h
    rfl
  | some s =>
    obtain ⟨rfl, -⟩ := yields_pure.mp h
    exact ServiceStateKind.isCanonical_ofText s

/-! ### Configurations -/

/-- The members that a configuration is written as: each service under its name. -/
def configMembers (services : List (ServiceName × Json)) : List (String × Json) :=
  services.map fun (s, v) => (s.text, v)

/-- The `services` of a configuration that was read are its `members` with a valid name, in their
order. -/
theorem configMembers_of_validServices {members : List (String × Json)}
    {services : List (ServiceName × Json)} (h : (validServices members).CanYield services) :
    configMembers services = members.filter fun m => decide (ValidSegment m.1) := by
  induction members generalizing services with
  | nil =>
    obtain ⟨x, y, h⟩ := h
    obtain ⟨rfl, -⟩ := yields_pure.mp h
    rfl
  | cons m members ih =>
    obtain ⟨name, w⟩ := m
    obtain ⟨x, y, h⟩ := h
    rw [validServices] at h
    split at h
    next s hs =>
      obtain ⟨rest, z, hrest, h⟩ := yields_bind.mp h
      obtain ⟨rfl, -⟩ := yields_pure.mp h
      obtain rfl : s.text = name := Identifier.parse_eq_ok_iff.mp hs
      rw [List.filter_cons, if_pos (decide_eq_true s.valid), ← ih hrest.canYield]
      rfl
    next e he =>
      obtain ⟨-, z, -, h⟩ := yields_bind.mp h
      rw [ih h.canYield, List.filter_cons, if_neg]
      intro hvalid
      obtain ⟨s, hs⟩ := Identifier.parse_isOk_iff.mpr (of_decide_eq_true hvalid)
      rw [he] at hs
      cases hs

/-- The `services` of a configuration that was read are sorted, and what they configure is taken as
it is. -/
theorem sorted_of_canYield_config {depth outer : Nat} {v : Json}
    (htake : v.toNode.take depth = .ok v) (hle : outer ≤ depth)
    {services : List (ServiceName × Json)} (h : (config outer v.toNode).CanYield services) :
    Json.Sorted (configMembers services) ∧
      ∀ m ∈ configMembers services, m.2.toNode.take (depth + 1) = .ok m.2 := by
  obtain ⟨x, y, h⟩ := h
  obtain ⟨vs, z, hvs, hservices⟩ := yields_bind.mp h
  clear h
  cases v with
  | object members =>
    rw [configMembers_of_validServices hservices.canYield,
      eq_of_yields_anyMembers (Json.take_toNode htake hle) hvs]
    exact ⟨(Json.sorted_of_take htake).sublist List.filter_sublist, fun m hm =>
      Json.take_toNode_of_mem htake (Nat.le_refl _) (List.mem_of_mem_filter hm)⟩
  | null =>
    obtain ⟨rfl, -⟩ := yields_pure.mp hvs
    obtain ⟨rfl, -⟩ := yields_pure.mp hservices
    exact ⟨List.Pairwise.nil, fun m hm => absurd hm List.not_mem_nil⟩
  | boolean _ | number _ | text _ | array _ =>
    simp only [Json.toNode, anyMembers] at hvs
    exact absurd hvs not_yields_wrongType

/-- The `services` of a configuration are read as they were written, if they are sorted and taken as
they are. -/
theorem gives_config {outer : Nat} {services : List (ServiceName × Json)}
    (hsorted : Json.Sorted (configMembers services))
    (htaken : ∀ m ∈ configMembers services, m.2.toNode.take (outer + 1) = .ok m.2) :
    (config outer (Json.object (configMembers services)).toNode).Gives services := by
  have hmembers : (anyMembers outer (Json.object (configMembers services)).toNode).Gives
      (configMembers services) := by
    refine (gives_taking (Json.takeMembers_toNodeMembers_of_forall htaken)).bind
      ((gives_taking rfl).bind ?_)
    rw [Json.collect_of_sorted hsorted]
    exact gives_pure _
  refine hmembers.bind ?_
  clear hmembers hsorted htaken
  -- Each service stands there under its name, which is valid.
  induction services with
  | nil => exact gives_pure []
  | cons m services ih =>
    obtain ⟨s, v⟩ := m
    rw [configMembers, List.map_cons, validServices]
    split
    next r hr =>
      rw [Identifier.parse_text] at hr
      obtain rfl := Except.ok.inj hr
      exact ih.bind (gives_pure _)
    next e he =>
      rw [Identifier.parse_text] at he
      cases he

/-! ### Kinds of fields -/

namespace FieldKind

variable {depth : Nat} {w? : Option Json}

/-- An identifier, which must be there. -/
abbrev identifier (kind : Kind) : FieldKind where
  α := Identifier kind
  decoder := Wire.identifier kind
  write a := some (.text a.text)
  default? := none

/-- A text, which is empty if it is not there. -/
abbrev text : FieldKind where
  α := String
  decoder := Wire.text
  write s := some (.text s)
  default? := some ""

/-- A text that is left out if there is none. -/
abbrev textIfAny : FieldKind where
  α := Option String
  decoder := optional Wire.text
  write o := o.map .text
  default? := some none

/-- The state of a container, which is unknown if it is not there. -/
abbrev state : FieldKind where
  α := ServiceStateKind
  decoder := serviceStateKind
  write k := some (.text k.text)
  default? := some .unknown

/-- The configuration of a release within `depth` arrays and objects. -/
abbrev config (depth : Nat) : FieldKind where
  α := List (ServiceName × Json)
  decoder := Wire.config (depth + 1)
  write services := some (.object (configMembers services))
  default? := some []

theorem eq_of_reads_identifier {kind : Kind} {a : Identifier kind}
    (h : (identifier kind).Reads w? a) : w? = some (.text a.text) := by
  cases w? with
  | none => cases h
  | some w => rw [text_of_canYield_identifier h]

theorem canRead_identifier {kind : Kind} {a : Identifier kind} (h : w? = some (.text a.text)) :
    (identifier kind).CanRead w? := by
  rw [h]
  exact succeeds_identifier a

theorem returns_identifier (kind : Kind) : (identifier kind).Returns depth :=
  fun _ a _ _ => ⟨rfl, gives_identifier a⟩

/-- A text `s` that was read stands there, and the empty one if nothing does. -/
theorem eq_of_reads_text {s : String} (h : text.Reads w? s) : .text s = w?.getD (.text "") := by
  cases w? with
  | none => rw [← Option.some.inj h, Option.getD_none]
  | some w => rw [text_of_canYield_text h, Option.getD_some]

/-- A text can be read if what stands there, `w?`, is a text or nothing. -/
theorem canRead_text (h : ∀ w, w? = some w → ∃ s, w = .text s) : text.CanRead w? := by
  cases w? with
  | none => rfl
  | some w =>
    obtain ⟨s, rfl⟩ := h w rfl
    exact succeeds_text s

/-- A text is read back, for it is written even if it is empty. -/
theorem returns_text : text.Returns depth :=
  fun _ s _ _ => ⟨rfl, gives_text s⟩

/-- A text that may be missing is read back: if there is none it is not written, and so is read as
none. -/
theorem returns_textIfAny : textIfAny.Returns depth := by
  intro w? o _ _
  cases o with
  | none => rfl
  | some s => exact ⟨rfl, gives_optional (fun h => Node.noConfusion h) (gives_text s)⟩

/-- A state was read from its text; the unknown one was also read if `null` stands there or
nothing. -/
theorem eq_of_reads_state {k : ServiceStateKind} (h : state.Reads w? k) :
    w? = some (.text k.text) ∨ (w? = none ∨ w? = some .null) ∧ k = .unknown := by
  cases w? with
  | none => exact .inr ⟨.inl rfl, (Option.some.inj h).symm⟩
  | some w =>
    obtain ⟨rfl, rfl⟩ | rfl := eq_of_canYield_serviceStateKind h
    · exact .inr ⟨.inr rfl, rfl⟩
    · exact .inl rfl

/-- A state `k` that was read is what its text stands for. The unknown state, which stands for a
missing member, is as well. -/
theorem isCanonical_of_reads_state {k : ServiceStateKind} (h : state.Reads w? k) :
    k.IsCanonical := by
  cases w? with
  | none =>
    rw [← Option.some.inj h]
    rfl
  | some w => exact isCanonical_of_canYield h

/-- A state can be read if what stands there, if anything, is a text or `null`. -/
theorem canRead_state (h : ∀ w, w? = some w → w = .null ∨ ∃ s, w = .text s) :
    state.CanRead w? := by
  cases w? with
  | none => rfl
  | some w => exact succeeds_serviceStateKind (h w rfl)

/-- A state is read back from its text, for it is what its text stands for. -/
theorem returns_state : state.Returns depth :=
  fun _ _ _ h => ⟨rfl, gives_serviceStateKind (isCanonical_of_reads_state h)⟩

/-- A configuration is read back where an object may stand, within `depth` arrays and objects and
one more. -/
theorem returns_config {outer : Nat} (hle : outer ≤ depth) (hdepth : depth + 1 < Json.maxNesting) :
    (config outer).Returns (depth + 1) := by
  intro w? services htaken h
  obtain ⟨hsorted, hvalues⟩ : Json.Sorted (configMembers services) ∧
      ∀ m ∈ configMembers services, m.2.toNode.take (depth + 2) = .ok m.2 := by
    cases w? with
    | none =>
      obtain rfl := Option.some.inj h
      exact ⟨List.Pairwise.nil, fun m hm => absurd hm List.not_mem_nil⟩
    | some w => exact sorted_of_canYield_config (htaken w rfl) (Nat.succ_le_succ hle) h
  have htake : (Json.object (configMembers services)).toNode.take (depth + 1) =
      .ok (.object (configMembers services)) :=
    Json.take_object_eq_ok_iff.mpr ⟨hdepth, rfl, configMembers services,
      Json.takeMembers_toNodeMembers_of_forall hvalues,
      congrArg Json.object (Json.collect_of_sorted hsorted)⟩
  exact ⟨htake, gives_config hsorted fun m hm =>
    Json.take_toNode_of_mem htake (Nat.succ_le_succ (Nat.succ_le_succ hle)) hm⟩

end FieldKind

end FleetAgent.Wire

namespace FleetAgent

open Wire Wire.Decoder

/-! ### The forms -/

/-- How an application is decoded: its identifier is required. -/
def Application.form : OpenForm ApplicationDraft Application where
  label := "Application"
  fields := [
    ⟨"id", .identifier .application, ApplicationDraft.id, fun d a => { d with id := some a },
      Application.id⟩,
    ⟨"name", .textIfAny, ApplicationDraft.name, fun d a => { d with name := some a },
      Application.name⟩]
  init := ⟨none, none, []⟩
  extra := ApplicationDraft.extra
  setExtra d e := { d with extra := e }
  kept := Application.extra
  finish d := do
    return { id := ← required "id" d.id, name := d.name.getD none, extra := d.extra }
  succeeds_finish h :=
    (succeeds_required (h _ List.mem_cons_self rfl)).bind fun _ _ => succeeds_pure
  notesOnly_finish := notesOnly_required.bind fun _ => notesOnly_pure

/-- How a release within `depth` arrays and objects is decoded. Nothing is required of it. -/
def Release.form (depth : Nat) : OpenForm ReleaseDraft Release where
  label := "Release"
  fields := [
    ⟨"id", .textIfAny, ReleaseDraft.id, fun d a => { d with id := some a }, Release.id⟩,
    ⟨"config", .config depth, ReleaseDraft.config, fun d a => { d with config := some a },
      Release.config⟩]
  init := ⟨none, none, []⟩
  extra := ReleaseDraft.extra
  setExtra d e := { d with extra := e }
  kept := Release.extra
  finish d := do
    return { id := d.id.getD none, config := d.config.getD [], extra := d.extra }
  succeeds_finish _ := succeeds_pure
  notesOnly_finish := notesOnly_pure

/-- How the status of an application is decoded: the application is required, and its release is
empty if it is missing. -/
def ApplicationStatus.form : OpenForm ApplicationStatusDraft ApplicationStatus where
  label := "ApplicationStatus"
  fields := [
    ⟨"applicationId", .identifier .application, ApplicationStatusDraft.applicationId,
      fun d a => { d with applicationId := some a }, ApplicationStatus.applicationId⟩,
    ⟨"currentReleaseId", .text, ApplicationStatusDraft.currentReleaseId,
      fun d a => { d with currentReleaseId := some a }, ApplicationStatus.currentReleaseId⟩]
  init := ⟨none, none, []⟩
  extra := ApplicationStatusDraft.extra
  setExtra d e := { d with extra := e }
  kept := ApplicationStatus.extra
  finish d := do
    return { applicationId := ← required "applicationId" d.applicationId,
             currentReleaseId := d.currentReleaseId.getD "", extra := d.extra }
  succeeds_finish h :=
    (succeeds_required (h _ List.mem_cons_self rfl)).bind fun _ _ => succeeds_pure
  notesOnly_finish := notesOnly_required.bind fun _ => notesOnly_pure

/-- How the status of a service is decoded: the application and the service are required. -/
def ServiceStatus.form : OpenForm ServiceStatusDraft ServiceStatus where
  label := "ServiceStatus"
  fields := [
    ⟨"applicationId", .identifier .application, ServiceStatusDraft.applicationId,
      fun d a => { d with applicationId := some a }, ServiceStatus.applicationId⟩,
    ⟨"service", .identifier .service, ServiceStatusDraft.service,
      fun d a => { d with service := some a }, ServiceStatus.service⟩,
    ⟨"currentReleaseId", .text, ServiceStatusDraft.currentReleaseId,
      fun d a => { d with currentReleaseId := some a }, ServiceStatus.currentReleaseId⟩]
  init := ⟨none, none, none, []⟩
  extra := ServiceStatusDraft.extra
  setExtra d e := { d with extra := e }
  kept := ServiceStatus.extra
  finish d := do
    return { applicationId := ← required "applicationId" d.applicationId,
             service := ← required "service" d.service,
             currentReleaseId := d.currentReleaseId.getD "", extra := d.extra }
  succeeds_finish h :=
    (succeeds_required (h _ List.mem_cons_self rfl)).bind fun _ _ =>
      (succeeds_required (h _ (List.mem_cons_of_mem _ List.mem_cons_self) rfl)).bind
        fun _ _ => succeeds_pure
  notesOnly_finish :=
    notesOnly_required.bind fun _ => notesOnly_required.bind fun _ => notesOnly_pure

/-- How the state of a service is decoded: the application and the service are required, and a
missing state is the unknown one. -/
def ServiceState.form : OpenForm ServiceStateDraft ServiceState where
  label := "ServiceState"
  fields := [
    ⟨"applicationId", .identifier .application, ServiceStateDraft.applicationId,
      fun d a => { d with applicationId := some a }, ServiceState.applicationId⟩,
    ⟨"service", .identifier .service, ServiceStateDraft.service,
      fun d a => { d with service := some a }, ServiceState.service⟩,
    ⟨"state", .state, ServiceStateDraft.state, fun d a => { d with state := some a },
      ServiceState.state⟩,
    ⟨"errorMessage", .text, ServiceStateDraft.errorMessage,
      fun d a => { d with errorMessage := some a }, ServiceState.errorMessage⟩]
  init := ⟨none, none, none, none, []⟩
  extra := ServiceStateDraft.extra
  setExtra d e := { d with extra := e }
  kept := ServiceState.extra
  finish d := do
    return { applicationId := ← required "applicationId" d.applicationId,
             service := ← required "service" d.service,
             state := d.state.getD .unknown,
             errorMessage := d.errorMessage.getD "", extra := d.extra }
  succeeds_finish h :=
    (succeeds_required (h _ List.mem_cons_self rfl)).bind fun _ _ =>
      (succeeds_required (h _ (List.mem_cons_of_mem _ List.mem_cons_self) rfl)).bind
        fun _ _ => succeeds_pure
  notesOnly_finish :=
    notesOnly_required.bind fun _ => notesOnly_required.bind fun _ => notesOnly_pure

/-! ### Decoders and written forms -/

section Decoders

variable (depth : Nat)

theorem Application.decoder_form : Application.form.decoder depth = application depth := rfl

theorem Release.decoder_form : (Release.form depth).decoder depth = release depth := rfl

theorem ApplicationStatus.decoder_form :
    ApplicationStatus.form.decoder depth = applicationStatus depth := rfl

theorem ServiceStatus.decoder_form :
    ServiceStatus.form.decoder depth = serviceStatus depth := rfl

theorem ServiceState.decoder_form : ServiceState.form.decoder depth = serviceState depth := rfl

end Decoders

/-- An application `a` is written as its form writes it. A name that is missing is left out by
both. -/
theorem Application.toJson_form (a : Application) :
    a.toJson = .object (Application.form.written a ++ a.extra) := by
  obtain ⟨id, name, extra⟩ := a
  cases name <;> rfl

theorem Release.toJson_form (depth : Nat) (r : Release) :
    r.toJson = .object ((Release.form depth).written r ++ r.extra) := by
  obtain ⟨id, config, extra⟩ := r
  cases id <;> rfl

theorem ApplicationStatus.toJson_form (s : ApplicationStatus) :
    s.toJson = .object (ApplicationStatus.form.written s ++ s.extra) := rfl

theorem ServiceStatus.toJson_form (s : ServiceStatus) :
    s.toJson = .object (ServiceStatus.form.written s ++ s.extra) := rfl

theorem ServiceState.toJson_form (s : ServiceState) :
    s.toJson = .object (ServiceState.form.written s ++ s.extra) := rfl

end FleetAgent
