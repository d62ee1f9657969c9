import FleetAgent.Proofs.Enrollment.Invariants
/-!
# How a device gets its identity

`EnrollmentRun.protocol` says of every run of an enrollment, whatever the state directory `d` holds
at first, whatever the controller answers and whenever the shutdown comes: what needs no request
ends without one; otherwise requests for a registration are sent one at a time, not before a pause
is over, and none behind an answer that decodes or the shutdown; the identity is that of this
answer, and is stored; and an enrollment that is called off has stored nothing. These are the fields
of `EnrollmentProtocol`.

The parts are proved for any world that `EnrollmentWorld.Tracks` the one at first, `e`. What a step
makes true for good, as a pause does, is followed to the later steps by `EnrollmentRun.pairwise`.
-/

namespace FleetAgent

open EnrollmentWorld EnrollmentStep Enrollment

variable {e : Enrollment} {v w : EnrollmentWorld} {x y : EnrollmentStep}
  {steps : List EnrollmentStep}

/-! ### Enrollments that need no request -/

/-- Nothing is asked and the directory `d` is not changed, and the first step of its own ends the
enrollment with `r`. -/
structure EnrollmentRun.EndsAtOnce (r : Except StartError Identity) (d : Directory)
    (steps : List EnrollmentStep) (w : EnrollmentWorld) : Prop where
  /-- No request is sent. -/
  requests_eq_nil : ∀ x ∈ steps, x.requests = []
  /-- The directory stays as it was found. -/
  directory_eq : ∀ x ∈ steps, x.after.enrollment.directory = d
  /-- A step of its own gives the result. -/
  result_of_advance : ∀ x ∈ steps, x.event = .advance → x.after.enrollment.result? = some r
  /-- It has ended, or this step can be taken. -/
  advances : w.enrollment.result? = some r ∨ (w.step? .advance).isSome = true

/-- What is decided without a request ends at once; `Settles` is kept by every step. -/
theorem EnrollmentRun.endsAtOnce {r : Except StartError Identity} (h : EnrollmentRun v steps w)
    (hphase : v.enrollment.phase = .created) (hr : v.enrollment.decided? = some r) :
    EndsAtOnce r v.enrollment.directory steps w := by
  have hstep : ∀ x : EnrollmentStep, x.IsStep → x.before.Settles v.enrollment r →
      x.requests = [] ∧ x.after.Settles v.enrollment r ∧
        (x.event = .advance → x.after.enrollment = v.enrollment.moveTo (.ended r)) :=
    fun x hx => settles_step hphase hr hx
  obtain ⟨hsteps, hw⟩ := h.forall_mem (fun x hx hs => (hstep x hx hs).2.1) (.inl rfl)
  have hmem : ∀ x ∈ steps, _ := fun x hx => hstep x (hsteps x hx).1 (hsteps x hx).2
  refine ⟨fun x hx => (hmem x hx).1, fun x hx => ?_, fun x hx hadvance => ?_, ?_⟩
  · obtain heq | heq := (hmem x hx).2.1
    · rw [heq]
    · rw [heq]
      rfl
  · rw [(hmem x hx).2.2 hadvance]
    rfl
  · -- It was never run, and then its step can be taken, or it has ended.
    obtain heq | heq := hw
    · right
      rw [EnrollmentWorld.step?, Option.isSome_map, advance?, heq, hphase]
      rfl
    · left
      rw [heq]
      rfl

/-! ### Requests, answers and the shutdown -/

namespace EnrollmentRun

/-- As long as none of the `steps` is its own an enrollment stays as it is. -/
theorem enrollment_eq (h : EnrollmentRun v steps w) (hrest : ∀ x ∈ steps, ¬ x.IsOwn) :
    w.enrollment = v.enrollment := by
  induction h with
  | nil w => rfl
  | cons hx _ ih =>
    obtain ⟨hfirst, hrest⟩ := List.forall_mem_cons.mp hrest
    exact (ih hrest).trans (EnrollmentStep.enrollment_eq hx hfirst)

section

variable (h : EnrollmentRun v steps w) (ht : v.Tracks e)
include h ht

/-- **A retry comes after the pause**, `e.retry` from the failure on: the failure makes `RestsUntil`
true of that moment. -/
theorem retry_after_pause :
    steps.Pairwise fun x y => x.FailsAttempt → y.requests ≠ [] → x.moment + e.retry ≤ y.moment := by
  refine h.pairwise (preserved_tracks e) ht fun x hx htx => ?_
  by_cases hfails : x.FailsAttempt
  · obtain ⟨token, attempt, hphase⟩ := x.pausing_of_failsAttempt hx htx hfails
    refine ⟨_, preserved_restsUntil e (x.moment + e.retry), ⟨preserved_tracks e x hx htx, ?_⟩, ?_⟩
    · exact .inr (.inr ⟨token, attempt, _, hphase, Nat.le_refl _⟩)
    · intro y hy ⟨hty, hrests⟩ _ hsends
      obtain ⟨_, _, hdue, -⟩ := y.due_of_requests hy hty hsends
      exact hdue.le_now hrests
  · exact ⟨fun _ => True, fun _ _ _ => trivial, trivial, fun _ _ _ h => absurd h hfails⟩

/-- **Another attempt is due after the pause** that the failure `x` began, `e.retry` later at the
earliest. -/
theorem due_after_pause {front back : List EnrollmentStep} (hsteps : steps = front ++ x :: back)
    (hfails : x.FailsAttempt) (hrest : ∀ y ∈ back, ¬ y.IsOwn)
    (hnow : x.moment + e.retry ≤ w.around.now) (hearly : w.isExpired = false) :
    ∃ token, w.Due token := by
  subst hsteps
  obtain ⟨u, hfront, hback⟩ := h.of_append
  obtain ⟨rfl, hx, hrun⟩ := hback.of_cons
  have htx := (hfront.forall_mem (preserved_tracks e) ht).2
  obtain ⟨token, attempt, hphase⟩ := x.pausing_of_failsAttempt hx htx hfails
  rw [← hrun.enrollment_eq hrest] at hphase
  exact ⟨token, .again hphase hnow hearly⟩

/-- **Nothing is asked behind an answer that decodes**, nor is another answer taken. Such an answer
ends the enrollment, or it is too late for another one: what is so behind it is preserved to every
later step `y`. -/
theorem none_after_answer :
    steps.Pairwise fun x y => x.answer? ≠ none → y.requests = [] ∧ y.answer? = none := by
  refine h.pairwise (preserved_tracks e) ht fun x hx htx => ?_
  by_cases hanswer : x.answer? = none
  · exact ⟨fun _ => True, fun _ _ _ => trivial, trivial, fun _ _ _ h => absurd hanswer h⟩
  obtain ⟨r, hended⟩ | hlate := ended_or_isLate_of_answer hx htx hanswer
  · exact ⟨_, preserved_ended r, hended, fun y hy hr _ => (outside_of_ended hy hr).2⟩
  · -- The answer came behind the deadline: the enrollment pauses for nothing.
    refine ⟨_, preserved_isLate e, ⟨preserved_tracks e x hx htx, hlate⟩, ?_⟩
    intro y hy ⟨hty, hlate⟩ _
    constructor
    · by_contra hsends
      obtain ⟨_, _, hdue, -⟩ := y.due_of_requests hy hty hsends
      exact hdue.not_isLate hlate
    · by_contra hanswer
      exact not_isLate_of_isAsking (isAsking_of_answer hy hanswer) hlate

/-- **Nothing is asked behind the shutdown**, as a context that is attached is called off then: the
step `x` behind it sends nothing. -/
theorem none_after_shutdown (hattached : e.context.attached = true)
    {front back : List EnrollmentStep}
    (hsteps : steps = front ++ x :: back)
    (hraised : v.around.signal.isRaised = true ∨
      ∃ y ∈ front, y.event = .trigger ∨ y.event = .drop) : x.requests = [] := by
  have hpreserved : Preserved fun w => w.Tracks e ∧ w.around.signal.isRaised = true :=
    fun x hx h => ⟨preserved_tracks e x hx h.1, isRaised_after hx h.1 h.2⟩
  have hmem : x ∈ steps := hsteps ▸ List.mem_append_right _ List.mem_cons_self
  obtain ⟨hx, htx⟩ := (h.forall_mem (preserved_tracks e) ht).1 x hmem
  have hbefore : x.before.around.signal.isRaised = true := by
    obtain hraised | ⟨y, hy, hevent⟩ := hraised
    · exact ((h.forall_mem hpreserved ⟨ht, hraised⟩).1 x hmem).2.2
    · have hlater : steps.Pairwise fun y x => y.event = .trigger ∨ y.event = .drop →
          x.before.around.signal.isRaised = true := by
        refine h.pairwise (preserved_tracks e) ht fun y hy hty => ?_
        by_cases hevent : y.event = .trigger ∨ y.event = .drop
        · exact ⟨_, hpreserved, ⟨preserved_tracks e y hy hty, isRaised_of_event hy hevent⟩,
            fun _ _ h _ => h.2⟩
        · exact ⟨fun _ => True, fun _ _ _ => trivial, trivial, fun _ _ _ h => absurd h hevent⟩
      rw [hsteps] at hlater
      exact (List.pairwise_append.mp hlater).2.2 y hy x List.mem_cons_self hevent
  -- A request is only sent while the context is not called off.
  by_contra hsends
  obtain ⟨token, r, -, hcall, -⟩ := x.due_of_requests hx htx hsends
  rw [htx.call_eq] at hcall
  have hopen := Controller.Client.not_isCanceled_of_start hcall
  rw [Context.isCanceled, hattached, hbefore] at hopen
  cases hopen

/-- A request that is under way ends in a step `z`, and the pause goes by, before another one is
sent in `y`. The induction is on `front`: the request ends in its first step, or is still under way
behind it. -/
theorem exists_endsRequest {front back : List EnrollmentStep} (hsteps : steps = front ++ y :: back)
    (hasking : v.enrollment.phase.isAsking = true) (hsends : y.requests ≠ []) :
    ∃ z ∈ front, z.EndsRequest ∧ z.moment + e.retry ≤ y.moment := by
  induction front generalizing v steps with
  | nil =>
    subst hsteps
    obtain ⟨rfl, hy, -⟩ := h.of_cons
    obtain ⟨_, _, hdue, -⟩ := y.due_of_requests hy ht hsends
    exact absurd hasking hdue.not_isAsking
  | cons z front ih =>
    -- Either the request is still under way behind `z`, or `z` ends it.
    subst hsteps
    have hpause := h.retry_after_pause ht
    obtain ⟨rfl, hz, rest⟩ := h.of_cons
    have htafter := preserved_tracks e z hz ht
    by_cases hafter : z.after.enrollment.phase.isAsking = true
    · obtain ⟨z', hz', hends⟩ := ih rest htafter rfl hafter
      exact ⟨z', List.mem_cons_of_mem _ hz', hends⟩
    · have hends : z.EndsRequest := ⟨hasking, Bool.eq_false_iff.mpr hafter⟩
      have hmem : y ∈ front ++ y :: back := List.mem_append_right _ List.mem_cons_self
      refine ⟨z, List.mem_cons_self, hends, ?_⟩
      obtain hfails | ⟨r, hended⟩ := hends.failsAttempt_or_ended hz ht
      · exact (List.pairwise_cons.mp hpause).1 y hmem hfails hsends
      · -- Nothing is sent behind the end.
        obtain ⟨hy, hr⟩ := (rest.forall_mem (preserved_ended r) hended).1 y hmem
        exact absurd (outside_of_ended hy hr).2.1 hsends

/-- **An identity that is returned is that of the only answer that decodes.** The induction is on
the run; behind the step that accepts the answer `r` nothing is answered. -/
theorem answers_of_ended_ok {i : Identity} (hopen : ∀ r, v.enrollment.phase ≠ .ended r)
    (hundecided : e.decided? = none) (hended : w.enrollment.phase = .ended (.ok i)) :
    ∃ r, steps.filterMap answer? = [r] ∧ r.identity = i := by
  induction h with
  | nil w => exact absurd hended (hopen _)
  | @cons x rest w hx hrun ih =>
    have htafter := preserved_tracks e x hx ht
    cases x.moves_of_isStep hx ht.flies with
    | outside henrollment _ hanswer =>
      rw [List.filterMap_cons_none hanswer]
      exact ih htafter (by rwa [henrollment]) hended
    | decided hphase hr =>
      rw [ht.decided?_eq hphase, hundecided] at hr
      cases hr
    | sent _ _ hafter _ hanswer =>
      rw [List.filterMap_cons_none hanswer]
      refine ih htafter (not_ended_of_isAsking ?_) hended
      rw [hafter]
      rfl
    | failed _ hafter _ hlate =>
      have hpausing : x.after.enrollment.phase.isPausing = true := by rw [hafter]; rfl
      by_cases hanswer : x.answer? = none
      · rw [List.filterMap_cons_none hanswer]
        exact ih htafter (not_ended_of_isPausing hpausing) hended
      · -- The answer has come too late, and so would any other.
        have hexpired : x.after.isExpired = true := by
          rw [hafter]
          exact hlate hanswer
        have hw := (hrun.forall_mem (preserved_isLate e) ⟨htafter, .inr ⟨hpausing, hexpired⟩⟩).2.2
        obtain hcanceled | ⟨hpausing, -⟩ := hw
        · rw [hended] at hcanceled
          cases hcanceled
        · exact absurd hended (not_ended_of_isPausing hpausing _)
    | canceled _ hafter =>
      have hw := (hrun.forall_mem (preserved_ended (.error .canceled)) (by rw [hafter]; rfl)).2
      rw [hended] at hw
      cases hw
    | @accepted r _ result _ haccepts _ hafter =>
      have hphase : x.after.enrollment.phase = .ended (saved r.identity result) := by rw [hafter]
      obtain ⟨hquiet, hw⟩ := hrun.forall_mem (preserved_ended _) hphase
      have hnone : rest.filterMap answer? = [] :=
        List.filterMap_eq_nil_iff.mpr fun y hy =>
          (outside_of_ended (hquiet y hy).1 (hquiet y hy).2).2.2
      rw [hended] at hw
      have hidentity := (saved_eq_ok_iff.mp (EnrollmentPhase.ended.inj hw).symm).2
      rw [List.filterMap_cons_some haccepts.1, hnone]
      exact ⟨r, rfl, hidentity⟩

/-- **An enrollment that is called off has accepted nothing**: an answer `r` that is accepted ends
it with a result of the save, which is never to be called off. -/
theorem not_accepts_of_canceled (hended : w.enrollment.phase = .ended (.error .canceled))
    (hx : x ∈ steps) (r : Registration) : ¬ x.Accepts r := by
  intro haccepts
  obtain ⟨front, back, rfl⟩ := List.append_of_mem hx
  obtain ⟨u, hfront, hback⟩ := h.of_append
  obtain ⟨rfl, hx, hrun⟩ := hback.of_cons
  have htx := (hfront.forall_mem (preserved_tracks e) ht).2
  have hanswer : x.answer? ≠ none := by
    rw [haccepts.1]
    exact Option.some_ne_none r
  cases x.moves_of_isStep hx htx.flies with
  | outside _ _ hnone | decided _ _ _ _ hnone | sent _ _ _ _ hnone => exact absurd hnone hanswer
  | failed _ _ _ hlate =>
    have := hlate hanswer
    rw [haccepts.2.2] at this
    cases this
  | canceled _ _ _ hnot => exact hnot r haccepts
  | @accepted r' _ result _ _ _ hafter =>
    have hphase : x.after.enrollment.phase = .ended (saved r'.identity result) := by rw [hafter]
    have hw := (hrun.forall_mem (preserved_ended _) hphase).2
    rw [hended] at hw
    exact saved_ne_canceled (EnrollmentPhase.ended.inj hw).symm

end

end EnrollmentRun

/-! ### The protocol -/

/-- The result of an enrollment is the `r` that it has ended with. -/
theorem result?_eq_some_iff {r : Except StartError Identity} :
    e.result? = some r ↔ e.phase = .ended r := by
  rw [result?]
  cases e.phase <;> simp

/-- The request for a registration as an enrollment sends it, if it can be sent now. -/
def registrationCall (config : Config) (context : Context) (around : Surroundings)
    (token : RegistrationToken) : Except Controller.ClientError Controller.Request :=
  (Controller.Client.create config.controllerUrl config.project).start context around.signal
    around.now (.register token.secret)

/-- What is so when an enrollment that has found `d` in the state directory, and the given things
around it, has taken some steps to `w`. -/
structure EnrollmentProtocol (config : Config) (context : Context) (umask : Mode) (d : Directory)
    (around : Surroundings) (steps : List EnrollmentStep) (w : EnrollmentWorld) : Prop where
  /-- An identity that is stored is the result. -/
  identity_found : ∀ i, (IdentityStore.mk config.stateDir).load d = .ok (some i) →
    EnrollmentRun.EndsAtOnce (.ok i) d steps w
  /-- A file that cannot be read, or not as an identity, is an error. -/
  file_refused : ∀ error, (IdentityStore.mk config.stateDir).load d = .error error →
    EnrollmentRun.EndsAtOnce (.error (.identity error)) d steps w
  /-- So is the lack of a token, if there is no identity. -/
  token_missing : (IdentityStore.mk config.stateDir).load d = .ok none →
    config.registrationToken = none → EnrollmentRun.EndsAtOnce (.error .missingToken) d steps w
  /-- Without an identity, but with a token, a request is due at first. -/
  first_due : ∀ token, (IdentityStore.mk config.stateDir).load d = .ok none →
    config.registrationToken = some token → (∀ x ∈ steps, ¬ x.IsOwn) → w.Due token
  /-- Another one is due after the pause, unless the context has ended before. -/
  retry_due : ∀ front x back, steps = front ++ x :: back → x.FailsAttempt →
    (∀ y ∈ back, ¬ y.IsOwn) → x.moment + config.registrationRetry ≤ w.around.now →
      w.isExpired = false → ∃ token, w.Due token
  /-- A request that is due and can be sent is sent with the next step. -/
  asks_when_due : ∀ token r, w.Due token → registrationCall config context w.around token = .ok r →
    ∃ x : EnrollmentStep, x.before = w ∧ x.event = .advance ∧ x.IsStep ∧ x.requests = [r]
  /-- All requests are for a registration, and a step sends one at most. -/
  one_at_a_time : ∀ x ∈ steps, x.requests = [] ∨ ∃ token r, x.before.Due token ∧
    config.registrationToken = some token ∧
      registrationCall config context x.before.around token = .ok r ∧ x.requests = [r]
  /-- Between two requests the first of them ends, and the pause goes by. -/
  request_apart : ∀ front x between y back, steps = front ++ x :: (between ++ y :: back) →
    x.requests ≠ [] → y.requests ≠ [] →
      ∃ z ∈ between, z.EndsRequest ∧ z.moment + config.registrationRetry ≤ y.moment
  /-- This is so too for an attempt that fails before there is a request. -/
  retry_after_pause : steps.Pairwise fun x y => x.FailsAttempt → y.requests ≠ [] →
    x.moment + config.registrationRetry ≤ y.moment
  none_after_answer : steps.Pairwise fun x y => x.answer? ≠ none → y.requests = []
  none_after_shutdown : context.attached = true → ∀ front x back, steps = front ++ x :: back →
    (around.signal.isRaised = true ∨ ∃ y ∈ front, y.event = .trigger ∨ y.event = .drop) →
      x.requests = []
  /-- An answer that comes while it is waited for is saved, and ends the enrollment. -/
  answer_saved : ∀ x ∈ steps, ∀ r, x.Accepts r →
    ∃ d' result, (IdentityStore.mk config.stateDir).save umask d r.identity = (d', result) ∧
      x.after.enrollment.directory = d' ∧
        x.after.enrollment.result? = some (saved r.identity result)
  /-- An identity that is returned is stored. If it was not found, it is that of the only answer
  that decodes. -/
  identity_stored : ∀ i, w.enrollment.result? = some (.ok i) →
    (IdentityStore.mk config.stateDir).load w.enrollment.directory = .ok (some i) ∧
      ((IdentityStore.mk config.stateDir).load d = .ok (some i) ∨
        (IdentityStore.mk config.stateDir).load d = .ok none ∧
          ∃ r, steps.filterMap answer? = [r] ∧ r.identity = i)
  /-- An enrollment that is called off has taken no answer, and has written no file. -/
  canceled : w.enrollment.result? = some (.error .canceled) →
    (IdentityStore.mk config.stateDir).load d = .ok none ∧ w.enrollment.directory = d ∧
      ∀ x ∈ steps, ∀ r, ¬ x.Accepts r

/-- **Every enrollment follows the protocol**: whatever is in the state directory `d`, whatever is
answered and whenever the agent is shut down. Each field of `EnrollmentProtocol` is one of the
lemmas above. -/
theorem EnrollmentRun.protocol (config : Config) (context : Context) (umask : Mode) (d : Directory)
    (around : Surroundings) {steps : List EnrollmentStep} {w : EnrollmentWorld}
    (h : EnrollmentRun ⟨create config context umask d, around⟩ steps w) :
    EnrollmentProtocol config context umask d around steps w := by
  have ht := @tracks_self ⟨create config context umask d, around⟩ rfl
  obtain ⟨hsteps, hw⟩ := h.forall_mem (preserved_tracks _) ht
  have hopen : ∀ r, (create config context umask d).phase ≠ .ended r := nofun
  constructor
  case identity_found =>
    intro i hload
    exact h.endsAtOnce rfl (decided?_of_load_some hload)
  case file_refused =>
    intro error hload
    exact h.endsAtOnce rfl (decided?_of_load_error hload)
  case token_missing =>
    intro hload htoken
    exact h.endsAtOnce rfl (decided?_of_token hload htoken)
  case first_due =>
    intro token hload htoken hrest
    have heq := h.enrollment_eq hrest
    refine .first (by rw [heq]; rfl) ?_ (by rw [heq]; exact htoken)
    rw [heq]
    exact decided?_eq_none_of_token hload htoken
  case retry_due =>
    intro front x back heq hfails hrest hnow hearly
    exact h.due_after_pause ht heq hfails hrest hnow hearly
  case asks_when_due =>
    intro token r hdue hcall
    exact hdue.exists_step ((hw.call_eq token).trans hcall)
  case one_at_a_time =>
    intro x hx
    obtain ⟨hstep, htx⟩ := hsteps x hx
    by_cases hsends : x.requests = []
    · exact .inl hsends
    · obtain ⟨token, r, hdue, hcall, hrequests, -⟩ := x.due_of_requests hstep htx hsends
      exact .inr ⟨token, r, hdue, hdue.token?_eq htx, (htx.call_eq token).symm.trans hcall,
        hrequests⟩
  case request_apart =>
    rintro front x between y back rfl hx hy
    obtain ⟨u, hfront, hrest⟩ := h.of_append
    obtain ⟨rfl, hxstep, hrest⟩ := hrest.of_cons
    have htx := (hfront.forall_mem (preserved_tracks _) ht).2
    obtain ⟨_, _, -, -, -, hasking⟩ := x.due_of_requests hxstep htx hx
    exact hrest.exists_endsRequest (preserved_tracks _ x hxstep htx) rfl hasking hy
  case retry_after_pause => exact h.retry_after_pause ht
  case none_after_answer => exact (h.none_after_answer ht).imp fun hnone h => (hnone h).1
  case none_after_shutdown =>
    intro hattached front x back heq hraised
    exact h.none_after_shutdown ht hattached heq hraised
  case answer_saved =>
    intro x hx r haccepts
    obtain ⟨hdirectory, hphase⟩ := haccepts.saved (hsteps x hx).1 (hsteps x hx).2
    exact ⟨_, _, rfl, hdirectory, result?_eq_some_iff.mpr hphase⟩
  case identity_stored =>
    intro i hresult
    have hended := result?_eq_some_iff.mp hresult
    have hstored := hw.stored i hended
    rw [EnrollmentWorld.stored, hw.store_eq] at hstored
    refine ⟨hstored, ?_⟩
    cases hdecided : (create config context umask d).decided? with
    | none =>
      exact .inr ⟨eq_of_decided?_eq_none hdecided, h.answers_of_ended_ok ht hopen hdecided hended⟩
    | some r =>
      -- Decided without a request: the identity is the one that was found.
      obtain hr | hadvances := (h.endsAtOnce rfl hdecided).advances
      · rw [hresult] at hr
        exact .inl (stored_of_decided? (hdecided.trans hr.symm))
      · rw [EnrollmentWorld.step?, Option.isSome_map, advance?, hended] at hadvances
        cases hadvances
  case canceled =>
    intro hresult
    have hended := result?_eq_some_iff.mp hresult
    refine ⟨eq_of_decided?_eq_none (hw.undecided (.inr (.inr hended))), ?_, fun x hx r =>
      h.not_accepts_of_canceled ht hended hx r⟩
    obtain hsame | ⟨r, hr, hne⟩ := hw.directory
    · exact hsame
    · rw [hended] at hr
      exact absurd (EnrollmentPhase.ended.inj hr).symm hne

/-- A device that has nothing asks, hears nothing, asks again five seconds later and is answered. -/
theorem EnrollmentRun.protocol_asked_twice :
    ∃ (config : Config) (steps : List EnrollmentStep) (w : EnrollmentWorld),
      EnrollmentRun ⟨create config .root 0 .absent, ⟨0, .fresh, .empty⟩⟩ steps w ∧
        steps.map (·.requests.length) = [1, 0, 0, 1, 0] ∧
        (w.enrollment.result?.bind (·.toOption)).map (·.deviceId.text) = some "d" ∧
        EnrollmentProtocol config .root 0 .absent ⟨0, .fresh, .empty⟩ steps w := by
  have hrun : (run? ⟨create { Config.standard "http://c" ⟨"p", by decide⟩ with
        registrationToken := some ⟨"t"⟩ } .root 0 .absent, ⟨0, .fresh, .empty⟩⟩
      [.advance, .reply (.error .timeout), .elapse 5000, .advance, .reply (.ok ⟨⟨200, by decide⟩,
        Text.Utf8.encode "\x7b\"deviceId\":\"d\",\"accessKey\":\"k\"\x7d"⟩)]).map
      (fun p => (p.1.map (·.requests.length),
        (p.2.enrollment.result?.bind (·.toOption)).map (·.deviceId.text))) =
    some ([1, 0, 0, 1, 0], some "d") := by decide +kernel
  obtain ⟨⟨steps, w⟩, hrun, heq⟩ := Option.map_eq_some_iff.mp hrun
  obtain ⟨hrequests, hresult⟩ := Prod.mk.inj heq
  exact ⟨_, steps, w, .of_run? hrun, hrequests, hresult,
    protocol _ .root 0 .absent ⟨0, .fresh, .empty⟩ (.of_run? hrun)⟩

end FleetAgent
