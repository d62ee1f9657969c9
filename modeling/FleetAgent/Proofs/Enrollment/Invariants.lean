import FleetAgent.Proofs.Enrollment.Steps
import FleetAgent.Proofs.Identity.WrittenOnce
/-!
# What the steps of an enrollment preserve

Each of these is a predicate on worlds that every step preserves, as is seen from the ways in which
an enrollment goes on (`EnrollmentStep.Moves`).

* `EnrollmentWorld.Tracks e` is shared by all that is said of an enrollment that was created as `e`:
  what it was created with stays, the state directory is as it was found until an answer is
  accepted, and an identity is returned only if it is stored.
* An enrollment that has ended stays as it is (`outside_of_ended`), and one that needs no request
  ends with its first step (`EnrollmentWorld.Settles`).
* `EnrollmentWorld.RestsUntil m`: no request before the moment `m`.
* `EnrollmentWorld.IsLate`: no request any more, because the deadline has passed.
-/

namespace FleetAgent

namespace EnrollmentWorld

variable {e : Enrollment} {v w : EnrollmentWorld}

/-- The enrollment has started as `e`, and has ended if anything was stored. -/
structure Tracks (e : Enrollment) (w : EnrollmentWorld) : Prop where
  /-- What it was created with stays. -/
  client_eq : w.enrollment.client = e.client
  context_eq : w.enrollment.context = e.context
  store_eq : w.enrollment.store = e.store
  token_eq : w.enrollment.token? = e.token?
  retry_eq : w.enrollment.retry = e.retry
  umask_eq : w.enrollment.umask = e.umask
  /-- It asks with the token that it was given. -/
  asks : ∀ token, w.enrollment.phase.token? = some token → e.token? = some token
  /-- A request is waited for in the context. -/
  flies : w.FliesInContext
  /-- The directory is as it was, unless the controller has given an identity. -/
  directory : w.enrollment.directory = e.directory ∨
    ∃ r, w.enrollment.phase = .ended r ∧ r ≠ .error .canceled
  /-- An identity is returned only if it is stored. -/
  stored : ∀ i, w.enrollment.phase = .ended (.ok i) → w.stored = .ok (some i)
  /-- It has not been called off if there was nothing to wait for. -/
  undecided : w.enrollment.phase.isAsking = true ∨ w.enrollment.phase.isPausing = true ∨
    w.enrollment.phase = .ended (.error .canceled) → e.decided? = none

/-- An enrollment that was just created has started as itself. -/
theorem tracks_self (h : w.enrollment.phase = .created) : w.Tracks w.enrollment where
  client_eq := rfl
  context_eq := rfl
  store_eq := rfl
  token_eq := rfl
  retry_eq := rfl
  umask_eq := rfl
  asks := by
    intro token htoken
    rw [h] at htoken
    cases htoken
  flies := by
    intro token attempt f hf
    rw [h] at hf
    cases hf
  directory := .inl rfl
  stored := by
    intro i hi
    rw [h] at hi
    cases hi
  undecided := by
    rw [h]
    rintro (h | h | h) <;> cases h

namespace Tracks

variable (h : w.Tracks e)
include h

/-- The directory is as it was for the enrollment `e` that was created, as long as it has not
ended. -/
theorem directory_eq (hphase : ∀ r, w.enrollment.phase ≠ .ended r) :
    w.enrollment.directory = e.directory := by
  obtain h | ⟨r, hr, -⟩ := h.directory
  · exact h
  · exact absurd hr (hphase r)

/-- What needs no request is decided as it was for `e` at first, as long as the enrollment was not
run. -/
theorem decided?_eq (hphase : w.enrollment.phase = .created) :
    w.enrollment.decided? = e.decided? := by
  have hdirectory := h.directory_eq (by rw [hphase]; rintro r ⟨⟩)
  rw [Enrollment.decided?, Enrollment.decided?, hdirectory, h.store_eq, h.token_eq]

/-- The enrollment goes on to another phase, which is no end. -/
theorem moveTo {phase : EnrollmentPhase} (hphase : ∀ r, w.enrollment.phase ≠ .ended r)
    (hopen : ∀ r, phase ≠ .ended r)
    (hasks : ∀ token, phase.token? = some token → e.token? = some token)
    (hflies : ∀ token attempt f, phase = .asking token attempt f →
      f.context = w.enrollment.context) (hundecided : e.decided? = none) :
    EnrollmentWorld.Tracks e ⟨w.enrollment.moveTo phase, w.around⟩ where
  client_eq := h.client_eq
  context_eq := h.context_eq
  store_eq := h.store_eq
  token_eq := h.token_eq
  retry_eq := h.retry_eq
  umask_eq := h.umask_eq
  asks := hasks
  flies := hflies
  directory := .inl (h.directory_eq hphase)
  stored _ hi := absurd hi (hopen _)
  undecided _ := hundecided

/-- The enrollment ends with `r` without a change to the directory. -/
theorem moveTo_ended {r : Except StartError Identity} (hphase : ∀ r, w.enrollment.phase ≠ .ended r)
    (hstored : ∀ i, r = .ok i → w.stored = .ok (some i))
    (hundecided : r = .error .canceled → e.decided? = none) :
    EnrollmentWorld.Tracks e ⟨w.enrollment.moveTo (.ended r), w.around⟩ where
  client_eq := h.client_eq
  context_eq := h.context_eq
  store_eq := h.store_eq
  token_eq := h.token_eq
  retry_eq := h.retry_eq
  umask_eq := h.umask_eq
  asks := by rintro token ⟨⟩
  flies := by rintro token attempt f ⟨⟩
  directory := .inl (h.directory_eq hphase)
  stored i hi := hstored i (EnrollmentPhase.ended.inj hi)
  undecided := by
    rintro (h | h | h)
    · cases h
    · cases h
    · exact hundecided (EnrollmentPhase.ended.inj h)

/-- It asks as it would have asked at first. -/
theorem call_eq (token : RegistrationToken) :
    w.call token =
      e.client.start e.context w.around.signal w.around.now (.register token.secret) := by
  rw [EnrollmentWorld.call, h.client_eq, h.context_eq]

/-- The predicate is about the enrollment alone, not about what is around it. -/
theorem congr (heq : v.enrollment = w.enrollment) : v.Tracks e := by
  obtain ⟨enrollment, around⟩ := v
  obtain rfl := heq
  exact ⟨h.client_eq, h.context_eq, h.store_eq, h.token_eq, h.retry_eq, h.umask_eq, h.asks,
    h.flies, h.directory, h.stored, h.undecided⟩

end Tracks

variable {token : RegistrationToken}

theorem Due.not_ended (h : w.Due token) (r : Except StartError Identity) :
    w.enrollment.phase ≠ .ended r := by
  cases h with
  | first hphase _ _ | again hphase _ _ =>
    rw [hphase]
    rintro ⟨⟩

theorem Due.not_isAsking (h : w.Due token) : ¬ w.enrollment.phase.isAsking = true := by
  intro hasking
  cases h with
  | first hphase _ _ | again hphase _ _ =>
    rw [hphase] at hasking
    cases hasking

theorem Due.token?_eq (h : w.Due token) (ht : w.Tracks e) : e.token? = some token := by
  cases h with
  | first _ _ htoken => exact ht.token_eq.symm.trans htoken
  | again hphase _ _ => exact ht.asks token (by rw [hphase]; rfl)

theorem Due.undecided (h : w.Due token) (ht : w.Tracks e) : e.decided? = none := by
  cases h with
  | first hphase hdecided _ => exact (ht.decided?_eq hphase).symm.trans hdecided
  | again hphase _ _ => exact ht.undecided (.inr (.inl (by rw [hphase]; rfl)))

theorem not_ended_of_isAsking (h : w.enrollment.phase.isAsking = true)
    (r : Except StartError Identity) : w.enrollment.phase ≠ .ended r := by
  intro hr
  rw [hr] at h
  cases h

theorem not_ended_of_isPausing (h : w.enrollment.phase.isPausing = true)
    (r : Except StartError Identity) : w.enrollment.phase ≠ .ended r := by
  intro hr
  rw [hr] at h
  cases h

end EnrollmentWorld

namespace Enrollment

variable {e : Enrollment}

theorem decided?_of_load_error {error : IdentityError}
    (h : e.store.load e.directory = .error error) :
    e.decided? = some (.error (.identity error)) := by
  rw [decided?, h]

theorem decided?_of_load_some {i : Identity} (h : e.store.load e.directory = .ok (some i)) :
    e.decided? = some (.ok i) := by
  rw [decided?, h]

theorem decided?_of_token (h : e.store.load e.directory = .ok none) (htoken : e.token? = none) :
    e.decided? = some (.error .missingToken) := by
  rw [decided?, h, htoken]

theorem decided?_eq_none_of_token {token : RegistrationToken}
    (h : e.store.load e.directory = .ok none) (htoken : e.token? = some token) :
    e.decided? = none := by
  rw [decided?, h, htoken]

/-- If an identity `i` is decided on, it is the one that is stored. -/
theorem stored_of_decided? {i : Identity} (h : e.decided? = some (.ok i)) :
    e.store.load e.directory = .ok (some i) := by
  rw [decided?] at h
  split at h
  next => cases h
  next hload =>
    cases h
    exact hload
  next => cases h
  next => cases h

theorem decided?_ne_canceled : e.decided? ≠ some (.error .canceled) := by
  rw [decided?]
  split <;> rintro ⟨⟩

theorem eq_of_decided?_eq_none (h : e.decided? = none) : e.store.load e.directory = .ok none := by
  rw [decided?] at h
  split at h
  next => cases h
  next => cases h
  next => cases h
  next hload _ => exact hload

/-- A save with the result `r` gives an identity exactly if it succeeds, and then the one that is
saved. -/
theorem saved_eq_ok_iff {i j : Identity} {r : Except IdentityError Unit} :
    saved i r = .ok j ↔ r = .ok () ∧ i = j := by
  rcases r with e | ⟨⟩ <;> simp [saved]

theorem saved_ne_canceled {i : Identity} {r : Except IdentityError Unit} :
    saved i r ≠ .error .canceled := by
  rcases r with e | ⟨⟩ <;> simp [saved]

end Enrollment

open EnrollmentWorld EnrollmentStep Enrollment

variable {e : Enrollment} {v w : EnrollmentWorld} {x y : EnrollmentStep}
  {steps : List EnrollmentStep}

/-- **Every step keeps what an enrollment has started as.** There is one case for each way of
`Moves`; only an answer that is accepted changes the directory, and then the enrollment ends. -/
theorem preserved_tracks (e : Enrollment) : Preserved (Tracks e) := by
  intro x hx ht
  cases x.moves_of_isStep hx ht.flies with
  | outside henrollment => exact ht.congr henrollment
  | decided hphase hr hafter =>
    rw [hafter]
    refine ht.moveTo_ended (by rw [hphase]; rintro r ⟨⟩) ?_ ?_
    · rintro i rfl
      exact stored_of_decided? hr
    · rintro rfl
      exact absurd hr decided?_ne_canceled
  | sent hdue _ hafter =>
    rw [hafter]
    refine ht.moveTo hdue.not_ended (by rintro r ⟨⟩) ?_ ?_ (hdue.undecided ht)
    · rintro _ ⟨⟩
      exact hdue.token?_eq ht
    · rintro _ _ _ ⟨⟩
      rfl
  | failed hwas hafter =>
    rw [hafter]
    obtain hdue | ⟨hasking, htoken⟩ := hwas
    · refine ht.moveTo hdue.not_ended (by rintro r ⟨⟩) ?_ (by rintro _ _ _ ⟨⟩) (hdue.undecided ht)
      rintro _ ⟨⟩
      exact hdue.token?_eq ht
    · refine ht.moveTo (not_ended_of_isAsking hasking) (by rintro r ⟨⟩) ?_ (by rintro _ _ _ ⟨⟩)
        (ht.undecided (.inl hasking))
      rintro _ ⟨⟩
      exact ht.asks _ htoken
  | canceled hwas hafter =>
    rw [hafter]
    obtain hasking | hpausing | ⟨token, hdue⟩ := hwas
    · exact ht.moveTo_ended (not_ended_of_isAsking hasking) (by rintro i ⟨⟩) fun _ =>
        ht.undecided (.inl hasking)
    · exact ht.moveTo_ended (not_ended_of_isPausing hpausing) (by rintro i ⟨⟩) fun _ =>
        ht.undecided (.inr (.inl hpausing))
    · exact ht.moveTo_ended hdue.not_ended (by rintro i ⟨⟩) fun _ => hdue.undecided ht
  | accepted hasking haccepts hsave hafter =>
    -- The only step that changes the directory, and the enrollment ends with it.
    rw [hafter]
    refine ⟨ht.client_eq, ht.context_eq, ht.store_eq, ht.token_eq, ht.retry_eq, ht.umask_eq,
      by rintro _ ⟨⟩, by rintro _ _ _ ⟨⟩, ?_, ?_, ?_⟩
    · exact .inr ⟨_, rfl, saved_ne_canceled⟩
    · intro i hi
      obtain ⟨hok, rfl⟩ := saved_eq_ok_iff.mp (EnrollmentPhase.ended.inj hi)
      have hload := IdentityStore.load_of_save_eq_ok ((congrArg Prod.snd hsave).trans hok)
      rw [hsave] at hload
      exact hload
    · rintro (h | h | h)
      · cases h
      · cases h
      · exact absurd (EnrollmentPhase.ended.inj h) saved_ne_canceled

/-- An answer `r` that is accepted is saved where there was no identity, and ends the enrollment,
with the identity or with the error of the save. -/
theorem EnrollmentStep.Accepts.saved {r : Registration} (h : x.Accepts r) (hx : x.IsStep)
    (ht : x.before.Tracks e) :
    x.after.enrollment.directory = (e.store.save e.umask e.directory r.identity).1 ∧
      x.after.enrollment.phase =
        .ended (Enrollment.saved r.identity (e.store.save e.umask e.directory r.identity).2) := by
  have hsome := h.1
  cases x.moves_of_isStep hx ht.flies with
  | outside _ _ hnone | decided _ _ _ _ hnone | sent _ _ _ _ hnone =>
    rw [hsome] at hnone
    cases hnone
  -- An attempt fails behind an answer that decodes only if the answer is late.
  | failed _ _ _ hlate =>
    have hlate := hlate (by rw [hsome]; exact Option.some_ne_none r)
    rw [h.2.2] at hlate
    cases hlate
  | canceled _ _ _ hnot => exact absurd h (hnot r)
  -- The directory is still the one at first, since the enrollment had not ended.
  | accepted hasking haccepts hsave hafter =>
    obtain rfl := Option.some.inj (haccepts.1.symm.trans hsome)
    rw [ht.store_eq, ht.umask_eq, ht.directory_eq (not_ended_of_isAsking hasking)] at hsave
    rw [hafter, hsave]
    exact ⟨rfl, rfl⟩

/-- What is due with a `token` and can be sent is sent with the next step, at first as well as
behind a pause. -/
theorem EnrollmentWorld.Due.exists_step {token : RegistrationToken} {r : Controller.Request}
    (h : w.Due token) (hcall : w.call token = .ok r) :
    ∃ x : EnrollmentStep, x.before = w ∧ x.event = .advance ∧ x.IsStep ∧ x.requests = [r] := by
  have hask : ∀ attempt, w.enrollment.ask w.around token attempt = (w.enrollment.moveTo
      (.asking token attempt ⟨w.enrollment.context, w.around.now⟩), [.send r]) := by
    intro attempt
    rw [EnrollmentWorld.call] at hcall
    rw [ask, hcall]
  cases h with
  -- The first step looks for an identity and logs that there is none.
  | first hphase hdecided htoken =>
    have hload := eq_of_decided?_eq_none hdecided
    obtain ⟨v, log, hstep⟩ : ∃ v log, w.step? .advance = some (v, [.log log, .send r]) := by
      rw [EnrollmentWorld.step?, advance?, hphase]
      dsimp only
      rw [begin, hload, htoken]
      dsimp only
      rw [hask]
      exact ⟨_, _, rfl⟩
    exact ⟨⟨w, .advance, v, _⟩, rfl, rfl, hstep, rfl⟩
  -- Behind a pause the context is looked at once more; what can be sent was not called off.
  | again hphase hwake hearly =>
    have hopen : w.enrollment.context.isCanceled w.around.signal = false :=
      Controller.Client.not_isCanceled_of_start hcall
    have hpoll : w.enrollment.context.poll w.around.signal w.around.now (some ()) =
        some (.ok ()) := by
      rw [EnrollmentWorld.isExpired] at hearly
      rw [Context.poll, if_neg (Bool.eq_false_iff.mp hopen), if_neg (Bool.eq_false_iff.mp hearly)]
      rfl
    obtain ⟨v, hstep⟩ : ∃ v, w.step? .advance = some (v, [.send r]) := by
      rw [EnrollmentWorld.step?, advance?, hphase]
      dsimp only
      rw [if_pos hwake, hpoll]
      dsimp only
      rw [hask]
      exact ⟨_, rfl⟩
    exact ⟨⟨w, .advance, v, _⟩, rfl, rfl, hstep, rfl⟩

/-! ### Enrollments that have ended -/

/-- An enrollment that has ended does nothing more: of all the ways only `outside` can be taken. -/
theorem outside_of_ended {r : Except StartError Identity} (hx : x.IsStep)
    (h : x.before.enrollment.phase = .ended r) :
    x.after.enrollment = x.before.enrollment ∧ x.requests = [] ∧ x.answer? = none := by
  have hflies : x.before.FliesInContext := by
    intro token attempt f hf
    rw [h] at hf
    cases hf
  cases x.moves_of_isStep hx hflies with
  | outside henrollment hrequests hanswer => exact ⟨henrollment, hrequests, hanswer⟩
  | decided hphase =>
    rw [h] at hphase
    cases hphase
  | sent hdue => exact absurd h (hdue.not_ended r)
  | failed hwas =>
    obtain hdue | ⟨hasking, -⟩ := hwas
    · exact absurd h (hdue.not_ended r)
    · exact absurd h (not_ended_of_isAsking hasking r)
  | canceled hwas =>
    obtain hasking | hpausing | ⟨_, hdue⟩ := hwas
    · exact absurd h (not_ended_of_isAsking hasking r)
    · exact absurd h (not_ended_of_isPausing hpausing r)
    · exact absurd h (hdue.not_ended r)
  | accepted hasking => exact absurd h (not_ended_of_isAsking hasking r)

theorem preserved_ended (r : Except StartError Identity) :
    Preserved fun w => w.enrollment.phase = .ended r := by
  intro x hx h
  rw [(outside_of_ended hx h).1]
  exact h

/-! ### Enrollments that need no request -/

/-- The enrollment has not been run since it was `e`, or it has ended with `r` at once. -/
def EnrollmentWorld.Settles (e : Enrollment) (r : Except StartError Identity)
    (w : EnrollmentWorld) : Prop :=
  w.enrollment = e ∨ w.enrollment = e.moveTo (.ended r)

/-- What needs no request ends with the first step of its own, and sends nothing: the result `r` was
decided before. -/
theorem settles_step {r : Except StartError Identity} (hphase : e.phase = .created)
    (hr : e.decided? = some r) (hx : x.IsStep) (h : x.before.Settles e r) :
    x.requests = [] ∧ x.after.Settles e r ∧
      (x.event = .advance → x.after.enrollment = e.moveTo (.ended r)) := by
  obtain he | hended := h
  · have hcreated : x.before.enrollment.phase = .created := by rw [he, hphase]
    have ht : x.before.Tracks e := he ▸ tracks_self hcreated
    -- Nothing is due where the result is clear without a request.
    have hdue : ∀ token, ¬ x.before.Due token := by
      intro token hdue
      rw [hdue.undecided ht] at hr
      cases hr
    cases x.moves_of_isStep hx ht.flies with
    | outside henrollment hrequests _ hevent =>
      have hafter : x.after.enrollment = e := henrollment.trans he
      exact ⟨hrequests, .inl hafter, fun h => absurd h hevent.1⟩
    | decided _ hr' hafter hrequests =>
      rw [he, hr] at hr'
      obtain rfl := Option.some.inj hr'
      have hafter : x.after.enrollment = e.moveTo (.ended r) := by rw [hafter, he]
      exact ⟨hrequests, .inr hafter, fun _ => hafter⟩
    | sent h => exact absurd h (hdue _)
    | failed hwas =>
      obtain h | ⟨hasking, -⟩ := hwas
      · exact absurd h (hdue _)
      · rw [hcreated] at hasking
        cases hasking
    | canceled hwas =>
      obtain hasking | hpausing | ⟨token, h⟩ := hwas
      · rw [hcreated] at hasking
        cases hasking
      · rw [hcreated] at hpausing
        cases hpausing
      · exact absurd h (hdue token)
    | accepted hasking =>
      rw [hcreated] at hasking
      cases hasking
  · have hphase : x.before.enrollment.phase = .ended r := by rw [hended]; rfl
    obtain ⟨hafter, hrequests, -⟩ := outside_of_ended hx hphase
    exact ⟨hrequests, .inr (hafter.trans hended), fun _ => hafter.trans hended⟩

/-! ### The pause between two attempts -/

/-- Nothing is sent before the moment `m`: it has come, or the enrollment has ended, or pauses until
then at least. -/
def EnrollmentWorld.RestsUntil (m : Moment) (w : EnrollmentWorld) : Prop :=
  m ≤ w.around.now ∨ (∃ r, w.enrollment.phase = .ended r) ∨
    ∃ token attempt wakeAt, w.enrollment.phase = .pausing token attempt wakeAt ∧ m ≤ wakeAt

/-- What is due is not due before `m`. -/
theorem EnrollmentWorld.Due.le_now {token : RegistrationToken} {m : Moment} (h : w.Due token)
    (hrests : w.RestsUntil m) :
    m ≤ w.around.now := by
  obtain hnow | ⟨r, hr⟩ | ⟨token, attempt, wakeAt, hphase, hm⟩ := hrests
  · exact hnow
  · exact absurd hr (h.not_ended r)
  · cases h with
    | first h _ _ =>
      rw [hphase] at h
      cases h
    | again h hwake _ =>
      rw [hphase] at h
      cases h
      exact Nat.le_trans hm hwake

/-- A request that is under way was not sent before `m`. -/
theorem le_now_of_isAsking {m : Moment} (h : w.enrollment.phase.isAsking = true)
    (hrests : w.RestsUntil m) : m ≤ w.around.now := by
  obtain hnow | ⟨r, hr⟩ | ⟨token, attempt, wakeAt, hphase, -⟩ := hrests
  · exact hnow
  · exact absurd hr (not_ended_of_isAsking h r)
  · rw [hphase] at h
    cases h

/-- Every step keeps it that nothing is sent before `m`: a pause ends at its own moment only, and
time does not go back. -/
theorem preserved_restsUntil (e : Enrollment) (m : Moment) :
    Preserved fun w => w.Tracks e ∧ w.RestsUntil m := by
  intro x hx ⟨ht, hrests⟩
  refine ⟨preserved_tracks e x hx ht, ?_⟩
  cases x.moves_of_isStep hx ht.flies with
  | outside henrollment _ _ _ hnow =>
    rw [RestsUntil, henrollment]
    exact hrests.imp_left fun h => Nat.le_trans h hnow
  | decided _ _ hafter =>
    rw [hafter]
    exact .inr (.inl ⟨_, rfl⟩)
  | sent hdue _ hafter =>
    rw [hafter]
    exact .inl (hdue.le_now hrests)
  | failed hwas hafter =>
    rw [hafter]
    -- There was an attempt to fail, so the moment has come.
    have hnow : m ≤ x.before.around.now := by
      obtain hdue | ⟨hasking, -⟩ := hwas
      · exact hdue.le_now hrests
      · exact le_now_of_isAsking hasking hrests
    exact .inl hnow
  | canceled _ hafter =>
    rw [hafter]
    exact .inr (.inl ⟨_, rfl⟩)
  | accepted _ _ _ hafter =>
    rw [hafter]
    exact .inr (.inl ⟨_, rfl⟩)

/-- What is so when a step `x` sends a request: it was due, and it is under way then. -/
theorem EnrollmentStep.due_of_requests (hx : x.IsStep) (ht : x.before.Tracks e)
    (h : x.requests ≠ []) :
    ∃ token r, x.before.Due token ∧ x.before.call token = .ok r ∧ x.requests = [r] ∧
      x.after.enrollment.phase.isAsking = true := by
  cases x.moves_of_isStep hx ht.flies with
  | sent hdue hcall hafter hrequests =>
    refine ⟨_, _, hdue, hcall, hrequests, ?_⟩
    rw [hafter]
    rfl
  | outside _ hrequests | decided _ _ _ hrequests | failed _ _ hrequests
  | canceled _ _ hrequests | accepted _ _ _ _ hrequests => exact absurd hrequests h

/-- What is so when an attempt fails: a pause begins, of `e.retry` from the moment of the step
on. -/
theorem EnrollmentStep.pausing_of_failsAttempt (hx : x.IsStep) (ht : x.before.Tracks e)
    (h : x.FailsAttempt) :
    ∃ token attempt, x.after.enrollment.phase = .pausing token attempt (x.moment + e.retry) := by
  obtain ⟨hevent, hpausing⟩ := h
  cases x.moves_of_isStep hx ht.flies with
  | failed _ hafter =>
    rw [hafter, ← ht.retry_eq]
    exact ⟨_, _, rfl⟩
  | outside _ _ _ hnot =>
    obtain h | ⟨r, h⟩ := hevent
    · exact absurd h hnot.1
    · exact absurd h (hnot.2 r)
  | decided _ _ hafter | sent _ _ hafter | canceled _ hafter
  | accepted _ _ _ hafter =>
    rw [hafter] at hpausing
    cases hpausing

/-- Nothing but the enrollment itself and the reply to its request changes it: a step `x` that is
not its own leaves it. -/
theorem EnrollmentStep.enrollment_eq (hx : x.IsStep) (hevent : ¬ x.IsOwn) :
    x.after.enrollment = x.before.enrollment := by
  rw [IsStep] at hx
  cases h : x.event with
  | advance => exact absurd (.inl h) hevent
  | reply r => exact absurd (.inr ⟨r, h⟩) hevent
  | trigger | drop | elapse _ =>
    rw [h] at hx
    rw [← (Prod.mk.inj (Option.some.inj hx)).1]

/-- A request that ends gives way to a pause (`FailsAttempt`) or to the end. -/
theorem EnrollmentStep.EndsRequest.failsAttempt_or_ended (h : x.EndsRequest) (hx : x.IsStep)
    (ht : x.before.Tracks e) :
    x.FailsAttempt ∨ ∃ r, x.after.enrollment.phase = .ended r := by
  obtain ⟨hbefore, hafter⟩ := h
  by_cases hevent : x.IsOwn
  · cases x.moves_of_isStep hx ht.flies with
    | outside henrollment =>
      rw [henrollment, hbefore] at hafter
      cases hafter
    | decided hphase =>
      rw [hphase] at hbefore
      cases hbefore
    | sent hdue => exact absurd hbefore hdue.not_isAsking
    -- The request has failed: the enrollment pauses.
    | failed _ heq =>
      refine .inl ⟨hevent, ?_⟩
      rw [heq]
      rfl
    | canceled _ heq | accepted _ _ _ heq =>
      rw [heq]
      exact .inr ⟨_, rfl⟩
  · rw [x.enrollment_eq hx hevent, hbefore] at hafter
    cases hafter

/-! ### The end of all requests -/

theorem isRaised_after (hx : x.IsStep) (ht : x.before.Tracks e)
    (h : x.before.around.signal.isRaised = true) : x.after.around.signal.isRaised = true := by
  cases x.moves_of_isStep hx ht.flies with
  | outside _ _ _ _ _ hsignal => exact hsignal h
  | decided _ _ hafter | sent _ _ hafter | failed _ hafter | canceled _ hafter
  | accepted _ _ _ hafter =>
    rw [hafter]
    exact h

theorem isRaised_of_event (hx : x.IsStep) (h : x.event = .trigger ∨ x.event = .drop) :
    x.after.around.signal.isRaised = true := by
  rw [IsStep] at hx
  obtain h | h := h
  · rw [h] at hx
    rw [← (Prod.mk.inj (Option.some.inj hx)).1]
    exact Signal.isRaised_trigger _
  · rw [h] at hx
    rw [← (Prod.mk.inj (Option.some.inj hx)).1]
    exact Signal.isRaised_drop _

/-- Only a request that is under way is answered. -/
theorem isAsking_of_answer (hx : x.IsStep) (h : x.answer? ≠ none) :
    x.before.enrollment.phase.isAsking = true := by
  rw [IsStep] at hx
  rw [answer?] at h
  split at h
  next r hevent =>
    rw [hevent, EnrollmentWorld.step?] at hx
    split at hx
    next hasking => exact hasking
    next => cases hx
  next => exact absurd rfl h

theorem isExpired_mono {ctx : Context} {now later : Moment} (hle : now ≤ later)
    (h : ctx.isExpired now = true) : ctx.isExpired later = true := by
  rw [Context.isExpired] at h ⊢
  split at h
  next => exact decide_eq_true (Nat.le_trans (of_decide_eq_true h) hle)
  next => cases h

/-- An attempt has failed, and it is too late for another one. -/
def EnrollmentWorld.IsLate (w : EnrollmentWorld) : Prop :=
  w.enrollment.phase = .ended (.error .canceled) ∨
    w.enrollment.phase.isPausing = true ∧ w.isExpired = true

theorem EnrollmentWorld.Due.not_isLate {token : RegistrationToken} (h : w.Due token) :
    ¬ w.IsLate := by
  rintro (hended | ⟨hpausing, hexpired⟩)
  · exact h.not_ended _ hended
  · cases h with
    | first hphase _ _ =>
      rw [hphase] at hpausing
      cases hpausing
    | again _ _ hearly =>
      rw [hexpired] at hearly
      cases hearly

theorem not_isLate_of_isAsking (h : w.enrollment.phase.isAsking = true) : ¬ w.IsLate := by
  rintro (hended | ⟨hpausing, -⟩)
  · exact not_ended_of_isAsking h _ hended
  · -- It does not pause while it asks.
    cases hphase : w.enrollment.phase with
    | asking _ _ _ =>
      rw [hphase] at hpausing
      cases hpausing
    | created | pausing _ _ _ | ended _ =>
      rw [hphase] at h
      cases h

/-- That it is too late stays so: a pause that has outlived the deadline can only be called off. -/
theorem preserved_isLate (e : Enrollment) : Preserved fun w => w.Tracks e ∧ w.IsLate := by
  intro x hx ⟨ht, hlate⟩
  refine ⟨preserved_tracks e x hx ht, ?_⟩
  cases x.moves_of_isStep hx ht.flies with
  -- Time goes by, and the deadline stays passed.
  | outside henrollment _ _ _ hnow =>
    rw [IsLate, EnrollmentWorld.isExpired, henrollment]
    exact hlate.imp_right fun h => ⟨h.1, isExpired_mono hnow h.2⟩
  | decided hphase =>
    obtain hended | ⟨hpausing, -⟩ := hlate
    · rw [hphase] at hended
      cases hended
    · rw [hphase] at hpausing
      cases hpausing
  | sent hdue => exact absurd hlate hdue.not_isLate
  | failed hwas =>
    obtain hdue | ⟨hasking, -⟩ := hwas
    · exact absurd hlate hdue.not_isLate
    · exact absurd hlate (not_isLate_of_isAsking hasking)
  | canceled _ hafter =>
    rw [hafter]
    exact .inl rfl
  | accepted hasking => exact absurd hlate (not_isLate_of_isAsking hasking)

/-- An answer that decodes ends the enrollment, or has come too late. -/
theorem ended_or_isLate_of_answer (hx : x.IsStep) (ht : x.before.Tracks e) (h : x.answer? ≠ none) :
    (∃ r, x.after.enrollment.phase = .ended r) ∨ x.after.IsLate := by
  cases x.moves_of_isStep hx ht.flies with
  | outside _ _ hanswer | decided _ _ _ _ hanswer | sent _ _ _ _ hanswer => exact absurd hanswer h
  | failed _ hafter _ hanswer =>
    rw [hafter]
    exact .inr (.inr ⟨rfl, hanswer h⟩)
  | canceled _ hafter =>
    rw [hafter]
    exact .inl ⟨_, rfl⟩
  | accepted _ _ _ hafter =>
    rw [hafter]
    exact .inl ⟨_, rfl⟩

end FleetAgent
