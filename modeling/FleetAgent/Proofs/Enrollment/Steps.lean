import FleetAgent.Proofs.Controller.Waiting
import FleetAgent.Proofs.Enrollment.History
import Mathlib.Tactic.SplitIfs
/-!
# What a step of an enrollment can do

`EnrollmentStep.Moves` has one case for each way in which an enrollment goes on, with all that is so
before and behind it: what was asked (`requests`), what was answered (`answer?`), and the world
behind (`after`). Every step is one of them (`EnrollmentStep.moves_of_isStep`), so what is to be
said of runs never looks into the enrollment again.

A request is sent where it is `EnrollmentWorld.Due`: at first, if nothing is `Enrollment.decided?`
without one, or behind a pause.
-/

namespace FleetAgent

open Controller (Client ClientError TransportError Flight Reply Request readRegistration)

namespace Enrollment

variable {e : Enrollment} {s : Surroundings} {token : RegistrationToken} {attempt : UInt32}

/-! ### What an enrollment does -/

/-- What needs no request: an identity that is there, a file that cannot be read as one, or the lack
of a token. -/
def decided? (e : Enrollment) : Option (Except StartError Identity) :=
  match e.store.load e.directory, e.token? with
  | .error error, _ => some (.error (.identity error))
  | .ok (some i), _ => some (.ok i)
  | .ok none, none => some (.error .missingToken)
  | .ok none, some _ => none

/-- What comes of asking with a `token`: the request `r` is sent, or it cannot be sent and a pause
begins, or the enrollment is called off. -/
theorem ask_cases (e : Enrollment) (s : Surroundings) (token : RegistrationToken)
    (attempt : UInt32) :
    (∃ r, e.client.start e.context s.signal s.now (.register token.secret) = .ok r ∧
      e.ask s token attempt = (e.moveTo (.asking token attempt ⟨e.context, s.now⟩), [.send r])) ∨
    (∃ log, e.ask s token attempt =
      (e.moveTo (.pausing token attempt (s.now + e.retry)), [.log log])) ∨
    e.ask s token attempt = (e.moveTo (.ended (.error .canceled)), []) := by
  rw [ask]
  split
  next r hr => exact .inl ⟨r, hr, rfl⟩
  next error _ =>
    rw [answered]
    by_cases hcanceled : error.isCanceled = true
    · rw [if_pos hcanceled]
      exact .inr (.inr rfl)
    · rw [if_neg hcanceled]
      exact .inr (.inl ⟨_, rfl⟩)

/-- What an attempt comes to that gives no registration. -/
theorem answered_error (e : Enrollment) (now : Moment) (token : RegistrationToken)
    (attempt : UInt32) (error : ClientError) :
    (¬ error.isCanceled = true ∧ ∃ log, e.answered now token attempt (.error error) =
      (e.moveTo (.pausing token attempt (now + e.retry)), [.log log])) ∨
    e.answered now token attempt (.error error) = (e.moveTo (.ended (.error .canceled)), []) := by
  rw [answered]
  by_cases hcanceled : error.isCanceled = true
  · rw [if_pos hcanceled]
    exact .inr rfl
  · rw [if_neg hcanceled]
    exact .inl ⟨hcanceled, _, rfl⟩

/-- The result of a save, seen from the enrollment. -/
def saved (i : Identity) : Except IdentityError Unit → Except StartError Identity
  | .ok () => .ok i
  | .error e => .error (.identity e)

/-- What comes of a registration: the identity `i` is saved, and the enrollment ends with the
`result` of that. -/
theorem accept_eq (attempt : UInt32) {i : Identity} {d : Directory}
    {result : Except IdentityError Unit} (h : e.store.save e.umask e.directory i = (d, result)) :
    ∃ logs, e.accept attempt i =
      ({ e with directory := d, phase := .ended (saved i result) }, List.map .log logs) := by
  rw [accept, h]
  rcases result with error | ⟨⟩
  · exact ⟨[], rfl⟩
  · exact ⟨[_], rfl⟩

end Enrollment

/-! ### What a step can do -/

/-- The controller is to be asked with a token: the enrollment has just begun and has to register,
or its pause is over and the context has not ended before. -/
inductive EnrollmentWorld.Due (w : EnrollmentWorld) (token : RegistrationToken) : Prop
  /-- It has not been run, and has to register. -/
  | first (hphase : w.enrollment.phase = .created) (hdecided : w.enrollment.decided? = none)
      (htoken : w.enrollment.token? = some token)
  /-- The pause is over in time. -/
  | again {attempt : UInt32} {wakeAt : Moment}
      (hphase : w.enrollment.phase = .pausing token attempt wakeAt) (hwake : wakeAt ≤ w.around.now)
      (hearly : w.isExpired = false)

/-- The request for a registration, if it can be sent now. -/
def EnrollmentWorld.call (w : EnrollmentWorld) (token : RegistrationToken) :
    Except ClientError Request :=
  w.enrollment.client.start w.enrollment.context w.around.signal w.around.now
    (.register token.secret)

/-- The ways in which an enrollment goes on. -/
inductive EnrollmentStep.Moves (x : EnrollmentStep) : Prop
  /-- Something happens around it. -/
  | outside (henrollment : x.after.enrollment = x.before.enrollment) (hrequests : x.requests = [])
      (hanswer : x.answer? = none) (hevent : x.event ≠ .advance ∧ ∀ r, x.event ≠ .reply r)
      (hnow : x.moment ≤ x.after.around.now)
      (hsignal : x.before.around.signal.isRaised = true → x.after.around.signal.isRaised = true)
  /-- It ends at once. -/
  | decided {r : Except StartError Identity} (hphase : x.before.enrollment.phase = .created)
      (hr : x.before.enrollment.decided? = some r)
      (hafter : x.after = ⟨x.before.enrollment.moveTo (.ended r), x.before.around⟩)
      (hrequests : x.requests = []) (hanswer : x.answer? = none)
  /-- It sends a request. -/
  | sent {token : RegistrationToken} {attempt : UInt32} {r : Request} (hdue : x.before.Due token)
      (hcall : x.before.call token = .ok r)
      (hafter : x.after = ⟨x.before.enrollment.moveTo
        (.asking token attempt ⟨x.before.enrollment.context, x.moment⟩), x.before.around⟩)
      (hrequests : x.requests = [r]) (hanswer : x.answer? = none)
  /-- An attempt fails. An answer that decodes is late then. -/
  | failed {token : RegistrationToken} {attempt : UInt32}
      (hwas : x.before.Due token ∨ x.before.enrollment.phase.isAsking = true ∧
        x.before.enrollment.phase.token? = some token)
      (hafter : x.after = ⟨x.before.enrollment.moveTo
        (.pausing token attempt (x.moment + x.before.enrollment.retry)), x.before.around⟩)
      (hrequests : x.requests = []) (hanswer : x.answer? ≠ none → x.before.isExpired = true)
  /-- It is called off. -/
  | canceled (hwas : x.before.enrollment.phase.isAsking = true ∨
        x.before.enrollment.phase.isPausing = true ∨ ∃ token, x.before.Due token)
      (hafter : x.after = ⟨x.before.enrollment.moveTo (.ended (.error .canceled)), x.before.around⟩)
      (hrequests : x.requests = []) (hanswer : ∀ r, ¬ x.Accepts r)
  /-- It gets a registration, and saves the identity. -/
  | accepted {r : Registration} {d : Directory} {result : Except IdentityError Unit}
      (hasking : x.before.enrollment.phase.isAsking = true) (haccepts : x.Accepts r)
      (hsave : x.before.enrollment.store.save x.before.enrollment.umask
        x.before.enrollment.directory r.identity = (d, result))
      (hafter : x.after = ⟨{ x.before.enrollment with
        directory := d, phase := .ended (Enrollment.saved r.identity result) }, x.before.around⟩)
      (hrequests : x.requests = [])

/-- A request is waited for in the context of the enrollment. -/
def EnrollmentWorld.FliesInContext (w : EnrollmentWorld) : Prop :=
  ∀ token attempt f, w.enrollment.phase = .asking token attempt f →
    f.context = w.enrollment.context

namespace EnrollmentStep

open Enrollment

variable {w v : EnrollmentWorld} {effects : List EnrollmentEffect}

/-- Asking where it is due is one of three ways: `sent`, `failed` or `canceled`. -/
theorem moves_of_ask {token : RegistrationToken} {attempt : UInt32} (logs : List LogEvent)
    (hdue : w.Due token) :
    (⟨w, .advance, ⟨(w.enrollment.ask w.around token attempt).1, w.around⟩,
      logs.map .log ++ (w.enrollment.ask w.around token attempt).2⟩ : EnrollmentStep).Moves := by
  obtain ⟨r, hcall, hask⟩ | ⟨log, hask⟩ | hask := ask_cases w.enrollment w.around token attempt
  · rw [hask]
    exact .sent hdue hcall rfl (by simp [requests]) rfl
  · rw [hask]
    exact .failed (.inl hdue) rfl (by simp [requests]) (fun h => absurd rfl h)
  · rw [hask]
    refine .canceled (.inr (.inr ⟨token, hdue⟩)) rfl (by simp [requests]) ?_
    rintro r ⟨⟨⟩, -⟩

/-- The first step of an enrollment of its own, by `Enrollment.begin`: it is decided, or it asks. -/
theorem moves_of_begin (hphase : w.enrollment.phase = .created) :
    (⟨w, .advance, ⟨(w.enrollment.begin w.around).1, w.around⟩,
      (w.enrollment.begin w.around).2⟩ : EnrollmentStep).Moves := by
  rw [begin]
  cases hload : w.enrollment.store.load w.enrollment.directory with
  | error error => 
    refine .decided hphase ?_ rfl rfl rfl
    rw [decided?, hload]
  | ok o =>
    cases o with
    | some i =>
      refine .decided hphase ?_ rfl rfl rfl
      rw [decided?, hload]
    | none =>
      cases htoken : w.enrollment.token? with
      | none =>
        refine .decided hphase ?_ rfl rfl rfl
        rw [decided?, hload, htoken]
      | some token =>
        have hnone : w.enrollment.decided? = none := by rw [decided?, hload, htoken]
        exact moves_of_ask [_] (.first hphase hnone htoken)

/-- An attempt that ends without a registration. An answer that decodes had come all the same only
if it was called off or late (`hlate`). -/
theorem moves_of_answered {token : RegistrationToken} {attempt : UInt32} {event : EnrollmentEvent}
    {error : ClientError} (hasking : w.enrollment.phase.isAsking = true)
    (htoken : w.enrollment.phase.token? = some token)
    (hlate : (⟨w, event, w, []⟩ : EnrollmentStep).answer? ≠ none →
      w.isCanceled = true ∧ error.isCanceled = true ∨ w.isExpired = true) :
    (⟨w, event, ⟨(w.enrollment.answered w.around.now token attempt (.error error)).1, w.around⟩,
      (w.enrollment.answered w.around.now token attempt (.error error)).2⟩ :
        EnrollmentStep).Moves := by
  obtain ⟨hcanceled, log, h⟩ | h := answered_error w.enrollment w.around.now token attempt error
  · rw [h]
    refine .failed (.inr ⟨hasking, htoken⟩) rfl rfl fun hanswer => ?_
    exact (hlate hanswer).resolve_left fun h => hcanceled h.2
  · rw [h]
    refine .canceled (.inl hasking) rfl rfl ?_
    rintro r ⟨hanswer, hopen, hearly⟩
    have hsome : (⟨w, event, w, []⟩ : EnrollmentStep).answer? ≠ none := fun hnone =>
      Option.some_ne_none r (hanswer.symm.trans hnone)
    obtain ⟨hcanceled, -⟩ | hexpired := hlate hsome
    · exact absurd hcanceled (Bool.eq_false_iff.mp hopen)
    · exact absurd hexpired (Bool.eq_false_iff.mp hearly)

/-- The reply `r` to a request, by cases on what the `flight` comes to with it. -/
theorem moves_of_reply {token : RegistrationToken} {attempt : UInt32} {flight : Flight}
    (hphase : w.enrollment.phase = .asking token attempt flight)
    (hflight : flight.context = w.enrollment.context) (r : Except TransportError Reply) :
    (⟨w, .reply r, ⟨(w.enrollment.reply w.around r).1, w.around⟩,
      (w.enrollment.reply w.around r).2⟩ : EnrollmentStep).Moves := by
  have hasking : w.enrollment.phase.isAsking = true := by rw [hphase]; rfl
  have htoken : w.enrollment.phase.token? = some token := by rw [hphase]; rfl
  rw [Enrollment.reply, hphase]
  dsimp only
  rw [Flight.poll_some, hflight]
  by_cases hcanceled : w.enrollment.context.isCanceled w.around.signal = true
  · rw [if_pos hcanceled]
    exact moves_of_answered hasking htoken fun _ => .inl ⟨hcanceled, rfl⟩
  rw [if_neg hcanceled]
  by_cases hexpired : w.enrollment.context.isExpired w.around.now = true
  · rw [if_pos hexpired]
    exact moves_of_answered hasking htoken fun _ => .inr hexpired
  rw [if_neg hexpired]
  -- The reply is read.
  cases hread : readRegistration r with
  | error error =>
    have hanswer : (readRegistration r).toOption = none := by rw [hread]; rfl
    dsimp only
    rw [hread]
    exact moves_of_answered hasking htoken fun h => absurd hanswer h
  | ok registration =>
    obtain ⟨d, result, hsave⟩ : ∃ d result, w.enrollment.store.save w.enrollment.umask
        w.enrollment.directory registration.identity = (d, result) := ⟨_, _, rfl⟩
    obtain ⟨logs, haccept⟩ := accept_eq attempt hsave
    have hanswer : (readRegistration r).toOption = some registration := by rw [hread]; rfl
    have haccepts : (⟨w, .reply r, w, []⟩ : EnrollmentStep).Accepts registration :=
      ⟨hanswer, Bool.eq_false_iff.mpr hcanceled, Bool.eq_false_iff.mpr hexpired⟩
    dsimp only
    rw [hread, answered, haccept]
    exact .accepted hasking haccepts hsave rfl (by simp [requests])

/-- **Every step of an enrollment is one of the ways of `Moves`**, if its request is waited for in
its own context. The cases are those of the event, and for a step of its own those of the phase. -/
theorem moves_of_isStep {x : EnrollmentStep} (h : x.IsStep) (hflight : x.before.FliesInContext) :
    x.Moves := by
  obtain ⟨w, event, v, effects⟩ := x
  change w.step? event = some (v, effects) at h
  change w.FliesInContext at hflight
  cases event with
  | trigger =>
    obtain ⟨rfl, rfl⟩ := Prod.mk.inj (Option.some.inj h)
    exact .outside rfl rfl rfl ⟨nofun, nofun⟩ (Nat.le_refl _) (by simp)
  | drop =>
    obtain ⟨rfl, rfl⟩ := Prod.mk.inj (Option.some.inj h)
    exact .outside rfl rfl rfl ⟨nofun, nofun⟩ (Nat.le_refl _) (by simp)
  | elapse duration =>
    obtain ⟨rfl, rfl⟩ := Prod.mk.inj (Option.some.inj h)
    exact .outside rfl rfl rfl ⟨nofun, nofun⟩ (Nat.le_add_right _ _) id
  | advance =>
    obtain ⟨⟨e, fx⟩, hadvance, heq⟩ := Option.map_eq_some_iff.mp h
    obtain ⟨rfl, rfl⟩ := Prod.mk.inj heq
    rw [advance?] at hadvance
    split at hadvance
    next hphase =>
      have := moves_of_begin hphase
      rwa [Option.some.inj hadvance] at this
    next token attempt flight hphase =>
      -- No reply has come, so the flight ends with an error or goes on.
      obtain ⟨r, hpoll, hanswered⟩ := Option.map_eq_some_iff.mp hadvance
      obtain ⟨error, rfl⟩ := Flight.exists_of_poll_none hpoll
      have hasking : w.enrollment.phase.isAsking = true := by rw [hphase]; rfl
      have htoken : w.enrollment.phase.token? = some token := by rw [hphase]; rfl
      have := @moves_of_answered w token attempt .advance (.transport error) hasking htoken
        fun h => absurd rfl h
      have hread : readRegistration (.error error) = .error (.transport error) := rfl
      rw [← hread, hanswered] at this
      exact this
    next token attempt wakeAt hphase =>
      split at hadvance
      next => cases hadvance
      next hpoll =>
        -- The pause is over, or the context would have nothing to give.
        obtain ⟨hearly, hwake⟩ : w.isExpired = false ∧ wakeAt ≤ w.around.now := by
          rw [Context.poll] at hpoll
          split_ifs at hpoll with hcanceled hexpired hwake
          · cases hpoll
          · cases hpoll
          · exact ⟨Bool.eq_false_iff.mpr hexpired, hwake⟩
          · cases hpoll
        have := @moves_of_ask w token (attempt + 1) [] (.again hphase hwake hearly)
        rw [Option.some.inj hadvance] at this
        exact this
      next =>
        obtain ⟨rfl, rfl⟩ := Prod.mk.inj (Option.some.inj hadvance)
        refine .canceled (.inr (.inl (by rw [hphase]; rfl))) rfl rfl ?_
        rintro r ⟨⟨⟩, -⟩
    next => cases hadvance
  | reply r =>
    rw [EnrollmentWorld.step?] at h
    split at h
    next hasking =>
      obtain ⟨rfl, rfl⟩ := Prod.mk.inj (Option.some.inj h)
      obtain ⟨token, attempt, flight, hphase⟩ : ∃ token attempt flight,
          w.enrollment.phase = .asking token attempt flight := by
        cases hphase : w.enrollment.phase with
        | asking token attempt flight => exact ⟨token, attempt, flight, rfl⟩
        | created | pausing _ _ _ | ended _ =>
          rw [hphase] at hasking
          cases hasking
      exact moves_of_reply hphase (hflight token attempt flight hphase) r
    next => cases h

end EnrollmentStep

end FleetAgent
