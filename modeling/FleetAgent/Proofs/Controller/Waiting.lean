import FleetAgent.Controller.Dial
import FleetAgent.Proofs.Outcome
import Mathlib.Tactic.ByContra
/-!
# Starting and waiting

Whatever a client starts, it looks first whether the context `ctx` still allows to wait
(`Client.allow`). So a request or a dial that was started was started in a context that was not
called off, and what could not be sent in such a context was not called off either
(`Client.not_isCanceled_of_start_error`). A reply counts for what it is as long as the context has
not ended (`Flight.poll_some`), and without a reply a request ends with an error only.
-/

namespace FleetAgent

/-- An attached context `ctx` is called off as soon as the `signal` is raised. -/
theorem Context.isCanceled_of_attached {ctx : Context} {signal : Signal}
    (h : ctx.attached = true) (hraised : signal.isRaised = true) :
    ctx.isCanceled signal = true := by
  rw [isCanceled, h, hraised]
  rfl

/-- As long as an attached context `ctx` is not called off, the `signal` is not raised. -/
theorem Context.not_isRaised {ctx : Context} {signal : Signal} (h : ctx.attached = true)
    (hopen : ctx.isCanceled signal = false) : ¬ signal.isRaised = true := by
  intro hraised
  rw [isCanceled_of_attached h hraised] at hopen
  cases hopen

namespace Controller.Client

variable {c : Client} {ctx : Context} {signal : Signal} {now : Moment}

theorem not_isCanceled_of_allow {u : Unit} (h : allow ctx signal now = .ok u) :
    ctx.isCanceled signal = false := by
  by_contra hcanceled
  rw [Bool.not_eq_false] at hcanceled
  rw [allow, Context.poll_of_isCanceled _ _ hcanceled] at h
  cases h

/-- Nothing is sent when the context is called off. -/
theorem not_isCanceled_of_start {call : Call} {r : Request}
    (h : c.start ctx signal now call = .ok r) : ctx.isCanceled signal = false := by
  rw [start] at h
  obtain ⟨request?, -, h⟩ := Except.bind_eq_ok_iff.mp h
  obtain ⟨_, hallow, -⟩ := Except.bind_eq_ok_iff.mp h
  exact not_isCanceled_of_allow hallow

/-- Without an identity there is no address, and `.notRegistered` is all that can be wrong with
one. -/
theorem eq_notRegistered_of_address {op : Operation} {e : ClientError}
    (h : c.address op = .error e) : e = .notRegistered := by
  rw [address] at h
  split at h
  next => cases h
  next => exact (Except.error.inj h).symm
  next => cases h

/-- A request of a `call` that cannot be made has failed for another reason than a shutdown: its
address or its URL is wrong. -/
theorem not_isCanceled_of_request_error {call : Call} {e : ClientError}
    (h : c.request? call = .error e) : e.isCanceled = false := by
  rw [request?] at h
  obtain haddress | ⟨⟨text, who?⟩, -, h⟩ := Except.bind_eq_error_iff.mp h
  · rw [eq_notRegistered_of_address haddress]
    rfl
  · dsimp only at h
    split at h
    next =>
      obtain rfl := Except.error.inj h
      rfl
    next => split at h <;> cases h

/-- A context `ctx` that is not called off and does not `allow` to wait has expired. -/
theorem not_isCanceled_of_allow_error {e : ClientError} (hopen : ctx.isCanceled signal = false)
    (h : allow ctx signal now = .error e) : e.isCanceled = false := by
  rw [allow, Context.poll, hopen] at h
  simp only [Bool.false_eq_true, if_false, Option.map_none] at h
  split at h
  next i hi =>
    split at hi
    · obtain rfl := Except.error.inj (Option.some.inj hi)
      obtain rfl := Except.error.inj h
      rfl
    · cases hi
  next => cases h

/-- What cannot be sent in a context `ctx` that is not called off has failed for another reason. -/
theorem not_isCanceled_of_start_error {call : Call} {e : ClientError}
    (hopen : ctx.isCanceled signal = false) (h : c.start ctx signal now call = .error e) :
    e.isCanceled = false := by
  rw [start] at h
  obtain hrequest | ⟨request?, -, h⟩ := Except.bind_eq_error_iff.mp h
  · exact not_isCanceled_of_request_error hrequest
  obtain hallow | ⟨_, -, h⟩ := Except.bind_eq_error_iff.mp h
  · exact not_isCanceled_of_allow_error hopen hallow
  cases request? with
  | none =>
    obtain rfl := Except.error.inj h
    rfl
  | some r => cases h

/-- A dial `d` that was started was started in a context that was not called off. -/
theorem not_isCanceled_of_startDial {key : AccessKey} {segments : List String} {d : Dial}
    (h : c.startDial ctx signal now key segments = .ok d) : ctx.isCanceled signal = false := by
  rw [startDial] at h
  obtain ⟨url, -, h⟩ := Except.bind_eq_ok_iff.mp h
  split at h
  next => cases h
  next =>
    obtain ⟨_, hallow, -⟩ := Except.bind_eq_ok_iff.mp h
    exact not_isCanceled_of_allow hallow

/-- The tunnel is not dialled when the context is called off. -/
theorem not_isCanceled_of_startTunnel {d : Dial} (h : c.startTunnel ctx signal now = .ok d) :
    ctx.isCanceled signal = false := by
  rw [startTunnel] at h
  split at h
  next => cases h
  next => exact not_isCanceled_of_startDial h

/-- Nothing is dialled back when the context is called off. -/
theorem not_isCanceled_of_startDialBack {path : String} {d : Dial}
    (h : c.startDialBack ctx signal now path = .ok d) : ctx.isCanceled signal = false := by
  rw [startDialBack] at h
  split at h
  next => cases h
  next => exact not_isCanceled_of_startDial h

end Controller.Client

namespace Controller.Flight

variable {f : Flight} {signal : Signal} {now : Moment} {α : Type}

/-- Without a reply a request `f` ends with an error only: called off, out of time, or out of
patience. -/
theorem exists_of_poll_none {r : Except TransportError α}
    (h : f.poll signal now none = some r) : ∃ error, r = .error error := by
  rw [poll, Context.poll] at h
  by_cases hcanceled : f.context.isCanceled signal = true
  · rw [if_pos hcanceled] at h
    exact ⟨_, (Option.some.inj h).symm⟩
  rw [if_neg hcanceled] at h
  by_cases hexpired : f.context.isExpired now = true
  · rw [if_pos hexpired] at h
    exact ⟨_, (Option.some.inj h).symm⟩
  rw [if_neg hexpired] at h
  by_cases hlate : f.sent + patience ≤ now
  · simp only [if_pos hlate] at h
    exact ⟨_, (Option.some.inj h).symm⟩
  · simp only [if_neg hlate] at h
    cases h

/-- What becomes of a reply `r`: a context that is called off or has expired at `now` comes before
it. -/
theorem poll_some (r : Except TransportError α) :
    f.poll signal now (some r) = some (
      if f.context.isCanceled signal = true then .error .canceled
      else if f.context.isExpired now = true then .error .timeout
      else r) := by
  rw [poll, Context.poll]
  by_cases hcanceled : f.context.isCanceled signal = true
  · rw [if_pos hcanceled, if_pos hcanceled]
    rfl
  rw [if_neg hcanceled, if_neg hcanceled]
  by_cases hexpired : f.context.isExpired now = true
  · rw [if_pos hexpired, if_pos hexpired]
    rfl
  · rw [if_neg hexpired, if_neg hexpired]
    rfl

end Controller.Flight

end FleetAgent
