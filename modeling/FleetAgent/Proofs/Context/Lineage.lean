import FleetAgent.Context.Timeline
import FleetAgent.Proofs.Context.Waits
import Mathlib.Data.List.Induction
/-!
# Derived contexts only tighten

On a timeline contexts are derived from contexts, at any moments and with any timeouts, while time
goes by and things are done with the shutdown signal. Every context has a lineage:
`Lineage events i root links` says that behind `events` the context of number `i` comes from `root`,
which is `Context.root` or `Context.detached`, by the timeouts `links`, each counted from the moment
at which it was set. That decides everything about it for good (`Timeline.tightens`).

`Lineage` is an induction on the events, with one case for each way in which a context is made and
`later` for the events behind it. An event adds at most one context and changes none
(`Timeline.Advances`), so the number and the context go together (`Lineage.context_eq`). That the
signal is triggered again changes nothing at all, because a wait that has not ended would have been
ended the first time (`Timeline.Punctual`).
-/

namespace FleetAgent

/-- Whether an event calls off what follows the signal. -/
def TimelineEvent.raises : TimelineEvent → Bool
  | .trigger | .drop => true
  | _ => false

theorem Signal.trigger_of_isRaised {s : Signal} (h : s.isRaised = true) : s.trigger = s := by
  obtain ⟨triggered, dropped⟩ := s
  cases triggered <;> cases dropped
  · cases h
  all_goals rfl

namespace Timeline

variable {t t' : Timeline} {e : TimelineEvent} {events front back : List TimelineEvent}

/-! ### What an event changes -/

/-- To run `front ++ back` is to run `front` and then `back`. -/
theorem run?_append (t : Timeline) (front back : List TimelineEvent) :
    t.run? (front ++ back) = (t.run? front).bind (·.run? back) := by
  induction front generalizing t with
  | nil => rfl
  | cons e front ih =>
    rw [List.cons_append, run?, run?]
    cases t.step? e with
    | none => rfl
    | some t' => exact ih t'

/-- To run events with `e` behind them is to take the step of `e` at their end. -/
theorem run?_concat (t : Timeline) (events : List TimelineEvent) (e : TimelineEvent) :
    t.run? (events ++ [e]) = (t.run? events).bind (·.step? e) := by
  rw [run?_append]
  cases t.run? events with
  | none => rfl
  | some t' => exact Option.bind_fun_some (t'.step? e)

/-- The context that an event adds. -/
def made? (t : Timeline) : TimelineEvent → Option Context
  | .follow => some .root
  | .detach => some .detached
  | .derive i timeout => some ((t.context i).withTimeout t.now timeout)
  | _ => none

/-- No wait of `t` could have ended that has not: a poll of it would give nothing even now. -/
def Punctual (t : Timeline) : Prop :=
  ∀ w, (w, none) ∈ t.waits → w.poll t.signal t.now = none

/-- What an event does: it adds the context that it makes, lets the clock move forward, does to the
signal what it says, and leaves no wait behind. -/
structure Advances (t : Timeline) (e : TimelineEvent) (t' : Timeline) : Prop where
  /-- The contexts before stay in front of the one that is made. -/
  contexts_eq : t'.contexts = t.contexts ++ (t.made? e).toList
  /-- The clock does not go back. -/
  now_le : t.now ≤ t'.now
  /-- The signal is raised if it was, or if the event raises it. -/
  isRaised_eq : t'.signal.isRaised = (t.signal.isRaised || e.raises)
  /-- No wait is left behind that could have ended. -/
  punctual : t.Punctual → t'.Punctual

/-- When the clock has moved, every wait that could end has ended: `Wait.settle` was asked of each
up to `moment`. -/
theorem punctual_moveTo {moment : Moment} (h : t.now ≤ moment) : (t.moveTo moment).Punctual := by
  intro w hw
  obtain ⟨⟨w', r?⟩, -, heq⟩ := List.mem_map.mp hw
  obtain ⟨rfl, hnone⟩ := Prod.mk.inj heq
  have hsettle : r? = none ∧ w'.settle t.signal t.now moment = none := by simpa using hnone
  exact (Wait.settle_eq_none_iff h).mp hsettle.2

/-- A wait of a punctual timeline that has not ended does not end by being looked at again, so that
a clock that stands still changes nothing. -/
theorem Punctual.moveTo_self (h : t.Punctual) : t.moveTo t.now = t := by
  have hwaits : (t.moveTo t.now).waits = t.waits := by
    refine (List.map_congr_left ?_).trans (List.map_id t.waits)
    rintro ⟨w, r?⟩ hmem
    cases r? with
    | none =>
      have hsettle := (Wait.settle_eq_none_iff (Nat.le_refl _)).mpr (h w hmem)
      exact congrArg (Prod.mk w) hsettle
    | some r => rfl
  calc t.moveTo t.now
    _ = { t with waits := (t.moveTo t.now).waits } := rfl
    _ = t := by rw [hwaits]

theorem advances_add (ctx : Context) (hmade : t.made? e = some ctx) (hraises : e.raises = false) :
    t.Advances e (t.add ctx) where
  contexts_eq := by rw [hmade]; rfl
  now_le := Nat.le_refl _
  isRaised_eq := by rw [hraises, Bool.or_false]; rfl
  punctual := id

/-- An event that only lets time go by, to `moment`. -/
theorem advances_moveTo {moment : Moment} (h : t.now ≤ moment) (hmade : t.made? e = none)
    (hraises : e.raises = false) : t.Advances e (t.moveTo moment) where
  contexts_eq := by rw [hmade]; exact (List.append_nil _).symm
  now_le := h
  isRaised_eq := by rw [hraises, Bool.or_false]; rfl
  punctual _ := punctual_moveTo h

theorem advances_setSignal {signal : Signal} (hmade : t.made? e = none)
    (hsignal : signal.isRaised = true) (hraises : e.raises = true) :
    t.Advances e (t.setSignal signal) where
  contexts_eq := by rw [hmade]; exact (List.append_nil _).symm
  now_le := Nat.le_refl _
  isRaised_eq := by rw [hraises, Bool.or_true]; exact hsignal
  punctual _ := punctual_moveTo (t := { t with signal }) (Nat.le_refl _)

/-- Nobody wakes up in the past: the moment at which a sleep ends is not before its start
(`Wait.le_of_settle`). -/
theorem advances_sleep (t : Timeline) (i duration : Nat) :
    t.Advances (.sleep i duration) (t.sleep i duration).1 := by
  rw [sleep]
  split
  next r m h => exact advances_moveTo (Wait.le_of_settle h) rfl rfl
  next => exact advances_moveTo (Nat.le_add_right _ _) rfl rfl

/-- **Every event of a timeline advances it.** There is one case for each event `e`, and what has to
be seen in it is which constructor of `Advances` it is. -/
theorem advances_of_step (h : t.step? e = some t') : t.Advances e t' := by
  cases e with
  | follow =>
    obtain ⟨-, h⟩ := Option.ite_none_left_eq_some.mp h
    cases h
    exact advances_add .root rfl rfl
  | detach =>
    cases h
    exact advances_add .detached rfl rfl
  | derive i timeout =>
    obtain ⟨-, h⟩ := Option.ite_none_right_eq_some.mp h
    cases h
    exact advances_add _ rfl rfl
  | start w =>
    cases h
    exact ⟨(List.append_nil _).symm, Nat.le_refl _, (Bool.or_false _).symm,
      fun _ => punctual_moveTo (t := { t with waits := t.waits ++ [(w, none)] }) (Nat.le_refl _)⟩
  | elapse duration =>
    cases h
    exact advances_moveTo (Nat.le_add_right _ _) rfl rfl
  | sleep i duration =>
    obtain ⟨-, h⟩ := Option.ite_none_right_eq_some.mp h
    cases h
    exact advances_sleep t i duration
  | trigger =>
    cases h
    exact advances_setSignal rfl (Signal.isRaised_trigger _) rfl
  | drop =>
    cases h
    exact advances_setSignal rfl (Signal.isRaised_drop _) rfl

/-! ### What a run changes -/

/-- Contexts stay as they were made. -/
theorem contexts_grow (h : t.run? events = some t') : t.contexts <+: t'.contexts := by
  induction events generalizing t with
  | nil => cases h; exact List.prefix_refl _
  | cons e events ih =>
    obtain ⟨mid, hstep, hrest⟩ := Option.bind_eq_some_iff.mp h
    refine List.IsPrefix.trans ?_ (ih hrest)
    rw [(advances_of_step hstep).contexts_eq]
    exact List.prefix_append _ _

/-- The signal is raised exactly by an event that `raises` it, and then stays raised; by induction
on the events. -/
theorem isRaised_run (h : t.run? events = some t') :
    t'.signal.isRaised = (t.signal.isRaised || events.any (·.raises)) := by
  induction events generalizing t with
  | nil => cases h; rw [List.any_nil, Bool.or_false]
  | cons e events ih =>
    obtain ⟨mid, hstep, hrest⟩ := Option.bind_eq_some_iff.mp h
    rw [ih hrest, (advances_of_step hstep).isRaised_eq, List.any_cons, Bool.or_assoc]

theorem punctual_run (ht : t.Punctual) (h : t.run? events = some t') : t'.Punctual := by
  induction events generalizing t with
  | nil => cases h; exact ht
  | cons e events ih =>
    obtain ⟨mid, hstep, hrest⟩ := Option.bind_eq_some_iff.mp h
    exact ih ((advances_of_step hstep).punctual ht) hrest

theorem punctual_fresh : fresh.Punctual := nofun

/-- The context of a number `i` that is taken stays the same. -/
theorem context_of_grows (h : t.contexts <+: t'.contexts) {i : Nat}
    (hi : i < t.contexts.length) : t'.context i = t.context i := by
  obtain ⟨more, hmore⟩ := h
  rw [context, context, ← hmore, List.getD_eq_getElem?_getD, List.getD_eq_getElem?_getD,
    List.getElem?_append_left hi]

/-- A context that is made gets the next number. -/
theorem Advances.context_made (h : t.Advances e t') {ctx : Context} (hmade : t.made? e = some ctx) :
    t.contexts.length < t'.contexts.length ∧ t'.context t.contexts.length = ctx := by
  rw [context, h.contexts_eq, hmade]
  simp

/-- A number `i` that is new is the next one, and that of a context that was made by `e`. -/
theorem Advances.eq_length (h : t.Advances e t') {i : Nat} (hnew : t.contexts.length ≤ i)
    (hi : i < t'.contexts.length) : i = t.contexts.length ∧ ∃ ctx, t.made? e = some ctx := by
  rw [h.contexts_eq, List.length_append] at hi
  cases hmade : t.made? e with
  | none =>
    rw [hmade] at hi
    exact absurd hi (Nat.not_lt.mpr hnew)
  | some ctx =>
    rw [hmade] at hi
    exact ⟨Nat.le_antisymm (Nat.lt_succ_iff.mp hi) hnew, ctx, rfl⟩

/-! ### Lineages -/

/-- From which context the context of a number comes, and by which timeouts. -/
inductive Lineage : List TimelineEvent → Nat → Context → List Link → Prop where
  /-- The first context that follows the signal. -/
  | root : Lineage [] 0 .root []
  /-- The first one that follows nothing. -/
  | detached : Lineage [] 1 .detached []
  /-- Another one that follows the signal. -/
  | follow {events : List TimelineEvent} {t : Timeline} (ht : fresh.run? events = some t) :
    Lineage (events ++ [.follow]) t.contexts.length .root []
  /-- Another one that follows nothing. -/
  | detach {events : List TimelineEvent} {t : Timeline} (ht : fresh.run? events = some t) :
    Lineage (events ++ [.detach]) t.contexts.length .detached []
  /-- One that is derived from another. -/
  | derive {events : List TimelineEvent} {t : Timeline} {i : Nat} {root : Context}
    {links : List Link} (ht : fresh.run? events = some t) (h : Lineage events i root links)
    (timeout : Nat) :
    Lineage (events ++ [.derive i timeout]) t.contexts.length root (links ++ [⟨t.now, timeout⟩])
  /-- The lineage of a context does not change any more. -/
  | later {events : List TimelineEvent} {i : Nat} {root : Context} {links : List Link}
    (h : Lineage events i root links) (e : TimelineEvent) :
    Lineage (events ++ [e]) i root links

variable {i : Nat} {root : Context} {links : List Link}

/-- The lineage of a context tells what it is: `root`, narrowed by `links`. The induction is on the
lineage, with the timeline free, since each case ends at another one. -/
theorem Lineage.context_eq (h : Lineage events i root links) (ht : fresh.run? events = some t) :
    i < t.contexts.length ∧ t.context i = root.narrow links := by
  induction h generalizing t with
  | root | detached =>
    cases ht
    exact ⟨by decide, rfl⟩
  | follow hmid | detach hmid =>
    rw [run?_concat, hmid, Option.bind_some] at ht
    exact (advances_of_step ht).context_made rfl
  -- The context of `i` was made by the induction hypothesis, and the new one narrows it once
  -- more.
  | derive hmid _ timeout ih =>
    rw [run?_concat, hmid, Option.bind_some] at ht
    rw [Context.narrow_concat, ← (ih hmid).2]
    exact (advances_of_step ht).context_made rfl
  -- What comes behind adds contexts at the end, and so leaves the one of `i` where it was.
  | later _ e ih =>
    rw [run?_concat] at ht
    obtain ⟨mid, hmid, hstep⟩ := Option.bind_eq_some_iff.mp ht
    obtain ⟨hi, hcontext⟩ := ih hmid
    have hprefix : mid.contexts <+: t.contexts := by
      rw [(advances_of_step hstep).contexts_eq]
      exact List.prefix_append _ _
    exact ⟨Nat.lt_of_lt_of_le hi hprefix.length_le,
      (context_of_grows hprefix hi).trans hcontext⟩

/-- The context `root` that a lineage starts from is one of the two that were given no deadline. -/
theorem Lineage.root_eq (h : Lineage events i root links) : root = .root ∨ root = .detached := by
  induction h with
  | root | follow _ => exact .inl rfl
  | detached | detach _ => exact .inr rfl
  | derive _ _ _ ih | later _ _ ih => exact ih

/-- The root of a lineage has no deadline, so that of the context is the first of its `links`. -/
theorem Lineage.deadline?_eq (h : Lineage events i root links) (ht : fresh.run? events = some t) :
    (t.context i).deadline? = (links.map Link.due).min? := by
  rw [(h.context_eq ht).2, Context.deadline?_narrow]
  rcases h.root_eq with rfl | rfl <;> rfl

/-- **Every context comes from one that follows the signal or nothing**, by a chain of timeouts: the
number `i` has a `Lineage`. The induction is on the events from the back: a number is either new,
and then the event has made it, or it had a lineage before. -/
theorem exists_lineage (ht : fresh.run? events = some t) (hi : i < t.contexts.length) :
    ∃ root links, Lineage events i root links := by
  induction events using List.reverseRecOn generalizing t i with
  | nil =>
    cases ht
    rcases Nat.lt_succ_iff_lt_or_eq.mp hi with hi | rfl
    · obtain rfl := Nat.lt_one_iff.mp hi
      exact ⟨.root, [], .root⟩
    · exact ⟨.detached, [], .detached⟩
  | append_singleton events e ih =>
    rw [run?_concat] at ht
    obtain ⟨mid, hmid, hstep⟩ := Option.bind_eq_some_iff.mp ht
    -- Either the context was there before the last event, or the event has made it.
    rcases Nat.lt_or_ge i mid.contexts.length with hold | hnew
    · obtain ⟨root, links, h⟩ := ih hmid hold
      exact ⟨root, links, h.later e⟩
    obtain ⟨rfl, ctx, hmade⟩ := (advances_of_step hstep).eq_length hnew hi
    cases e with
    | follow => exact ⟨.root, [], .follow hmid⟩
    | detach => exact ⟨.detached, [], .detach hmid⟩
    | derive p timeout =>
      obtain ⟨hp, -⟩ := Option.ite_none_right_eq_some.mp hstep
      obtain ⟨root, links, h⟩ := ih hmid hp
      exact ⟨root, _, .derive hmid h timeout⟩
    | _ => cases hmade

/-! ### What holds of every timeline -/

/-- What holds of the contexts of a timeline behind events. -/
structure Tightens (events : List TimelineEvent) (t : Timeline) : Prop where
  /-- Every context comes from one that follows the signal or nothing, by a chain of timeouts. -/
  lineage : ∀ i < t.contexts.length,
    ∃ root links, Lineage events i root links ∧ (root = .root ∨ root = .detached)
  /-- Its deadline is the first of the moments at which these are over. -/
  deadline : ∀ {i root links}, Lineage events i root links →
    (t.context i).deadline? = (links.map Link.due).min?
  /-- It is called off exactly when the one is that it comes from. -/
  canceled : ∀ {i root links}, Lineage events i root links →
    (t.context i).isCanceled t.signal = root.isCanceled t.signal
  /-- What follows the signal is called off from the first trigger or the drop on. -/
  raised : Context.root.isCanceled t.signal = true ↔ .trigger ∈ events ∨ .drop ∈ events
  /-- What follows nothing is never called off. -/
  detached : Context.detached.isCanceled t.signal = false
  /-- A context that is derived from another is within it. -/
  within : ∀ front p timeout back mid, events = front ++ .derive p timeout :: back →
    fresh.run? front = some mid → (t.context mid.contexts.length).Within (t.context p)
  /-- Contexts stay as they were made. -/
  keeps : ∀ front back mid, events = front ++ back → fresh.run? front = some mid →
    mid.contexts <+: t.contexts
  /-- To trigger the signal again changes nothing. -/
  retrigger : .trigger ∈ events → t.step? .trigger = some t

/-- An event that raises the signal is `trigger` or `drop`. -/
theorem any_raises_iff (events : List TimelineEvent) :
    events.any (·.raises) = true ↔ .trigger ∈ events ∨ .drop ∈ events := by
  rw [List.any_eq_true]
  constructor
  · rintro ⟨e, he, hraises⟩
    cases e with
    | trigger => exact .inl he
    | drop => exact .inr he
    | _ => cases hraises
  · rintro (h | h)
    · exact ⟨_, h, rfl⟩
    · exact ⟨_, h, rfl⟩

/-- A context that is derived stays within the one that it was derived from, `p`, whatever is in
`back`. -/
theorem within_of_derive {p timeout : Nat} {mid : Timeline} (hmid : fresh.run? front = some mid)
    (ht : fresh.run? (front ++ .derive p timeout :: back) = some t) :
    (t.context mid.contexts.length).Within (t.context p) := by
  rw [run?_append, hmid, Option.bind_some] at ht
  obtain ⟨made, hstep, hrest⟩ := Option.bind_eq_some_iff.mp ht
  obtain ⟨hp, -⟩ := Option.ite_none_right_eq_some.mp hstep
  obtain ⟨hlt, hmade⟩ := (advances_of_step hstep).context_made rfl
  have hprefix := contexts_grow hrest
  have hparent : t.context p = mid.context p := by
    refine context_of_grows (List.IsPrefix.trans ?_ hprefix) hp
    rw [(advances_of_step hstep).contexts_eq]
    exact List.prefix_append _ _
  rw [context_of_grows hprefix hlt, hmade, hparent]
  exact .withTimeout _ _ _

/-- **Derived contexts only tighten.** Whatever happens on a timeline, a deadline is the first of
the moments at which the timeouts of a chain are over, and never changes; a context is called off
exactly when the one is that it comes from, from the first trigger or the drop on and for ever, or
never; and further triggers change nothing. The fields of `Tightens` say this of the timeline `t`
behind `events`. -/
theorem tightens (ht : fresh.run? events = some t) : Tightens events t where
  lineage i hi := by
    obtain ⟨root, links, h⟩ := exists_lineage ht hi
    exact ⟨root, links, h, h.root_eq⟩
  deadline h := h.deadline?_eq ht
  canceled h := by
    rw [(h.context_eq ht).2, (Context.Within.narrow _ _).isCanceled_eq]
  raised := by
    rw [← any_raises_iff, Context.isCanceled, isRaised_run ht]
    rfl
  detached := rfl
  within front p timeout back mid hevents hmid := within_of_derive hmid (hevents ▸ ht)
  keeps front back mid hevents hmid := by
    rw [hevents, run?_append, hmid] at ht
    exact contexts_grow ht
  retrigger htrigger := by
    have hraised : t.signal.isRaised = true := by
      rw [isRaised_run ht, (any_raises_iff events).mpr (.inl htrigger), Bool.or_true]
    change some (t.setSignal t.signal.trigger) = some t
    -- The signal is the same, and no wait is left that it would end.
    rw [Signal.trigger_of_isRaised hraised]
    exact congrArg some (punctual_run punctual_fresh ht).moveTo_self

/-- **Siblings are narrowed each from its own moment.** The third context ends at 100; at 30, one is
derived from it for 20 and one for 200, and behind the drop one from the first of these for 60. -/
theorem tightens_siblings :
    ∃ t, fresh.run? [.derive 0 100, .start (.cancellation .root), .elapse 30, .derive 2 20,
        .derive 2 200, .drop, .derive 3 60, .trigger] = some t ∧
      Tightens [.derive 0 100, .start (.cancellation .root), .elapse 30, .derive 2 20,
        .derive 2 200, .drop, .derive 3 60, .trigger] t ∧
      t.contexts.map (·.deadline?) = [none, none, some 100, some 50, some 100, some 50] ∧
      t.contexts.map (·.isCanceled t.signal) = [true, false, true, true, true, true] :=
  ⟨_, rfl, tightens rfl, rfl, rfl⟩

end Timeline

end FleetAgent
