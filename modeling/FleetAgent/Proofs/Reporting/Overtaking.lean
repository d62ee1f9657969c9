import FleetAgent.Proofs.Reporting.Losses
/-!
# Reports that overtake each other

Reports that are under way at the same time may be applied in one order and recorded in the other.
Then the push cache holds a value that is no longer the one that the controller holds, and a report
of it is not pushed (`SharedReporter.known_not_held_of_overtaking`).

`SharedReporter.held_iff_same_last` says that only the order is to blame. When every push about a
key is recorded, the values that were `recorded` are those that were `applied`, up to their order;
and what is known of the key is held if and only if both orders end with the same value.

A run is looked at as these two lists of values of one key. What a single event adds to them is said
by `held_step`, `known_step` and `perm_step`, and by induction along the run for all events. In
between, a value that was applied and is not recorded yet is among the `unrecorded` ones.
-/

namespace FleetAgent

namespace SharedReporter

variable {s : SharedReporter} {kind : ObservationKind} {key : kind.Key} {v : kind.Value}

/-! ### Values in order -/

/-- The value of the observation `o`, if it is one of `kind` and `key`. -/
def valueAbout? (kind : ObservationKind) (key : kind.Key) (o : Observation) : Option kind.Value :=
  if h : o.kind = kind then if (h ▸ o.key : kind.Key) = key then some (h ▸ o.value) else none
  else none

/-- The value for `key` of the report at the place `i`, if the report is in `phase`. -/
def valueAt? (s : SharedReporter) (kind : ObservationKind) (key : kind.Key) (phase : ReportPhase)
    (i : Nat) : Option kind.Value :=
  s.reports[i]?.bind fun r => if r.phase = phase then valueAbout? kind key r.observation else none

/-- The value for `key` that the controller applies in the event. -/
def appliedBy? (s : SharedReporter) (kind : ObservationKind) (key : kind.Key) :
    ReportEvent → Option kind.Value
  | .apply i => s.valueAt? kind key .pushing i
  | _ => none

/-- The value for `key` that is recorded in the event. -/
def recordedBy? (s : SharedReporter) (kind : ObservationKind) (key : kind.Key) :
    ReportEvent → Option kind.Value
  | .record i => s.valueAt? kind key .applied i
  | _ => none

/-- The values for `key` in the order in which the controller applies them, along events from `s`
on. -/
def applied (s : SharedReporter) (kind : ObservationKind) (key : kind.Key) :
    List ReportEvent → List kind.Value
  | [] => []
  | e :: rest => (s.appliedBy? kind key e).toList ++ (s.step e).applied kind key rest

/-- The values for `key` in the order in which they are recorded. -/
def recorded (s : SharedReporter) (kind : ObservationKind) (key : kind.Key) :
    List ReportEvent → List kind.Value
  | [] => []
  | e :: rest => (s.recordedBy? kind key e).toList ++ (s.step e).recorded kind key rest

/-- The value for `key` of a report whose push was applied, but is not recorded. -/
def unrecordedValue? (kind : ObservationKind) (key : kind.Key) (r : StartedReport) :
    Option kind.Value :=
  if r.phase = .applied then valueAbout? kind key r.observation else none

/-- The values for `key` that were applied, but are not recorded. -/
def unrecorded (s : SharedReporter) (kind : ObservationKind) (key : kind.Key) : List kind.Value :=
  s.reports.filterMap (unrecordedValue? kind key)

theorem valueAbout?_self (o : Observation) : valueAbout? o.kind o.key o = some o.value := by
  rw [valueAbout?, dif_pos rfl, if_pos rfl]

theorem valueAbout?_of_not_isAbout {o : Observation} (h : isAbout kind key o = false) :
    valueAbout? kind key o = none := by
  rw [isAbout] at h
  rw [valueAbout?]
  split
  next heq =>
    rw [dif_pos heq, decide_eq_false_iff_not] at h
    rw [if_neg h]
  next => rfl

/-- What is recorded of an observation about `key` counts, and what was there before otherwise. -/
theorem get?_record (c : PushCache) (o : Observation) :
    (c.record o).get? kind key = (valueAbout? kind key o).or (c.get? kind key) := by
  cases h : isAbout kind key o with
  | true =>
    obtain ⟨v, rfl⟩ := isAbout_iff.mp h
    rw [valueAbout?_self ⟨kind, key, v⟩]
    exact c.get?_record_self ⟨kind, key, v⟩
  | false =>
    rw [valueAbout?_of_not_isAbout h]
    exact c.get?_record_of_not_isAbout h

/-- Forgetting makes nothing known. -/
theorem get?_of_filter {c : PushCache} {keep : (kind : ObservationKind) → kind.Key → Bool}
    (h : (c.filter keep).get? kind key = some v) : c.get? kind key = some v := by
  rw [PushCache.get?_filter] at h
  exact (Option.ite_none_right_eq_some.mp h).2

/-- If no push about `key` is unrecorded, there are no such values. -/
theorem unrecorded_eq_nil (h : s.isUnrecorded kind key = false) : s.unrecorded kind key = [] := by
  refine List.filterMap_eq_nil_iff.mpr fun r hr => ?_
  have hr := List.any_eq_false.mp h r hr
  rw [unrecordedValue?]
  split
  next hphase =>
    rw [hphase] at hr
    exact valueAbout?_of_not_isAbout (by simpa using hr)
  next => rfl

/-- The report at `i` is in the phase, so its value counts. -/
theorem valueAt?_of_eq {i : Nat} {o : Observation} {phase : ReportPhase}
    (h : s.reports[i]? = some ⟨o, phase⟩) :
    s.valueAt? kind key phase i = valueAbout? kind key o := by
  rw [valueAt?, h]
  exact if_pos rfl

/-- There is no report in that phase at `i`. -/
theorem valueAt?_of_ne {i : Nat} {phase : ReportPhase}
    (h : ∀ o, s.reports[i]? ≠ some ⟨o, phase⟩) : s.valueAt? kind key phase i = none := by
  rw [valueAt?]
  rcases hi : s.reports[i]? with _ | ⟨o, other⟩
  · rfl
  · exact if_neg fun hphase => h o (by rw [hi, ← hphase])

/-! ### What one event does -/

/-- A value that is applied is held from now on. -/
theorem held_step (s : SharedReporter) (e : ReportEvent) :
    (s.step e).ledger.held.get? kind key =
      (s.appliedBy? kind key e).or (s.ledger.held.get? kind key) := by
  cases e with
  | start _ | forget _ | retain _ => rfl
  | compare i | record i =>
    rw [step]
    split <;> rfl
  | apply i =>
    rw [step, appliedBy?]
    split
    next o hi =>
      rw [valueAt?_of_eq hi]
      exact get?_record s.ledger.held o
    next hi =>
      rw [valueAt?_of_ne hi]
      rfl

/-- What is known has just been recorded, or was known before. -/
theorem known_step {e : ReportEvent} (h : (s.step e).ledger.cache.get? kind key = some v) :
    (s.recordedBy? kind key e).or (s.ledger.cache.get? kind key) = some v := by
  cases e with
  | start _ => exact h
  | compare i | apply i =>
    rw [step] at h
    split at h <;> exact h
  | record i =>
    rw [step] at h
    rw [recordedBy?]
    split at h
    next o hi =>
      rw [valueAt?_of_eq hi, ← get?_record]
      exact h
    next hi =>
      rw [valueAt?_of_ne hi]
      exact h
  | forget _ | retain _ => exact get?_of_filter h

/-- A report that goes from the phase `old` to `new` takes its value out of those that are not
recorded, or puts it there. -/
theorem unrecorded_setPhase {i : Nat} {o : Observation} {old : ReportPhase} (new : ReportPhase)
    (hi : s.reports[i]? = some ⟨o, old⟩) :
    ((unrecordedValue? kind key ⟨o, old⟩).toList ++
        (s.setPhase i new).unrecorded kind key).Perm
      ((unrecordedValue? kind key ⟨o, new⟩).toList ++ s.unrecorded kind key) := by
  obtain ⟨hlt, -⟩ := List.getElem?_eq_some_iff.mp hi
  obtain ⟨front, r, back, hreports, rfl, hmodify⟩ :=
    List.exists_of_modify (fun r : StartedReport => { r with phase := new }) hlt
  obtain rfl : r = ⟨o, old⟩ := by
    rw [hreports] at hi
    simpa using hi
  -- The report stands between `front` and `back`, which stay as they are.
  have hsplit : ∀ r, (front ++ r :: back).filterMap (unrecordedValue? kind key) =
      front.filterMap (unrecordedValue? kind key) ++ ((unrecordedValue? kind key r).toList ++
        back.filterMap (unrecordedValue? kind key)) := by
    intro r
    rw [List.filterMap_append, List.filterMap_cons]
    cases unrecordedValue? kind key r <;> rfl
  rw [unrecorded, unrecorded, setPhase, hmodify, hreports, hsplit, hsplit]
  exact ((List.perm_append_comm_assoc _ _ _).trans
    ((List.perm_append_comm_assoc _ _ _).append_left _)).trans (List.perm_append_comm_assoc _ _ _)

/-- A value is applied first, and is recorded then: what was unrecorded and is applied by `e` is
what is recorded by `e` or unrecorded then. -/
theorem perm_step (s : SharedReporter) (e : ReportEvent) :
    (s.unrecorded kind key ++ (s.appliedBy? kind key e).toList).Perm
      ((s.recordedBy? kind key e).toList ++ (s.step e).unrecorded kind key) := by
  cases e with
  | start o =>
    have hnew : (s.step (.start o)).unrecorded kind key = s.unrecorded kind key ++ [] := by
      rw [unrecorded, step, List.filterMap_append]
      rfl
    rw [hnew]
    rfl
  | forget _ | retain _ => exact .of_eq (List.append_nil _)
  -- A report that is compared was not applied yet, and neither is it then.
  | compare i =>
    show (s.unrecorded kind key ++ []).Perm ((s.step (.compare i)).unrecorded kind key)
    rw [List.append_nil, step]
    split
    next o hi =>
      have hperm := fun new => @unrecorded_setPhase s kind key i o .created new hi
      split
      · exact (hperm .ended).symm
      · exact (hperm .pushing).symm
    next => rfl
  -- The value is applied, and joins those that are not recorded.
  | apply i =>
    show (s.unrecorded kind key ++ (s.valueAt? kind key .pushing i).toList).Perm
      ((s.step (.apply i)).unrecorded kind key)
    rw [step]
    split
    next o hi =>
      rw [valueAt?_of_eq hi]
      exact List.perm_append_comm.trans (unrecorded_setPhase .applied hi).symm
    next hi =>
      rw [valueAt?_of_ne hi]
      exact .of_eq (List.append_nil _)
  -- The value is recorded, and leaves them.
  | record i =>
    show (s.unrecorded kind key ++ []).Perm
      ((s.valueAt? kind key .applied i).toList ++ (s.step (.record i)).unrecorded kind key)
    rw [List.append_nil, step]
    split
    next o hi =>
      rw [valueAt?_of_eq hi]
      exact (unrecorded_setPhase .ended hi).symm
    next hi =>
      rw [valueAt?_of_ne hi]
      rfl

/-! ### What many events do -/

theorem getLast?_toList (o : Option kind.Value) : o.toList.getLast? = o := by
  cases o <;> rfl

/-- The controller holds of a `key` the value that it has applied last, or else the one at first. -/
theorem held_steps (s : SharedReporter) (events : List ReportEvent) :
    (s.steps events).ledger.held.get? kind key =
      (s.applied kind key events).getLast?.or (s.ledger.held.get? kind key) := by
  induction events generalizing s with
  | nil => rfl
  | cons e rest ih =>
    rw [applied, List.getLast?_append, getLast?_toList, Option.or_assoc, ← held_step]
    exact ih (s.step e)

/-- What is known of a `key` is what was recorded last, or was known at first. -/
theorem known_steps {events : List ReportEvent}
    (h : (s.steps events).ledger.cache.get? kind key = some v) :
    (s.recorded kind key events).getLast?.or (s.ledger.cache.get? kind key) = some v := by
  induction events generalizing s with
  | nil => exact h
  | cons e rest ih =>
    rw [recorded, List.getLast?_append, getLast?_toList, Option.or_assoc]
    obtain hlast | ⟨hlast, hknown⟩ := Option.or_eq_some_iff.mp (ih h)
    · exact Option.or_eq_some_iff.mpr (.inl hlast)
    · exact Option.or_eq_some_iff.mpr (.inr ⟨hlast, known_step hknown⟩)

/-- What is applied is recorded, or is yet to be. -/
theorem perm_steps (s : SharedReporter) (events : List ReportEvent) :
    (s.unrecorded kind key ++ s.applied kind key events).Perm
      (s.recorded kind key events ++ (s.steps events).unrecorded kind key) := by
  induction events generalizing s with
  | nil => exact .of_eq (List.append_nil _)
  | cons e rest ih =>
    rw [applied, recorded, ← List.append_assoc, List.append_assoc (s.recordedBy? kind key e).toList]
    refine ((perm_step s e).append_right _).trans ?_
    rw [List.append_assoc]
    exact (ih (s.step e)).append_left _

/-- **What is known of a key is what the controller holds, exactly if the last value to be recorded
is the last one that was applied**, whenever no push about the key is between its application and
its record (`hquiet`). The values that are recorded are then all that were applied, in whatever
order. Reports may be under way for any keys and values, and observations may be forgotten at any
moment. -/
theorem held_iff_same_last {held : PushCache} {events : List ReportEvent}
    (hquiet : (steps ⟨⟨.empty, held⟩, []⟩ events).isUnrecorded kind key = false)
    (hknown : (steps ⟨⟨.empty, held⟩, []⟩ events).ledger.cache.get? kind key = some v) :
    (recorded ⟨⟨.empty, held⟩, []⟩ kind key events).Perm
        (applied ⟨⟨.empty, held⟩, []⟩ kind key events) ∧
      ((steps ⟨⟨.empty, held⟩, []⟩ events).ledger.held.get? kind key = some v ↔
        (recorded ⟨⟨.empty, held⟩, []⟩ kind key events).getLast? =
          (applied ⟨⟨.empty, held⟩, []⟩ kind key events).getLast?) := by
  have hperm := @perm_steps kind key ⟨⟨.empty, held⟩, []⟩ events
  rw [unrecorded_eq_nil hquiet, List.append_nil] at hperm
  have hlast : (recorded ⟨⟨.empty, held⟩, []⟩ kind key events).getLast? = some v := by
    obtain hlast | ⟨-, hnone⟩ := Option.or_eq_some_iff.mp (known_steps hknown)
    · exact hlast
    · rw [PushCache.get?_empty] at hnone
      cases hnone
  -- Something was recorded, so something was applied, and is held.
  have hsome : (applied ⟨⟨.empty, held⟩, []⟩ kind key events).getLast? ≠ none := by
    intro hnone
    have hnil := List.getLast?_eq_none_iff.mp hnone
    rw [hnil] at hperm
    rw [hperm.symm.eq_nil] at hlast
    cases hlast
  refine ⟨hperm.symm, ?_⟩
  rw [hlast, held_steps, Option.or_of_isSome (Option.isSome_iff_ne_none.mpr hsome)]
  exact eq_comm

/-- Two pushes of one key are applied before either is recorded, and are recorded in their order. -/
theorem held_iff_same_last_in_order :
    ∃ (key : ServiceKey) (events : List ReportEvent) (s : SharedReporter), key.text = "a/web" ∧
      events = [.start ⟨.serviceState, key, ⟨.running, ""⟩⟩,
        .start ⟨.serviceState, key, ⟨.exited, "exit 1"⟩⟩,
        .compare 0, .compare 1, .apply 0, .apply 1, .record 0, .record 1] ∧
      s = (⟨⟨.empty, .empty⟩, []⟩ : SharedReporter).steps events ∧
      s.ledger.cache.get? .serviceState key = some ⟨.exited, "exit 1"⟩ ∧
      s.ledger.held.get? .serviceState key = some ⟨.exited, "exit 1"⟩ := by
  obtain ⟨key, events, hkey, hevents, hquiet, hlast, hknown⟩ :
      ∃ (key : ServiceKey) (events : List ReportEvent), key.text = "a/web" ∧
        events = [.start ⟨.serviceState, key, ⟨.running, ""⟩⟩,
          .start ⟨.serviceState, key, ⟨.exited, "exit 1"⟩⟩,
          .compare 0, .compare 1, .apply 0, .apply 1, .record 0, .record 1] ∧
        (steps ⟨⟨.empty, .empty⟩, []⟩ events).isUnrecorded .serviceState key = false ∧
        (recorded ⟨⟨.empty, .empty⟩, []⟩ .serviceState key events).getLast? =
          (applied ⟨⟨.empty, .empty⟩, []⟩ .serviceState key events).getLast? ∧
        (steps ⟨⟨.empty, .empty⟩, []⟩ events).ledger.cache.get? .serviceState key =
          some ⟨.exited, "exit 1"⟩ :=
    ⟨⟨⟨"a", by decide⟩, ⟨"web", by decide⟩⟩, _, rfl, rfl, rfl, by decide +kernel, rfl⟩
  have hheld := (held_iff_same_last hquiet hknown).2.mpr hlast
  exact ⟨key, events, _, hkey, hevents, rfl, hknown, hheld⟩

/-- **A report overtakes another one**: `running` is applied first and recorded last. No push is
unrecorded in the end, but `running` is known while `exited` is held, and the next report of
`running` ends without a push. -/
theorem known_not_held_of_overtaking :
    ∃ (key : ServiceKey) (s : SharedReporter), key.text = "a/web" ∧
      s = SharedReporter.empty.steps
        [.start ⟨.serviceState, key, ⟨.running, ""⟩⟩,
          .start ⟨.serviceState, key, ⟨.exited, "exit 1"⟩⟩,
          .compare 0, .compare 1, .apply 0, .apply 1, .record 1, .record 0] ∧
      s.isUnrecorded .serviceState key = false ∧
      s.ledger.cache.get? .serviceState key = some ⟨.running, ""⟩ ∧
      s.ledger.held.get? .serviceState key = some ⟨.exited, "exit 1"⟩ ∧
      (s.steps [.start ⟨.serviceState, key, ⟨.running, ""⟩⟩, .compare 2]).reports.map (·.phase) =
        [.ended, .ended, .ended] := by
  refine ⟨⟨⟨"a", by decide⟩, ⟨"web", by decide⟩⟩, _, rfl, rfl, ?_, ?_, ?_, ?_⟩
  · rfl
  · rfl
  · rfl
  · rfl

end SharedReporter

end FleetAgent
