import FleetAgent.Proofs.Reporting.Losses
import FleetAgent.Reporting.Calls
/-!
# Reports of what has changed

Whether a report is pushed can be told from what was seen of the calls before it, without the push
cache. The last push about a key that succeeded counts until the key is forgotten, with its
application or because it is not desired: `IsLastPush history kind key v`. A report is pushed if it
has another value than the push that counts, or if none does: `detectsTransition_report`.

The push cache holds the values that count, and no other (`PushCache.Remembers`). A call does one of
three things to a key (`PushCache.perform_cases`), and with each of them the push cache keeps up
(`Remembers.perform`); so it does in all runs (`Remembers.performAll`).
-/

namespace FleetAgent

open Controller (ClientError)
open SharedReporter (isAbout isAbout_iff)

/-! ### What is seen of a key -/

section Turns

variable {kind : ObservationKind} {key : kind.Key} {v w : kind.Value} {t : ReporterTurn}
  {history : List ReporterTurn}

/-- In the turn `t` the value `v` was pushed for `key` with success. -/
def ReporterTurn.HasPushed (t : ReporterTurn) (kind : ObservationKind) (key : kind.Key)
    (v : kind.Value) : Prop :=
  t.call = .report ⟨kind, key, v⟩ (.ok ()) ∧ t.pushes = [⟨kind, key, v⟩]

/-- In the turn `t` the key was to be forgotten: its application was, or what is not desired, and it
is not. -/
def ReporterTurn.Forgets (t : ReporterTurn) (kind : ObservationKind) (key : kind.Key) : Prop :=
  t.call = .forget (kind.application key) ∨ ∃ d, t.call = .retain d ∧ kind.isDesired d key = false

/-- The last push for `key` that succeeded had the value `v`, and the key was not to be forgotten
since. -/
def IsLastPush (history : List ReporterTurn) (kind : ObservationKind) (key : kind.Key)
    (v : kind.Value) : Prop :=
  Since (·.HasPushed kind key v)
    (fun t => ¬ t.Forgets kind key ∧ ∀ w, ¬ t.HasPushed kind key w) history

theorem ReporterTurn.HasPushed.value_eq (h : t.HasPushed kind key v)
    (h' : t.HasPushed kind key w) : v = w := by
  obtain ⟨-, hv⟩ := h
  obtain ⟨-, hw⟩ := h'
  have heq := List.singleton_inj.mp (hv.symm.trans hw)
  simpa using heq

theorem ReporterTurn.HasPushed.not_forgets (h : t.HasPushed kind key v) :
    ¬ t.Forgets kind key := by
  obtain ⟨hcall, -⟩ := h
  unfold Forgets
  rw [hcall]
  rintro (h | ⟨d, h, -⟩) <;> cases h

theorem isLastPush_concat_iff :
    IsLastPush (history ++ [t]) kind key v ↔
      t.HasPushed kind key v ∨
        IsLastPush history kind key v ∧ ¬ t.Forgets kind key ∧ ∀ w, ¬ t.HasPushed kind key w :=
  since_concat_iff

end Turns

/-! ### One call -/

namespace PushCache

variable {kind : ObservationKind} {key : kind.Key}

/-- **What a `call` does to a `key`**: it pushes a value for it with success, and this value is
remembered; or the key is to be forgotten, and no value is; or neither, and nothing has changed. A
push that fails is of the last sort. -/
theorem perform_cases (c : PushCache) (call : ReporterCall) (kind : ObservationKind)
    (key : kind.Key) :
    (∃ v, (c.perform call).2.HasPushed kind key v ∧
        (c.perform call).1.get? kind key = some v) ∨
      ((c.perform call).2.Forgets kind key ∧ (c.perform call).1.get? kind key = none) ∨
      (¬ (c.perform call).2.Forgets kind key ∧
        (∀ v, ¬ (c.perform call).2.HasPushed kind key v) ∧
        (c.perform call).1.get? kind key = c.get? kind key) := by
  cases call with
  | report o push =>
    cases hholds : c.holds o with
    | true =>
      rw [perform_report_of_holds push hholds]
      exact .inr (.inr (by simp [ReporterTurn.Forgets, ReporterTurn.HasPushed]))
    | false =>
      cases push with
      | error e =>
        rw [perform_report_error e hholds]
        exact .inr (.inr (by simp [ReporterTurn.Forgets, ReporterTurn.HasPushed]))
      | ok _ =>
        rw [perform_report_ok hholds]
        -- Only a push that succeeds changes the push cache, and only at its own key.
        by_cases ho : isAbout kind key o = true
        · obtain ⟨v, rfl⟩ := isAbout_iff.mp ho
          exact .inl ⟨v, ⟨rfl, rfl⟩, c.get?_record_self ⟨kind, key, v⟩⟩
        · refine .inr (.inr ⟨by simp [ReporterTurn.Forgets], ?_, ?_⟩)
          · rintro v ⟨-, hpushes⟩
            obtain rfl := List.singleton_inj.mp hpushes
            exact ho (isAbout_self ⟨kind, key, v⟩)
          · exact c.get?_record_of_not_isAbout (Bool.not_eq_true _ ▸ ho)
  | forget a =>
    by_cases ha : kind.application key = a
    · exact .inr (.inl ⟨.inl (by rw [ha]; rfl), by simp [perform, forget, ha]⟩)
    · have ha' : a ≠ kind.application key := Ne.symm ha
      exact .inr (.inr (by
        simp [perform, forget, ha, ha', ReporterTurn.Forgets, ReporterTurn.HasPushed]))
  | retain d =>
    cases hd : kind.isDesired d key with
    | false => exact .inr (.inl ⟨.inr ⟨d, rfl, hd⟩, by simp [perform, retain, hd]⟩)
    | true =>
      exact .inr (.inr (by
        simp [perform, retain, hd, ReporterTurn.Forgets, ReporterTurn.HasPushed]))

end PushCache

/-! ### All calls -/

/-- The push cache `c` holds the values of the pushes that count in `history`, and no other. -/
def PushCache.Remembers (c : PushCache) (history : List ReporterTurn) : Prop :=
  ∀ kind key v, c.get? kind key = some v ↔ IsLastPush history kind key v

namespace PushCache

variable {c : PushCache} {history : List ReporterTurn} {o : Observation}

theorem remembers_nil : empty.Remembers [] := by
  intro kind key v
  rw [get?_empty]
  constructor
  · intro h
    cases h
  · intro h
    exact absurd h not_since_nil

/-- **Every call is remembered**, by the three cases of `perform_cases`. -/
theorem Remembers.perform (h : c.Remembers history) (call : ReporterCall) :
    (c.perform call).1.Remembers (history ++ [(c.perform call).2]) := by
  intro kind key v
  rw [isLastPush_concat_iff]
  obtain ⟨w, hpushed, hget⟩ | ⟨hforgets, hget⟩ | ⟨hnot, hnone, hget⟩ :=
    c.perform_cases call kind key
  · -- The value that was just pushed is the only one that counts.
    rw [hget, Option.some_inj]
    constructor
    · rintro rfl
      exact .inl hpushed
    · rintro (hv | ⟨-, -, hnone⟩)
      · exact hpushed.value_eq hv
      · exact absurd hpushed (hnone w)
  · -- No value counts once its key is to be forgotten.
    rw [hget]
    constructor
    · intro hv
      cases hv
    · rintro (hv | ⟨-, hnot, -⟩)
      · exact absurd hforgets hv.not_forgets
      · exact absurd hforgets hnot
  · rw [hget, h kind key v]
    constructor
    · intro hlast
      exact .inr ⟨hlast, hnot, hnone⟩
    · rintro (hv | ⟨hlast, -⟩)
      · exact absurd hv (hnone v)
      · exact hlast

/-- All calls are remembered, by induction on them. -/
theorem Remembers.performAll (h : c.Remembers history) (calls : List ReporterCall) :
    (c.performAll calls).1.Remembers (history ++ (c.performAll calls).2) := by
  induction calls generalizing c history with
  | nil => simpa [PushCache.performAll] using h
  | cons call rest ih =>
    have hrest := ih (h.perform call)
    rw [List.append_assoc] at hrest
    exact hrest

/-- The value of `o` is held exactly if it is that of the push that counts. -/
theorem Remembers.holds_iff (h : c.Remembers history) :
    c.holds o = true ↔ IsLastPush history o.kind o.key o.value := by
  rw [holds, decide_eq_true_iff]
  exact h o.kind o.key o.value

/-! ### Other keys -/

/-- What comes of a report of `o` depends on what is remembered of its key: two push caches that
agree there turn alike. -/
theorem turn_report_congr {c d : PushCache} (h : c.get? o.kind o.key = d.get? o.kind o.key)
    (push : Except ClientError Unit) :
    (c.perform (.report o push)).2 = (d.perform (.report o push)).2 := by
  have hholds : c.holds o = d.holds o := by
    unfold holds
    rw [h]
  simp only [perform_report, report, hholds]
  split
  · rfl
  · cases push <;> rfl

/-- A report leaves what is remembered of other keys. -/
theorem get?_perform_report {kind : ObservationKind} {key : kind.Key}
    (push : Except ClientError Unit) (h : isAbout kind key o = false) :
    (c.perform (.report o push)).1.get? kind key = c.get? kind key := by
  cases hholds : c.holds o with
  | true => rw [perform_report_of_holds push hholds]
  | false =>
    cases push with
    | error e => rw [perform_report_error e hholds]
    | ok _ =>
      rw [perform_report_ok hholds]
      exact c.get?_record_of_not_isAbout h

/-- Forgetting an application leaves what is remembered of others. -/
theorem get?_perform_forget {kind : ObservationKind} {key : kind.Key} {a : ApplicationId}
    (h : kind.application key ≠ a) :
    (c.perform (.forget a)).1.get? kind key = c.get? kind key := by
  simp [PushCache.perform, forget, h]

end PushCache

/-! ### Reports -/

/-- What a report should come to after a history of calls, `c` and `c'` being the push cache before
and after it. -/
structure DetectsTransition (history : List ReporterTurn) (o : Observation)
    (push : Except ClientError Unit) (c c' : PushCache) (t : ReporterTurn) : Prop where
  /-- It is pushed once or not at all. -/
  once : t.pushes = [o] ∨ t.pushes = []
  /-- It is pushed if its value is not that of the last push that counts, or none does. -/
  pushed_iff : t.pushes = [o] ↔ ∀ v, IsLastPush history o.kind o.key v → o.value ≠ v
  /-- It is done with a push exactly if the push has succeeded. -/
  true_iff : t.result? = some (.ok true) ↔ t.pushes = [o] ∧ push = .ok ()
  /-- It is done without a push exactly if there was none. -/
  false_iff : t.result? = some (.ok false) ↔ t.pushes = []
  /-- It fails exactly if the push has failed, with the error of the push. -/
  error_iff : ∀ e, t.result? = some (.error e) ↔ t.pushes = [o] ∧ push = .error e
  /-- A push that fails leaves the push cache. -/
  unchanged : ∀ e, t.result? = some (.error e) → c' = c
  /-- What would come of a report of anything else is what would have come of it before. -/
  others : ∀ x p, isAbout x.kind x.key o = false →
    (c'.perform (.report x p)).2 = (c.perform (.report x p)).2

/-- A report of `o` comes to what it should: it depends on whether its value is held, and then on
its `push`. -/
theorem detectsTransition_report {c : PushCache} {history : List ReporterTurn}
    (h : c.Remembers history) (o : Observation) (push : Except ClientError Unit) :
    DetectsTransition history o push c (c.perform (.report o push)).1
      (c.perform (.report o push)).2 := by
  -- By `holds_iff` the push that counts has the value of `o` exactly if that is held.
  have hlast : (∀ v, IsLastPush history o.kind o.key v → o.value ≠ v) ↔ c.holds o = false := by
    rw [← Bool.not_eq_true, h.holds_iff]
    constructor
    · intro hall hpushed
      exact hall o.value hpushed rfl
    · rintro hnot v hpushed rfl
      exact hnot hpushed
  have hothers : ∀ x p, isAbout x.kind x.key o = false →
      (((c.perform (.report o push)).1).perform (.report x p)).2 =
        (c.perform (.report x p)).2 := by
    intro x p hx
    exact PushCache.turn_report_congr (PushCache.get?_perform_report push hx) p
  cases hholds : c.holds o with
  | true =>
    rw [hholds] at hlast
    rw [PushCache.perform_report_of_holds push hholds] at hothers ⊢
    exact ⟨.inr rfl, by simp [hlast], by simp, by simp, by simp, by simp, hothers⟩
  | false =>
    rw [hholds] at hlast
    cases push with
    | ok _ =>
      rw [PushCache.perform_report_ok hholds] at hothers ⊢
      exact ⟨.inl rfl, by simp [hlast], by simp, by simp, by simp, by simp, hothers⟩
    | error e =>
      rw [PushCache.perform_report_error e hholds] at hothers ⊢
      exact ⟨.inl rfl, by simp [hlast], by simp, by simp, by simp, by simp, hothers⟩

/-- **A reporter pushes exactly what has changed.** Whatever `calls` came before, and however their
pushes have ended, a report is pushed if and only if its value is not that of the last push about
its kind and key that has succeeded since they were to be forgotten. What comes of it is told by the
push, a push that fails leaves the push cache, and neither a report nor forgetting an application
changes what comes of reports of anything else. -/
theorem reporter_detectsTransitions {calls : List ReporterCall} {c : PushCache}
    {history : List ReporterTurn} (hrun : PushCache.empty.performAll calls = (c, history)) :
    (∀ o push, DetectsTransition history o push c (c.perform (.report o push)).1
        (c.perform (.report o push)).2) ∧
      ∀ a x p, x.kind.application x.key ≠ a →
        ((c.perform (.forget a)).1.perform (.report x p)).2 = (c.perform (.report x p)).2 := by
  have hremembers := PushCache.remembers_nil.performAll calls
  rw [hrun, List.nil_append] at hremembers
  constructor
  · intro o push
    exact detectsTransition_report hremembers o push
  · intro a x p hx
    exact PushCache.turn_report_congr (PushCache.get?_perform_forget hx) p

/-- A service that runs is reported twice and pushed once; it is no longer desired, and is pushed
again when it is back, though nothing has changed. -/
theorem reporter_detectsTransitions_restored :
    ∃ (key : ServiceKey) (o : Observation) (d : DesiredServices) (c : PushCache)
      (history : List ReporterTurn),
      key.text = "app_1/web" ∧ o = ⟨.serviceState, key, ⟨.running, ""⟩⟩ ∧
      d = DesiredServices.empty.insert key.application [] ∧
      PushCache.empty.performAll [.report o (.ok ()), .report o (.ok ()), .retain d] =
        (c, history) ∧
      history.map (·.pushes) = [[o], [], []] ∧
      (∀ v, IsLastPush history o.kind o.key v → o.value ≠ v) ∧
      (c.perform (.report o (.ok ()))).2.pushes = [o] := by
  obtain ⟨key, o, d, hkey, ho, hd, hgone⟩ :
      ∃ (key : ServiceKey) (o : Observation) (d : DesiredServices),
        key.text = "app_1/web" ∧ o = ⟨.serviceState, key, ⟨.running, ""⟩⟩ ∧
        d = DesiredServices.empty.insert key.application [] ∧
        o.kind.isDesired d o.key = false :=
    ⟨⟨⟨"app_1", by decide⟩, ⟨"web", by decide⟩⟩, _, _, rfl, rfl, rfl, by decide +kernel⟩
  have hfirst := PushCache.empty.perform_report_ok (o := o) (by simp [PushCache.holds])
  have hsecond := (PushCache.empty.record o).perform_report_of_holds (o := o) (.ok ())
    (by simp [PushCache.holds])
  have hrun : PushCache.empty.performAll [.report o (.ok ()), .report o (.ok ()), .retain d] =
      ((PushCache.empty.record o).retain d,
        [⟨.report o (.ok ()), [o], some (.ok true)⟩,
          ⟨.report o (.ok ()), [], some (.ok false)⟩, ⟨.retain d, [], none⟩]) := by
    simp only [PushCache.performAll, hfirst, hsecond]
    rfl
  have hforgotten : ((PushCache.empty.record o).retain d).holds o = false := by
    simp [PushCache.holds, PushCache.retain, hgone]
  have hpushed := congrArg (·.2.pushes) (PushCache.perform_report_ok hforgotten)
  have hlast := ((reporter_detectsTransitions hrun).1 o (.ok ())).pushed_iff.mp hpushed
  exact ⟨key, o, d, _, _, hkey, ho, hd, hrun, rfl, hlast, hpushed⟩

end FleetAgent
