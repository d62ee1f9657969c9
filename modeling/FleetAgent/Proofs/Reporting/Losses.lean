import FleetAgent.Reporting.Held
import FleetAgent.Controller.Client
/-!
# Pushes that are lost

A report that is done has either been pushed now or holds the value that was pushed last with
success. So the controller holds the value, unless another one got there in the meantime: the push
of a value that differs may be applied and yet fail at the device (`PushFate.lost`). The push cache
still holds the older value then, and a report of it does nothing.

`held_iff_not_lost_of_done` is exact about this: when a report is done, the controller holds its
value if and only if no push about the key was lost since the last one that succeeded (`LostSince`).
The same is true of the description of the device. `done_though_lost` is a run in which the two
differ.

A ledger is looked at one key at a time (`KeyView`). What a report of `v` does to the view of its
key is one of the four steps of `KeyStep`, for observations and for the description alike, so the
invariant `Accounts` is proved once (`Accounts.step`) and used for both.
-/

namespace FleetAgent

open Controller (ClientError)

/-! ### Since then -/

/-- Something of the sort `began` has happened, and since then only what is of the sort `stays`. -/
def Since {α : Type} (began stays : α → Prop) (xs : List α) : Prop :=
  ∃ front a back, xs = front ++ a :: back ∧ began a ∧ ∀ b ∈ back, stays b

/-- The last thing `x` decides, unless it leaves things as they were. -/
theorem since_concat_iff {α : Type} {began stays : α → Prop} {xs : List α} {x : α} :
    Since began stays (xs ++ [x]) ↔ began x ∨ Since began stays xs ∧ stays x := by
  constructor
  · rintro ⟨front, a, back, h, ha, hback⟩
    rcases List.eq_nil_or_concat back with rfl | ⟨back, last, rfl⟩
    · obtain ⟨-, heq⟩ := List.append_inj' h rfl
      obtain rfl := List.singleton_inj.mp heq
      exact .inl ha
    · -- Something stands behind what began it, so `x` is the last of that, and lets it stay.
      rw [List.concat_eq_append, ← List.cons_append, ← List.append_assoc] at h
      rw [List.concat_eq_append] at hback
      obtain ⟨rfl, heq⟩ := List.append_inj' h rfl
      obtain rfl := List.singleton_inj.mp heq
      have hstays : ∀ b ∈ back, stays b := fun b hb => hback b (List.mem_append_left _ hb)
      exact .inr ⟨⟨front, a, back, rfl, ha, hstays⟩, hback x (by simp)⟩
  · rintro (hx | ⟨⟨front, a, back, rfl, ha, hback⟩, hx⟩)
    · exact ⟨xs, x, [], rfl, hx, by simp⟩
    · refine ⟨front, a, back ++ [x], by simp, ha, fun b hb => ?_⟩
      rcases List.mem_append.mp hb with hb | hb
      · exact hback b hb
      · obtain rfl := List.mem_singleton.mp hb
        exact hx

theorem not_since_nil {α : Type} {began stays : α → Prop} : ¬ Since began stays [] := by
  rintro ⟨front, a, back, h, -⟩
  exact List.append_ne_nil_of_right_ne_nil front (List.cons_ne_nil a back) h.symm

/-! ### Reports that have ended -/

/-- Reports of a subject that have ended, in order: each with the way its push went, if it was
pushed, and with its result. -/
abbrev EndedReports (α : Type) := List ((α × PushFate) × Except ClientError Bool)

/-- A push about something was lost, and none has succeeded since. What is `about` it is all that
counts. A report whose result is no error was not lost: it was not even pushed, or it succeeded. -/
def LostSince {α : Type} (about : α → Bool) (reports : EndedReports α) : Prop :=
  ∃ front a e back, reports = front ++ ((a, .lost e), .error e) :: back ∧ about a = true ∧
    ∀ r ∈ back, about r.1.1 = true → r.2 ≠ .ok true

section LostSince

variable {α : Type} {about : α → Bool} {t : EndedReports α} {a : α} {fate : PushFate}
  {result : Except ClientError Bool}

/-- To be lost is one case of `Since`: a loss began it, and what does not succeed lets it stay. -/
theorem lostSince_iff_since :
    LostSince about t ↔
      Since (fun r => about r.1.1 = true ∧ ∃ e, r.1.2 = .lost e ∧ r.2 = .error e)
        (fun r => about r.1.1 = true → r.2 ≠ .ok true) t := by
  constructor
  · rintro ⟨front, b, e, back, rfl, hb, hback⟩
    exact ⟨front, _, back, rfl, ⟨hb, e, rfl, rfl⟩, hback⟩
  · rintro ⟨front, ⟨⟨b, _⟩, _⟩, back, rfl, ⟨hb, e, rfl, rfl⟩, hback⟩
    exact ⟨front, b, e, back, rfl, hb, hback⟩

/-- The last report decides, unless it neither was lost nor succeeded. -/
theorem lostSince_concat_iff :
    LostSince about (t ++ [((a, fate), result)]) ↔
      (about a = true ∧ ∃ e, fate = .lost e ∧ result = .error e) ∨
        (LostSince about t ∧ (about a = true → result ≠ .ok true)) := by
  rw [lostSince_iff_since, lostSince_iff_since, since_concat_iff]

/-- A report about something else changes nothing. -/
theorem lostSince_concat_of_not_about (ha : about a = false) :
    LostSince about (t ++ [((a, fate), result)]) ↔ LostSince about t := by
  rw [lostSince_concat_iff, ha]
  simp

end LostSince

/-! ### One key -/

/-- What is known and what is held of one key. -/
structure KeyView (α : Type) where
  /-- The value that was pushed last with success, as the device remembers it. -/
  known? : Option α
  /-- The value that the controller holds. -/
  held? : Option α

/-- What a report of `v` does to the view of its key, with the way `fate` its push goes if it is
pushed, and with its result. -/
inductive KeyStep {α : Type} (v : α) :
    KeyView α → PushFate → Except ClientError Bool → KeyView α → Prop
  /-- The value was pushed last, and is not pushed again. -/
  | known (held? fate) : KeyStep v ⟨some v, held?⟩ fate (.ok false) ⟨some v, held?⟩
  /-- The value is pushed, and both sides have it. -/
  | applied {known? held?} (h : known? ≠ some v) :
    KeyStep v ⟨known?, held?⟩ .applied (.ok true) ⟨some v, some v⟩
  /-- The push fails, and neither side changes. -/
  | rejected {known? held?} (h : known? ≠ some v) (e) :
    KeyStep v ⟨known?, held?⟩ (.rejected e) (.error e) ⟨known?, held?⟩
  /-- The controller holds the value now, but the device does not know. -/
  | lost {known? held?} (h : known? ≠ some v) (e) :
    KeyStep v ⟨known?, held?⟩ (.lost e) (.error e) ⟨known?, some v⟩

/-- What the device knows to be pushed is held, exactly if nothing about the key was lost in the
reports `t` since. -/
def Accounts {α β : Type} (about : β → Bool) (t : EndedReports β) (view : KeyView α) : Prop :=
  ∀ v, view.known? = some v → (view.held? = some v ↔ ¬ LostSince about t)

section KeyStep

variable {α β : Type} {about : β → Bool} {t : EndedReports β} {b : β} {v : α}
  {view view' : KeyView α} {fate : PushFate} {result : Except ClientError Bool}

/-- A report that is done leaves its value `v` as the one that was pushed last. -/
theorem KeyStep.known_of_ok {pushed : Bool} (h : KeyStep v view fate (.ok pushed) view') :
    view'.known? = some v := by
  cases h <;> rfl

/-- A push that succeeded has its value held. -/
theorem KeyStep.held_of_pushed (h : KeyStep v view fate (.ok true) view') :
    view'.held? = some v := by
  cases h
  rfl

/-- **A report keeps the account of its key.** In the case `known` nothing changes on either side; a
loss is the only step behind which known and held may differ. -/
theorem Accounts.step (h : Accounts about t view) (hs : KeyStep v view fate result view')
    (hb : about b = true) : Accounts about (t ++ [((b, fate), result)]) view' := by
  intro u hu
  rw [lostSince_concat_iff]
  cases hs with
  | known held? fate =>
    have hheld := h u hu
    simpa [hb] using hheld
  | applied hne =>
    obtain rfl : v = u := Option.some.inj hu
    simp [hb]
  | rejected hne e =>
    have hheld := h u hu
    simpa [hb] using hheld
  | lost hne e =>
    -- What is held now differs from what is known: otherwise there was no push.
    have hvu : v ≠ u := by
      rintro rfl
      exact hne hu
    simp [hb, hvu]

end KeyStep

/-! ### The two ledgers -/

/-- An observation `o` is about a `key` if it gives a value for it. -/
theorem SharedReporter.isAbout_iff {kind : ObservationKind} {key : kind.Key} {o : Observation} :
    isAbout kind key o = true ↔ ∃ value, o = ⟨kind, key, value⟩ := by
  obtain ⟨k, key', value⟩ := o
  unfold isAbout
  constructor
  · intro h
    split at h
    · rename_i hk
      obtain rfl : k = kind := hk
      obtain rfl : key' = key := of_decide_eq_true h
      exact ⟨value, rfl⟩
    · contradiction
  · rintro ⟨value', ho⟩
    obtain ⟨rfl, ho⟩ := Observation.mk.inj ho
    obtain ⟨rfl, -⟩ := ho
    simp

open SharedReporter (isAbout isAbout_iff)

theorem isAbout_self (o : Observation) : isAbout o.kind o.key o = true :=
  isAbout_iff.mpr ⟨o.value, rfl⟩

/-- Recording an observation leaves the values of all other keys. -/
theorem PushCache.get?_record_of_not_isAbout (c : PushCache) {kind : ObservationKind}
    {key : kind.Key} {o : Observation} (h : isAbout kind key o = false) :
    (c.record o).get? kind key = c.get? kind key := by
  obtain ⟨k, key', value⟩ := o
  by_cases hk : kind = k
  · subst hk
    apply c.get?_record_of_key_ne
    rintro rfl
    have hself := isAbout_self ⟨kind, key, value⟩
    rw [h] at hself
    contradiction
  · exact c.get?_record_of_kind_ne _ key hk

namespace ReportLedger

variable {kind : ObservationKind} {key : kind.Key} {t : EndedReports Observation}

/-- The view of `key` in the ledger. -/
def view (l : ReportLedger) (kind : ObservationKind) (key : kind.Key) : KeyView kind.Value :=
  ⟨l.cache.get? kind key, l.held.get? kind key⟩

theorem report_of_known {l : ReportLedger} {o : Observation} (fate : PushFate)
    (h : l.cache.get? o.kind o.key = some o.value) : l.report o fate = (l, .ok false) := by
  have hholds : l.cache.holds o = true := decide_eq_true h
  simp [report, PushCache.report, hholds]

/-- A value that is not known to be pushed is pushed, and `fate` decides what becomes of it. -/
theorem report_of_not_known {l : ReportLedger} {o : Observation} (fate : PushFate)
    (h : l.cache.get? o.kind o.key ≠ some o.value) :
    l.report o fate = match fate with
      | .applied => (⟨l.cache.record o, l.held.record o⟩, .ok true)
      | .rejected e => (l, .error e)
      | .lost e => (⟨l.cache, l.held.record o⟩, .error e) := by
  have hholds : l.cache.holds o = false := decide_eq_false h
  cases fate <;> simp [report, PushCache.report, hholds, PushFate.result, PushFate.isApplied]

/-- A report is a step of its own key. -/
theorem keyStep_report (l : ReportLedger) (o : Observation) (fate : PushFate) :
    KeyStep o.value (l.view o.kind o.key) fate (l.report o fate).2
      ((l.report o fate).1.view o.kind o.key) := by
  by_cases h : l.cache.get? o.kind o.key = some o.value
  · rw [report_of_known fate h, view, h]
    exact .known _ _
  · rw [report_of_not_known fate h]
    cases fate with
    | applied => simpa [view] using KeyStep.applied h
    | rejected e => exact .rejected h e
    | lost e => simpa [view] using KeyStep.lost h e

/-- A report leaves all other keys. -/
theorem view_report_of_not_isAbout (l : ReportLedger) {o : Observation} (fate : PushFate)
    (h : isAbout kind key o = false) : (l.report o fate).1.view kind key = l.view kind key := by
  by_cases hknown : l.cache.get? o.kind o.key = some o.value
  · rw [report_of_known fate hknown]
  · rw [report_of_not_known fate hknown]
    have hcache := l.cache.get?_record_of_not_isAbout h
    have hheld := l.held.get?_record_of_not_isAbout h
    cases fate with
    | applied => simp only [view, hcache, hheld]
    | rejected e => rfl
    | lost e => simp only [view, hheld]

/-- A report keeps the account of `key`, its own or another one. -/
theorem accounts_report {l : ReportLedger} (h : Accounts (isAbout kind key) t (l.view kind key))
    (o : Observation) (fate : PushFate) :
    Accounts (isAbout kind key) (t ++ [((o, fate), (l.report o fate).2)])
      ((l.report o fate).1.view kind key) := by
  by_cases ho : isAbout kind key o = true
  · obtain ⟨value, rfl⟩ := isAbout_iff.mp ho
    exact h.step (l.keyStep_report ⟨kind, key, value⟩ fate) ho
  · rw [Bool.not_eq_true] at ho
    intro v hv
    rw [view_report_of_not_isAbout l fate ho] at hv ⊢
    rw [lostSince_concat_of_not_about ho]
    exact h v hv

/-- **Every run keeps the account of every `key`**, by induction on the `reports`. -/
theorem accounts_reportAll {l : ReportLedger}
    (h : Accounts (isAbout kind key) t (l.view kind key))
    (reports : List (Observation × PushFate)) :
    Accounts (isAbout kind key) (t ++ reports.zip (l.reportAll reports).2)
      ((l.reportAll reports).1.view kind key) := by
  induction reports generalizing l t with
  | nil => simpa [reportAll] using h
  | cons r rest ih =>
    obtain ⟨o, fate⟩ := r
    have hrest := ih (accounts_report h o fate)
    rw [List.append_assoc] at hrest
    exact hrest

/-- The report that comes last in a run. -/
theorem reportAll_concat (l : ReportLedger) (reports : List (Observation × PushFate))
    (o : Observation) (fate : PushFate) :
    l.reportAll (reports ++ [(o, fate)]) =
      (((l.reportAll reports).1.report o fate).1,
        (l.reportAll reports).2 ++ [((l.reportAll reports).1.report o fate).2]) := by
  induction reports generalizing l with
  | nil => rfl
  | cons r rest ih =>
    obtain ⟨o', fate'⟩ := r
    simp only [List.cons_append, reportAll]
    rw [ih]

end ReportLedger

namespace InfoLedger

variable {t : EndedReports DeviceInfo}

/-- The description has one key only. -/
def view (l : InfoLedger) : KeyView DeviceInfo :=
  ⟨l.reporter.lastPushed?, l.held?⟩

theorem report_of_known {l : InfoLedger} {info : DeviceInfo} (fate : PushFate)
    (h : l.reporter.lastPushed? = some info) : l.report info fate = (l, .ok false) := by
  have hholds : l.reporter.holds info = true := decide_eq_true h
  simp [report, InfoReporter.report, hholds]

theorem report_of_not_known {l : InfoLedger} {info : DeviceInfo} (fate : PushFate)
    (h : l.reporter.lastPushed? ≠ some info) :
    l.report info fate = match fate with
      | .applied => (⟨l.reporter.record info, some info⟩, .ok true)
      | .rejected e => (l, .error e)
      | .lost e => (⟨l.reporter, some info⟩, .error e) := by
  have hholds : l.reporter.holds info = false := decide_eq_false h
  cases fate <;> simp [report, InfoReporter.report, hholds, PushFate.result, PushFate.isApplied]

/-- A report of the description is a step of its only key. -/
theorem keyStep_report (l : InfoLedger) (info : DeviceInfo) (fate : PushFate) :
    KeyStep info l.view fate (l.report info fate).2 (l.report info fate).1.view := by
  by_cases h : l.reporter.lastPushed? = some info
  · rw [report_of_known fate h, view, h]
    exact .known _ _
  · rw [report_of_not_known fate h]
    cases fate with
    | applied => exact .applied h
    | rejected e => exact .rejected h e
    | lost e => exact .lost h e

/-- Every run keeps the account of the description. -/
theorem accounts_reportAll {l : InfoLedger} (h : Accounts (fun _ => true) t l.view)
    (reports : List (DeviceInfo × PushFate)) :
    Accounts (fun _ => true) (t ++ reports.zip (l.reportAll reports).2)
      (l.reportAll reports).1.view := by
  induction reports generalizing l t with
  | nil => simpa [reportAll] using h
  | cons r rest ih =>
    obtain ⟨info, fate⟩ := r
    have hrest := ih (h.step (b := info) (l.keyStep_report info fate) rfl)
    rw [List.append_assoc] at hrest
    exact hrest

/-- The report of the description that comes last in a run. -/
theorem reportAll_concat (l : InfoLedger) (reports : List (DeviceInfo × PushFate))
    (info : DeviceInfo) (fate : PushFate) :
    l.reportAll (reports ++ [(info, fate)]) =
      (((l.reportAll reports).1.report info fate).1,
        (l.reportAll reports).2 ++ [((l.reportAll reports).1.report info fate).2]) := by
  induction reports generalizing l with
  | nil => rfl
  | cons r rest ih =>
    obtain ⟨info', fate'⟩ := r
    simp only [List.cons_append, reportAll]
    rw [ih]

end InfoLedger

/-! ### Reports that are done -/

/-- **When a report is done, the controller holds its value exactly if no push about the key was
lost since the last one that succeeded** (`LostSince`), whatever was reported before about this key
and others, and whatever the controller `held` at first. In particular it holds the value of every
push that succeeded. The same is true of the description of the device. -/
theorem held_iff_not_lost_of_done (held : PushCache) (held? : Option DeviceInfo) (fate : PushFate)
    (results : List (Except ClientError Bool)) (pushed : Bool) :
    (∀ (reports : List (Observation × PushFate)) (o : Observation) (l : ReportLedger),
      (⟨.empty, held⟩ : ReportLedger).reportAll (reports ++ [(o, fate)]) =
          (l, results ++ [.ok pushed]) →
        (pushed = true → l.held.get? o.kind o.key = some o.value) ∧
          (l.held.get? o.kind o.key = some o.value ↔
            ¬ LostSince (isAbout o.kind o.key)
              ((reports ++ [(o, fate)]).zip (results ++ [.ok pushed])))) ∧
      ∀ (reports : List (DeviceInfo × PushFate)) (info : DeviceInfo) (l : InfoLedger),
        (⟨.fresh, held?⟩ : InfoLedger).reportAll (reports ++ [(info, fate)]) =
            (l, results ++ [.ok pushed]) →
          (pushed = true → l.held? = some info) ∧
            (l.held? = some info ↔
              ¬ LostSince (fun _ => true)
                ((reports ++ [(info, fate)]).zip (results ++ [.ok pushed]))) := by
  constructor
  · intro reports o l h
    have hnil : Accounts (isAbout o.kind o.key) []
        ((⟨.empty, held⟩ : ReportLedger).view o.kind o.key) := by
      intro v hv
      simp [ReportLedger.view] at hv
    have hall := ReportLedger.accounts_reportAll hnil (reports ++ [(o, fate)])
    rw [h, List.nil_append] at hall
    -- The last report tells what is known in the end.
    rw [ReportLedger.reportAll_concat] at h
    obtain ⟨rfl, hresults⟩ := Prod.mk.inj h
    obtain ⟨-, hlast⟩ := List.append_inj' hresults rfl
    have hstep := ReportLedger.keyStep_report
      ((⟨.empty, held⟩ : ReportLedger).reportAll reports).1 o fate
    rw [List.singleton_inj.mp hlast] at hstep
    refine ⟨?_, hall o.value hstep.known_of_ok⟩
    rintro rfl
    exact hstep.held_of_pushed
  · intro reports info l h
    have hnil : Accounts (fun _ : DeviceInfo => true) [] (⟨.fresh, held?⟩ : InfoLedger).view := by
      intro v hv
      simp [InfoLedger.view, InfoReporter.fresh] at hv
    have hall := InfoLedger.accounts_reportAll hnil (reports ++ [(info, fate)])
    rw [h, List.nil_append] at hall
    rw [InfoLedger.reportAll_concat] at h
    obtain ⟨rfl, hresults⟩ := Prod.mk.inj h
    obtain ⟨-, hlast⟩ := List.append_inj' hresults rfl
    have hstep := InfoLedger.keyStep_report
      ((⟨.fresh, held?⟩ : InfoLedger).reportAll reports).1 info fate
    rw [List.singleton_inj.mp hlast] at hstep
    refine ⟨?_, hall info hstep.known_of_ok⟩
    rintro rfl
    exact hstep.held_of_pushed

/-- A push that was lost and then succeeds is no longer in the way: `r2` is known and held, and
nothing about the application is lost since. -/
theorem held_iff_not_lost_of_done_retried :
    ∃ (a : ApplicationId) (r1 r2 : Observation) (l : ReportLedger) (m : InfoLedger)
      (x y : DeviceInfo) (timeout : ClientError),
      r1 = ⟨.applicationStatus, a, ⟨"r1"⟩⟩ ∧ r2 = ⟨.applicationStatus, a, ⟨"r2"⟩⟩ ∧ x ≠ y ∧
      ReportLedger.empty.reportAll
          ([(r1, .applied), (r2, .lost timeout), (r2, .applied)] ++ [(r2, .applied)]) =
        (l, [.ok true, .error timeout, .ok true] ++ [.ok false]) ∧
      l.held.get? r2.kind r2.key = some r2.value ∧
      ¬ LostSince (isAbout r2.kind r2.key)
        [((r1, .applied), .ok true), ((r2, .lost timeout), .error timeout),
          ((r2, .applied), .ok true), ((r2, .applied), .ok false)] ∧
      InfoLedger.empty.reportAll ([(x, .applied)] ++ [(y, .applied)]) =
        (m, [.ok true] ++ [.ok true]) ∧
      m.held? = some y := by
  obtain ⟨a, l, hrun, hl⟩ : ∃ (a : ApplicationId) (l : ReportLedger),
      ReportLedger.empty.reportAll
          ([(⟨.applicationStatus, a, ⟨"r1"⟩⟩, .applied),
            (⟨.applicationStatus, a, ⟨"r2"⟩⟩, .lost (.transport .timeout)),
            (⟨.applicationStatus, a, ⟨"r2"⟩⟩, .applied)] ++
            [(⟨.applicationStatus, a, ⟨"r2"⟩⟩, .applied)]) =
        (l, [.ok true, .error (.transport .timeout), .ok true] ++ [.ok false]) ∧
      l.held.get? .applicationStatus a = some ⟨"r2"⟩ := ⟨⟨"a", by decide⟩, _, rfl, rfl⟩
  obtain ⟨m, hinfo⟩ : ∃ m : InfoLedger, InfoLedger.empty.reportAll
      ([(⟨"0.1.0", none, {}⟩, .applied)] ++ [(⟨"0.1.0", some "10.0.0.7", {}⟩, .applied)]) =
        (m, [.ok true] ++ [.ok true]) := ⟨_, rfl⟩
  have hlost := ((held_iff_not_lost_of_done .empty none .applied _ false).1 _ _ l hrun).2.mp hl
  have hheld := ((held_iff_not_lost_of_done .empty none .applied _ true).2 _ _ m hinfo).1 rfl
  exact ⟨a, _, _, l, m, _, _, _, rfl, rfl, by decide, hrun, hl, hlost, hinfo, hheld⟩

/-- **A report is done though the controller holds another value**: the push of `r2` is applied, but
no reply comes in time; `r1` is still known to be pushed, so a report of it does nothing. The
description of the device goes the same way. -/
theorem done_though_lost :
    ∃ (a : ApplicationId) (l : ReportLedger) (m : InfoLedger) (x y : DeviceInfo),
      a.text = "a" ∧ x = ⟨"0.1.0", none, {}⟩ ∧ y = ⟨"0.1.0", some "10.0.0.7", {}⟩ ∧
      (let timeout : ClientError := .transport .timeout
       (Controller.Pending.sent ⟨.root, 0⟩).poll .fresh Controller.Flight.patience
          Controller.readDone none = some (.error timeout) ∧
       ReportLedger.empty.reportAll
          [(⟨.applicationStatus, a, ⟨"r1"⟩⟩, .applied),
            (⟨.applicationStatus, a, ⟨"r2"⟩⟩, .lost timeout),
            (⟨.applicationStatus, a, ⟨"r1"⟩⟩, .applied)] =
        (l, [.ok true, .error timeout, .ok false]) ∧
       l.held.get? .applicationStatus a = some ⟨"r2"⟩ ∧
       InfoLedger.empty.reportAll [(x, .applied), (y, .lost timeout), (x, .applied)] =
        (m, [.ok true, .error timeout, .ok false]) ∧
       m.held? = some y) :=
  ⟨⟨"a", by decide⟩, _, _, ⟨"0.1.0", none, {}⟩, ⟨"0.1.0", some "10.0.0.7", {}⟩,
    rfl, rfl, rfl, rfl, rfl, rfl, rfl, rfl⟩

end FleetAgent
