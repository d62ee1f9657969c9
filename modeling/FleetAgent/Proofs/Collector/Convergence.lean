import FleetAgent.Collector.Pass
import FleetAgent.Controller.Request
import FleetAgent.Proofs.Orphans
import Mathlib.Data.Set.Insert
import Mathlib.Order.BooleanAlgebra.Set
import Mathlib.Tactic.Push
/-!
# Passes come to an end of the orphans

Passes over one bundle `b`, as long as nothing calls them off, delete its orphans however deletions
fail: `Passes.converge`. A pass tries every orphan once, in order, whatever comes back
(`Pass.Runs.keys`). If the deletions of a key fail at most `f` times (`failures`), then one of
`f + 1` passes deletes it (`Passes.exists_succeeded`). From then on nothing changes at the
controller, because a deletion of what is gone succeeds and takes nothing away (`Answers.subset`,
`Passes.eq_of_gone`).

What comes back is up to the controller and to the way there. `Answers held key reply final` lists
the ways: the deletion may be granted, may find nothing to delete, or may fail, and one that fails
may have been carried out all the same (`Answers.lost`). What a whole run leaves behind is `Leaves`,
which each step keeps and which `Leaves.append` carries on.
-/

namespace FleetAgent

/-! ### Deletions at the controller -/

namespace Controller

variable {reply : Reply}

/-- A `reply` with a status of success is read as a deletion that has succeeded. -/
theorem readDeletion_of_isSuccess (h : reply.status.isSuccess = true) :
    readDeletion (.ok reply) = .ok () := by
  rw [readDeletion, grantedBody]
  simp only [bind, Except.bind, h]
  rfl

/-- A `reply` that nothing was found is read as a deletion that has succeeded: what is not there is
as good as deleted. -/
theorem readDeletion_of_notFound (h : reply.status = .notFound) :
    readDeletion (.ok reply) = .ok () := by
  rw [readDeletion, grantedBody]
  simp only [bind, Except.bind, h]
  rfl

end Controller

open Controller (ClientError TransportError Reply readDeletion readDeletion_of_isSuccess
  readDeletion_of_notFound)

/-- A deletion that was tried: of which observation, and what came back. -/
structure Trial (kind : ObservationKind) where
  /-- The observation. -/
  key : kind.Key
  /-- The reply, or why there was none. -/
  reply : Except TransportError Reply

/-- Whether a deletion that was tried has succeeded. -/
def Trial.succeeded {kind : ObservationKind} (t : Trial kind) : Bool :=
  (readDeletion t.reply).isOk

/-- What may come back from the deletion of `key`, and what the controller holds then (the last
argument), if it held `held` before. Nothing is called off: a failure `e` has
`e.isCanceled = false`. -/
inductive Answers {κ : Type} (held : Set κ) (key : κ) :
    Except TransportError Reply → Set κ → Prop
  /-- The deletion is carried out. -/
  | granted {reply : Reply} (h : reply.status.isSuccess = true) :
    Answers held key (.ok reply) (held \ {key})
  /-- There is nothing to delete. -/
  | missing {reply : Reply} (hkey : key ∉ held) (h : reply.status = .notFound) :
    Answers held key (.ok reply) held
  /-- The deletion fails, and was not carried out. -/
  | failed {reply : Except TransportError Reply} {e : ClientError}
    (h : readDeletion reply = .error e) (hrunning : e.isCanceled = false) :
    Answers held key reply held
  /-- The deletion fails for the agent, though it was carried out. -/
  | lost {reply : Except TransportError Reply} {e : ClientError}
    (h : readDeletion reply = .error e) (hrunning : e.isCanceled = false) :
    Answers held key reply (held \ {key})

namespace Answers

variable {κ : Type} {held final : Set κ} {key : κ} {reply : Except TransportError Reply}

/-- No observation but `key` is taken away, and none is added. -/
theorem subset (h : Answers held key reply final) : held \ {key} ⊆ final ∧ final ⊆ held := by
  cases h with
  | granted _ | lost _ _ => exact ⟨subset_rfl, Set.sdiff_subset⟩
  | missing _ _ | failed _ _ => exact ⟨Set.sdiff_subset, subset_rfl⟩

/-- **After a deletion that succeeds `key` is gone**, also if it was gone before: of the four ways
only `granted` and `missing` succeed. -/
theorem not_mem (h : Answers held key reply final) (hok : (readDeletion reply).isOk = true) :
    key ∉ final := by
  cases h with
  | granted _ => exact fun hmem => hmem.2 rfl
  | missing hkey _ => exact hkey
  | failed he _ | lost he _ =>
    rw [he] at hok
    cases hok

/-- No answer is read as a deletion that was called off. In the first two ways `readDeletion` gives
no error at all, in the others it is the error `hrunning` is about. -/
theorem not_isCanceled (h : Answers held key reply final) {e : ClientError}
    (he : readDeletion reply = .error e) : e.isCanceled = false := by
  cases h with
  | granted hstatus =>
    rw [readDeletion_of_isSuccess hstatus] at he
    cases he
  | missing _ hstatus =>
    rw [readDeletion_of_notFound hstatus] at he
    cases he
  | failed h hrunning | lost h hrunning =>
    obtain rfl := Except.error.inj (h.symm.trans he)
    exact hrunning

end Answers

/-! ### Passes without a shutdown -/

variable {kind : ObservationKind}

/-- A pass goes on to its end, without a shutdown: the deletions that are tried, and what the
controller holds before and behind them. -/
inductive Pass.Runs : Pass kind.Key → Set kind.Key → List (Trial kind) → Set kind.Key → Prop
  /-- The pass is over. -/
  | ended {report held} : Runs (.over report) held [] held
  /-- The deletion that is under way ends, and the pass goes on. -/
  | trial {o rest report held reply mid trials final} (hanswer : Answers held o.key reply mid)
    (hrest : ((Pass.deleting o rest report).finish false (readDeletion reply)).Runs mid trials
      final) : Runs (.deleting o rest report) held (⟨o.key, reply⟩ :: trials) final

/-- Passes over one bundle, one after the other and without a shutdown: the deletions that are tried
in each of them, and what the controller holds before and behind them. -/
inductive Passes (kind : ObservationKind) (b : Bundle) :
    Set kind.Key → List (List (Trial kind)) → Set kind.Key → Prop
  /-- No pass is made. -/
  | done {held} : Passes kind b held [] held
  /-- A pass is made, and then others. -/
  | pass {held trials mid passes final}
    (h : (Pass.start false (kind.orphans b)).Runs held trials mid)
    (hrest : Passes kind b mid passes final) : Passes kind b held (trials :: passes) final

variable {b : Bundle} {held mid final : Set kind.Key} {s trials : List (Trial kind)}
  {passes : List (List (Trial kind))} {key : kind.Key} {f : Nat}

/-- A pass goes on to `rest`, whatever comes of a deletion that is not called off; only the report
depends on `result`. -/
theorem Pass.exists_finish_eq (o : Orphan kind.Key) (rest : List (Orphan kind.Key))
    (report : PassReport) {result : Except ClientError Unit}
    (h : ∀ e, result = .error e → e.isCanceled = false) :
    ∃ report', (Pass.deleting o rest report).finish false result = .next false rest report' := by
  cases result with
  | ok => exact ⟨_, rfl⟩
  | error e => exact ⟨_, if_neg (Bool.eq_false_iff.mp (h e rfl))⟩

/-- **A pass tries every orphan once**, in order, whatever comes back. The induction is on
`orphans`: `Pass.exists_finish_eq` makes each answer lead on to the rest. -/
theorem Pass.Runs.keys {orphans : List (Orphan kind.Key)} {report : PassReport}
    (h : (Pass.next false orphans report).Runs held trials final) :
    trials.map (·.key) = orphans.map (·.key) := by
  induction orphans generalizing report held trials with
  | nil =>
    cases h
    rfl
  | cons o rest ih =>
    -- With an orphan left and no shutdown `Pass.next` is a pass that deletes it.
    have h : (Pass.deleting o rest report).Runs held trials final := h
    cases h with
    | trial hanswer hrest =>
      obtain ⟨report', hnext⟩ := Pass.exists_finish_eq o rest report
        fun e he => hanswer.not_isCanceled he
      rw [hnext] at hrest
      rw [List.map_cons, List.map_cons, ih hrest]

/-- Every one of the passes tries the orphans of `b`, in order. -/
theorem Passes.keys (h : Passes kind b held passes final) (htrials : trials ∈ passes) :
    trials.map (·.key) = kind.orphanKeys b := by
  induction h with
  | done => cases htrials
  | pass h _ ih =>
    rcases List.mem_cons.mp htrials with rfl | htrials
    · exact h.keys
    · exact ih htrials

/-- Passes over `b` try nothing but orphans of `b`. -/
theorem Passes.mem_orphanKeys (h : Passes kind b held passes final) {t : Trial kind}
    (ht : t ∈ passes.flatten) : t.key ∈ kind.orphanKeys b := by
  obtain ⟨trials, htrials, ht⟩ := List.mem_flatten.mp ht
  rw [← h.keys htrials]
  exact List.mem_map_of_mem ht

/-! ### What is left at the controller -/

/-- What the controller holds behind trials, if it held `held` before: nothing new, all that was not
tried, and nothing that was deleted. -/
structure Leaves (held : Set kind.Key) (trials : List (Trial kind)) (final : Set kind.Key) :
    Prop where
  /-- Nothing is added. -/
  subset : final ⊆ held
  /-- What is not tried is kept. -/
  kept : ∀ key ∈ held, (∀ t ∈ trials, t.key ≠ key) → key ∈ final
  /-- What is deleted is gone. -/
  gone : ∀ t ∈ trials, t.succeeded = true → t.key ∉ final

namespace Leaves

theorem nil : Leaves held [] held where
  subset := subset_rfl
  kept _ hkey _ := hkey
  gone _ ht := absurd ht List.not_mem_nil

/-- What one answer leaves behind; the fields follow from `Answers.subset` and `Answers.not_mem`. -/
theorem of_answers {reply : Except TransportError Reply} (h : Answers held key reply final) :
    Leaves held [⟨key, reply⟩] final where
  subset := h.subset.2
  kept _ hkey hne := h.subset.1 ⟨hkey, fun heq => hne _ List.mem_cons_self heq.symm⟩
  gone t ht hok := by
    obtain rfl := List.mem_singleton.mp ht
    exact h.not_mem hok

/-- Runs that follow one another: what `s` has deleted is not in `mid`, and by `subset` it does not
come back. -/
theorem append (h : Leaves held s mid) (h' : Leaves mid trials final) :
    Leaves held (s ++ trials) final where
  subset := h'.subset.trans h.subset
  kept key hkey hne := by
    have hmid := h.kept key hkey fun t ht => hne t (List.mem_append_left _ ht)
    exact h'.kept key hmid fun t ht => hne t (List.mem_append_right _ ht)
  gone t ht hok := by
    rcases List.mem_append.mp ht with ht | ht
    · exact fun hmem => h.gone t ht hok (h'.subset hmem)
    · exact h'.gone t ht hok

end Leaves

theorem Pass.Runs.leaves {p : Pass kind.Key} (h : p.Runs held trials final) :
    Leaves held trials final := by
  induction h with
  | ended => exact .nil
  | trial hanswer _ ih => exact (Leaves.of_answers hanswer).append ih

theorem Passes.leaves (h : Passes kind b held passes final) : Leaves held passes.flatten final := by
  induction h with
  | done => exact .nil
  | pass h _ ih => exact h.leaves.append ih

/-- **Passes change nothing once the orphans are gone**: they try orphans of `b` only, and all else
that was `held` is kept. -/
theorem Passes.eq_of_gone (h : Passes kind b held passes final)
    (hgone : ∀ key ∈ kind.orphanKeys b, key ∉ held) : final = held := by
  refine subset_antisymm h.leaves.subset fun key hkey => h.leaves.kept key hkey ?_
  rintro t ht rfl
  exact hgone _ (h.mem_orphanKeys ht) hkey

/-! ### Failures -/

/-- How often the deletion of `key` has failed in `trials`. -/
def failures (trials : List (Trial kind)) (key : kind.Key) : Nat :=
  trials.countP fun t => t.key = key && !t.succeeded

/-- A `key` that is tried in every pass and never deleted fails at least as often as there are
`passes`. -/
theorem length_le_failures (htried : ∀ trials ∈ passes, ∃ t ∈ trials, t.key = key)
    (hnone : ∀ t ∈ passes.flatten, t.key = key → t.succeeded = false) :
    passes.length ≤ failures passes.flatten key := by
  induction passes with
  | nil => exact Nat.zero_le _
  | cons trials passes ih =>
    have hrest := ih (fun s hs => htried s (List.mem_cons_of_mem _ hs)) fun t ht =>
      hnone t (by simp [ht])
    obtain ⟨t, ht, hkey⟩ := htried trials List.mem_cons_self
    -- The first pass tries `key`, and that attempt is one of the failures.
    have hfirst : 0 < failures trials key := by
      refine List.countP_pos_iff.mpr ⟨t, ht, ?_⟩
      simp [hkey, hnone t (by simp [ht]) hkey]
    rw [List.flatten_cons, failures, List.countP_append, List.length_cons]
    change _ ≤ failures trials key + failures passes.flatten key
    omega

/-- **One of the passes deletes the orphan `key`**, if it fails in fewer of them than there are:
else `length_le_failures` would bound the failures from below. -/
theorem Passes.exists_succeeded (h : Passes kind b held passes final)
    (hkey : key ∈ kind.orphanKeys b) (hfewer : failures passes.flatten key < passes.length) :
    ∃ t ∈ passes.flatten, t.key = key ∧ t.succeeded = true := by
  by_contra hnone
  push Not at hnone
  refine absurd (length_le_failures (fun trials htrials => ?_) fun t ht heq => ?_)
    (Nat.not_le.mpr hfewer)
  · rw [← h.keys htrials] at hkey
    exact List.mem_map.mp hkey
  · exact Bool.eq_false_iff.mpr (hnone t ht heq)

/-! ### The bundle without what was deleted -/

/-- The observations that were deleted. -/
def deletedKeys (trials : List (Trial kind)) : List kind.Key :=
  (trials.filter (·.succeeded)).map (·.key)

/-- The bundle `b` without the observations of `kind` whose keys are in `gone`. -/
def Bundle.without (b : Bundle) : (kind : ObservationKind) → List kind.Key → Bundle
  | .applicationStatus, gone =>
    { b with applicationStatuses := b.applicationStatuses.filter (·.applicationId ∉ gone) }
  | .serviceStatus, gone =>
    { b with serviceStatuses := b.serviceStatuses.filter (·.key ∉ gone) }
  | .serviceState, gone =>
    { b with serviceStates := b.serviceStates.filter (·.key ∉ gone) }

/-- What is observed in `b.without kind gone` is what is observed in `b` and not in `gone`. -/
theorem observed_without (gone : List kind.Key) :
    kind.observed (b.without kind gone) = (kind.observed b).filter (· ∉ gone) := by
  cases kind <;> simp [ObservationKind.observed, Bundle.without, List.filter_map, Function.comp_def]

/-- What is desired does not change with the observations that are `gone`, so that every key is
classified as before. -/
theorem classify_without (gone : List kind.Key) :
    kind.classify (b.without kind gone) = kind.classify b := by
  cases kind <;> rfl

/-- If `gone` has all orphans of `b`, then `b.without kind gone` has none. -/
theorem orphans_without {gone : List kind.Key} (h : ∀ key ∈ kind.orphanKeys b, key ∈ gone) :
    kind.orphans (b.without kind gone) = [] := by
  refine List.eq_nil_iff_forall_not_mem.mpr fun o ho => ?_
  obtain ⟨hobserved, hreason⟩ := (kind.mem_orphans_iff _).mp ho
  rw [observed_without, List.mem_filter, decide_eq_true_iff] at hobserved
  rw [classify_without] at hreason
  refine hobserved.2 (h _ ((kind.mem_orphanKeys_iff b).mpr ⟨hobserved.1, ?_⟩))
  rw [hreason]
  exact Option.some_ne_none _

/-! ### Convergence -/

/-- **Passes over a bundle come to an end of its orphans.** In passes that are not called off, and
in which the deletions of each observation fail at most `f` times, every pass tries every orphan
once and nothing that is desired. More than `f` passes delete every orphan, and leave everything
else; more passes over the same bundle change nothing; and the bundle without what was deleted has
no orphans. -/
theorem Passes.converge (h : Passes kind b held passes final)
    (hfailures : ∀ key, failures passes.flatten key ≤ f) :
    (∀ trials ∈ passes, trials.map (·.key) = kind.orphanKeys b ∧ (trials.map (·.key)).Nodup) ∧
    (∀ t ∈ passes.flatten, kind.classify b t.key ≠ none) ∧
    (f < passes.length →
      (∀ key ∈ kind.orphanKeys b, ∃ t ∈ passes.flatten, t.key = key ∧ t.succeeded = true) ∧
      final = held \ {key | key ∈ kind.orphanKeys b} ∧
      (∀ more last, Passes kind b final more last → last = final) ∧
      kind.orphans (b.without kind (deletedKeys passes.flatten)) = []) := by
  refine ⟨fun trials htrials => ?_, fun t ht => ?_, fun hlength => ?_⟩
  · rw [h.keys htrials]
    exact ⟨rfl, kind.nodup_orphanKeys b⟩
  · exact ((kind.mem_orphanKeys_iff b).mp (h.mem_orphanKeys ht)).2
  -- There are more than `f` passes, so each orphan is deleted in one of them.
  have hdeleted : ∀ key ∈ kind.orphanKeys b,
      ∃ t ∈ passes.flatten, t.key = key ∧ t.succeeded = true := fun key hkey =>
    h.exists_succeeded hkey (Nat.lt_of_le_of_lt (hfailures key) hlength)
  have hgone : ∀ key ∈ kind.orphanKeys b, key ∉ final := by
    intro key hkey
    obtain ⟨t, ht, rfl, hok⟩ := hdeleted key hkey
    exact h.leaves.gone t ht hok
  refine ⟨hdeleted, ?_, fun more last hmore => hmore.eq_of_gone hgone, ?_⟩
  · -- Nothing else goes: what is kept are the keys that no pass tries, which are not orphans.
    ext key
    refine ⟨fun hkey => ⟨h.leaves.subset hkey, fun horphan => hgone key horphan hkey⟩, ?_⟩
    rintro ⟨hkey, hdesired⟩
    refine h.leaves.kept key hkey ?_
    rintro t ht rfl
    exact hdesired (h.mem_orphanKeys ht)
  · refine orphans_without fun key hkey => ?_
    obtain ⟨t, ht, rfl, hok⟩ := hdeleted key hkey
    exact List.mem_map_of_mem (List.mem_filter.mpr ⟨ht, hok⟩)

/-- **Failures are made up for in the next pass**: the deletion of `a` is carried out but times out,
and finds nothing to delete in the second pass; that of `c` is refused at first. The status of `d`
is desired, and stays. -/
theorem Passes.converge_second_pass :
    ∃ (a c d : ApplicationId) (b : Bundle) (passes : List (List (Trial .applicationStatus)))
      (final : Set ApplicationId),
      a.text = "a" ∧ c.text = "c" ∧ d.text = "d" ∧
      ObservationKind.applicationStatus.observed b = [a, d, a, c] ∧
      Passes .applicationStatus b {a, c, d} passes final ∧
      (∀ key, failures passes.flatten key ≤ 1) ∧ failures passes.flatten a = 1 ∧
      failures passes.flatten c = 1 ∧ 1 < passes.length ∧
      final = {a, c, d} \ {key | key ∈ [a, c]} ∧
      (∀ more last, Passes .applicationStatus b final more last → last = final) ∧
      ObservationKind.applicationStatus.orphans
        (b.without .applicationStatus (deletedKeys passes.flatten)) = [] := by
  let a : ApplicationId := ⟨"a", by decide⟩
  let c : ApplicationId := ⟨"c", by decide⟩
  let d : ApplicationId := ⟨"d", by decide⟩
  let b : Bundle :=
    ⟨[⟨⟨d, none, []⟩, none⟩], [⟨a, "", []⟩, ⟨d, "", []⟩, ⟨a, "", []⟩, ⟨c, "", []⟩], [], []⟩
  let passes : List (List (Trial .applicationStatus)) := [
    [⟨a, .error .timeout⟩, ⟨c, .ok ⟨⟨503, by decide⟩, []⟩⟩],
    [⟨a, .ok ⟨.notFound, []⟩⟩, ⟨c, .ok ⟨⟨204, by decide⟩, []⟩⟩]]
  have horphans : ObservationKind.applicationStatus.orphans b =
      [⟨a, .applicationGone⟩, ⟨c, .applicationGone⟩] := by
    decide +kernel
  have hkeys : ObservationKind.applicationStatus.orphanKeys b = [a, c] := by
    rw [ObservationKind.orphanKeys, horphans]
    rfl
  -- After the first pass `a` is gone, although its deletion has failed for the agent.
  let left : Set ApplicationId := {a, c, d} \ {a}
  have hfirst : (Pass.start false (ObservationKind.applicationStatus.orphans b)).Runs {a, c, d}
      [⟨a, .error .timeout⟩, ⟨c, .ok ⟨⟨503, by decide⟩, []⟩⟩] left := by
    rw [horphans]
    exact .trial (.lost rfl rfl) (.trial (.failed rfl rfl) .ended)
  have hsecond : (Pass.start false (ObservationKind.applicationStatus.orphans b)).Runs left
      [⟨a, .ok ⟨.notFound, []⟩⟩, ⟨c, .ok ⟨⟨204, by decide⟩, []⟩⟩] (left \ {c}) := by
    rw [horphans]
    exact .trial (.missing (fun h => h.2 rfl) rfl) (.trial (.granted rfl) .ended)
  have hrun : Passes .applicationStatus b {a, c, d} passes (left \ {c}) :=
    .pass hfirst (.pass hsecond .done)
  have hfailures : ∀ key, failures passes.flatten key ≤ 1 := by
    intro key
    by_cases ha : a = key
    · subst ha
      decide
    by_cases hc : c = key
    · subst hc
      decide
    simp [failures, passes, ha, hc]
  obtain ⟨-, -, hconverge⟩ := Passes.converge hrun hfailures
  obtain ⟨-, hfinal, hmore, hnone⟩ := hconverge (by decide)
  rw [hkeys] at hfinal
  exact ⟨a, c, d, b, passes, _, rfl, rfl, rfl, rfl, hrun, hfailures, by decide, by decide,
    by decide, hfinal, hmore, hnone⟩

end FleetAgent
