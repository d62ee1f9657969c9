import FleetAgent.Proofs.Desired.Unions
import FleetAgent.Supervisor.Logging
/-!
# A change of what is asked for is told, and nothing else

A supervisor that only writes to the log compares the desired services of a bundle with those that
it was told of last. It remembers the latter only when they differ, which comes to the same as
remembering those of the bundle before (`LoggingSupervisor.last?_afterAll`). Because desired sets do
not remember how they were built, what counts as a change is that an application or a service is
desired by one of two bundles in a row and not by the other (`Bundle.AsksAlike`).
`desiredSets_extensional` puts this together with what is known of the sets.
-/

namespace FleetAgent

/-- The bundles `b` and `c` desire the same applications and the same services. -/
def Bundle.AsksAlike (b c : Bundle) : Prop :=
  (∀ a, b.desiredServices.containsApplication a = c.desiredServices.containsApplication a) ∧
    ∀ key, b.desiredServices.contains key = c.desiredServices.contains key

namespace LoggingSupervisor

variable {s : LoggingSupervisor} {b : Bundle} {bundles : List Bundle}

/-- The supervisor after it was told of bundles. -/
def afterAll (bundles : List Bundle) : LoggingSupervisor :=
  bundles.foldl (fun s b => (s.apply b).1) fresh

/-- Whether an event says that something else is asked for. -/
def tellsChange (e : LogEvent) : Bool :=
  e.level == .info && e.message == "Desired state changed"

/-- What is told, in `events`, of a bundle `b` that comes behind `bundles`. -/
structure Tells (bundles : List Bundle) (b : Bundle) (events : List LogEvent) : Prop where
  /-- The first bundle is told of, and one that asks for something else than that before. -/
  change : (¬ ∃ previous, bundles.getLast? = some previous ∧ previous.AsksAlike b) →
    events = bundleEvents b ∧ events.countP tellsChange = 1
  /-- Nothing is said of a bundle that asks for the same as that before. -/
  silence : ∀ previous, bundles.getLast? = some previous → previous.AsksAlike b → events = []

/-- What was asked for last is remembered, whether or not it was new. -/
theorem last?_apply : (s.apply b).1.last? = some b.desiredServices := by
  rw [apply]
  split
  next h => exact h
  next => rfl

/-- What is remembered behind `bundles` is what the last of them asks for. -/
theorem last?_afterAll (bundles : List Bundle) :
    (afterAll bundles).last? = bundles.getLast?.map (·.desiredServices) := by
  induction bundles using List.reverseRec with
  | nil => rfl
  | append_singleton bundles b =>
    rw [afterAll, List.foldl_append, List.foldl_cons, List.foldl_nil, last?_apply,
      List.getLast?_concat, Option.map_some]

/-- One event of a bundle tells the change, and the others tell of the applications. -/
theorem countP_bundleEvents (b : Bundle) : (bundleEvents b).countP tellsChange = 1 := by
  have hothers : (b.applications.map applicationEvent).countP tellsChange = 0 := by
    rw [List.countP_map]
    exact List.countP_eq_zero.mpr fun e _ => by simp [tellsChange, applicationEvent]
  rw [bundleEvents, List.countP_cons, hothers]
  rfl

/-- **A supervisor tells of changes only.** Whether the sets are equal is whether the bundles ask
alike. -/
theorem tells_apply (bundles : List Bundle) (b : Bundle) :
    Tells bundles b ((afterAll bundles).apply b).2 := by
  -- The supervisor compares sets, and these are equal exactly if their members are the same.
  have halike : ∀ previous : Bundle, previous.AsksAlike b ↔
      previous.desiredServices = b.desiredServices := fun previous =>
    DesiredServices.eq_iff_contains.symm
  rw [apply, last?_afterAll]
  split
  next h =>
    obtain ⟨previous, hlast, hsame⟩ := Option.map_eq_some_iff.mp h
    exact ⟨fun hnot => absurd ⟨previous, hlast, (halike previous).mpr hsame⟩ hnot,
      fun _ _ _ => rfl⟩
  next h =>
    refine ⟨fun _ => ⟨rfl, countP_bundleEvents b⟩, fun previous hlast hsame => absurd ?_ h⟩
    rw [hlast, Option.map_some, (halike previous).mp hsame]

end LoggingSupervisor

/-- **Desired sets do not depend on how they were built.** Whatever applications are added with
whatever services, the set is the union of them, and its members alone decide whether it equals
another one. So entries can be regrouped in every way that leaves the unions as they are, and the
equality of sets cannot tell. It is the same with sets of applications, collected and added to in
any mix. Hence, along any bundles, a change is told of the first bundle and of each one that desires
an application or a service that the bundle before did not, or the other way round. -/
theorem desiredSets_extensional :
    (∀ entries, (DesiredServices.ofList entries).IsUnion entries) ∧
      (∀ xs ys, ((DesiredServices.ofList xs == DesiredServices.ofList ys) = true ↔
          DesiredServices.SameUnions xs ys) ∧
        (DesiredServices.Regrouped xs ys ↔ DesiredServices.SameUnions xs ys)) ∧
      (∀ d e : DesiredServices, (d == e) = true ↔
        (∀ a, d.containsApplication a = e.containsApplication a) ∧
          ∀ key, d.contains key = e.contains key) ∧
      (∀ steps, (DesiredApplications.build steps).IsCollection steps) ∧
      (∀ xs ys, (DesiredApplications.build xs == DesiredApplications.build ys) = true ↔
        ∀ a, DesiredApplications.Leaves xs a ↔ DesiredApplications.Leaves ys a) ∧
      (∀ d e : DesiredApplications, (d == e) = true ↔ ∀ a, d.contains a = e.contains a) ∧
      ∀ bundles b, LoggingSupervisor.Tells bundles b
        ((LoggingSupervisor.afterAll bundles).apply b).2 := by
  refine ⟨DesiredServices.isUnion_ofList, fun xs ys => ⟨?_, ?_⟩, fun d e => ?_,
    DesiredApplications.isCollection_build, fun xs ys => ?_, fun d e => ?_,
    LoggingSupervisor.tells_apply⟩
  · rw [beq_iff_eq, DesiredServices.ofList_eq_iff_sameUnions]
  · exact DesiredServices.regrouped_iff_sameUnions
  · rw [beq_iff_eq, DesiredServices.eq_iff_contains]
  · rw [beq_iff_eq, DesiredApplications.build_eq_iff]
  · rw [beq_iff_eq, DesiredApplications.eq_iff_forall_contains]

end FleetAgent
