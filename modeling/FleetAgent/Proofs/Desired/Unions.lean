import FleetAgent.Proofs.Desired
import Mathlib.Data.List.Induction
/-!
# Desired sets do not remember how they were built

A set of desired services is built by adding entries, applications with services, one after the
other. It is the union of what was added (`DesiredServices.isUnion_ofList`), and two sets are equal
as soon as they have the same members (`DesiredServices.eq_iff_contains`). So the way in which a set
was built cannot be told from it: entries may be put in another order, repeated, split and merged
(`Regrouped`). Nor is there more freedom than that, since any two lists of entries with the same
unions can be regrouped into each other (`DesiredServices.regrouped_iff_sameUnions`): both can be
regrouped into their atoms (`Entry.atoms`), each of which names an application or one service of it,
and lists with the same members differ in order and repetition only.

A set of desired applications is built by collecting and by adding, in any mix of `Step`s. It holds
what was added since it was collected last (`DesiredApplications.isCollection_build`).
-/

namespace FleetAgent

/-! ### Services -/

namespace DesiredServices

variable {d e : DesiredServices} {a : ApplicationId} {key : ServiceKey}

/-- An application with services of it, as it is added. -/
abbrev Entry := ApplicationId × List ServiceName

variable {xs ys zs : List Entry}

/-- One of `entries` adds the application `a`, with services or without. -/
def Names (entries : List Entry) (a : ApplicationId) : Prop :=
  ∃ services, (a, services) ∈ entries

/-- One of `entries` adds the service `key`. -/
def Gives (entries : List Entry) (key : ServiceKey) : Prop :=
  ∃ services, (key.application, services) ∈ entries ∧ key.service ∈ services

/-- The set `d` is the union of `entries`. -/
structure IsUnion (entries : List Entry) (d : DesiredServices) : Prop where
  /-- Its applications are those of the entries. -/
  applications : ∀ a, d.containsApplication a = true ↔ Names entries a
  /-- So are its services. -/
  services : ∀ key, d.contains key = true ↔ Gives entries key
  /-- A service that was not added is left over for one of two reasons. -/
  applicationGone : ∀ key,
    d.classify key = some .applicationGone ↔ ¬ Names entries key.application
  /-- The other reason is that the application was added without it. -/
  serviceGone : ∀ key,
    d.classify key = some .serviceGone ↔ Names entries key.application ∧ ¬ Gives entries key
  /-- An application counts once, however often it was added. -/
  applicationCount : d.applicationCount = (distinct (entries.map (·.1))).length

/-- An application `a` is added by the entries `xs` if it is the first part of one. -/
theorem names_iff_mem : Names xs a ↔ a ∈ xs.map (·.1) := by
  simp [Names]

theorem Gives.names (h : Gives xs key) : Names xs key.application := by
  obtain ⟨services, hmem, -⟩ := h
  exact ⟨services, hmem⟩

/-- The service `key` is in the set `d` exactly if it is classified as desired. -/
theorem contains_iff_classify : d.contains key = true ↔ d.classify key = none := by
  rw [contains, Option.isNone_iff_eq_none]

/-- The service `key` is left over for its application exactly if that is not in the set `d`. -/
theorem classify_eq_applicationGone_iff :
    d.classify key = some .applicationGone ↔ d.containsApplication key.application = false := by
  rw [classify, containsApplication_eq]
  cases h : d.get? key.application with
  | none => simp
  | some services =>
    dsimp only
    split <;> simp

theorem classify_eq_serviceGone_iff :
    d.classify key = some .serviceGone ↔
      d.containsApplication key.application = true ∧ d.contains key = false := by
  rw [contains, classify, containsApplication_eq]
  cases h : d.get? key.application with
  | none => simp
  | some services =>
    dsimp only
    split <;> simp

/-- A set has as many applications as there are different ones in a list `ids` of them. -/
theorem applicationCount_eq {ids : List ApplicationId}
    (h : ∀ a, a ∈ ids ↔ d.containsApplication a = true) :
    d.applicationCount = (distinct ids).length := by
  rw [applicationCount, ← Std.ExtTreeMap.length_keys]
  refine ((List.perm_ext_iff_of_nodup Std.ExtTreeMap.nodup_keys (nodup_distinct ids)).mpr
    fun a => ?_).length_eq
  rw [Std.ExtTreeMap.mem_keys, mem_distinct, h]
  exact Std.ExtTreeMap.mem_iff_contains

/-- **The union of what was added**, and nothing else: the set of the `entries`, however they are
ordered and repeated. -/
theorem isUnion_ofList (entries : List Entry) : (ofList entries).IsUnion entries := by
  have happlications : ∀ a, (ofList entries).containsApplication a = true ↔ Names entries a :=
    fun a => by rw [containsApplication_ofList_iff, names_iff_mem]
  have hservices : ∀ key, (ofList entries).contains key = true ↔ Gives entries key := fun key => by
    rw [contains_iff_classify, classify_ofList_eq_none_iff, Gives]
  refine ⟨happlications, hservices, fun key => ?_, fun key => ?_, ?_⟩
  · rw [classify_eq_applicationGone_iff, ← happlications, Bool.not_eq_true]
  · rw [classify_eq_serviceGone_iff, ← happlications, ← hservices, Bool.not_eq_true]
  · exact applicationCount_eq fun a => containsApplication_ofList_iff.symm

/-- **Equal as soon as the members are the same**: the sets `d` and `e` have the same applications,
those without a service among them, and the same services. -/
theorem eq_iff_contains :
    d = e ↔ (∀ a, d.containsApplication a = e.containsApplication a) ∧
      ∀ key, d.contains key = e.contains key := by
  constructor
  · rintro rfl
    exact ⟨fun _ => rfl, fun _ => rfl⟩
  · rintro ⟨happlications, hservices⟩
    exact ext_contains happlications hservices

/-! ### Regrouping -/

/-- The entries `xs` and `ys` add the same applications, and the same services of each. -/
structure SameUnions (xs ys : List Entry) : Prop where
  /-- An application is added by both or by neither. -/
  applications : ∀ a, Names xs a ↔ Names ys a
  /-- So is a service. -/
  services : ∀ key, Gives xs key ↔ Gives ys key

/-- Sets that are built of `xs` and `ys` are equal exactly if these have the same unions. -/
theorem ofList_eq_iff_sameUnions : ofList xs = ofList ys ↔ SameUnions xs ys := by
  have hx := isUnion_ofList xs
  have hy := isUnion_ofList ys
  rw [eq_iff_contains]
  constructor
  · rintro ⟨happlications, hservices⟩
    refine ⟨fun a => ?_, fun key => ?_⟩
    · rw [← hx.applications, ← hy.applications, happlications]
    · rw [← hx.services, ← hy.services, hservices]
  · rintro ⟨happlications, hservices⟩
    refine ⟨fun a => ?_, fun key => ?_⟩
    · rw [Bool.eq_iff_iff, hx.applications, hy.applications, happlications]
    · rw [Bool.eq_iff_iff, hx.services, hy.services, hservices]

/-- The ways to put entries together differently. -/
inductive Regrouped : List Entry → List Entry → Prop
  /-- They change places. -/
  | reorder {xs ys : List Entry} (h : xs.Perm ys) : Regrouped xs ys
  /-- One is repeated. -/
  | again (e : Entry) (xs : List Entry) : Regrouped (e :: xs) (e :: e :: xs)
  /-- One is split. -/
  | split (a : ApplicationId) (r s : List ServiceName) (xs : List Entry) :
      Regrouped ((a, r ++ s) :: xs) ((a, r) :: (a, s) :: xs)
  /-- Repetitions are left out, and what can come from a split is merged. -/
  | symm {xs ys : List Entry} (h : Regrouped xs ys) : Regrouped ys xs
  | trans {xs ys zs : List Entry} (h : Regrouped xs ys) (h' : Regrouped ys zs) : Regrouped xs zs

namespace Regrouped

/-- Regrouping changes no union, by cases on the way of regrouping. -/
theorem sameUnions (h : Regrouped xs ys) : SameUnions xs ys := by
  induction h with
  | reorder h =>
    refine ⟨fun a => ?_, fun key => ?_⟩
    · simp only [Names, h.mem_iff]
    · simp only [Gives, h.mem_iff]
  | again e xs =>
    refine ⟨fun a => ?_, fun key => ?_⟩
    · simp [Names]
    · simp [Gives]
  -- The services `r ++ s` of one entry are those of the two that it is split into.
  | split a r s xs =>
    refine ⟨fun b => ?_, fun key => ?_⟩
    · simp [names_iff_mem]
    · constructor
      · rintro ⟨services, hmem, hservice⟩
        rcases List.mem_cons.mp hmem with heq | hmem
        · obtain ⟨hkey, rfl⟩ := Prod.mk.inj heq
          rcases List.mem_append.mp hservice with hr | hs
          · exact ⟨r, by simp [hkey], hr⟩
          · exact ⟨s, by simp [hkey], hs⟩
        · exact ⟨services, by simp [hmem], hservice⟩
      · rintro ⟨services, hmem, hservice⟩
        rcases List.mem_cons.mp hmem with heq | hmem
        · obtain ⟨hkey, rfl⟩ := Prod.mk.inj heq
          exact ⟨services ++ s, by simp [hkey], List.mem_append_left _ hservice⟩
        rcases List.mem_cons.mp hmem with heq | hmem
        · obtain ⟨hkey, rfl⟩ := Prod.mk.inj heq
          exact ⟨r ++ services, by simp [hkey], List.mem_append_right _ hservice⟩
        · exact ⟨services, by simp [hmem], hservice⟩
  | symm _ ih => exact ⟨fun a => (ih.applications a).symm, fun key => (ih.services key).symm⟩
  | trans _ _ ih ih' =>
    exact ⟨fun a => (ih.applications a).trans (ih'.applications a),
      fun key => (ih.services key).trans (ih'.services key)⟩

theorem refl (xs : List Entry) : Regrouped xs xs :=
  .reorder (.refl xs)

/-- What can be done to `xs` can be done with `e` in front: `e` is taken out of the way first and
put back then. -/
theorem cons (e : Entry) (h : Regrouped xs ys) : Regrouped (e :: xs) (e :: ys) := by
  induction h with
  | reorder h => exact .reorder (h.cons e)
  | again f xs =>
    -- Both copies of `f` pass the entry `e`, one after the other.
    have hback : (f :: f :: e :: xs).Perm (e :: f :: f :: xs) :=
      ((List.Perm.swap e f xs).cons f).trans (.swap e f _)
    exact (reorder (.swap f e xs)).trans ((again f (e :: xs)).trans (.reorder hback))
  | split a r s xs =>
    have hback : ((a, r) :: (a, s) :: e :: xs).Perm (e :: (a, r) :: (a, s) :: xs) :=
      ((List.Perm.swap e (a, s) xs).cons (a, r)).trans (.swap e (a, r) _)
    exact (reorder (.swap (a, r ++ s) e xs)).trans ((split a r s (e :: xs)).trans (.reorder hback))
  | symm _ ih => exact ih.symm
  | trans _ _ ih ih' => exact ih.trans ih'

end Regrouped

/-- All repetitions can be left out, by induction on `xs`: an entry that occurs again changes places
with those in front of it, and one of the two goes. -/
theorem regrouped_distinct (xs : List Entry) : Regrouped xs (distinct xs) := by
  induction xs with
  | nil => exact .refl []
  | cons e xs ih =>
    rw [distinct]
    refine (ih.cons e).trans ?_
    have hnodup := nodup_distinct xs
    generalize distinct xs = others at hnodup
    by_cases hmem : e ∈ others
    · -- The entry that is there already changes places with those in front of it.
      have hrest : (e :: others.filter (· ≠ e)).Nodup :=
        List.nodup_cons.mpr ⟨by simp, hnodup.filter _⟩
      have hperm : others.Perm (e :: others.filter (· ≠ e)) := by
        refine (List.perm_ext_iff_of_nodup hnodup hrest).mpr fun f => ?_
        by_cases hf : f = e <;> simp [hf, hmem]
      exact (Regrouped.reorder (hperm.cons e)).trans (Regrouped.again e _).symm
    · have hothers : others.filter (· ≠ e) = others :=
        List.filter_eq_self.mpr fun f hf => by
          simpa using fun heq : f = e => hmem (heq ▸ hf)
      rw [hothers]
      exact .refl _

/-- Entries can be put in any order, as often as each is wanted: `xs` and `ys` need only have the
same members. -/
theorem Regrouped.of_mem_iff (h : ∀ e, e ∈ xs ↔ e ∈ ys) : Regrouped xs ys := by
  have hperm : (distinct xs).Perm (distinct ys) :=
    (List.perm_ext_iff_of_nodup (nodup_distinct xs) (nodup_distinct ys)).mpr fun e => by
      rw [mem_distinct, mem_distinct, h]
  exact (regrouped_distinct xs).trans ((Regrouped.reorder hperm).trans (regrouped_distinct ys).symm)

/-- An application without a service, and each of the services alone. -/
def Entry.atoms (e : Entry) : List Entry :=
  (e.1, []) :: e.2.map fun s => (e.1, [s])

/-- The atoms of `e` are its application alone, and each of its services. -/
theorem mem_atoms_iff {e f : Entry} :
    f ∈ e.atoms ↔ f = (e.1, []) ∨ ∃ s ∈ e.2, f = (e.1, [s]) := by
  simp [Entry.atoms, eq_comm]

theorem regrouped_atoms_append (e : Entry) (xs : List Entry) :
    Regrouped (e :: xs) (e.atoms ++ xs) := by
  obtain ⟨a, services⟩ := e
  induction services with
  | nil => exact .refl _
  | cons s rest ih =>
    -- The first service is split off, and goes behind the application alone.
    exact (Regrouped.split a [s] rest xs).trans ((ih.cons (a, [s])).trans (.reorder (.swap _ _ _)))

theorem regrouped_atoms (xs : List Entry) : Regrouped xs (xs.flatMap Entry.atoms) := by
  induction xs with
  | nil => exact .refl []
  | cons e xs ih =>
    rw [List.flatMap_cons]
    refine (ih.cons e).trans (regrouped_atoms_append e _)

/-- The atoms of entries tell what they add. -/
theorem mem_flatMap_atoms_iff {f : Entry} :
    f ∈ xs.flatMap Entry.atoms ↔
      Names xs f.1 ∧ f.2 = [] ∨ ∃ s, Gives xs ⟨f.1, s⟩ ∧ f.2 = [s] := by
  rw [List.mem_flatMap]
  constructor
  · rintro ⟨⟨a, services⟩, he, hf⟩
    rcases mem_atoms_iff.mp hf with rfl | ⟨s, hs, rfl⟩
    · exact .inl ⟨⟨services, he⟩, rfl⟩
    · exact .inr ⟨s, ⟨services, he, hs⟩, rfl⟩
  · obtain ⟨a, services⟩ := f
    rintro (⟨⟨all, he⟩, rfl⟩ | ⟨s, ⟨all, he, hs⟩, rfl⟩)
    · exact ⟨(a, all), he, mem_atoms_iff.mpr (.inl rfl)⟩
    · exact ⟨(a, all), he, mem_atoms_iff.mpr (.inr ⟨s, hs, rfl⟩)⟩

/-- **Entries with the same unions can be regrouped into each other**, and no others. Both are split
into their atoms, which are then the same. -/
theorem regrouped_iff_sameUnions : Regrouped xs ys ↔ SameUnions xs ys := by
  refine ⟨Regrouped.sameUnions, fun h => ?_⟩
  have hatoms : ∀ e, e ∈ xs.flatMap Entry.atoms ↔ e ∈ ys.flatMap Entry.atoms := fun e => by
    simp only [mem_flatMap_atoms_iff, h.applications, h.services]
  exact (regrouped_atoms xs).trans ((Regrouped.of_mem_iff hatoms).trans (regrouped_atoms ys).symm)

end DesiredServices

/-! ### Applications -/

namespace DesiredApplications

variable {d e : DesiredApplications} {a : ApplicationId}

/-- A step in building a set of applications. -/
inductive Step where
  /-- The set is collected anew from a list. -/
  | collect (ids : List ApplicationId)
  /-- One application more. -/
  | insert (a : ApplicationId)

/-- The set after a step. -/
def take (d : DesiredApplications) : Step → DesiredApplications
  | .collect ids => .ofList ids
  | .insert a => d.insert a

/-- The set that steps build, beginning with the empty one. -/
def build (steps : List Step) : DesiredApplications :=
  steps.foldl take empty

/-- The step adds the application `a`. -/
def Step.Adds (a : ApplicationId) : Step → Prop
  | .collect ids => a ∈ ids
  | .insert b => b = a

/-- One of `steps` adds `a`, and nothing is collected anew behind it. -/
def Leaves (steps : List Step) (a : ApplicationId) : Prop :=
  ∃ front step back, steps = front ++ step :: back ∧ step.Adds a ∧ ∀ ids, .collect ids ∉ back

/-- The set `d` is what `steps` leave. -/
structure IsCollection (steps : List Step) (d : DesiredApplications) : Prop where
  /-- Its applications are those that the steps leave. -/
  applications : ∀ a, d.contains a = true ↔ Leaves steps a
  /-- An application counts once, however often it was added. -/
  size : ∃ ids : List ApplicationId, ids.Nodup ∧ (∀ a, a ∈ ids ↔ Leaves steps a) ∧
    d.size = ids.length

theorem leaves_nil : ¬ Leaves [] a := by
  rintro ⟨front, step, back, h, -⟩
  simp at h

/-- What is left of an application `a` behind one `step` more: what it adds, and what was there
unless it collects. -/
theorem leaves_concat_iff {steps : List Step} {step : Step} :
    Leaves (steps ++ [step]) a ↔
      step.Adds a ∨ (∀ ids, step ≠ .collect ids) ∧ Leaves steps a := by
  constructor
  · rintro ⟨front, other, back, hsteps, hadds, hback⟩
    rcases List.eq_nil_or_concat back with rfl | ⟨back, last, rfl⟩
    · obtain ⟨-, hstep⟩ := List.append_inj' hsteps rfl
      obtain rfl := List.singleton_inj.mp hstep
      exact .inl hadds
    · -- Something stands behind the step that adds `a`, so `step` is the last of it.
      rw [List.concat_eq_append, ← List.cons_append, ← List.append_assoc] at hsteps
      obtain ⟨rfl, hstep⟩ := List.append_inj' hsteps rfl
      obtain rfl := List.singleton_inj.mp hstep
      refine .inr ⟨fun ids heq => hback ids (by simp [heq]), front, other, back, rfl, hadds, ?_⟩
      exact fun ids hmem => hback ids (by simp [hmem])
  · rintro (hadds | ⟨hnot, front, other, back, rfl, hadds, hback⟩)
    · exact ⟨steps, step, [], rfl, hadds, fun _ => List.not_mem_nil⟩
    · refine ⟨front, other, back ++ [step], by simp, hadds, fun ids hmem => ?_⟩
      rcases List.mem_append.mp hmem with hmem | hmem
      · exact hback ids hmem
      · exact hnot ids (List.mem_singleton.mp hmem).symm

/-- What is in the set after a step: the same two cases as in `leaves_concat_iff`. -/
theorem contains_take {step : Step} :
    (d.take step).contains a = true ↔
      step.Adds a ∨ (∀ ids, step ≠ .collect ids) ∧ d.contains a = true := by
  cases step with
  | collect ids => simp [take, Step.Adds, contains_ofList]
  | insert b => simp [take, Step.Adds]

/-- What is in the set that `steps` build, by induction from their end. -/
theorem contains_build {steps : List Step} :
    (build steps).contains a = true ↔ Leaves steps a := by
  induction steps using List.reverseRec with
  | nil => simp [build, leaves_nil]
  | append_singleton steps step ih =>
    rw [build, List.foldl_append, List.foldl_cons, List.foldl_nil, contains_take,
      leaves_concat_iff, ← build, ih]

/-- **What was added since it was collected last**, and nothing else, by induction on the `steps`
from the back. -/
theorem isCollection_build (steps : List Step) : (build steps).IsCollection steps where
  applications _ := contains_build
  size := by
    refine ⟨(build steps).ids.toList, ?_, fun a => ?_, Std.ExtTreeSet.length_toList.symm⟩
    · exact Std.ExtTreeSet.distinct_toList.imp Std.ReflCmp.ne_of_cmp_ne_eq
    · rw [Std.ExtTreeSet.mem_toList, Std.ExtTreeSet.mem_iff_contains]
      exact contains_build

theorem eq_iff_forall_contains : d = e ↔ ∀ a, d.contains a = e.contains a :=
  ⟨fun h a => by rw [h], ext_contains⟩

/-- The sets that the steps `xs` and `ys` build are equal exactly if the steps leave the same
applications. -/
theorem build_eq_iff {xs ys : List Step} :
    build xs = build ys ↔ ∀ a, Leaves xs a ↔ Leaves ys a := by
  rw [eq_iff_forall_contains]
  refine forall_congr' fun a => ?_
  rw [Bool.eq_iff_iff, contains_build, contains_build]

end DesiredApplications

end FleetAgent
