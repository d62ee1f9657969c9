import FleetAgent.Observation
/-!
# What a bundle desires

The desired sets are built by adding one application of the bundle after the other, with `insert`.
They hold what was added and nothing else: `DesiredApplications.contains_ofList`,
`DesiredServices.containsApplication_ofList_iff` and `DesiredServices.classify_ofList_eq_none_iff`.
An application that is added twice has the services of both. For a bundle, this says which
observations it desires (`Bundle.classify_application_eq_none_iff` and
`Bundle.classify_service_eq_none_iff`).

Each of them is an induction on the list that is added, from an arbitrary set `d`: what one `insert`
adds is known, and the rest adds to `d` with that in it.
-/

namespace FleetAgent

namespace DesiredApplications

/-- Adding `ids` one after the other leads to a set with them and what was in `d`. -/
theorem contains_foldl_insert {ids : List ApplicationId} {d : DesiredApplications}
    {a : ApplicationId} :
    (ids.foldl insert d).contains a = true ↔ a ∈ ids ∨ d.contains a = true := by
  induction ids generalizing d with
  | nil => simp
  | cons b ids ih =>
    rw [List.foldl_cons, ih, contains_insert, Bool.or_eq_true, decide_eq_true_iff, List.mem_cons]
    constructor
    · rintro (h | rfl | h)
      · exact .inl (.inr h)
      · exact .inl (.inl rfl)
      · exact .inr h
    · rintro ((rfl | h) | h)
      · exact .inr (.inl rfl)
      · exact .inl h
      · exact .inr (.inr h)

/-- The applications of a list, and no other. -/
theorem contains_ofList {ids : List ApplicationId} {a : ApplicationId} :
    (ofList ids).contains a = true ↔ a ∈ ids := by
  rw [ofList, contains_foldl_insert, contains_empty]
  simp

/-- An application `a` is classified as desired exactly if it is in the set `d`. -/
theorem classify_eq_none_iff {d : DesiredApplications} {a : ApplicationId} :
    d.classify a = none ↔ d.contains a = true := by
  rw [classify]
  split <;> simp_all

end DesiredApplications

namespace DesiredServices

/-- Whether an application is desired with that service. -/
theorem classify_eq_none_iff {d : DesiredServices} {key : ServiceKey} :
    d.classify key = none ↔
      ∃ services, d.get? key.application = some services ∧ key.service ∈ services := by
  rw [classify]
  split
  next h => simp [h]
  next services h =>
    rw [h]
    simp

/-- Adding `services` to a set `acc` of names, one after the other. -/
theorem mem_foldl_insert {services : List ServiceName} {acc : Std.ExtTreeSet ServiceName}
    {s : ServiceName} : s ∈ services.foldl (·.insert ·) acc ↔ s ∈ services ∨ s ∈ acc := by
  induction services generalizing acc with
  | nil => simp
  | cons r services ih =>
    rw [List.foldl_cons, ih, Std.ExtTreeSet.mem_insert, List.mem_cons, Std.compare_eq_iff_eq]
    constructor
    · rintro (h | rfl | h)
      · exact .inl (.inr h)
      · exact .inl (.inl rfl)
      · exact .inr h
    · rintro ((rfl | h) | h)
      · exact .inr (.inl rfl)
      · exact .inl h
      · exact .inr (.inr h)

/-- One application more desires its services, and leaves what was desired. -/
theorem classify_insert_eq_none_iff {d : DesiredServices} {a : ApplicationId}
    {services : List ServiceName} {key : ServiceKey} :
    (d.insert a services).classify key = none ↔
      a = key.application ∧ key.service ∈ services ∨ d.classify key = none := by
  rw [classify_eq_none_iff, classify_eq_none_iff, get?_insert]
  split
  next h =>
    -- The application gets the services that it had and the new ones.
    subst h
    constructor
    · rintro ⟨all, hall, hmem⟩
      rw [← Option.some.inj hall, mem_foldl_insert] at hmem
      refine hmem.imp (fun h => ⟨rfl, h⟩) fun h => ?_
      cases hd : d.get? key.application with
      | none =>
        rw [hd] at h
        simp at h
      | some old =>
        rw [hd] at h
        exact ⟨old, rfl, h⟩
    · intro h
      refine ⟨_, rfl, mem_foldl_insert.mpr (h.imp (·.2) ?_)⟩
      rintro ⟨old, hold, hmem⟩
      rw [hold]
      exact hmem
  next h => simp [h]

/-- Adding `entries` one after the other to `d`: a service is desired if one of them has it, or if
it was. -/
theorem classify_foldl_insert_eq_none_iff {entries : List (ApplicationId × List ServiceName)}
    {d : DesiredServices} {key : ServiceKey} :
    (entries.foldl (fun d (a, services) => d.insert a services) d).classify key = none ↔
      (∃ services, (key.application, services) ∈ entries ∧ key.service ∈ services) ∨
        d.classify key = none := by
  induction entries generalizing d with
  | nil => simp
  | cons entry entries ih =>
    -- The first entry adds to `d`; the induction hypothesis is about the set with it.
    obtain ⟨a, services⟩ := entry
    rw [List.foldl_cons, ih, classify_insert_eq_none_iff]
    constructor
    · rintro (⟨s, hs, hkey⟩ | ⟨rfl, hkey⟩ | h)
      · exact .inl ⟨s, List.mem_cons_of_mem _ hs, hkey⟩
      · exact .inl ⟨services, List.mem_cons_self, hkey⟩
      · exact .inr h
    · rintro (⟨s, hs, hkey⟩ | h)
      · rcases List.mem_cons.mp hs with heq | hs
        · obtain ⟨rfl, rfl⟩ := Prod.mk.inj heq
          exact .inr (.inl ⟨rfl, hkey⟩)
        · exact .inl ⟨s, hs, hkey⟩
      · exact .inr (.inr h)

/-- The services of a list, each in its application, and no other. -/
theorem classify_ofList_eq_none_iff {entries : List (ApplicationId × List ServiceName)}
    {key : ServiceKey} :
    (ofList entries).classify key = none ↔
      ∃ services, (key.application, services) ∈ entries ∧ key.service ∈ services := by
  rw [ofList, classify_foldl_insert_eq_none_iff, classify_eq_none_iff, get?_empty]
  simp

section Applications

variable {d : DesiredServices} {a : ApplicationId}

theorem containsApplication_insert_iff {b : ApplicationId} {services : List ServiceName} :
    (d.insert b services).containsApplication a = true ↔
      b = a ∨ d.containsApplication a = true := by
  rw [containsApplication_eq, containsApplication_eq, get?_insert]
  -- What is merged is there, whatever services it had.
  by_cases hba : b = a
  · simp [hba]
  · simp [hba]

/-- The applications of `entries` are added to those of `d`. -/
theorem containsApplication_foldl_insert_iff
    {entries : List (ApplicationId × List ServiceName)} :
    (entries.foldl (fun d (a, services) => d.insert a services) d).containsApplication a = true ↔
      a ∈ entries.map (·.1) ∨ d.containsApplication a = true := by
  induction entries generalizing d with
  | nil => simp
  | cons entry rest ih =>
    obtain ⟨b, services⟩ := entry
    rw [List.foldl_cons, ih, containsApplication_insert_iff, List.map_cons, List.mem_cons]
    constructor
    · rintro (h | rfl | h)
      · exact .inl (.inr h)
      · exact .inl (.inl rfl)
      · exact .inr h
    · rintro ((rfl | h) | h)
      · exact .inr (.inl rfl)
      · exact .inl h
      · exact .inr (.inr h)

/-- The applications of a list, with services or without. -/
theorem containsApplication_ofList_iff {entries : List (ApplicationId × List ServiceName)} :
    (ofList entries).containsApplication a = true ↔ a ∈ entries.map (·.1) := by
  rw [ofList, containsApplication_foldl_insert_iff, containsApplication_eq, get?_empty]
  simp

end Applications

end DesiredServices

namespace Bundle

variable {b : Bundle}

/-- A bundle desires the applications that it lists. -/
theorem classify_application_eq_none_iff {a : ApplicationId} :
    b.desiredApplications.classify a = none ↔ ∃ e ∈ b.applications, e.application.id = a := by
  rw [DesiredApplications.classify_eq_none_iff, desiredApplications,
    DesiredApplications.contains_ofList, applicationIds, List.mem_map]

/-- A bundle `b` desires the services of the latest releases of the applications that it lists. -/
theorem classify_service_eq_none_iff {key : ServiceKey} :
    b.desiredServices.classify key = none ↔
      ∃ e ∈ b.applications, e.application.id = key.application ∧ key.service ∈ e.services := by
  rw [desiredServices, DesiredServices.classify_ofList_eq_none_iff]
  constructor
  · rintro ⟨services, hmem, hkey⟩
    obtain ⟨e, he, heq⟩ := List.mem_map.mp hmem
    obtain ⟨hid, rfl⟩ := Prod.mk.inj heq
    exact ⟨e, he, hid, hkey⟩
  · rintro ⟨e, he, hid, hkey⟩
    exact ⟨e.services, List.mem_map.mpr ⟨e, he, by rw [hid]⟩, hkey⟩

end Bundle

end FleetAgent
