import FleetAgent.Observation
/-!
# Which keys are orphans

`ObservationKind.mem_orphans_iff` says which observations of a bundle `b` are left over: those whose
key is in `kind.observed b` and classified as not desired, with the reason that `kind.classify b`
gives. No key is left over twice (`nodup_orphanKeys`), whatever duplicates the list holds.
-/

namespace FleetAgent

section OrphansBy

variable {κ : Type} [DecidableEq κ] (classify : κ → Option OrphanReason) (observed : List κ)

/-- An orphan is one of `observed` that `classify` gives a reason for, and has that reason. -/
theorem mem_orphansBy {o : Orphan κ} :
    o ∈ orphansBy classify observed ↔ o.key ∈ observed ∧ classify o.key = some o.reason := by
  rw [orphansBy, List.mem_filterMap]
  constructor
  · rintro ⟨key, hkey, ho⟩
    rw [Option.map_eq_some_iff] at ho
    obtain ⟨reason, hreason, rfl⟩ := ho
    exact ⟨mem_distinct.mp hkey, hreason⟩
  · rintro ⟨hkey, hreason⟩
    exact ⟨o.key, mem_distinct.mpr hkey, by rw [hreason]; rfl⟩

/-- The keys of the orphans are those of `distinct observed` that are not desired, in their
order. -/
theorem map_key_orphansBy :
    (orphansBy classify observed).map (·.key) =
      (distinct observed).filter fun key => (classify key).isSome := by
  rw [orphansBy, List.map_filterMap, ← List.filterMap_eq_filter]
  congr 1
  funext key
  cases h : classify key <;> simp [Option.guard, h]

theorem nodup_map_key_orphansBy : ((orphansBy classify observed).map (·.key)).Nodup := by
  rw [map_key_orphansBy]
  exact (nodup_distinct observed).filter _

end OrphansBy

namespace ObservationKind

variable (kind : ObservationKind) (b : Bundle)

/-- The keys of the observations that are left over, in the order in which they are deleted. -/
def orphanKeys : List kind.Key :=
  (kind.orphans b).map (·.key)

/-- **What is left over**: the keys that are listed and not desired, each with its reason. `o` is an
orphan exactly if its key is observed and is classified with its reason. -/
theorem mem_orphans_iff {o : Orphan kind.Key} :
    o ∈ kind.orphans b ↔ o.key ∈ kind.observed b ∧ kind.classify b o.key = some o.reason := by
  rw [orphans_eq]
  exact mem_orphansBy _ _

theorem mem_orphanKeys_iff {key : kind.Key} :
    key ∈ kind.orphanKeys b ↔ key ∈ kind.observed b ∧ kind.classify b key ≠ none := by
  rw [orphanKeys, List.mem_map]
  constructor
  · rintro ⟨o, ho, rfl⟩
    obtain ⟨hkey, hreason⟩ := (kind.mem_orphans_iff b).mp ho
    exact ⟨hkey, by rw [hreason]; exact Option.some_ne_none _⟩
  · rintro ⟨hkey, hreason⟩
    obtain ⟨reason, hreason⟩ := Option.ne_none_iff_exists'.mp hreason
    exact ⟨⟨key, reason⟩, (kind.mem_orphans_iff b).mpr ⟨hkey, hreason⟩, rfl⟩

/-- No key is left over twice. -/
theorem nodup_orphanKeys : (kind.orphanKeys b).Nodup := by
  rw [orphanKeys, orphans_eq]
  exact nodup_map_key_orphansBy _ _

end ObservationKind

end FleetAgent
