import FleetAgent.Proofs.Desired
import FleetAgent.Proofs.Orphans
import FleetAgent.Reporting
/-!
# What is forgotten is what would be deleted

When a bundle `b` comes, the push cache forgets what the bundle does not desire
(`PushCache.retain`), and the collector deletes the orphans of the bundle. The cache asks
`b.desiredServices` whatever the kind of an observation, and the collector asks
`b.desiredApplications` for the statuses of applications. Both sets hold the same applications
(`Bundle.contains_desiredApplications_eq`): an application is in the map of services even if it has
no release or no service, and is not added twice if it is listed twice. So a value is forgotten
exactly if its observation would be an orphan, were it listed by the bundle:
`PushCache.get?_retain_iff_not_orphan`.

"Were it listed" is `ObservationKind.extend`, the bundle with one observation more. It desires the
same, as what is listed of observations is not looked at for that (`classify_extend`).
-/

namespace FleetAgent

/-! ### The applications of both sets -/

/-- **The set of applications and the map of services hold the same applications**, whatever the
bundle `b` lists. -/
theorem Bundle.contains_desiredApplications_eq (b : Bundle) (a : ApplicationId) :
    b.desiredApplications.contains a = b.desiredServices.containsApplication a := by
  have hids : (b.applications.map fun e => (e.application.id, e.services)).map (·.1) =
      b.applicationIds := by
    rw [List.map_map]
    rfl
  rw [Bool.eq_iff_iff, desiredApplications, DesiredApplications.contains_ofList, desiredServices,
    DesiredServices.containsApplication_ofList_iff, hids]

namespace ObservationKind

/-- The cache and the collector ask the same: `key` is desired for the one exactly if it is for the
other. -/
theorem isDesired_eq_true_iff (kind : ObservationKind) (b : Bundle) (key : kind.Key) :
    kind.isDesired b.desiredServices key = true ↔ kind.classify b key = none := by
  cases kind with
  | applicationStatus =>
    show b.desiredServices.containsApplication key = true ↔
      b.desiredApplications.classify key = none
    rw [DesiredApplications.classify_eq_none_iff, b.contains_desiredApplications_eq]
  | serviceStatus | serviceState =>
    show (b.desiredServices.classify key).isNone = true ↔ b.desiredServices.classify key = none
    exact Option.isNone_iff_eq_none

/-! ### One observation more -/

/-- An observation as a bundle lists it. -/
abbrev Entry : ObservationKind → Type
  | .applicationStatus => ApplicationStatus
  | .serviceStatus => ServiceStatus
  | .serviceState => ServiceState

/-- What a listed observation `e` is an observation of. -/
def entryKey : (kind : ObservationKind) → kind.Entry → kind.Key
  | .applicationStatus, e => e.applicationId
  | .serviceStatus, e => e.key
  | .serviceState, e => e.key

/-- The bundle `b` with the observation `e` listed behind the others of its kind. -/
def extend : (kind : ObservationKind) → Bundle → kind.Entry → Bundle
  | .applicationStatus, b, e => { b with applicationStatuses := b.applicationStatuses ++ [e] }
  | .serviceStatus, b, e => { b with serviceStatuses := b.serviceStatuses ++ [e] }
  | .serviceState, b, e => { b with serviceStates := b.serviceStates ++ [e] }

variable (kind : ObservationKind) (b : Bundle) (e : kind.Entry)

theorem observed_extend :
    kind.observed (kind.extend b e) = kind.observed b ++ [kind.entryKey e] := by
  cases kind <;> simp [observed, extend, entryKey]

theorem classify_extend : kind.classify (kind.extend b e) = kind.classify b := by
  cases kind <;> rfl

/-- The observation `e` is an orphan where it is listed, unless it is desired. -/
theorem entryKey_mem_orphanKeys_iff :
    kind.entryKey e ∈ kind.orphanKeys (kind.extend b e) ↔
      kind.isDesired b.desiredServices (kind.entryKey e) = false := by
  have hlisted : kind.entryKey e ∈ kind.observed (kind.extend b e) := by
    rw [observed_extend]
    exact List.mem_append_right _ List.mem_cons_self
  rw [mem_orphanKeys_iff, classify_extend, ne_eq, ← isDesired_eq_true_iff, Bool.not_eq_true]
  exact and_iff_right hlisted

end ObservationKind

/-! ### What is forgotten -/

/-- **The push cache forgets exactly what would be deleted.** After a bundle `b` has come, a value
`v` is known of an observation `e` if and only if it was known before and the observation would be
no orphan of the bundle, were it listed as well; a value that stays is the same. Both sides ask the
same, since both desired sets of a bundle hold the same applications. -/
theorem PushCache.get?_retain_iff_not_orphan (b : Bundle) (c : PushCache) :
    (∀ (kind : ObservationKind) (e : kind.Entry) (v : kind.Value),
      (c.retain b.desiredServices).get? kind (kind.entryKey e) = some v ↔
        c.get? kind (kind.entryKey e) = some v ∧
          kind.entryKey e ∉ kind.orphanKeys (kind.extend b e)) ∧
      ∀ a, b.desiredApplications.contains a = b.desiredServices.containsApplication a := by
  refine ⟨fun kind e v => ?_, b.contains_desiredApplications_eq⟩
  have hkept : kind.entryKey e ∉ kind.orphanKeys (kind.extend b e) ↔
      kind.isDesired b.desiredServices (kind.entryKey e) = true := by
    rw [kind.entryKey_mem_orphanKeys_iff, Bool.not_eq_false]
  rw [retain, get?_filter, hkept, Option.ite_none_right_eq_some]
  exact and_comm

end FleetAgent
