import FleetAgent.Identifier
import Std.Data.ExtTreeMap
import Std.Data.ExtTreeSet
/-!
# What a device should hold, and what is left over

The controller stores *observations* about a device: statuses of applications, statuses and states
of services. Which of them may exist follows from the device's bundle, as two *desired sets*: the
applications, and the services of each. An observation whose key is not desired is an *orphan*.

Both sets are extensional: two of them are equal as soon as they have the same members
(`DesiredApplications.ext_contains`, `DesiredServices.ext_contains`), however they were built. An
application with no service is a member in its own right; its service observations are orphans for
another reason than those of an application that is gone.
-/

namespace FleetAgent

/-- The name of a service together with that of its application, since services of different
applications may share a name. -/
structure ServiceKey where
  /-- The application that the service belongs to. -/
  application : ApplicationId
  /-- The service. -/
  service : ServiceName
deriving DecidableEq

namespace ServiceKey

/-- The key as one text, application first. No identifier holds a slash, so the text tells both. -/
def text (key : ServiceKey) : String :=
  key.application.text ++ "/" ++ key.service.text

instance : ToString ServiceKey := ⟨text⟩

/-- Keys are ordered by application, then by service. -/
instance : Ord ServiceKey :=
  ⟨compareLex (compareOn application) (compareOn service)⟩

instance : Std.TransOrd ServiceKey :=
  inferInstanceAs (Std.TransCmp (compareLex (compareOn application) (compareOn service)))

instance : Std.LawfulEqOrd ServiceKey where
  eq_of_compare {a b} h := by
    have h : compareLex (compareOn application) (compareOn service) a b = .eq := h
    rw [compareLex_eq_eq] at h
    obtain ⟨ha, hs⟩ := h
    cases a; cases b
    simp only [compareOn, Std.compare_eq_iff_eq] at ha hs
    subst ha; subst hs; rfl

/-- The keys in increasing order; equal keys stay as often as they occur. -/
def sort (keys : List ServiceKey) : List ServiceKey :=
  keys.mergeSort fun a b => (compare a b).isLE

end ServiceKey

/-- Why an observation is left over. An observation of an application can only be so for the first
reason. -/
inductive OrphanReason where
  /-- Its application is not in the bundle. -/
  | applicationGone
  /-- Its application is in the bundle and has no such service. -/
  | serviceGone
deriving Repr, DecidableEq

/-- The word for a reason in log fields. -/
def OrphanReason.label : OrphanReason → String
  | .applicationGone => "application_gone"
  | .serviceGone => "service_gone"

/-- A key of type `κ` that is observed and not desired. -/
structure Orphan (κ : Type) where
  /-- The key of the observation. -/
  key : κ
  /-- Why it is left over. -/
  reason : OrphanReason
deriving DecidableEq

/-! ### Desired applications -/

/-- The applications that should exist on a device, in no order and each once. -/
structure DesiredApplications where
  /-- Their identifiers. -/
  ids : Std.ExtTreeSet ApplicationId
deriving DecidableEq

namespace DesiredApplications

/-- No application. -/
def empty : DesiredApplications := ⟨∅⟩

/-- One application more. One that is there already changes nothing. -/
def insert (d : DesiredApplications) (a : ApplicationId) : DesiredApplications :=
  ⟨d.ids.insert a⟩

/-- The applications of the list `ids`, in whatever order and however often they occur. -/
def ofList (ids : List ApplicationId) : DesiredApplications :=
  ids.foldl insert empty

/-- Whether an application should exist. -/
def contains (d : DesiredApplications) (a : ApplicationId) : Bool :=
  d.ids.contains a

/-- The number of applications. -/
def size (d : DesiredApplications) : Nat :=
  d.ids.size

/-- Whether there is none. -/
def isEmpty (d : DesiredApplications) : Bool :=
  d.ids.isEmpty

/-- Why the observed application `a` is left over, if it is. -/
def classify (d : DesiredApplications) (a : ApplicationId) : Option OrphanReason :=
  if d.contains a then none else some .applicationGone

@[simp]
theorem contains_empty (a : ApplicationId) : empty.contains a = false := by
  simp [empty, contains]

/-- An application is in `d.insert a` if it is `a` or in `d`. -/
@[simp]
theorem contains_insert (d : DesiredApplications) (a b : ApplicationId) :
    (d.insert a).contains b = (decide (a = b) || d.contains b) := by
  have h : (compare a b == Ordering.eq) = decide (a = b) := by
    rw [Bool.eq_iff_iff]
    simp
  simp [insert, contains, Std.ExtTreeSet.contains_insert, h]

/-- Sets with the same members are equal. -/
theorem ext_contains {d e : DesiredApplications} (h : ∀ a, d.contains a = e.contains a) :
    d = e := by
  obtain ⟨d⟩ := d
  obtain ⟨e⟩ := e
  congr 1
  apply Std.ExtTreeSet.ext_mem
  intro a
  have ha := h a
  simp only [contains] at ha
  rw [Std.ExtTreeSet.mem_iff_contains, Std.ExtTreeSet.mem_iff_contains, ha]

end DesiredApplications

/-! ### Desired services -/

/-- The services that should exist on a device, by application. An application may have none and
still be there. -/
structure DesiredServices where
  /-- The services of each application. -/
  services : Std.ExtTreeMap ApplicationId (Std.ExtTreeSet ServiceName)
deriving DecidableEq

namespace DesiredServices

/-- No application and no service. -/
def empty : DesiredServices := ⟨∅⟩

/-- The services of the application `a`, if `a` should exist. -/
def get? (d : DesiredServices) (a : ApplicationId) : Option (Std.ExtTreeSet ServiceName) :=
  d.services[a]?

/-- Adds the application `a` and the services `services` of it to those already there. -/
def insert (d : DesiredServices) (a : ApplicationId) (services : List ServiceName) :
    DesiredServices :=
  ⟨d.services.insert a (services.foldl (·.insert ·) ((d.get? a).getD ∅))⟩

/-- The set that a list of applications with services adds up to: an application that occurs more
than once has the services of all its entries. -/
def ofList (entries : List (ApplicationId × List ServiceName)) : DesiredServices :=
  entries.foldl (fun d (a, services) => d.insert a services) empty

/-- Why the observed service `key` is left over, if it is. That its application is gone comes
first. -/
def classify (d : DesiredServices) (key : ServiceKey) : Option OrphanReason :=
  match d.get? key.application with
  | none => some .applicationGone
  | some services => if services.contains key.service then none else some .serviceGone

/-- Whether a service should exist. -/
def contains (d : DesiredServices) (key : ServiceKey) : Bool :=
  (d.classify key).isNone

/-- Whether an application should exist. -/
def containsApplication (d : DesiredServices) (a : ApplicationId) : Bool :=
  d.services.contains a

/-- The number of applications. -/
def applicationCount (d : DesiredServices) : Nat :=
  d.services.size

@[simp]
theorem get?_empty (a : ApplicationId) : empty.get? a = none := by
  simp [empty, get?]

/-- What is inserted is added to the services of `a`, and those of other applications stay. -/
theorem get?_insert (d : DesiredServices) (a b : ApplicationId) (services : List ServiceName) :
    (d.insert a services).get? b =
      if a = b then some (services.foldl (·.insert ·) ((d.get? a).getD ∅)) else d.get? b := by
  simp [insert, get?, Std.ExtTreeMap.getElem?_insert]

/-- An application is desired if it has a set of services, however small. -/
theorem containsApplication_eq (d : DesiredServices) (a : ApplicationId) :
    d.containsApplication a = (d.get? a).isSome := by
  rw [containsApplication, get?, Std.ExtTreeMap.contains_eq_isSome_getElem?]

/-- Sets with the same applications and the same services are equal. -/
theorem ext_contains {d e : DesiredServices}
    (ha : ∀ a, d.containsApplication a = e.containsApplication a)
    (hs : ∀ key, d.contains key = e.contains key) : d = e := by
  have hget : ∀ a, d.get? a = e.get? a := by
    intro a
    have h := ha a
    rw [containsApplication_eq, containsApplication_eq] at h
    cases hd : d.get? a with
    | none => cases he : e.get? a with
      | none => rfl
      | some _ => simp [hd, he] at h
    | some s => cases he : e.get? a with
      | none => simp [hd, he] at h
      | some t =>
        congr 1
        apply Std.ExtTreeSet.ext_mem
        intro v
        have hk := hs ⟨a, v⟩
        simp only [contains, classify, hd, he] at hk
        rw [Std.ExtTreeSet.mem_iff_contains, Std.ExtTreeSet.mem_iff_contains]
        cases hsv : s.contains v <;> cases htv : t.contains v <;> simp_all
  obtain ⟨d⟩ := d
  obtain ⟨e⟩ := e
  congr 1
  exact Std.ExtTreeMap.ext_getElem? hget

end DesiredServices

/-! ### Orphans -/

/-- The members of a list in the order of their first occurrences, each once. -/
def distinct {α : Type} [DecidableEq α] : List α → List α
  | [] => []
  | a :: r => a :: (distinct r).filter (· ≠ a)

/-- The observed keys that the rule `classify` calls left over, each once, in observed order. -/
def orphansBy {κ : Type} [DecidableEq κ] (classify : κ → Option OrphanReason)
    (observed : List κ) : List (Orphan κ) :=
  (distinct observed).filterMap fun key => (classify key).map (Orphan.mk key)

/-- The observed applications that are not desired by `d`, each once. -/
def DesiredApplications.orphans (d : DesiredApplications) (observed : List ApplicationId) :
    List (Orphan ApplicationId) :=
  orphansBy d.classify observed

/-- The observed services that are not desired by `d`, each once. -/
def DesiredServices.orphans (d : DesiredServices) (observed : List ServiceKey) :
    List (Orphan ServiceKey) :=
  orphansBy d.classify observed

/-- `distinct` drops repetitions only, and no member. -/
@[simp]
theorem mem_distinct {α : Type} [DecidableEq α] {a : α} {xs : List α} :
    a ∈ distinct xs ↔ a ∈ xs := by
  induction xs with
  | nil => simp [distinct]
  | cons x r ih =>
    by_cases h : a = x <;> simp [distinct, ih, h]

/-- `distinct` leaves no repetition. -/
theorem nodup_distinct {α : Type} [DecidableEq α] (xs : List α) : (distinct xs).Nodup := by
  induction xs with
  | nil => simp [distinct]
  | cons x r ih =>
    rw [distinct, List.nodup_cons]
    exact ⟨by simp, ih.filter _⟩

end FleetAgent
