import FleetAgent.Proofs.Desired
import FleetAgent.Proofs.Orphans
import Mathlib.Data.List.Forall2
import Mathlib.Data.List.Induction
/-!
# What is left over, exactly

The observations are gone through one by one. The next one is left over if it is not desired and has
not been seen before (`orphansBy_concat`); so what is left over in the end is, in the order of their
first occurrences, all that is observed and not desired (`firstOccurrences_orphansBy`). There is one
such list only (`FirstOccurrences.unique`). It is also what a walk collects that remembers in a set
`seen` what it has collected already (`OrphanWalk.found_through`).

When more is desired, fewer observations are left over: some are no longer, and where an application
has come back without a service, the observations of that service are left over for another reason
(`Orphan.Follows`). `orphans_exactDiff` says all this of applications and of services, which differ
only in what is desired and why: the parameters of `IsExactDiff`.
-/

namespace FleetAgent

/-! ### First occurrences -/

/-- The list `found` has the members of `xs` with the property `p`, each once and in the order in
which they occur for the first time. -/
structure FirstOccurrences {α : Type} [DecidableEq α] (p : α → Prop) (xs found : List α) :
    Prop where
  /-- They are all that have the property. -/
  mem_iff : ∀ a, a ∈ found ↔ a ∈ xs ∧ p a
  /-- What occurs earlier stands earlier; so nothing stands twice. -/
  ordered : found.Pairwise fun a b => xs.idxOf a < xs.idxOf b

namespace FirstOccurrences

variable {α : Type} [DecidableEq α] {p : α → Prop} {xs found : List α} {a : α}

theorem nil : FirstOccurrences p [] [] where
  mem_iff a := by simp
  ordered := List.Pairwise.nil

/-- Nothing in `found` is there twice, as it would have to occur earlier than itself. -/
theorem nodup (h : FirstOccurrences p xs found) : found.Nodup := by
  refine h.ordered.imp fun {a b} hlt heq => ?_
  subst heq
  exact Nat.lt_irrefl _ hlt

/-- More behind the list leaves the order of its own members: a first occurrence in `xs` is one in
`xs ++ ys`. -/
theorem ordered_append (h : FirstOccurrences p xs found) (ys : List α) :
    found.Pairwise fun a b => (xs ++ ys).idxOf a < (xs ++ ys).idxOf b := by
  refine h.ordered.imp_of_mem fun {a b} ha hb hlt => ?_
  have hax : a ∈ xs := ((h.mem_iff a).mp ha).1
  have hbx : b ∈ xs := ((h.mem_iff b).mp hb).1
  rw [List.idxOf_append_of_mem hax, List.idxOf_append_of_mem hbx]
  exact hlt

/-- A member `a` that was there already, or that has not the property, changes nothing. -/
theorem concat_of_mem_or (h : FirstOccurrences p xs found) (ha : a ∈ xs ∨ ¬ p a) :
    FirstOccurrences p (xs ++ [a]) found where
  mem_iff b := by
    rw [h.mem_iff b, List.mem_append, List.mem_singleton]
    constructor
    · rintro ⟨hb, hp⟩
      exact ⟨.inl hb, hp⟩
    · rintro ⟨hb | rfl, hp⟩
      · exact ⟨hb, hp⟩
      · exact ⟨ha.resolve_right (not_not_intro hp), hp⟩
  ordered := h.ordered_append [a]

/-- A new member `a` that has the property comes behind all others. -/
theorem concat_of_not_mem (h : FirstOccurrences p xs found) (ha : a ∉ xs) (hp : p a) :
    FirstOccurrences p (xs ++ [a]) (found ++ [a]) where
  mem_iff b := by
    rw [List.mem_append, List.mem_append, List.mem_singleton, h.mem_iff b]
    constructor
    · rintro (⟨hb, hpb⟩ | rfl)
      · exact ⟨.inl hb, hpb⟩
      · exact ⟨.inr rfl, hp⟩
    · rintro ⟨hb | rfl, hpb⟩
      · exact .inl ⟨hb, hpb⟩
      · exact .inr rfl
  ordered := by
    refine List.pairwise_append.mpr ⟨h.ordered_append [a], List.pairwise_singleton _ _, ?_⟩
    intro b hb c hc
    obtain rfl := List.mem_singleton.mp hc
    have hbx : b ∈ xs := ((h.mem_iff b).mp hb).1
    -- The new member occurs for the first time at the end of the longer list.
    have hlast : (xs ++ [c]).idxOf c = xs.length := by
      rw [List.idxOf_append_of_notMem ha, List.idxOf_cons_self, Nat.add_zero]
    rw [List.idxOf_append_of_mem hbx, hlast]
    exact List.idxOf_lt_length_of_mem hbx

/-- **First occurrences are unique**: members and order leave no choice between `found` and
`others`. -/
theorem unique {others : List α} (h : FirstOccurrences p xs found)
    (h' : FirstOccurrences p xs others) : found = others := by
  have hmem : ∀ a, a ∈ found ↔ a ∈ others := fun a => (h.mem_iff a).trans (h'.mem_iff a).symm
  have hperm : found.Perm others := (List.perm_ext_iff_of_nodup h.nodup h'.nodup).mpr hmem
  exact hperm.eq_of_pairwise (fun a b _ _ hab hba => absurd hba (Nat.lt_asymm hab)) h.ordered
    h'.ordered

end FirstOccurrences

/-! ### One observation after the other -/

/-- One more member is kept if it is new. -/
theorem distinct_concat {α : Type} [DecidableEq α] (xs : List α) (a : α) :
    distinct (xs ++ [a]) = distinct xs ++ if a ∈ xs then [] else [a] := by
  induction xs with
  | nil => rfl
  | cons x r ih =>
    -- The head takes its own repetitions out of the rest, and so the last element if it is one.
    have hfilter : ((if a ∈ r then [] else [a]).filter fun b => decide (b ≠ x)) =
        if a ∈ x :: r then [] else [a] := by
      by_cases har : a ∈ r
      · rw [if_pos har, if_pos (List.mem_cons_of_mem x har)]
        rfl
      · by_cases hax : a = x
        · subst hax
          rw [if_neg har, if_pos List.mem_cons_self]
          simp
        · have hnot : a ∉ x :: r := List.not_mem_cons_of_ne_of_not_mem hax har
          rw [if_neg har, if_neg hnot]
          simp [hax]
    rw [List.cons_append, distinct, ih, List.filter_append, hfilter, distinct, List.cons_append]

section OrphansBy

variable {κ : Type} [DecidableEq κ] {classify : κ → Option OrphanReason} {observed : List κ}

/-- **One observation more**, that of `key`, is left over if it is seen for the first time and is
not desired. -/
theorem orphansBy_concat (key : κ) :
    orphansBy classify (observed ++ [key]) = orphansBy classify observed ++
      if key ∈ observed then [] else ((classify key).map (Orphan.mk key)).toList := by
  rw [orphansBy, distinct_concat, List.filterMap_append]
  congr 1
  split
  · rfl
  · rw [List.filterMap_cons]
    cases classify key <;> rfl

/-- **What is left over** is all that is observed and not desired, in the order of the first
occurrences. The induction is on `observed` from its end, as `orphansBy_concat` is. -/
theorem firstOccurrences_orphansBy (classify : κ → Option OrphanReason) (observed : List κ) :
    FirstOccurrences (fun key => classify key ≠ none) observed
      ((orphansBy classify observed).map (·.key)) := by
  -- From the end: what was seen before an observation is the whole list in front of it.
  induction observed using List.reverseRec with
  | nil => exact .nil
  | append_singleton observed key ih =>
    rw [orphansBy_concat, List.map_append]
    by_cases hseen : key ∈ observed
    · rw [if_pos hseen]
      simpa using ih.concat_of_mem_or (.inl hseen)
    · rw [if_neg hseen]
      cases hkey : classify key with
      | none => simpa using ih.concat_of_mem_or (.inr (not_not_intro hkey))
      | some reason =>
        have hne : classify key ≠ none := by simp [hkey]
        exact ih.concat_of_not_mem hseen hne

/-- Observations `seen` that were seen before leave nothing more over. -/
theorem orphansBy_append_of_subset {seen : List κ} (h : seen ⊆ observed) :
    orphansBy classify (observed ++ seen) = orphansBy classify observed := by
  induction seen using List.reverseRec with
  | nil => rw [List.append_nil]
  | append_singleton seen key ih =>
    have hkey : key ∈ observed ++ seen := List.mem_append_left _ (h (by simp))
    rw [← List.append_assoc, orphansBy_concat, if_pos hkey, List.append_nil]
    exact ih fun a ha => h (List.mem_append_left _ ha)

end OrphansBy

/-! ### A walk with a set of keys

The orphans can be collected in one walk that remembers in a set which keys it has collected
already. Only keys that are not desired are put into the set. -/

/-- A walk through observations with keys of type `κ`. -/
structure OrphanWalk (κ : Type) [Ord κ] [Std.TransOrd κ] where
  /-- The keys that are not desired among those that were passed. -/
  seen : Std.ExtTreeSet κ
  /-- What is left over among the observations that were passed. -/
  found : List (Orphan κ)

namespace OrphanWalk

variable {κ : Type} [Ord κ] [Std.TransOrd κ] {classify : κ → Option OrphanReason}
  {observed : List κ}

/-- Passes the next observation `key`. -/
def pass (classify : κ → Option OrphanReason) (w : OrphanWalk κ) (key : κ) :
    OrphanWalk κ :=
  match classify key with
  | none => w
  | some reason =>
    if key ∈ w.seen then w else ⟨w.seen.insert key, w.found ++ [⟨key, reason⟩]⟩

/-- The walk through all of `observed`. -/
def through (classify : κ → Option OrphanReason) (observed : List κ) : OrphanWalk κ :=
  observed.foldl (pass classify) ⟨∅, []⟩

variable [Std.LawfulEqOrd κ]

/-- Passing `last` puts it into the set if it is not desired, and leaves all else as it is. -/
theorem mem_seen_pass {w : OrphanWalk κ} {key last : κ} :
    key ∈ (w.pass classify last).seen ↔ key ∈ w.seen ∨ key = last ∧ classify key ≠ none := by
  rw [pass]
  split
  next hdesired =>
    refine (or_iff_left ?_).symm
    rintro ⟨rfl, hne⟩
    exact hne hdesired
  next reason hreason =>
    have hlast : key = last → classify key ≠ none := by
      rintro rfl
      rw [hreason]
      exact Option.some_ne_none _
    rw [and_iff_left_of_imp hlast]
    split
    next hseen =>
      refine (or_iff_left_of_imp ?_).symm
      rintro rfl
      exact hseen
    next => rw [Std.ExtTreeSet.mem_insert, Std.compare_eq_iff_eq, or_comm, eq_comm]

/-- After a walk, `seen` holds the keys of `observed` that `classify` calls left over. -/
theorem mem_seen_through {key : κ} :
    key ∈ (through classify observed).seen ↔ key ∈ observed ∧ classify key ≠ none := by
  induction observed using List.reverseRec with
  | nil => simp [through]
  | append_singleton observed last ih =>
    rw [through, List.foldl_concat, ← through, mem_seen_pass, ih, List.mem_append,
      List.mem_singleton, or_and_right]

/-- **The walk finds what is left over**: `orphansBy` is what is collected with a set of the keys
that were collected before. -/
theorem found_through [DecidableEq κ] (classify : κ → Option OrphanReason) (observed : List κ) :
    (through classify observed).found = orphansBy classify observed := by
  induction observed using List.reverseRec with
  | nil => rfl
  | append_singleton observed key ih =>
    rw [orphansBy_concat, ← ih, through, List.foldl_concat, ← through, pass]
    cases hkey : classify key with
    | none => simp
    | some reason =>
      -- A key that is not desired is in `seen` exactly if it has been passed.
      have hseen : key ∈ (through classify observed).seen ↔ key ∈ observed := by
        rw [mem_seen_through, hkey]
        exact and_iff_left (Option.some_ne_none _)
      by_cases hmem : key ∈ observed <;> simp [hseen, hmem]

end OrphanWalk

/-! ### When more is desired -/

/-- What becomes of a reason when more is desired: it stays, unless an application has come back
without the service. -/
def OrphanReason.Follows (r' r : OrphanReason) : Prop :=
  r' = r ∨ r = .applicationGone ∧ r' = .serviceGone

/-- What becomes of an orphan that is still one when more is desired. -/
def Orphan.Follows {κ : Type} (o' o : Orphan κ) : Prop :=
  o'.key = o.key ∧ o'.reason.Follows o.reason

/-- If `classify'` gives a reason only where `classify` does, and one that follows from it, then its
orphans are some of the others in their order, each following from its own. -/
theorem sublistForall₂_orphansBy {κ : Type} [DecidableEq κ]
    {classify classify' : κ → Option OrphanReason}
    (h : ∀ key r', classify' key = some r' → ∃ r, classify key = some r ∧ r'.Follows r)
    (observed : List κ) :
    List.SublistForall₂ Orphan.Follows (orphansBy classify' observed)
      (orphansBy classify observed) := by
  rw [orphansBy, orphansBy]
  -- Both go through the same observations, and one of them leaves out more.
  induction distinct observed with
  | nil => exact .nil
  | cons key rest ih =>
    rw [List.filterMap_cons, List.filterMap_cons]
    cases h' : classify' key with
    | none =>
      cases classify key with
      | none => exact ih
      | some r => exact .cons_right ih
    | some r' =>
      obtain ⟨r, hr, hfollows⟩ := h key r' h'
      rw [hr]
      exact .cons ⟨rfl, hfollows⟩ ih

namespace DesiredApplications

/-- All that should exist by `d` should exist by `e`. -/
def IsWithin (d e : DesiredApplications) : Prop :=
  ∀ a, d.contains a = true → e.contains a = true

theorem isWithin_insert (d : DesiredApplications) (a : ApplicationId) :
    d.IsWithin (d.insert a) := by
  intro b hb
  rw [contains_insert, hb, Bool.or_true]

/-- Why an application is left over. -/
def IsReason (d : DesiredApplications) (a : ApplicationId) : OrphanReason → Prop
  | .applicationGone => d.contains a = false
  | .serviceGone => False

theorem classify_eq_some_iff {d : DesiredApplications} {a : ApplicationId} {r : OrphanReason} :
    d.classify a = some r ↔ d.IsReason a r := by
  rw [classify]
  cases h : d.contains a <;> cases r <;> simp [IsReason, h]

/-- When more applications are desired, what is still left over is so for the same reason `r'`;
there is no other for an application. -/
theorem IsWithin.classify {d e : DesiredApplications} (h : d.IsWithin e) {a : ApplicationId}
    {r' : OrphanReason} (hr : e.classify a = some r') :
    ∃ r, d.classify a = some r ∧ r'.Follows r := by
  refine ⟨r', ?_, .inl rfl⟩
  rw [classify_eq_some_iff] at hr ⊢
  cases r' with
  | applicationGone =>
    have hne : e.contains a ≠ true := Bool.eq_false_iff.mp hr
    exact Bool.eq_false_iff.mpr fun hd => hne (h a hd)
  | serviceGone => exact hr

end DesiredApplications

namespace DesiredServices

/-- A service should exist: its application should, and has it. -/
def Desires (d : DesiredServices) (key : ServiceKey) : Prop :=
  ∃ services, d.get? key.application = some services ∧ key.service ∈ services

/-- All that should exist by the first should exist by the second, applications without a service
as well. -/
def IsWithin (d e : DesiredServices) : Prop :=
  ∀ a services, d.get? a = some services →
    ∃ more, e.get? a = some more ∧ ∀ s ∈ services, s ∈ more

/-- One application more leaves those that were desired, each with the services that it had. -/
theorem isWithin_insert (d : DesiredServices) (a : ApplicationId) (services : List ServiceName) :
    d.IsWithin (d.insert a services) := by
  intro b old hb
  rw [get?_insert]
  by_cases hab : a = b
  · subst hab
    rw [if_pos rfl, hb]
    exact ⟨_, rfl, fun s hs => mem_foldl_insert.mpr (.inr hs)⟩
  · rw [if_neg hab]
    exact ⟨old, hb, fun s hs => hs⟩

/-- Why a service is left over. -/
def IsReason (d : DesiredServices) (key : ServiceKey) : OrphanReason → Prop
  | .applicationGone => d.get? key.application = none
  | .serviceGone =>
    ∃ services, d.get? key.application = some services ∧ key.service ∉ services

theorem classify_eq_some_iff {d : DesiredServices} {key : ServiceKey} {r : OrphanReason} :
    d.classify key = some r ↔ d.IsReason key r := by
  rw [classify]
  cases h : d.get? key.application with
  | none => cases r <;> simp [IsReason, h]
  | some services =>
    by_cases hs : key.service ∈ services <;> cases r <;> simp [IsReason, h, hs]

/-- When more services are desired, what is still left over was left over before, for a reason `r`
that this one follows. -/
theorem IsWithin.classify {d e : DesiredServices} (h : d.IsWithin e) {key : ServiceKey}
    {r' : OrphanReason} (hr : e.classify key = some r') :
    ∃ r, d.classify key = some r ∧ r'.Follows r := by
  rw [classify_eq_some_iff] at hr
  cases hd : d.get? key.application with
  -- The application was not desired; it may have come back without the service.
  | none =>
    refine ⟨.applicationGone, classify_eq_some_iff.mpr hd, ?_⟩
    cases r' with
    | applicationGone => exact .inl rfl
    | serviceGone => exact .inr ⟨rfl, rfl⟩
  -- The application was desired, and stays so: the service alone was not, and is not.
  | some services =>
    obtain ⟨more, hmore, hsub⟩ := h key.application services hd
    cases r' with
    | applicationGone => exact absurd (hmore.symm.trans hr) (Option.some_ne_none more)
    | serviceGone =>
      obtain ⟨others, hothers, hnot⟩ := hr
      obtain rfl := Option.some.inj (hmore.symm.trans hothers)
      have hreason : d.IsReason key .serviceGone := ⟨services, hd, fun hs => hnot (hsub _ hs)⟩
      exact ⟨.serviceGone, classify_eq_some_iff.mpr hreason, .inl rfl⟩

end DesiredServices

/-! ### The diff -/

/-- How the orphans of observations should follow from what is desired. -/
structure IsExactDiff {κ D : Type} [DecidableEq κ] (desires : D → κ → Prop)
    (isWithin : D → D → Prop) (isReason : D → κ → OrphanReason → Prop)
    (orphans : D → List κ → List (Orphan κ)) : Prop where
  /-- Their keys are the first occurrences of those that are observed and not desired. -/
  keys : ∀ d observed found,
    FirstOccurrences (¬ desires d ·) observed found ↔ found = (orphans d observed).map (·.key)
  /-- Each has its reason. -/
  reasons : ∀ d observed, ∀ o ∈ orphans d observed, ∀ r, o.reason = r ↔ isReason d o.key r
  /-- Observations that were seen before change nothing. -/
  repeated : ∀ d observed seen, seen ⊆ observed →
    orphans d (observed ++ seen) = orphans d observed
  /-- When more is desired, some are orphans no longer, and the others stay in their order. -/
  narrower : ∀ d e observed, isWithin d e →
    List.SublistForall₂ Orphan.Follows (orphans e observed) (orphans d observed)

/-- A classification that tells what is desired (`hdesires`), and its reasons (`hreason`), gives an
exact diff. -/
theorem isExactDiff_orphansBy {κ D : Type} [DecidableEq κ] {desires : D → κ → Prop}
    {isWithin : D → D → Prop} {isReason : D → κ → OrphanReason → Prop}
    {classify : D → κ → Option OrphanReason}
    (hdesires : ∀ d key, classify d key = none ↔ desires d key)
    (hreason : ∀ d key r, classify d key = some r ↔ isReason d key r)
    (hwithin : ∀ d e, isWithin d e → ∀ key r', classify e key = some r' →
      ∃ r, classify d key = some r ∧ r'.Follows r) :
    IsExactDiff desires isWithin isReason fun d => orphansBy (classify d) where
  keys d observed found := by
    have hfirst := firstOccurrences_orphansBy (classify d) observed
    simp only [ne_eq, hdesires] at hfirst
    constructor
    · intro h
      exact h.unique hfirst
    · rintro rfl
      exact hfirst
  reasons d observed o ho r := by
    obtain ⟨-, hclassify⟩ := (mem_orphansBy _ _).mp ho
    rw [← hreason, hclassify, Option.some_inj]
  repeated d observed seen h := orphansBy_append_of_subset h
  narrower d e observed h := sublistForall₂_orphansBy (hwithin d e h) observed

/-- **Orphans follow exactly from what is desired**, of applications and of services alike, whatever
is desired and whatever is observed, as often as it may be: each observation that is not desired is
left over once, in the order of the first occurrences and with the reason for it; what is repeated
changes nothing; and when more is desired, as when something is inserted, orphans are only taken
out, or get the other reason. Each of these is a field of `IsExactDiff`. -/
theorem orphans_exactDiff :
    IsExactDiff (fun d a => d.contains a = true) DesiredApplications.IsWithin
        DesiredApplications.IsReason DesiredApplications.orphans ∧
      IsExactDiff DesiredServices.Desires DesiredServices.IsWithin DesiredServices.IsReason
        DesiredServices.orphans ∧
      (∀ (d : DesiredApplications) (a : ApplicationId), d.IsWithin (d.insert a)) ∧
      ∀ (d : DesiredServices) (a : ApplicationId) (services : List ServiceName),
        d.IsWithin (d.insert a services) := by
  refine ⟨?_, ?_, DesiredApplications.isWithin_insert, DesiredServices.isWithin_insert⟩
  · exact isExactDiff_orphansBy (fun _ _ => DesiredApplications.classify_eq_none_iff)
      (fun _ _ _ => DesiredApplications.classify_eq_some_iff) fun _ _ h _ _ => h.classify
  · exact isExactDiff_orphansBy (fun _ _ => DesiredServices.classify_eq_none_iff)
      (fun _ _ _ => DesiredServices.classify_eq_some_iff) fun _ _ h _ _ => h.classify

/-- An application that has come back without services: its service is still left over, but no
longer for the application, and where it was. -/
example :
    let shop : ApplicationId := ⟨"shop", by decide⟩
    let bank : ApplicationId := ⟨"bank", by decide⟩
    let till : ServiceName := ⟨"till", by decide⟩
    let observed : List ServiceKey := [⟨shop, till⟩, ⟨bank, till⟩, ⟨shop, till⟩]
    DesiredServices.empty.orphans observed =
        [⟨⟨shop, till⟩, .applicationGone⟩, ⟨⟨bank, till⟩, .applicationGone⟩] ∧
      (DesiredServices.empty.insert shop []).orphans observed =
        [⟨⟨shop, till⟩, .serviceGone⟩, ⟨⟨bank, till⟩, .applicationGone⟩] := by
  decide +kernel

end FleetAgent
