import FleetAgent.Collector.Loop
/-!
# What happens to a loop

A loop is not alone: bundles are stored, the shutdown signal changes, time goes by, and deletions
end, all at any moment between two of its steps. `LoopWorld` is a loop with the surroundings it
sees; `LoopWorld.step?` has one case for each `LoopEvent`, everything that can happen next.
`LoopWorld.run?` follows a list of events and gives the *history* `t : History kind` of the run: the
events and the effects of the loop, in the order in which they took place, each event in front of
what the loop did about it.

What is said of a run is said of its history alone, in terms of what stands in front of what: a
statement about the moment at which `x` took place is one about `front` in `t = front ++ x :: back`.
-/

namespace FleetAgent

open Controller (ClientError)

/-! ### Events -/

/-- What can happen to a loop or around it. -/
inductive LoopEvent where
  /-- A bundle is stored. -/
  | store (b : Bundle)
  /-- The shutdown signal is triggered. -/
  | trigger
  /-- The owner of the shutdown signal goes away. -/
  | drop
  /-- Time goes by, in milliseconds. -/
  | elapse (duration : Nat)
  /-- The loop takes a step of its own. -/
  | advance
  /-- The deletion that is under way ends, in any way. -/
  | finish (result : Except ClientError Unit)
  /-- The loop is aborted. -/
  | abort

/-- Whether a deletion is under way. -/
def LoopPhase.isPassing {κ : Type} : LoopPhase κ → Bool
  | .passing _ _ _ => true
  | _ => false

/-- A loop and what it sees. -/
structure LoopWorld (kind : ObservationKind) where
  /-- The loop. -/
  loop : Loop kind
  /-- What it sees. -/
  around : Surroundings

namespace LoopWorld

variable {kind : ObservationKind}

/-- A loop that has not been run, before any bundle was stored and any shutdown. -/
def create (kind : ObservationKind) (config : CollectorConfig) (context : Context)
    (now : Moment) : LoopWorld kind :=
  ⟨.create kind config context, ⟨now, .fresh, .empty⟩⟩

/-- The world after an event, and what the loop does about it. An event that cannot happen gives
`none`: a deletion can end only if one is under way, and the loop may have no step of its own to
take. -/
def step? (w : LoopWorld kind) :
    LoopEvent → Option (LoopWorld kind × List (LoopEffect kind.Key))
  | .store b =>
    some ({ w with around := { w.around with snapshot := w.around.snapshot.store b } }, [])
  | .trigger => some ({ w with around := { w.around with signal := w.around.signal.trigger } }, [])
  | .drop => some ({ w with around := { w.around with signal := w.around.signal.drop } }, [])
  | .elapse duration =>
    some ({ w with around := { w.around with now := w.around.now + duration } }, [])
  | .advance => (w.loop.advance? w.around).map fun (loop, effects) => ({ w with loop }, effects)
  | .finish result =>
    if w.loop.phase.isPassing then
      let (loop, effects) := w.loop.finish w.around result
      some ({ w with loop }, effects)
    else none
  | .abort =>
    let (loop, effects) := w.loop.abort
    some ({ w with loop }, effects)

end LoopWorld

/-! ### Histories -/

/-- Something that took place. -/
inductive Happening (kind : ObservationKind) where
  /-- An event. -/
  | event (e : LoopEvent)
  /-- Something that the loop did. -/
  | effect (e : LoopEffect kind.Key)

/-- What took place, in order. -/
abbrev History (kind : ObservationKind) := List (Happening kind)

/-- The world after events, and what took place: `t` before them, and the events with what the loop
did about them behind it. `none` if one of the events cannot happen. -/
def LoopWorld.run? {kind : ObservationKind} (w : LoopWorld kind) (t : History kind) :
    List LoopEvent → Option (LoopWorld kind × History kind)
  | [] => some (w, t)
  | e :: rest =>
    (w.step? e).bind fun (v, effects) =>
      v.run? (t ++ [.event e] ++ effects.map .effect) rest

namespace History

variable {kind : ObservationKind}

/-- The observations whose deletion was started, in order. -/
def started (t : History kind) : List kind.Key :=
  t.filterMap fun
    | .effect (.delete key _) => some key
    | _ => none

/-- How many deletions have ended. -/
def ended (t : History kind) : Nat :=
  t.countP fun
    | .event (.finish _) => true
    | _ => false

/-- Every deletion that was started has ended: there are as many ends as starts. -/
def AllEnded (t : History kind) : Prop :=
  t.started.length = t.ended

/-- The bundle `b` was stored in `t`, and none after it. -/
def LastStored (t : History kind) (b : Bundle) : Prop :=
  ∃ p q : History kind, t = p ++ .event (.store b) :: q ∧ ∀ c, .event (.store c) ∉ q

/-- The shutdown signal was triggered, or its owner has gone. -/
def Raised (t : History kind) : Prop :=
  .event .trigger ∈ t ∨ .event .drop ∈ t

/-- The last pass that was started is one over the bundle `b`, which was the one stored last at that
moment; in this pass the deletions of `keys` were started, in this order. -/
def InPass (t : History kind) (b : Bundle) (keys : List kind.Key) : Prop :=
  ∃ p q : History kind, t = p ++ .effect (.load b) :: q ∧ (∀ c, .effect (.load c) ∉ q) ∧
    LastStored p b ∧ started q = keys

/-- The states that were published, in order. -/
def published (t : History kind) : List LoopState :=
  t.filterMap fun
    | .effect (.publish s) => some s
    | _ => none

/-- The published state as it was from the creation of the loop on: the initial one, and then those
of `published`. -/
def states (t : History kind) : List LoopState :=
  Loop.initialState :: t.published

/-- Everything that took place stands behind what it has to: `p front x` holds for each `x` and what
stands in front of it. -/
def Throughout (p : History kind → Happening kind → Prop) (t : History kind) : Prop :=
  ∀ front x back, t = front ++ x :: back → p front x

end History

/-- Whether something is neither the start of a pass nor that of a deletion. -/
def Happening.IsQuiet {kind : ObservationKind} : Happening kind → Prop
  | .effect (.load _) | .effect (.delete _ _) => False
  | _ => True

/-! ### Longer histories -/

namespace History

variable {kind : ObservationKind} {t : History kind} {x : Happening kind}

@[simp]
theorem started_append (s t : History kind) : started (s ++ t) = started s ++ started t :=
  List.filterMap_append

@[simp]
theorem ended_append (s t : History kind) : ended (s ++ t) = ended s + ended t :=
  List.countP_append

@[simp]
theorem published_append (s t : History kind) : published (s ++ t) = published s ++ published t :=
  List.filterMap_append

/-- A history is in order as before with one more thing `x` at its end, if `x` is in order behind
it. -/
theorem Throughout.concat {p : History kind → Happening kind → Prop} (h : Throughout p t)
    (hx : p t x) : Throughout p (t ++ [x]) := by
  intro front y back hy
  rcases List.eq_nil_or_concat back with rfl | ⟨back, z, rfl⟩
  · obtain ⟨rfl, hxy⟩ := List.append_inj' hy rfl
    obtain rfl := List.singleton_inj.mp hxy
    exact hx
  · rw [List.concat_eq_append, ← List.cons_append, ← List.append_assoc] at hy
    obtain ⟨rfl, -⟩ := List.append_inj' hy rfl
    exact h front y back rfl

/-- What is in order at once may take place one after the other, if `p` does not mind what takes
place in between (`hmore`). -/
theorem Throughout.append {p : History kind → Happening kind → Prop} (h : Throughout p t)
    (hmore : ∀ front more y, p front y → p (front ++ more) y) {s : History kind}
    (hs : ∀ x ∈ s, p t x) : Throughout p (t ++ s) := by
  induction s generalizing t with
  | nil => rwa [List.append_nil]
  | cons x s ih =>
    rw [← List.singleton_append, ← List.append_assoc]
    refine ih (h.concat (hs x List.mem_cons_self)) fun y hy => ?_
    exact hmore _ _ _ (hs y (List.mem_cons_of_mem _ hy))

theorem started_of_isQuiet (h : x.IsQuiet) : started [x] = [] := by
  cases x with
  | event e => rfl
  | effect e => cases e <;> first | rfl | exact absurd h id

theorem ended_effects (effects : List (LoopEffect kind.Key)) :
    ended (effects.map .effect : History kind) = 0 := by
  rw [ended, List.countP_map]
  exact List.countP_eq_zero.mpr fun _ _ => Bool.false_ne_true

theorem lastStored_store (t : History kind) (b : Bundle) :
    LastStored (t ++ [.event (.store b)]) b :=
  ⟨t, [], rfl, fun _ => List.not_mem_nil⟩

/-- The bundle `b` stays the last one as long as none is stored. -/
theorem LastStored.append {b : Bundle} (h : LastStored t b) {s : History kind}
    (hs : ∀ c, .event (.store c) ∉ s) : LastStored (t ++ s) b := by
  obtain ⟨p, q, rfl, hq⟩ := h
  refine ⟨p, q ++ s, by simp, fun c hc => ?_⟩
  rcases List.mem_append.mp hc with hc | hc
  · exact hq c hc
  · exact hs c hc

/-- A pass goes on with the same `keys` when something quiet takes place. -/
theorem InPass.append_isQuiet {b : Bundle} {keys : List kind.Key} (h : InPass t b keys)
    (hx : x.IsQuiet) : InPass (t ++ [x]) b keys := by
  obtain ⟨p, q, rfl, hq, hb, hkeys⟩ := h
  refine ⟨p, q ++ [x], by simp, fun c hc => ?_, hb, ?_⟩
  · rcases List.mem_append.mp hc with hc | hc
    · exact hq c hc
    · rw [List.mem_singleton] at hc
      rw [← hc] at hx
      exact hx
  · rw [started_append, started_of_isQuiet hx, List.append_nil, hkeys]

/-- A pass goes on with one deletion more, that of `key`. -/
theorem InPass.append_delete {b : Bundle} {keys : List kind.Key} (h : InPass t b keys)
    (key : kind.Key) (ctx : Context) :
    InPass (t ++ [.effect (.delete key ctx)]) b (keys ++ [key]) := by
  obtain ⟨p, q, rfl, hq, hb, hkeys⟩ := h
  refine ⟨p, q ++ [.effect (.delete key ctx)], by simp, fun c hc => ?_, hb, ?_⟩
  · rcases List.mem_append.mp hc with hc | hc
    · exact hq c hc
    · simp at hc
  · rw [started_append, hkeys]
    rfl

/-- A bundle `b` that is loaded begins a pass in which nothing was tried yet, if it was the last one
stored. -/
theorem inPass_load {b : Bundle} (h : LastStored t b) : InPass (t ++ [.effect (.load b)]) b [] :=
  ⟨t, [], rfl, fun _ => List.not_mem_nil, h, rfl⟩

end History

end FleetAgent
