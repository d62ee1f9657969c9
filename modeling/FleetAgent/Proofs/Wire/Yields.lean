import FleetAgent.Wire.Decoder
/-!
# What a decoder gives

A decoder starts from the notes taken so far, ends with these and its own, and either gives a value
or fails. `Decoder.Yields s a t` and `Decoder.Fails s e t` are the two ways to end, with the notes
`s` before and `t` behind; they exclude each other (`Yields.not_fails`).

Each building block of decoders has a lemma that says when it yields: `yields_pure`, `yields_bind`,
`yields_map`, `yields_taking` and `yields_tryCatch`, and `not_yields_throw` and
`not_yields_mismatch` for the two that never do. They are the only ones that look into the monad.
Lemmas on records and lists take a decoder apart by them.

The notes do not matter to most statements: `Decoder.CanYield a` says that `a` comes out for some
notes, and `Decoder.Succeeds` that a value comes out whatever was noted before. The latter is put
together by `Succeeds.bind`, whose second decoder need only succeed on what the first one can yield.
-/

namespace FleetAgent.Wire

open FleetAgent.Json (Fault Node)

namespace Decoder

variable {α β : Type} {s t u : List Skipped} {a b : α}

/-- Started from the notes `s`, the decoder `d` gives the value `a` and ends with the notes `t`. -/
def Yields (d : Decoder α) (s : List Skipped) (a : α) (t : List Skipped) : Prop :=
  d.run.run s = (.ok a, t)

/-- Started from the notes `s`, the decoder `d` fails with `e` and ends with the notes `t`. They are
kept, for a list that leaves an element out keeps what the element noted before it failed. -/
def Fails (d : Decoder α) (s : List Skipped) (e : DecodeError) (t : List Skipped) : Prop :=
  d.run.run s = (.error e, t)

/-- The decoder `d` gives the value `a` for some notes before and behind. -/
def CanYield (d : Decoder α) (a : α) : Prop :=
  ∃ s t, d.Yields s a t

/-- The decoder `d` gives a value whatever was noted before. The value may depend on the notes as
far as this says. -/
def Succeeds (d : Decoder α) : Prop :=
  ∀ s, ∃ a t, d.Yields s a t

/-- A decoder that gives `a` from the notes `s` can yield `a`. -/
theorem Yields.canYield {d : Decoder α} (h : d.Yields s a t) : d.CanYield a :=
  ⟨s, t, h⟩

/-- A decoder gives a value or fails, and not both. -/
theorem Yields.not_fails {d : Decoder α} (h : d.Yields s a t) {e : DecodeError} :
    ¬ d.Fails s e u := by
  intro hf
  rw [Fails, show d.run.run s = (.ok a, t) from h] at hf
  cases hf

/-! ### Building blocks -/

@[simp]
theorem yields_pure : (pure a : Decoder α).Yields s b t ↔ a = b ∧ s = t := by
  constructor
  · intro h
    cases h
    exact ⟨rfl, rfl⟩
  · rintro ⟨rfl, rfl⟩
    rfl

/-- A sequence runs `f` on the value and the notes of `x`, and ends with the failure of `x` if it
fails. This is the definition of the monad, with the pair of outcome and notes matched on as a
whole. -/
theorem run_bind (x : Decoder α) (f : α → Decoder β) (s : List Skipped) :
    (x >>= f).run.run s = match x.run.run s with
      | (.ok a, t) => (f a).run.run t
      | (.error e, t) => (.error e, t) := by
  -- The monad takes the parts of a pair where the statement matches on it.
  change ExceptT.bindCont f (x.run.run s).1 (x.run.run s).2 = _
  rcases x.run.run s with ⟨e | a, t⟩ <;> rfl

/-- A sequence gives `c` exactly if the first decoder gives some `a` and notes `t`, from which the
second one gives `c`. -/
@[simp]
theorem yields_bind {x : Decoder α} {f : α → Decoder β} {c : β} :
    (x >>= f).Yields s c u ↔ ∃ a t, x.Yields s a t ∧ (f a).Yields t c u := by
  rw [Yields, run_bind]
  constructor
  · intro h
    rcases hx : x.run.run s with ⟨e | a, t⟩
    · rw [hx] at h
      cases h
    · rw [hx] at h
      exact ⟨a, t, hx, h⟩
  · rintro ⟨a, t, hx, hf⟩
    rw [show x.run.run s = (.ok a, t) from hx]
    exact hf

/-- A decoder that is mapped by `g` gives what `g` makes of its values, with the same notes. -/
@[simp]
theorem yields_map {x : Decoder α} {g : α → β} {c : β} :
    (g <$> x).Yields s c t ↔ ∃ a, x.Yields s a t ∧ g a = c := by
  rw [map_eq_pure_bind, yields_bind]
  constructor
  · rintro ⟨a, u, hx, hg⟩
    obtain ⟨hc, rfl⟩ := yields_pure.mp hg
    exact ⟨a, hx, hc⟩
  · rintro ⟨a, hx, rfl⟩
    exact ⟨a, t, hx, yields_pure.mpr ⟨rfl, rfl⟩⟩

/-- A decoder that is mapped fails as the decoder does: the function `g` is never reached then. -/
theorem Fails.of_map {x : Decoder α} {g : α → β} {e : DecodeError} (h : (g <$> x).Fails s e t) :
    x.Fails s e t := by
  rw [Fails, map_eq_pure_bind, run_bind] at h
  rcases hx : x.run.run s with ⟨e' | a, u⟩
  · rw [hx] at h
    cases h
    exact hx
  · rw [hx] at h
    cases h

@[simp]
theorem not_yields_throw (e : DecodeError) : ¬ (throw e : Decoder α).Yields s a t := by
  intro h
  cases h

@[simp]
theorem not_yields_mismatch (m : Mismatch) : ¬ (mismatch m : Decoder α).Yields s a t :=
  not_yields_throw _

/-- A result that may be a fault of the text is taken exactly if it is a value, and without a
note. -/
@[simp]
theorem yields_taking {r : Except Fault α} : (taking r).Yields s a t ↔ r = .ok a ∧ s = t := by
  cases r with
  | ok b =>
    rw [taking, yields_pure]
    exact and_congr_left fun _ => ⟨congrArg _, Except.ok.inj⟩
  | error f =>
    rw [taking]
    exact ⟨fun h => absurd h (not_yields_throw _), fun h => nomatch h.1⟩

/-- Where a failure is caught by `f`, the handler starts from the notes that the decoder ended
with. -/
theorem run_tryCatch (x : Decoder α) (f : DecodeError → Decoder α) (s : List Skipped) :
    (tryCatch x f).run.run s = match x.run.run s with
      | (.ok a, t) => (.ok a, t)
      | (.error e, t) => (f e).run.run t := by
  simp only [tryCatch, tryCatchThe, MonadExceptOf.tryCatch, ExceptT.tryCatch, ExceptT.run_mk,
    StateT.run_bind]
  change (x.run.run s >>= _ : Id _) = _
  rcases x.run.run s with ⟨e | a, t⟩ <;> rfl

/-- A decoder whose failures are caught gives what it gives itself, or fails and gives what the
handler gives. The notes `t` of the failure are those that the handler starts from, so none of them
is lost. -/
theorem yields_tryCatch {x : Decoder α} {f : DecodeError → Decoder α} :
    (tryCatch x f).Yields s a u ↔
      x.Yields s a u ∨ ∃ e t, x.Fails s e t ∧ (f e).Yields t a u := by
  rw [Yields, run_tryCatch]
  constructor
  · intro h
    rcases hx : x.run.run s with ⟨e | b, t⟩
    · rw [hx] at h
      exact .inr ⟨e, t, hx, h⟩
    · rw [hx] at h
      exact .inl (hx.trans h)
  · rintro (hx | ⟨e, t, hx, hf⟩)
    · rw [show x.run.run s = (.ok a, u) from hx]
    · rw [show x.run.run s = (.error e, t) from hx]
      exact hf

/-! ### Decoders that succeed -/

theorem succeeds_pure : (pure a : Decoder α).Succeeds :=
  fun s => ⟨a, s, yields_pure.mpr ⟨rfl, rfl⟩⟩

theorem succeeds_taking {r : Except Fault α} (h : r = .ok a) : (taking r).Succeeds :=
  fun s => ⟨a, s, yields_taking.mpr ⟨h, rfl⟩⟩

/-- A sequence succeeds if the first decoder does, and the second one for every value that the first
can yield. -/
theorem Succeeds.bind {x : Decoder α} {f : α → Decoder β} (hx : x.Succeeds)
    (hf : ∀ a, x.CanYield a → (f a).Succeeds) : (x >>= f).Succeeds := by
  intro s
  obtain ⟨a, t, ha⟩ := hx s
  obtain ⟨b, u, hb⟩ := hf a ha.canYield t
  exact ⟨b, u, yields_bind.mpr ⟨a, t, ha, hb⟩⟩

/-- A decoder that succeeds still does when its values are mapped by `g`. -/
theorem Succeeds.map {x : Decoder α} (hx : x.Succeeds) (g : α → β) : (g <$> x).Succeeds := by
  rw [map_eq_pure_bind]
  exact hx.bind fun _ _ => succeeds_pure

end Decoder

end FleetAgent.Wire
