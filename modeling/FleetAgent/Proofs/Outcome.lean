/-!
# What steps that can fail come to

A step behind another one comes to a value only if the first does, and then on that value
(`Except.bind_eq_ok_iff`), and to an error if one of them does (`Except.bind_eq_error_iff`). Telling
its error in other words changes nothing of that (`Except.mapError_eq_ok_iff`). What has gone wrong,
if something has, is `Except.error?`.
-/

namespace Except

variable {ε α β : Type}

/-- A step behind another comes to `b` exactly if the first comes to some `a`, and the second to `b`
on it. -/
theorem bind_eq_ok_iff {x : Except ε α} {f : α → Except ε β} {b : β} :
    x >>= f = .ok b ↔ ∃ a, x = .ok a ∧ f a = .ok b := by
  cases x with
  | error e =>
    constructor
    · intro h
      cases h
    · rintro ⟨a, ha, -⟩
      cases ha
  | ok a =>
    constructor
    · intro h
      exact ⟨a, rfl, h⟩
    · rintro ⟨_, ha, h⟩
      rw [← Except.ok.inj ha] at h
      exact h

/-- It comes to the error `e` exactly if the first does, or the second on what the first comes
to. -/
theorem bind_eq_error_iff {x : Except ε α} {f : α → Except ε β} {e : ε} :
    x >>= f = .error e ↔ x = .error e ∨ ∃ a, x = .ok a ∧ f a = .error e := by
  cases x with
  | error e' =>
    constructor
    · intro h
      exact .inl (congrArg _ (Except.error.inj h))
    · rintro (h | ⟨a, ha, -⟩)
      · exact congrArg _ (Except.error.inj h)
      · cases ha
  | ok a =>
    constructor
    · intro h
      exact .inr ⟨a, rfl, h⟩
    · rintro (h | ⟨_, ha, h⟩)
      · cases h
      · rw [← Except.ok.inj ha] at h
        exact h

theorem mapError_eq_ok_iff {ε' : Type} {f : ε → ε'} {x : Except ε α} {a : α} :
    x.mapError f = .ok a ↔ x = .ok a := by
  cases x with
  | error e =>
    constructor <;> intro h <;> cases h
  | ok b =>
    constructor <;> intro h <;> exact congrArg _ (Except.ok.inj h)

/-- The error that it has come to, if it has come to one. -/
def error? : Except ε α → Option ε
  | .ok _ => none
  | .error e => some e

@[simp] theorem error?_ok (a : α) : (.ok a : Except ε α).error? = none := rfl

@[simp] theorem error?_error (e : ε) : (.error e : Except ε α).error? = some e := rfl

end Except
