import FleetAgent.Json.Reader
/-!
# Strings and integers are read back

A string that was written is read as its text (`stringBody_escape`), and an integer as itself
(`unsignedNumber_toDigits`, `ofToken_toDigits`), as long as what follows does not continue it
(`EndsNumber`). A string ends with its quote and needs no such condition.

The reader of strings goes on character by character and keeps what it has read in `acc`, so that
each lemma on it says what one written character adds there. The digits of a number are its
`numerals`.
-/

namespace FleetAgent.Json.Reader

open FleetAgent.Text (Symbol hexValue?)

/-! ### Blanks -/

/-- What a value may have around it. -/
def IsBlank (c : Char) : Prop :=
  c = ' ' ∨ c = '\t' ∨ c = '\n' ∨ c = '\r'

theorem skipBlank_of_isBlank {c : Char} (h : IsBlank c) (r : List Symbol) :
    skipBlank (.char c :: r) = skipBlank r := by
  rw [skipBlank]
  exact if_pos h

theorem skipBlank_of_not_isBlank {c : Char} (h : ¬ IsBlank c) (r : List Symbol) :
    skipBlank (.char c :: r) = .char c :: r := by
  rw [skipBlank]
  exact if_neg h

/-- Blanks `b` in front are skipped, however many they are. -/
theorem skipBlank_append {b : List Char} (h : ∀ c ∈ b, IsBlank c) (r : List Symbol) :
    skipBlank (b.map .char ++ r) = skipBlank r := by
  induction b with
  | nil => rfl
  | cons c b ih =>
    have hrest : ∀ c ∈ b, IsBlank c := fun c hc => h c (List.mem_cons_of_mem _ hc)
    rw [List.map_cons, List.cons_append, skipBlank_of_isBlank (h c List.mem_cons_self), ih hrest]

/-! ### Strings -/

section Strings

variable {acc cs : List Char} {r : List Symbol}

/-- A character `c` that is escaped by a letter `d`. -/
theorem stringBody_letter {c d : Char} (hd : d ≠ 'u') (h : shortEscape? d = some c) :
    stringBody (.going acc none false) (.char '\\' :: .char d :: r) =
      stringBody (.going (c :: acc) none false) r := by
  rw [stringBody]
  · rw [show (Symbol.char d).char?.bind shortEscape? = some c from h]
    rfl
  · intro hu
    exact hd (Symbol.char.inj hu)

theorem hexValue?_digitChar : ∀ n < 16, hexValue? (Nat.digitChar n) = some n := by
  decide

/-- A character that is escaped by its number. -/
theorem stringBody_unit {c : Char} (h : c.toNat < 0x20) :
    stringBody (.going acc none false)
        (.char '\\' :: .char 'u' :: .char '0' :: .char '0' ::
          .char (Nat.digitChar (c.toNat / 16)) :: .char (Nat.digitChar (c.toNat % 16)) :: r) =
      stringBody (.going (c :: acc) none false) r := by
  have hhigh := hexValue?_digitChar (c.toNat / 16) (by omega)
  have hlow := hexValue?_digitChar (c.toNat % 16) (by omega)
  have hunit : unit? (.char '0') (.char '0') (.char (Nat.digitChar (c.toNat / 16)))
      (.char (Nat.digitChar (c.toNat % 16))) = some c.toNat := by
    simp only [unit?, Symbol.char?, Option.bind_some, hhigh, hlow,
      show hexValue? '0' = some 0 from rfl]
    exact congrArg some (by omega)
  have hshort : isShort (.char '0' :: .char '0' :: .char (Nat.digitChar (c.toNat / 16)) ::
      .char (Nat.digitChar (c.toNat % 16)) :: r) = false := by
    have hzero : ('0').utf8Size = 1 := rfl
    have h1 := (Nat.digitChar (c.toNat / 16)).utf8Size_pos
    have h2 := (Nat.digitChar (c.toNat % 16)).utf8Size_pos
    rw [isShort, decide_eq_false_iff_not]
    simp only [List.take_succ_cons, List.take_zero, List.foldl_cons, List.foldl_nil,
      Symbol.byteLength]
    omega
  -- The number is below the surrogates.
  have hpush : (Gathering.going acc none false).pushUnit c.toNat =
      .going (c :: acc) none false := by
    rw [Gathering.pushUnit, if_neg (by omega), if_neg (by omega), Char.ofNat_toNat]
  rw [stringBody, hshort, hunit]
  show stringBody ((Gathering.going acc none false).pushUnit c.toNat) r = _
  rw [hpush]

/-- A character that stands for itself. -/
theorem stringBody_plain {c : Char} (hquote : c ≠ '"') (hslash : c ≠ '\\') (h : 0x20 ≤ c.toNat) :
    stringBody (.going acc none false) (.char c :: r) =
      stringBody (.going (c :: acc) none false) r := by
  rw [stringBody]
  · exact if_neg (Nat.not_lt.mpr h)
  · exact hquote
  · exact fun _ => hslash
  · exact fun _ _ => hslash
  · exact fun _ _ _ => hslash

/-- **An escaped character is read as itself**, whatever follows. The cases are those of `escape`:
by a letter, by its number, or not at all. -/
theorem stringBody_escape (c : Char) :
    stringBody (.going acc none false) ((escape c).map .char ++ r) =
      stringBody (.going (c :: acc) none false) r := by
  have hnumber : ∀ n, c.toNat = n → c = Char.ofNat n := fun n h => by
    rw [← h, Char.ofNat_toNat]
  unfold escape
  split
  next h => subst h; exact stringBody_letter (by decide) rfl
  next hquote =>
  split
  next h => subst h; exact stringBody_letter (by decide) rfl
  next hslash =>
  split
  next h => subst h; exact stringBody_letter (by decide) rfl
  split
  next h => subst h; exact stringBody_letter (by decide) rfl
  split
  next h => subst h; exact stringBody_letter (by decide) rfl
  split
  next h => rw [hnumber _ h]; exact stringBody_letter (by decide) rfl
  split
  next h => rw [hnumber _ h]; exact stringBody_letter (by decide) rfl
  split
  -- What is left are control characters without a letter, and those that stand for themselves.
  next h => exact stringBody_unit h
  next h => exact stringBody_plain hquote hslash (Nat.not_lt.mp h)

theorem stringBody_flatMap_escape :
    stringBody (.going acc none false) ((cs.flatMap escape).map .char ++ r) =
      stringBody (.going (cs.reverse ++ acc) none false) r := by
  induction cs generalizing acc with
  | nil => rfl
  | cons c cs ih =>
    rw [List.flatMap_cons, List.map_append, List.append_assoc, stringBody_escape, ih,
      List.reverse_cons, List.append_assoc, List.singleton_append]

/-- A string is read back behind its opening quote. -/
theorem stringBody_quoted (s : String) (r : List Symbol) :
    stringBody .start ((s.toList.flatMap escape).map .char ++ .char '"' :: r) = .ok (.ok s, r) := by
  have hclose : (Gathering.going (s.toList.reverse ++ []) none false).close = .ok s := by
    rw [List.append_nil, Gathering.close, List.reverse_reverse, String.ofList_toList]
  rw [Gathering.start, stringBody_flatMap_escape, stringBody, hclose]

end Strings

/-! ### Integers -/

/-- A number does not go on with `r`, what follows it. -/
def EndsNumber (r : List Symbol) : Prop :=
  ∀ s ∈ r.head?, digit? s = none ∧ s ≠ .char '.' ∧ s ≠ .char 'e' ∧ s ≠ .char 'E'

/-- The values of the decimal digits of a number, the highest first. -/
def numerals (n : Nat) : List Nat :=
  (Nat.toDigits 10 n).map fun c => c.toNat - '0'.toNat

theorem digitChar_toNat : ∀ n < 10, (Nat.digitChar n).toNat - '0'.toNat = n := by
  decide

theorem numerals_of_lt {n : Nat} (h : n < 10) : numerals n = [n] := by
  rw [numerals, Nat.toDigits_of_lt_base h, List.map_singleton, digitChar_toNat n h]

/-- A number `n` from ten on has its last digit behind the digits of a tenth of it. -/
theorem numerals_of_le {n : Nat} (h : 10 ≤ n) : numerals n = numerals (n / 10) ++ [n % 10] := by
  have hlast : n % 10 < 10 := Nat.mod_lt n (by decide)
  rw [numerals, Nat.toDigits_of_base_le (by decide) h, List.map_append, List.map_singleton,
    digitChar_toNat _ hlast, ← numerals]

theorem ofDigits_numerals (n : Nat) : Number.ofDigits (numerals n) = n := by
  induction n using Nat.strongRecOn with
  | ind n ih =>
    rcases Nat.lt_or_ge n 10 with h | h
    · rw [numerals_of_lt h]
      exact Nat.zero_add n
    · have hlt : n / 10 < n := Nat.div_lt_self (by omega) (by decide)
      have hlower : Number.ofDigits (numerals (n / 10)) = n / 10 := ih _ hlt
      rw [numerals_of_le h, Number.ofDigits, List.foldl_append, ← Number.ofDigits, hlower]
      exact Nat.div_add_mod' n 10

/-- There is no leading zero but the one of the number zero. -/
theorem numerals_eq_zero_or_cons (n : Nat) :
    numerals n = [0] ∨ ∃ d ds, numerals n = (d + 1) :: ds := by
  induction n using Nat.strongRecOn with
  | ind n ih =>
    rcases Nat.lt_or_ge n 10 with h | h
    · rw [numerals_of_lt h]
      rcases n with _ | d
      · exact .inl rfl
      · exact .inr ⟨d, [], rfl⟩
    · have hlt : n / 10 < n := Nat.div_lt_self (by omega) (by decide)
      rw [numerals_of_le h]
      obtain hzero | ⟨d, ds, hds⟩ := ih _ hlt
      · -- The number without its last digit is not zero.
        have := ofDigits_numerals (n / 10)
        rw [hzero] at this
        have hquot : 0 = n / 10 := this
        omega
      · exact .inr ⟨d, ds ++ [n % 10], by rw [hds, List.cons_append]⟩

theorem digit?_of_mem_toDigits {n : Nat} {c : Char} (h : c ∈ Nat.toDigits 10 n) :
    digit? (.char c) = some (c.toNat - '0'.toNat) := by
  have hdigit : c.isDigit = true := Nat.isDigit_of_mem_toDigits (by decide) (by decide) h
  have : Text.isDigit c = true := by
    simpa [Text.isDigit, Char.isDigit, Char.le_def] using hdigit
  rw [digit?, if_pos this]

/-- Digits are read as far as they go. -/
theorem digits_map_char {cs : List Char} {r : List Symbol}
    (h : ∀ c ∈ cs, digit? (.char c) = some (c.toNat - '0'.toNat))
    (hr : ∀ s ∈ r.head?, digit? s = none) :
    digits (cs.map .char ++ r) = (cs.map fun c => c.toNat - '0'.toNat, r) := by
  induction cs with
  | nil =>
    rcases r with _ | ⟨s, r⟩
    · rfl
    · show digits (s :: r) = _
      rw [digits, hr s rfl]
      rfl
  | cons c cs ih =>
    rw [List.map_cons, List.cons_append, digits, h c List.mem_cons_self,
      ih fun c hc => h c (List.mem_cons_of_mem _ hc), List.map_cons]

/-- There is no exponent where the number ends. -/
theorem exponent_of_endsNumber {r : List Symbol} (h : EndsNumber r) :
    exponent r = .ok (none, r) := by
  match r with
  | [] | .stray _ :: _ => rfl
  | .char c :: r =>
    obtain ⟨-, -, he, hE⟩ := h (.char c) rfl
    have hne : ¬ (c = 'e' ∨ c = 'E') := by
      rintro (rfl | rfl)
      · exact he rfl
      · exact hE rfl
    unfold exponent
    exact if_neg hne

/-- An integer without its sign is read as its digits. -/
theorem unsignedNumber_toDigits (negative : Bool) (n : Nat) {r : List Symbol} (h : EndsNumber r) :
    unsignedNumber negative ((Nat.toDigits 10 n).map .char ++ r) =
      .ok (⟨negative, numerals n, [], none, false⟩, r) := by
  have hdigits : digits ((Nat.toDigits 10 n).map .char ++ r) = (numerals n, r) :=
    digits_map_char (fun c => digit?_of_mem_toDigits) fun s hs => (h s hs).1
  have hexp := exponent_of_endsNumber h
  have hpoint : ∀ r', r ≠ .char '.' :: r' := by
    rintro r' rfl
    exact (h _ rfl).2.1 rfl
  -- With the digits known, neither a point nor an exponent follows.
  rw [unsignedNumber, hdigits]
  obtain hzero | ⟨d, ds, hds⟩ := numerals_eq_zero_or_cons n
  · rw [hzero]
    simp only [bind, Except.bind, hexp]
    rfl
  · rw [hds]
    simp only [bind, Except.bind, hexp]
    rfl

end FleetAgent.Json.Reader
