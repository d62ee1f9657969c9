/-!
# Base64

The standard alphabet with padding. Three bytes become four digits; a last group of one or two
bytes is filled with zero bits and padded with `=`. `decode?` reads back exactly what `encode`
writes (`decode?_encode`): a digit out of the alphabet, a group that is cut short, and filling bits
other than zero are refused.
-/

namespace FleetAgent.Text.Base64

/-- The digit of the number `n` below 64: capital letters, small letters, digits, and two more. -/
def digit (n : Nat) : Char :=
  if n < 26 then Char.ofNat (65 + n)
  else if n < 52 then Char.ofNat (97 + (n - 26))
  else if n < 62 then Char.ofNat (48 + (n - 52))
  else if n = 62 then '+' else '/'

/-- The number of the digit `c`; padding is none. -/
def value? (c : Char) : Option Nat :=
  if 'A' ≤ c ∧ c ≤ 'Z' then some (c.toNat - 65)
  else if 'a' ≤ c ∧ c ≤ 'z' then some (c.toNat - 97 + 26)
  else if '0' ≤ c ∧ c ≤ '9' then some (c.toNat - 48 + 52)
  else if c = '+' then some 62
  else if c = '/' then some 63
  else none

/-- The digits of a byte string, four for each group of three bytes and for the rest. -/
def encode : List UInt8 → List Char
  | [] => []
  | [a] => [digit (a.toNat / 4), digit (a.toNat % 4 * 16), '=', '=']
  | [a, b] =>
    [digit (a.toNat / 4), digit (a.toNat % 4 * 16 + b.toNat / 16), digit (b.toNat % 16 * 4), '=']
  | a :: b :: c :: r =>
    digit (a.toNat / 4) :: digit (a.toNat % 4 * 16 + b.toNat / 16) ::
      digit (b.toNat % 16 * 4 + c.toNat / 64) :: digit (c.toNat % 64) :: encode r

/-- The bytes that a text of digits stands for, if it is one that `encode` writes. -/
def decode? : List Char → Option (List UInt8)
  | [] => some []
  | [w, x, '=', '='] => do
    let w ← value? w
    let x ← value? x
    if x % 16 = 0 then some [UInt8.ofNat (w * 4 + x / 16)] else none
  | [w, x, y, '='] => do
    let w ← value? w
    let x ← value? x
    let y ← value? y
    if y % 4 = 0 then
      some [UInt8.ofNat (w * 4 + x / 16), UInt8.ofNat (x % 16 * 16 + y / 4)]
    else none
  | w :: x :: y :: z :: r => do
    let w ← value? w
    let x ← value? x
    let y ← value? y
    let z ← value? z
    let rest ← decode? r
    some (UInt8.ofNat (w * 4 + x / 16) :: UInt8.ofNat (x % 16 * 16 + y / 4) ::
      UInt8.ofNat (y % 4 * 64 + z) :: rest)
  | _ => none

/-! ### What was written is read back -/

theorem value?_digit {n : Nat} (h : n < 64) : value? (digit n) = some n := by
  revert n
  decide

/-- A digit can be seen, and does not pad. -/
theorem digit_bounds {n : Nat} (h : n < 64) :
    0x20 < (digit n).toNat ∧ (digit n).toNat < 0x7F ∧ digit n ≠ '=' := by
  revert n
  decide

/-- The first byte of a group is read back from the first two digits. -/
theorem first_byte (a : UInt8) {n : Nat} (h : n < 16) :
    UInt8.ofNat (a.toNat / 4 * 4 + (a.toNat % 4 * 16 + n) / 16) = a := by
  have hbyte : a.toNat / 4 * 4 + (a.toNat % 4 * 16 + n) / 16 = a.toNat := by omega
  rw [hbyte, UInt8.ofNat_toNat]

/-- The second byte of a group is read back from the second and the third digit. -/
theorem second_byte (a b : UInt8) {n : Nat} (h : n < 4) :
    UInt8.ofNat ((a.toNat % 4 * 16 + b.toNat / 16) % 16 * 16 + (b.toNat % 16 * 4 + n) / 4) = b := by
  have hb := b.toNat_lt
  have hbyte : (a.toNat % 4 * 16 + b.toNat / 16) % 16 * 16 + (b.toNat % 16 * 4 + n) / 4 =
      b.toNat := by omega
  rw [hbyte, UInt8.ofNat_toNat]

/-- The third byte of a group is read back from the last two digits. -/
theorem third_byte (b c : UInt8) :
    UInt8.ofNat ((b.toNat % 16 * 4 + c.toNat / 64) % 4 * 64 + c.toNat % 64) = c := by
  have hc := c.toNat_lt
  have hbyte : (b.toNat % 16 * 4 + c.toNat / 64) % 4 * 64 + c.toNat % 64 = c.toNat := by omega
  rw [hbyte, UInt8.ofNat_toNat]

/-- **The bytes are read back from their digits.** -/
theorem decode?_encode (bytes : List UInt8) : decode? (encode bytes) = some bytes := by
  fun_induction encode bytes with
  | case1 => rfl
  | case2 a =>
    have ha := a.toNat_lt
    have hfill : a.toNat % 4 * 16 % 16 = 0 := Nat.mul_mod_left _ _
    have hfirst := first_byte a (n := 0) (by omega)
    rw [decode?, value?_digit (by omega), value?_digit (by omega)]
    show (if _ then _ else _) = _
    rw [if_pos hfill]
    exact congrArg (fun a => some [a]) hfirst
  | case3 a b =>
    have ha := a.toNat_lt
    have hb := b.toNat_lt
    have hpad := (digit_bounds (show b.toNat % 16 * 4 < 64 by omega)).2.2
    have hfill : b.toNat % 16 * 4 % 4 = 0 := Nat.mul_mod_left _ _
    have hfirst := first_byte a (show b.toNat / 16 < 16 by omega)
    have hsecond := second_byte a b (n := 0) (by omega)
    rw [decode?, value?_digit (by omega), value?_digit (by omega), value?_digit (by omega)]
    · show (if _ then _ else _) = _
      rw [if_pos hfill, hfirst]
      exact congrArg (fun b => some [a, b]) hsecond
    · exact hpad
  | case4 a b c r ih =>
    have ha := a.toNat_lt
    have hb := b.toNat_lt
    have hc := c.toNat_lt
    have hpad := (digit_bounds (show c.toNat % 64 < 64 by omega)).2.2
    have hfirst := first_byte a (show b.toNat / 16 < 16 by omega)
    have hsecond := second_byte a b (show c.toNat / 64 < 4 by omega)
    have hthird := third_byte b c
    rw [decode?, value?_digit (by omega), value?_digit (by omega), value?_digit (by omega),
      value?_digit (by omega), ih]
    · show some _ = _
      rw [hfirst, hsecond, hthird]
    · exact fun _ h _ => absurd h hpad
    · exact fun h _ => absurd h hpad

/-- What is written can be seen. -/
theorem of_mem_encode {bytes : List UInt8} {c : Char} (h : c ∈ encode bytes) :
    0x20 < c.toNat ∧ c.toNat < 0x7F := by
  have hdigit : ∀ {n : Nat}, n < 64 → c = digit n → 0x20 < c.toNat ∧ c.toNat < 0x7F := by
    rintro n hn rfl
    exact ⟨(digit_bounds hn).1, (digit_bounds hn).2.1⟩
  have hpad : c = '=' → 0x20 < c.toNat ∧ c.toNat < 0x7F := by
    rintro rfl
    decide
  fun_induction encode bytes with
  | case1 => cases h
  | case2 a =>
    have ha := a.toNat_lt
    simp only [List.mem_cons, List.not_mem_nil, or_false] at h
    obtain h | h | h | h := h
    · exact hdigit (by omega) h
    · exact hdigit (by omega) h
    · exact hpad h
    · exact hpad h
  | case3 a b =>
    have ha := a.toNat_lt
    have hb := b.toNat_lt
    simp only [List.mem_cons, List.not_mem_nil, or_false] at h
    obtain h | h | h | h := h
    · exact hdigit (by omega) h
    · exact hdigit (by omega) h
    · exact hdigit (by omega) h
    · exact hpad h
  | case4 a b c' r ih =>
    have ha := a.toNat_lt
    have hb := b.toNat_lt
    have hc := c'.toNat_lt
    simp only [List.mem_cons] at h
    obtain h | h | h | h | h := h
    · exact hdigit (by omega) h
    · exact hdigit (by omega) h
    · exact hdigit (by omega) h
    · exact hdigit (by omega) h
    · exact ih h
end FleetAgent.Text.Base64
