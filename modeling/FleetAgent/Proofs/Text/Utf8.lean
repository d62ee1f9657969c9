import FleetAgent.Proofs.Url.Encoding
import FleetAgent.Text.Utf8
/-!
# The bytes of a text are read as its characters

The reader of bytes is a machine over single bytes: `symbolsFrom none` is at a start, and
`symbolsFrom (some _)` owes bytes of a character it has begun. On the bytes of a character it goes
from its start back to its start and gives the character (`symbolsFrom_utf8EncodeChar`), so the
symbols of an encoded text are its characters and no strays (`symbols_encode`).

There is one lemma for each length of a character, from two bytes to four, with the character given
as its number `n`.
-/

namespace FleetAgent.Text.Utf8

variable {b : UInt8} {bs : List UInt8} {owed lo hi bits size n : Nat}

/-! ### One byte -/

theorem toNat_ofNat_of_lt (h : n < 256) : (UInt8.ofNat n).toNat = n := by
  rw [UInt8.toNat_ofNat']
  exact Nat.mod_eq_of_lt h

theorem first_of_lt (h : b.toNat < 0x80) : first b = .inl (.char (Char.ofNat b.toNat)) := by
  rw [first]
  exact if_pos h

theorem first_of_two (hlo : 0xC2 ≤ b.toNat) (hhi : b.toNat < 0xE0) :
    first b = .inr ⟨1, 0x80, 0xBF, b.toNat - 0xC0, 1⟩ := by
  unfold first
  rw [if_neg (by omega), if_neg (by omega), if_pos hhi]

/-- The first byte `b` of a character of three. The two bounds are for what could be written in two
bytes, and for surrogates. -/
theorem first_of_three (hlo : 0xE0 ≤ b.toNat) (hhi : b.toNat < 0xF0) :
    first b = .inr ⟨2, if b.toNat = 0xE0 then 0xA0 else 0x80,
      if b.toNat = 0xED then 0x9F else 0xBF, b.toNat - 0xE0, 1⟩ := by
  unfold first
  rw [if_neg (by omega), if_neg (by omega), if_neg (by omega), if_pos hhi]

/-- The first byte `b` of a character of four. The two bounds are for what could be written in three
bytes, and for what lies behind the last character. -/
theorem first_of_four (hlo : 0xF0 ≤ b.toNat) (hhi : b.toNat < 0xF5) :
    first b = .inr ⟨3, if b.toNat = 0xF0 then 0x90 else 0x80,
      if b.toNat = 0xF4 then 0x8F else 0xBF, b.toNat - 0xF0, 1⟩ := by
  unfold first
  rw [if_neg (by omega), if_neg (by omega), if_neg (by omega), if_neg (by omega), if_pos hhi]

/-- A byte `b` that may come next and is the last one ends the character. -/
theorem symbolsFrom_last (hlo : lo ≤ b.toNat) (hhi : b.toNat ≤ hi) :
    symbolsFrom (some ⟨1, lo, hi, bits, size⟩) (b :: bs) =
      .char (Char.ofNat (bits * 64 + (b.toNat - 0x80))) :: symbolsFrom none bs := by
  rw [symbolsFrom]
  exact if_pos ⟨hlo, hhi⟩

/-- A byte `b` that may come next and is not the last one is collected: its six bits go behind the
others. -/
theorem symbolsFrom_more (hlo : lo ≤ b.toNat) (hhi : b.toNat ≤ hi) :
    symbolsFrom (some ⟨owed + 2, lo, hi, bits, size⟩) (b :: bs) =
      symbolsFrom (some ⟨owed + 1, 0x80, 0xBF, bits * 64 + (b.toNat - 0x80), size + 1⟩) bs := by
  have howed : ¬ owed + 2 ≤ 1 := by omega
  rw [symbolsFrom, if_pos ⟨hlo, hhi⟩]
  exact if_neg howed

/-! ### One character -/

theorem symbolsFrom_two (h : 0x80 ≤ n) (hn : n < 0x800) :
    symbolsFrom none (UInt8.ofNat (n / 64 % 32 + 192) :: UInt8.ofNat (n % 64 + 128) :: bs) =
      .char (Char.ofNat n) :: symbolsFrom none bs := by
  have hb : (UInt8.ofNat (n / 64 % 32 + 192)).toNat = n / 64 + 192 := by
    rw [toNat_ofNat_of_lt] <;> omega
  have hc : (UInt8.ofNat (n % 64 + 128)).toNat = n % 64 + 128 := toNat_ofNat_of_lt (by omega)
  rw [symbolsFrom, first_of_two (by omega) (by omega)]
  dsimp only
  rw [symbolsFrom_last (by omega) (by omega)]
  have hbits : (n / 64 + 192 - 192) * 64 + (n % 64 + 128 - 128) = n := by omega
  rw [hb, hc, hbits]

/-- A character of three bytes is read from them. That `n` is valid keeps the second byte within its
bounds. -/
theorem symbolsFrom_three (h : 0x800 ≤ n) (hn : n < 0x10000) (hvalid : n.isValidChar) :
    symbolsFrom none (UInt8.ofNat (n / 4096 % 16 + 224) :: UInt8.ofNat (n / 64 % 64 + 128) ::
      UInt8.ofNat (n % 64 + 128) :: bs) = .char (Char.ofNat n) :: symbolsFrom none bs := by
  have ha : (UInt8.ofNat (n / 4096 % 16 + 224)).toNat = n / 4096 + 224 := by
    rw [toNat_ofNat_of_lt] <;> omega
  have hb : (UInt8.ofNat (n / 64 % 64 + 128)).toNat = n / 64 % 64 + 128 :=
    toNat_ofNat_of_lt (by omega)
  have hc : (UInt8.ofNat (n % 64 + 128)).toNat = n % 64 + 128 := toNat_ofNat_of_lt (by omega)
  rw [symbolsFrom, first_of_three (by omega) (by omega)]
  dsimp only
  -- The bounds on the second byte are those of a number that is not too small and no surrogate.
  rw [symbolsFrom_more (by split <;> omega)
    (by unfold Nat.isValidChar at hvalid; split <;> omega), symbolsFrom_last (by omega) (by omega)]
  have hbits : ((n / 4096 + 224 - 224) * 64 + (n / 64 % 64 + 128 - 128)) * 64 +
      (n % 64 + 128 - 128) = n := by omega
  rw [ha, hb, hc, hbits]

/-- A character of four bytes is read from them. -/
theorem symbolsFrom_four (h : 0x10000 ≤ n) (hn : n < 0x110000) :
    symbolsFrom none (UInt8.ofNat (n / 262144 % 8 + 240) :: UInt8.ofNat (n / 4096 % 64 + 128) ::
      UInt8.ofNat (n / 64 % 64 + 128) :: UInt8.ofNat (n % 64 + 128) :: bs) =
      .char (Char.ofNat n) :: symbolsFrom none bs := by
  have ha : (UInt8.ofNat (n / 262144 % 8 + 240)).toNat = n / 262144 + 240 := by
    rw [toNat_ofNat_of_lt] <;> omega
  have hb : (UInt8.ofNat (n / 4096 % 64 + 128)).toNat = n / 4096 % 64 + 128 :=
    toNat_ofNat_of_lt (by omega)
  have hc : (UInt8.ofNat (n / 64 % 64 + 128)).toNat = n / 64 % 64 + 128 :=
    toNat_ofNat_of_lt (by omega)
  have hd : (UInt8.ofNat (n % 64 + 128)).toNat = n % 64 + 128 := toNat_ofNat_of_lt (by omega)
  rw [symbolsFrom, first_of_four (by omega) (by omega)]
  dsimp only
  rw [symbolsFrom_more (by split <;> omega) (by split <;> omega),
    symbolsFrom_more (by omega) (by omega), symbolsFrom_last (by omega) (by omega)]
  -- The bits of the four bytes, put together, are those of the number.
  have hbits : (((n / 262144 + 240 - 240) * 64 + (n / 4096 % 64 + 128 - 128)) * 64 +
      (n / 64 % 64 + 128 - 128)) * 64 + (n % 64 + 128 - 128) = n := by omega
  rw [ha, hb, hc, hd, hbits]

/-- The bytes of a character are read as the character, whatever follows. -/
theorem symbolsFrom_utf8EncodeChar (c : Char) (bs : List UInt8) :
    symbolsFrom none (String.utf8EncodeChar c ++ bs) = .char c :: symbolsFrom none bs := by
  have hvalid : c.toNat.isValidChar := c.valid
  have hmax : c.toNat < 0x110000 := by
    unfold Nat.isValidChar at hvalid
    omega
  have hchar : Char.ofNat c.toNat = c := Char.ofNat_toNat c
  unfold String.utf8EncodeChar
  dsimp only
  rw [show c.val.toNat = c.toNat from rfl]
  split
  next hone =>
    have hb : (UInt8.ofNat c.toNat).toNat = c.toNat := toNat_ofNat_of_lt (by omega)
    rw [List.singleton_append, symbolsFrom, first_of_lt (by omega), hb, hchar]
  split
  next =>
    have := @symbolsFrom_two bs c.toNat (by omega) (by omega)
    rwa [hchar] at this
  split
  next =>
    have := @symbolsFrom_three bs c.toNat (by omega) (by omega) hvalid
    rwa [hchar] at this
  next =>
    have := @symbolsFrom_four bs c.toNat (by omega) hmax
    rwa [hchar] at this

/-! ### Texts -/

theorem encode_singleton (c : Char) : encode (String.singleton c) = String.utf8EncodeChar c := by
  rw [encode, String.toUTF8_eq_toByteArray, String.toByteArray_singleton, List.utf8Encode_singleton,
    List.data_toByteArray]

theorem symbols_encode_ofList (cs : List Char) :
    symbols (encode (String.ofList cs)) = cs.map .char := by
  induction cs with
  | nil => rfl
  | cons c cs ih =>
    rw [encode_ofList_cons, encode_singleton, symbols, symbolsFrom_utf8EncodeChar]
    exact congrArg _ ih

/-- **The symbols of an encoded text are its characters**: none of the bytes is at fault. -/
theorem symbols_encode (s : String) : symbols (encode s) = s.toList.map .char := by
  have := symbols_encode_ofList s.toList
  rwa [String.ofList_toList] at this

/-- A text is decoded from its bytes. -/
theorem decode?_encode (s : String) : decode? (encode s) = some s := by
  rw [decode?, symbols_encode, List.mapM_map]
  have : (s.toList.mapM fun c => (Symbol.char c).char?) = some s.toList := by
    induction s.toList with
    | nil => rfl
    | cons c cs ih => rw [List.mapM_cons, ih]; rfl
  exact (congrArg _ this).trans (congrArg some String.ofList_toList)

end FleetAgent.Text.Utf8
