import FleetAgent.Url.Parser
/-!
# Percent encoding gives back what was encoded

The bytes of an encoded text are the bytes of the text (`decode_encode`), as long as nothing in it
could be taken for an encoded byte, that is if there is no `%`. So different texts are encoded
differently, and a segment of a path that stands for a dot is the dot itself
(`isSingleDot_encode_iff`, `isDoubleDot_encode_iff`): what is written for a dot decodes to a dot,
whatever class `cls` of characters is encoded.
-/

namespace FleetAgent

open FleetAgent.Text (hexValue?)

/-! ### Bytes of texts -/

namespace Text.Utf8

theorem encode_append (s t : String) : encode (s ++ t) = encode s ++ encode t := by
  simp only [encode, String.toUTF8_eq_toByteArray, String.toByteArray_append]
  simp

theorem encode_ofList_cons (c : Char) (cs : List Char) :
    encode (String.ofList (c :: cs)) =
      encode (String.singleton c) ++ encode (String.ofList cs) := by
  rw [String.ofList_cons, encode_append]

/-- Texts with the same bytes are the same. -/
theorem encode_injective {s t : String} (h : encode s = encode t) : s = t := by
  simp only [encode, String.toUTF8_eq_toByteArray] at h
  rw [← String.toByteArray_inj]
  ext1
  exact Array.toList_inj.mp h

end Text.Utf8

namespace Url

open FleetAgent.Text

/-! ### Encoded bytes -/

theorem hexValue?_hexDigit : ∀ n < 16, hexValue? (hexDigit n) = some n := by
  decide

theorem decode_percent (b : UInt8) (cs : List Char) :
    decode (percent b ++ cs) = b :: decode cs := by
  have hb : b.toNat < 256 := b.toNat_lt
  have hhigh := hexValue?_hexDigit (b.toNat / 16) (by omega)
  have hlow := hexValue?_hexDigit (b.toNat % 16) (by omega)
  rw [percent]
  show decode ('%' :: hexDigit (b.toNat / 16) :: hexDigit (b.toNat % 16) :: cs) = _
  rw [decode, hhigh, hlow]
  show UInt8.ofNat (b.toNat / 16 * 16 + b.toNat % 16) :: decode cs = _
  rw [Nat.div_add_mod', UInt8.ofNat_toNat]

theorem decode_flatMap_percent (bytes : List UInt8) (cs : List Char) :
    decode (bytes.flatMap percent ++ cs) = bytes ++ decode cs := by
  induction bytes with
  | nil => rfl
  | cons b bytes ih =>
    rw [List.flatMap_cons, List.append_assoc, decode_percent, ih, List.cons_append]

/-- A character that is no `%` is decoded to its bytes. -/
theorem decode_cons_of_ne {c : Char} (hc : c ≠ '%') (cs : List Char) :
    decode (c :: cs) = Utf8.encode (String.singleton c) ++ decode cs := by
  rw [decode.eq_def]
  split
  next h => cases h
  next h => exact absurd (List.cons.inj h).1 hc
  next h =>
    obtain ⟨rfl, rfl⟩ := List.cons.inj h
    rfl

/-- **Encoding keeps the bytes**, if nothing in `cs` looks encoded already, whatever stands
behind. -/
theorem decode_encode_append {cls : Char → Bool} {cs : List Char} (h : '%' ∉ cs) (r : List Char) :
    decode (encode cls cs ++ r) = Utf8.encode (String.ofList cs) ++ decode r := by
  induction cs with
  | nil => rfl
  | cons c cs ih =>
    rw [List.mem_cons, not_or] at h
    rw [encode, List.flatMap_cons, List.append_assoc, Utf8.encode_ofList_cons, List.append_assoc,
      ← ih h.2]
    split
    next => exact decode_flatMap_percent _ _
    next => exact decode_cons_of_ne (Ne.symm h.1) _

theorem decode_encode {cls : Char → Bool} {cs : List Char} (h : '%' ∉ cs) :
    decode (encode cls cs) = Utf8.encode (String.ofList cs) := by
  have := @decode_encode_append cls cs h []
  rwa [List.append_nil, decode, List.append_nil] at this

/-! ### Slashes -/

theorem hexDigit_ne_slash : ∀ n < 16, hexDigit n ≠ '/' := by
  decide

theorem slash_not_mem_percent (b : UInt8) : '/' ∉ percent b := by
  have hb : b.toNat < 256 := b.toNat_lt
  simp only [percent, List.mem_cons, List.not_mem_nil, or_false, not_or]
  exact ⟨by decide, (hexDigit_ne_slash _ (by omega)).symm, (hexDigit_ne_slash _ (by omega)).symm⟩

/-- No slash is written that was not there. -/
theorem slash_not_mem_encode {cls : Char → Bool} {cs : List Char} (h : '/' ∉ cs) :
    '/' ∉ encode cls cs := by
  intro hmem
  obtain ⟨c, hc, hmem⟩ := List.mem_flatMap.mp hmem
  split at hmem
  next =>
    obtain ⟨b, -, hb⟩ := List.mem_flatMap.mp hmem
    exact slash_not_mem_percent b hb
  next =>
    rw [List.mem_singleton] at hmem
    exact h (hmem ▸ hc)

/-! ### Dots -/

theorem toLower_of_not_upper {c : Char} (h : ¬ (65 ≤ c.toNat ∧ c.toNat ≤ 90)) : c.toLower = c :=
  dif_neg h

theorem toNat_toLower_of_upper {c : Char} (h : 65 ≤ c.toNat ∧ c.toNat ≤ 90) :
    c.toLower.toNat = c.toNat + 32 := by
  have hval : c.toLower.val = c.val + 32 := congrArg Char.val (dif_pos h)
  show c.toLower.val.toNat = c.toNat + 32
  rw [hval, UInt32.toNat_add]
  show (c.toNat + 32) % 4294967296 = c.toNat + 32
  omega

/-- A character is made small only if it is a capital letter. -/
theorem eq_or_of_toLower_eq {c d : Char} (h : c.toLower = d) :
    c = d ∨ 65 ≤ c.toNat ∧ c.toNat + 32 = d.toNat := by
  by_cases hc : 65 ≤ c.toNat ∧ c.toNat ≤ 90
  · rw [← h, toNat_toLower_of_upper hc]
    exact .inr ⟨hc.1, rfl⟩
  · exact .inl ((toLower_of_not_upper hc).symm.trans h)

theorem eq_of_toLower_eq {c d : Char} (h : c.toLower = d) (hd : d.toNat < 97) : c = d := by
  rcases eq_or_of_toLower_eq h with rfl | ⟨hlow, hcd⟩
  · rfl
  · omega

theorem hexValue?_of_toLower_eq {c : Char} (h : c.toLower = 'e') : hexValue? c = some 14 := by
  -- Both `e` and `E` are digits.
  rcases eq_or_of_toLower_eq h with rfl | ⟨-, hce⟩
  · rfl
  · have he : ('e' : Char).toNat = 101 := rfl
    have hE : ('E' : Char).toNat = 69 := rfl
    obtain rfl : c = 'E' := Char.toNat_inj.mp (by omega)
    rfl

/-- The two ways to write a dot. -/
def WritesDot (s : List Char) : Prop :=
  s.map Char.toLower = ['.'] ∨ s.map Char.toLower = ['%', '2', 'e']

/-- However a dot is written, it is decoded to a dot. -/
theorem WritesDot.decode_append {s : List Char} (h : WritesDot s) (r : List Char) :
    decode (s ++ r) = Utf8.encode "." ++ decode r := by
  rcases h with h | h
  · obtain ⟨c, t, rfl, hc, ht⟩ := List.map_eq_cons_iff.mp h
    obtain rfl := eq_of_toLower_eq hc (by decide)
    rw [List.map_eq_nil_iff] at ht
    rw [ht]
    exact decode_cons_of_ne (by decide) r
  · -- Encoded: the last digit may be a letter of either size.
    obtain ⟨c, t, rfl, hc, ht⟩ := List.map_eq_cons_iff.mp h
    obtain ⟨d, u, rfl, hd, hu⟩ := List.map_eq_cons_iff.mp ht
    obtain ⟨e, v, rfl, he, hv⟩ := List.map_eq_cons_iff.mp hu
    obtain rfl := eq_of_toLower_eq hc (by decide)
    obtain rfl := eq_of_toLower_eq hd (by decide)
    rw [List.map_eq_nil_iff] at hv
    rw [hv]
    show decode ('%' :: '2' :: e :: r) = _
    rw [decode, hexValue?_of_toLower_eq he]
    rfl

theorem decode_of_isSingleDot {s : List Char} (h : isSingleDot s = true) :
    decode s = Utf8.encode "." := by
  rw [isSingleDot, Bool.or_eq_true, beq_iff_eq, beq_iff_eq] at h
  have hdot : WritesDot s := by
    rcases h with rfl | h
    · exact .inl rfl
    · exact .inr h.symm
  have := hdot.decode_append []
  rwa [List.append_nil, decode, List.append_nil] at this

/-- What stands for the place above is decoded to two dots, each of which may be written as `.` or
encoded. -/
theorem decode_of_isDoubleDot {s : List Char} (h : isDoubleDot s = true) :
    decode s = Utf8.encode ".." := by
  rw [isDoubleDot, List.contains_iff_mem] at h
  -- Each of the four spellings is one of a dot behind another one.
  obtain ⟨a, b, rfl, ha, hb⟩ : ∃ a b, s = a ++ b ∧ WritesDot a ∧ WritesDot b := by
    simp only [List.mem_cons, List.not_mem_nil, or_false] at h
    rcases h with h | h | h | h
    · obtain ⟨a, b, rfl, ha, hb⟩ := List.map_eq_append_iff.mp (show _ = ['.'] ++ ['.'] from h)
      exact ⟨a, b, rfl, .inl ha, .inl hb⟩
    · obtain ⟨a, b, rfl, ha, hb⟩ :=
        List.map_eq_append_iff.mp (show _ = ['.'] ++ ['%', '2', 'e'] from h)
      exact ⟨a, b, rfl, .inl ha, .inr hb⟩
    · obtain ⟨a, b, rfl, ha, hb⟩ :=
        List.map_eq_append_iff.mp (show _ = ['%', '2', 'e'] ++ ['.'] from h)
      exact ⟨a, b, rfl, .inr ha, .inl hb⟩
    · obtain ⟨a, b, rfl, ha, hb⟩ :=
        List.map_eq_append_iff.mp (show _ = ['%', '2', 'e'] ++ ['%', '2', 'e'] from h)
      exact ⟨a, b, rfl, .inr ha, .inr hb⟩
  have := hb.decode_append []
  rw [List.append_nil, decode, List.append_nil] at this
  rw [ha.decode_append, this]
  rfl

/-- Only a dot is encoded as something that stands for its place. -/
theorem isSingleDot_encode_iff {cls : Char → Bool} (hcls : cls '.' = false) {cs : List Char}
    (h : '%' ∉ cs) : isSingleDot (encode cls cs) = true ↔ cs = ['.'] := by
  constructor
  · intro hdot
    -- Whatever spelling it is, its bytes are those of the dot and those of the text.
    have hbytes := (decode_encode h).symm.trans (decode_of_isSingleDot hdot)
    exact String.ofList_injective (Utf8.encode_injective hbytes)
  · rintro rfl
    simp [encode, hcls, isSingleDot]

/-- Only two dots are encoded as something that stands for the place above, if `cls` leaves a dot as
it is. -/
theorem isDoubleDot_encode_iff {cls : Char → Bool} (hcls : cls '.' = false) {cs : List Char}
    (h : '%' ∉ cs) : isDoubleDot (encode cls cs) = true ↔ cs = ['.', '.'] := by
  constructor
  · intro hdot
    have hbytes := (decode_encode h).symm.trans (decode_of_isDoubleDot hdot)
    exact String.ofList_injective (Utf8.encode_injective hbytes)
  · rintro rfl
    simp [encode, hcls, isDoubleDot]

end Url

end FleetAgent
