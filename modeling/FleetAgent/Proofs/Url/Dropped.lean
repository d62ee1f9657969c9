import FleetAgent.Url.Parser
import Mathlib.Data.List.Basic
import Mathlib.Data.List.TakeWhile
import Mathlib.Tactic.Conv
/-!
# What is dropped of the text of a URL

Blanks and controls are dropped at both ends of a text, tabs and line breaks within it (`clean`).
What is dropped at its end is kept when the text goes on: then the text so far counts as it is
`begun` (`clean_append`).

A text `s` of which something is dropped at the end apart from tabs and line breaks `EndsInBlank`.
`clean_of_not_endsInBlank` and `begun_of_endsInBlank` say for the two cases how what is read of the
text is related to what is begun, with slashes dropped at its end.
-/

namespace FleetAgent.Url

open FleetAgent.Text

theorem dropWhile_of_head {p : Char → Bool} {c : Char} (hc : p c = false) (cs : List Char) :
    (c :: cs).dropWhile p = c :: cs := by
  rw [List.dropWhile_cons, hc]
  rfl

/-- Whether a character is kept within a text. -/
def isKept (c : Char) : Bool :=
  c != '\t' && c != '\n' && c != '\r'

/-- The text without what is dropped at its start and within it. -/
def begun (cs : List Char) : List Char :=
  (cs.dropWhile fun c => c.toNat ≤ 0x20).filter isKept

/-- Whether blanks are dropped at the end of a text that would not be dropped within it. -/
def EndsInBlank (s : String) : Prop :=
  (s.toList.filter isKept).getLast?.any (fun c => c.toNat ≤ 0x20) = true

instance (s : String) : Decidable (EndsInBlank s) :=
  inferInstanceAs (Decidable (_ = _))

theorem endsInBlank_iff {s : String} :
    EndsInBlank s ↔ ∃ c, (s.toList.filter isKept).getLast? = some c ∧ c.toNat ≤ 0x20 := by
  rw [EndsInBlank, Option.any_eq_true]
  simp only [decide_eq_true_eq]

/-! ### Texts without blanks -/

/-- A blank or a control is no other character. -/
theorem ne_of_blank {c d : Char} (hc : c.toNat ≤ 0x20) (hd : 0x20 < d.toNat) : c ≠ d := by
  rintro rfl
  omega

theorem not_mem_of_blanks {cs : List Char} (h : ∀ c ∈ cs, c.toNat ≤ 0x20) {d : Char}
    (hd : 0x20 < d.toNat) : d ∉ cs :=
  fun hmem => ne_of_blank (h d hmem) hd rfl

theorem isKept_of_lt {c : Char} (h : 0x20 < c.toNat) : isKept c = true := by
  simp only [isKept, Bool.and_eq_true, bne_iff_ne, ne_eq]
  refine ⟨⟨?_, ?_⟩, ?_⟩ <;> rintro rfl <;> revert h <;> decide

theorem filter_isKept {cs : List Char} (h : ∀ c ∈ cs, 0x20 < c.toNat) : cs.filter isKept = cs :=
  List.filter_eq_self.mpr fun c hc => isKept_of_lt (h c hc)

theorem dropWhile_blank {cs : List Char} (h : ∀ c ∈ cs, 0x20 < c.toNat) :
    cs.dropWhile (fun c => c.toNat ≤ 0x20) = cs := by
  cases cs with
  | nil => rfl
  | cons c cs => exact dropWhile_of_head (by simpa using h c List.mem_cons_self) cs

/-- **Nothing is dropped at the end of a text that goes on** with `rest`, in which there is no
blank. -/
theorem clean_append {cs rest : List Char} (h : ∀ c ∈ rest, 0x20 < c.toNat) (hne : rest ≠ []) :
    clean (cs ++ rest) = begun cs ++ rest := by
  have hfront : (cs ++ rest).dropWhile (fun c => c.toNat ≤ 0x20) =
      (cs.dropWhile fun c => c.toNat ≤ 0x20) ++ rest := by
    rw [List.dropWhile_append]
    split
    next hempty => rw [dropWhile_blank h, List.isEmpty_iff.mp hempty, List.nil_append]
    next => rfl
  obtain ⟨c, r, hcons⟩ := List.exists_cons_of_ne_nil (mt List.reverse_eq_nil_iff.mp hne)
  have hc : 0x20 < c.toNat := h c (List.mem_reverse.mp (hcons ▸ List.mem_cons_self))
  rw [clean, trimChars, hfront, List.reverse_append, hcons, List.cons_append,
    dropWhile_of_head (by simpa using hc), ← List.cons_append, ← hcons, ← List.reverse_append,
    List.reverse_reverse]
  show ((cs.dropWhile fun c => c.toNat ≤ 0x20) ++ rest).filter isKept = _
  rw [List.filter_append, filter_isKept h, begun]

/-- Nothing is dropped from a text without blanks and controls. -/
theorem clean_of_forall {cs : List Char} (h : ∀ c ∈ cs, 0x20 < c.toNat) : clean cs = cs := by
  cases cs with
  | nil => rfl
  | cons c cs =>
    show clean ([] ++ c :: cs) = begun [] ++ c :: cs
    exact clean_append h (List.cons_ne_nil _ _)

/-! ### Blanks at the end -/

/-- What is dropped at the end of a text are blanks. -/
theorem exists_begun_eq (cs : List Char) :
    ∃ tail, begun cs = clean cs ++ tail ∧ ∀ c ∈ tail, c.toNat ≤ 0x20 ∧ isKept c = true := by
  let body := cs.dropWhile fun c => c.toNat ≤ 0x20
  let blanks := (body.reverse.takeWhile fun c => c.toNat ≤ 0x20).reverse
  have hbody : body = (body.reverse.dropWhile fun c => c.toNat ≤ 0x20).reverse ++ blanks := by
    rw [← List.reverse_append, List.takeWhile_append_dropWhile, List.reverse_reverse]
  refine ⟨blanks.filter isKept, ?_, fun c hc => ?_⟩
  · show body.filter isKept = _
    rw [hbody, List.filter_append]
    rfl
  · obtain ⟨hmem, hkept⟩ := List.mem_filter.mp hc
    have hblank := List.mem_takeWhile_imp (List.mem_reverse.mp hmem)
    exact ⟨of_decide_eq_true hblank, hkept⟩

/-- What is left of a text does not end in a blank. -/
theorem lt_of_mem_getLast?_clean {cs : List Char} {c : Char} (hc : c ∈ (clean cs).getLast?) :
    0x20 < c.toNat := by
  let body := (cs.dropWhile fun c => c.toNat ≤ 0x20).reverse
  -- The text is cut at its end by reversing it, so its last character is the first of that.
  have hlast : (clean cs).getLast? =
      ((body.dropWhile fun c => c.toNat ≤ 0x20).filter isKept).head? := by
    show ((body.dropWhile fun c => c.toNat ≤ 0x20).reverse.filter isKept).getLast? = _
    rw [List.filter_reverse, List.getLast?_reverse]
  rw [hlast] at hc
  have hstop := List.head?_dropWhile_not (fun c : Char => decide (c.toNat ≤ 0x20)) body
  cases hrest : body.dropWhile fun c => c.toNat ≤ 0x20 with
  | nil =>
    rw [hrest] at hc
    cases hc
  | cons d rest =>
    rw [hrest] at hc hstop
    have hd : 0x20 < d.toNat := by simpa using hstop
    rw [List.filter_cons_of_pos (isKept_of_lt hd)] at hc
    rwa [← Option.some.inj hc]

/-! ### One character at the end -/

/-- Dropping a character `c` at the end of a text drops all `k` there are of it. -/
theorem toList_dropTrailing (c : Char) (s : String) :
    ∃ k, s.toList = (dropTrailing c s).toList ++ List.replicate k c := by
  refine ⟨(s.toList.reverse.takeWhile (· == c)).length, ?_⟩
  have hall : s.toList.reverse.takeWhile (· == c) =
      List.replicate (s.toList.reverse.takeWhile (· == c)).length c :=
    List.eq_replicate_iff.mpr ⟨rfl, fun d hd => by simpa using List.mem_takeWhile_imp hd⟩
  rw [dropTrailing, String.toList_ofList, ← List.reverse_replicate, ← hall, ← List.reverse_append,
    List.takeWhile_append_dropWhile, List.reverse_reverse]

/-- Dropping a character `c` at the end of a text gives the `front` before it. -/
theorem toList_dropTrailing_of_eq {c : Char} {s : String} {front : List Char} {k : Nat}
    (hs : s.toList = front ++ List.replicate k c) (hfront : front.getLast? ≠ some c) :
    (dropTrailing c s).toList = front := by
  have hstop : front.reverse.dropWhile (· == c) = front.reverse := by
    cases hreverse : front.reverse with
    | nil => rfl
    | cons d rest =>
      have hd : d ≠ c := by
        rintro rfl
        rw [← List.head?_reverse, hreverse] at hfront
        exact hfront rfl
      rw [List.dropWhile_cons, if_neg (by simpa using hd)]
  rw [dropTrailing, String.toList_ofList, hs, List.reverse_append, List.reverse_replicate,
    List.dropWhile_append_of_pos (fun d hd => by simp [List.eq_of_mem_replicate hd]), hstop,
    List.reverse_reverse]

/-- No text ends in a character that was dropped at its end. -/
theorem getLast?_dropTrailing (c : Char) (s : String) :
    (dropTrailing c s).toList.getLast? ≠ some c := by
  rw [dropTrailing, String.toList_ofList, List.getLast?_reverse]
  intro h
  have hstop := List.head?_dropWhile_not (· == c) s.toList.reverse
  rw [h] at hstop
  simp at hstop

/-- A text that does not end in `c` stays as it is. -/
theorem dropTrailing_eq_self {c : Char} {s : String} (h : s.toList.getLast? ≠ some c) :
    dropTrailing c s = s := by
  have hnone : s.toList = s.toList ++ List.replicate 0 c := (List.append_nil _).symm
  exact String.toList_inj.mp (toList_dropTrailing_of_eq hnone h)

theorem dropTrailing_dropTrailing (c : Char) (s : String) :
    dropTrailing c (dropTrailing c s) = dropTrailing c s :=
  dropTrailing_eq_self (getLast?_dropTrailing c s)

/-! ### Texts that end in a blank, and others -/

/-- The last character that `isKept` of a text is that of what is begun, if anything is. -/
theorem getLast?_filter_isKept {cs : List Char} (hne : begun cs ≠ []) :
    (cs.filter isKept).getLast? = (begun cs).getLast? := by
  have hsplit : cs.filter isKept =
      (cs.takeWhile fun c => c.toNat ≤ 0x20).filter isKept ++ begun cs := by
    rw [begun, ← List.filter_append, List.takeWhile_append_dropWhile]
  rw [hsplit, List.getLast?_append_of_ne_nil _ hne]

/-- A text `s` that does not end in a blank is what is begun, with `k` slashes behind it. -/
theorem clean_of_not_endsInBlank {s : String} (h : ¬ EndsInBlank s) :
    ∃ k, clean s.toList = begun (dropTrailing '/' s).toList ++ List.replicate k '/' := by
  obtain ⟨k, hk⟩ := toList_dropTrailing '/' s
  cases k with
  | succ k =>
    refine ⟨k + 1, ?_⟩
    conv_lhs => rw [hk]
    refine clean_append (fun c hc => ?_) (List.cons_ne_nil _ _)
    rw [List.eq_of_mem_replicate hc]
    decide
  | zero =>
    refine ⟨0, ?_⟩
    rw [List.replicate_zero, List.append_nil] at hk ⊢
    rw [← hk]
    obtain ⟨tail, htail, hblank⟩ := exists_begun_eq s.toList
    -- What is dropped at the end would be the end of what is kept.
    rcases List.eq_nil_or_concat tail with rfl | ⟨front, c, rfl⟩
    · rw [htail, List.append_nil]
    · refine absurd (endsInBlank_iff.mpr ⟨c, ?_, (hblank c (by simp)).1⟩) h
      rw [getLast?_filter_isKept, htail]
      · simp
      · rw [htail]
        simp

/-- A text `s` that ends in a blank is what is begun, without the blanks `tail` behind it. -/
theorem begun_of_endsInBlank {s : String} (hne : clean s.toList ≠ []) (h : EndsInBlank s) :
    dropTrailing '/' s = s ∧ ∃ tail, tail ≠ [] ∧ begun s.toList = clean s.toList ++ tail ∧
      ∀ c ∈ tail, c.toNat ≤ 0x20 := by
  obtain ⟨tail, htail, hblank⟩ := exists_begun_eq s.toList
  have hbegun : begun s.toList ≠ [] := by
    rw [htail]
    exact List.append_ne_nil_of_left_ne_nil hne _
  obtain ⟨c, hc, hlow⟩ := endsInBlank_iff.mp h
  constructor
  · obtain ⟨k, hk⟩ := toList_dropTrailing '/' s
    cases k with
    | zero =>
      rw [List.replicate_zero, List.append_nil] at hk
      exact String.toList_inj.mp hk.symm
    | succ k =>
      -- A slash at the end is kept, and is no blank.
      rw [hk, List.replicate_succ', ← List.append_assoc, List.filter_append,
        List.filter_cons_of_pos (by decide), List.filter_nil, List.getLast?_concat] at hc
      rw [← Option.some.inj hc] at hlow
      exact absurd hlow (by decide)
  · refine ⟨tail, ?_, htail, fun d hd => (hblank d hd).1⟩
    rintro rfl
    rw [getLast?_filter_isKept hbegun, htail, List.append_nil] at hc
    exact absurd hlow (Nat.not_le.mpr (lt_of_mem_getLast?_clean hc))

end FleetAgent.Url
