import FleetAgent.Device.ReleaseFile
import FleetAgent.Proofs.Text.Cut
import Mathlib.Data.List.TakeWhile
/-!
# A description is read back from its lines

`Renders said text` says how `text` may give the fields `said` of an operating system: each on a
line `KEY=value` of its own, with blanks around the line, the key and the value, the value bare or
in quotes (`Spells`), and between these lines any others that set nothing (`Says none`). Whatever
stands in the values, the text is read as the fields that it gives, and of several lines for one
field the last one counts: `ofText_inverts`.

All that matters of a line is what stands on the two sides of its first `=`: `assignment?_of_split`
tells what it sets by `front` and `back` trimmed, and without an `=` it sets nothing
(`assignment?_of_not_mem`). What a whole text sets is an induction on its lines
(`Renders.foldl_readLine`).
-/

namespace FleetAgent

/-! ### Trimming -/

namespace Text

variable {blank : Char → Bool} {front back cs : List Char} {c : Char}

/-- There is no blank at either end of `cs`. -/
def IsTrimmed (blank : Char → Bool) (cs : List Char) : Prop :=
  (∀ c ∈ cs.head?, blank c = false) ∧ ∀ c ∈ cs.getLast?, blank c = false

/-- A text without blanks at its ends is trimmed to itself. -/
theorem IsTrimmed.trimChars_eq (h : IsTrimmed blank cs) : trimChars blank cs = cs := by
  have hstart : cs.dropWhile blank = cs := by
    cases cs with
    | nil => rfl
    | cons c cs => rw [List.dropWhile_cons, h.1 c rfl]; rfl
  -- The end is the start of the text reversed.
  have hend : cs.reverse.dropWhile blank = cs.reverse := by
    cases hrev : cs.reverse with
    | nil => rfl
    | cons c ds =>
      have hlast : cs.getLast? = some c := by rw [← List.head?_reverse, hrev]; rfl
      rw [List.dropWhile_cons, h.2 c hlast]
      rfl
  rw [trimChars, hstart, hend, List.reverse_reverse]

/-- A character `c` that is no blank stays, and keeps what stands on its inner sides. -/
theorem trimChars_around (hc : blank c = false) :
    trimChars blank (front ++ c :: back) =
      front.dropWhile blank ++ c :: (back.reverse.dropWhile blank).reverse := by
  have hstop : ∀ ds es : List Char,
      (ds ++ c :: es).dropWhile blank = ds.dropWhile blank ++ c :: es := by
    intro ds es
    rw [List.dropWhile_append]
    split
    next hempty => rw [List.isEmpty_iff.mp hempty, List.dropWhile_cons, hc]; rfl
    next => rfl
  rw [trimChars, hstop, List.reverse_append, List.reverse_cons, List.append_assoc,
    List.singleton_append, hstop, List.reverse_append, List.reverse_cons, List.reverse_reverse,
    List.append_assoc, List.singleton_append]

/-- Blanks `front` at the start do not matter. -/
theorem trimChars_append_left (h : ∀ c ∈ front, blank c = true) :
    trimChars blank (front ++ cs) = trimChars blank cs := by
  rw [trimChars, List.dropWhile_append_of_pos h, trimChars]

/-- Blanks `back` at the end do not matter. -/
theorem trimChars_append_right (h : ∀ c ∈ back, blank c = true) :
    trimChars blank (cs ++ back) = trimChars blank cs := by
  by_cases hcs : ∀ c ∈ cs, blank c = true
  · -- There is nothing but blanks.
    have hall : ∀ c ∈ cs ++ back, blank c = true := fun c hc =>
      (List.mem_append.mp hc).elim (hcs c) (h c)
    rw [← List.append_nil (cs ++ back), trimChars_append_left hall, ← List.append_nil cs,
      trimChars_append_left hcs]
  · -- Otherwise something stays, and the blanks are behind it.
    simp only [not_forall, Bool.not_eq_true] at hcs
    obtain ⟨c, hmem, hc⟩ := hcs
    obtain ⟨front, rest, rfl⟩ := List.append_of_mem hmem
    rw [List.append_assoc, List.cons_append, trimChars_around hc, trimChars_around hc,
      List.reverse_append, List.dropWhile_append_of_pos fun c hc => h c (List.mem_reverse.mp hc)]

theorem trimChars_dropWhile : trimChars blank (cs.dropWhile blank) = trimChars blank cs := by
  have hfront : ∀ c ∈ cs.takeWhile blank, blank c = true := fun c hc => List.mem_takeWhile_imp hc
  rw [← trimChars_append_left hfront, List.takeWhile_append_dropWhile]

theorem trimChars_dropWhile_reverse :
    trimChars blank (cs.reverse.dropWhile blank).reverse = trimChars blank cs := by
  have hback : ∀ c ∈ (cs.reverse.takeWhile blank).reverse, blank c = true := fun c hc =>
    List.mem_takeWhile_imp (List.mem_reverse.mp hc)
  rw [← trimChars_append_right hback, ← List.reverse_append, List.takeWhile_append_dropWhile,
    List.reverse_reverse]

/-- A text `cs` is blanks, the trimmed text and blanks. -/
theorem exists_trimChars (blank : Char → Bool) (cs : List Char) :
    ∃ front back, cs = front ++ trimChars blank cs ++ back ∧
      (∀ c ∈ front, blank c = true) ∧ ∀ c ∈ back, blank c = true := by
  refine ⟨cs.takeWhile blank, ((cs.dropWhile blank).reverse.takeWhile blank).reverse, ?_, ?_, ?_⟩
  · rw [trimChars, List.append_assoc, ← List.reverse_append, List.takeWhile_append_dropWhile,
      List.reverse_reverse, List.takeWhile_append_dropWhile]
  · exact fun c hc => List.mem_takeWhile_imp hc
  · exact fun c hc => List.mem_takeWhile_imp (List.mem_reverse.mp hc)

end Text

namespace OsRelease

open FleetAgent.Text (isBlank trimChars)

/-! ### How fields are written -/

/-- Whether all characters are blanks. -/
def AreBlanks (cs : List Char) : Prop := ∀ c ∈ cs, isBlank c = true

/-- Whether a character is a quote. -/
def IsQuote (q : Char) : Prop := q = '"' ∨ q = '\''

/-- How `value` may stand in the file. -/
inductive Spells (value : List Char) : List Char → Prop
  /-- In quotes. -/
  | quoted {q : Char} (hq : IsQuote q) : Spells value (q :: value ++ [q])
  /-- Bare, if there are no blanks at its ends and no quotes around it. -/
  | bare (htrim : Text.IsTrimmed isBlank value)
      (hplain : ∀ q inner, IsQuote q → value ≠ q :: inner ++ [q]) : Spells value value

/-- What a line says: the value of a field, or nothing. -/
inductive Says : Option (Key × String) → List Char → Prop
  /-- A key, `=` and a value, with blanks around each of them. -/
  | sets {before after around behind spelled : List Char} (key : Key) (value : String)
      (hbefore : AreBlanks before) (hafter : AreBlanks after) (haround : AreBlanks around)
      (hbehind : AreBlanks behind) (hspelled : Spells value.toList spelled) :
      Says (some (key, value))
        (before ++ key.label ++ after ++ '=' :: (around ++ spelled ++ behind))
  /-- Blanks. -/
  | blank {line : List Char} (h : AreBlanks line) : Says none line
  /-- A comment. -/
  | comment {before : List Char} (hbefore : AreBlanks before) (rest : List Char) :
      Says none (before ++ '#' :: rest)
  /-- A line without `=`. -/
  | bare {line : List Char} (h : '=' ∉ line) : Says none line
  /-- A line for another key. -/
  | other {front : List Char} (hfront : '=' ∉ front)
      (hkey : ∀ (key : Key) (before after : List Char), AreBlanks before → AreBlanks after →
        front ≠ before ++ key.label ++ after) (back : List Char) : Says none (front ++ '=' :: back)

/-- A text that gives fields line by line. A line ends in a line feed, with or without a carriage
return before it; the last one need not end. -/
inductive Renders : List (Key × String) → List Char → Prop
  /-- The last line. -/
  | last {said? : Option (Key × String)} {line : List Char} (hmeans : Says said? line)
      (hline : '\n' ∉ line) : Renders said?.toList line
  /-- A line in front of others. -/
  | line {said? : Option (Key × String)} {line ending rest : List Char} {said : List (Key × String)}
      (hmeans : Says said? line) (hline : '\n' ∉ line)
      (hending : ending = ['\n'] ∨ ending = ['\r', '\n']) (hrest : Renders said rest) :
      Renders (said?.toList ++ said) (line ++ ending ++ rest)

/-- The fields that are set, in order. -/
def fields (r : OsRelease) : List (Key × String) :=
  Key.all.filterMap fun key => (r.get? key).map (key, ·)

/-- What is said last of the field `key`, if anything. -/
def saidLast? (key : Key) (said : List (Key × String)) : Option String :=
  (said.filter (·.1 = key)).getLast?.map (·.2)

variable {front back line value inner : List Char} {key : Key} {q : Char}

/-! ### Quotes -/

/-- What stands between two quotes `q` is taken off exactly if they are the first and the last of at
least two characters. -/
theorem between?_eq_some_iff : between? q value = some inner ↔ value = q :: inner ++ [q] := by
  unfold between?
  split
  next c d r =>
    rw [Option.ite_none_right_eq_some, List.getLast?_eq_some_iff, List.cons_append]
    constructor
    · rintro ⟨⟨rfl, ys, hys⟩, hinner⟩
      rw [hys, List.dropLast_concat, Option.some.injEq] at hinner
      rw [hys, hinner]
    · intro h
      obtain ⟨rfl, htail⟩ := List.cons.inj h
      exact ⟨⟨rfl, inner, htail⟩, by rw [htail, List.dropLast_concat]⟩
  next hshort =>
    refine ⟨fun h => (nomatch h), ?_⟩
    rintro rfl
    cases inner with
    | nil => exact absurd rfl (hshort q q [])
    | cons d r => exact absurd rfl (hshort q d (r ++ [q]))

/-- The quotes around `value` are taken off, whatever stands between them, other quotes as well. -/
theorem unquote_quoted (hq : IsQuote q) (value : List Char) :
    unquote (q :: value ++ [q]) = value := by
  have hself : between? q (q :: value ++ [q]) = some value := between?_eq_some_iff.mpr rfl
  obtain rfl | rfl := hq
  · rw [unquote, hself, Option.getD_some]
  · have hother : between? '"' ('\'' :: value ++ ['\'']) = none := by
      refine Option.eq_none_iff_forall_ne_some.mpr fun inner h => ?_
      have hhead := (List.cons.inj (between?_eq_some_iff.mp h)).1
      exact absurd hhead (by decide)
    rw [unquote, hother, hself, Option.getD_none, Option.getD_some]

/-- A value that is not in quotes stays. -/
theorem unquote_bare (h : ∀ q inner, IsQuote q → value ≠ q :: inner ++ [q]) :
    unquote value = value := by
  have hnone : ∀ q, IsQuote q → between? q value = none := fun q hq =>
    Option.eq_none_iff_forall_ne_some.mpr fun inner hinner =>
      h q inner hq (between?_eq_some_iff.mp hinner)
  rw [unquote, hnone _ (.inl rfl), hnone _ (.inr rfl), Option.getD_none, Option.getD_none]

/-! ### What a line sets -/

/-- A `word` that is no label of a key is not taken for one. -/
theorem Key.ofLabel?_eq_none_iff {word : List Char} :
    Key.ofLabel? word = none ↔ ∀ key : Key, word ≠ key.label := by
  constructor
  · rintro h key rfl
    rw [Key.ofLabel?_label] at h
    cases h
  · intro h
    refine Option.eq_none_iff_forall_ne_some.mpr fun key hkey => ?_
    exact h key (Key.label_of_ofLabel? hkey).symm

/-- Neither `=` nor the mark of a comment stands in a key. -/
theorem Key.of_mem_label {c : Char} (h : c ∈ key.label) :
    c ≠ '=' ∧ c ≠ '#' ∧ isBlank c = false := by
  have hall : key.label.all (fun c => c ≠ '=' ∧ c ≠ '#' ∧ isBlank c = false) = true := by
    cases key <;> decide
  exact of_decide_eq_true (List.all_eq_true.mp hall c h)

theorem isBlank_equals : isBlank '=' = false := rfl

theorem isBlank_mark : isBlank '#' = false := rfl

/-- Without an `=` a line sets nothing. -/
theorem assignment?_of_not_mem (h : '=' ∉ line) : assignment? line = none := by
  obtain ⟨front, back, hline, -, -⟩ := Text.exists_trimChars isBlank line
  have htrim : '=' ∉ trimChars isBlank line := by
    intro hmem
    rw [hline] at h
    exact h (List.mem_append_left _ (List.mem_append_right _ hmem))
  unfold assignment?
  dsimp only
  split
  · rfl
  · rw [Text.splitOnce_eq_none_iff.mpr htrim]
    rfl

/-- What starts with the mark of a comment is no key. -/
theorem ofLabel?_comment (rest : List Char) :
    Key.ofLabel? (trimChars isBlank ('#' :: rest)) = none := by
  refine Key.ofLabel?_eq_none_iff.mpr fun key hkey => ?_
  have htrim : trimChars isBlank ([] ++ '#' :: rest) = _ := Text.trimChars_around isBlank_mark
  have hmem : '#' ∈ key.label := by
    rw [← hkey, ← List.nil_append ('#' :: rest), htrim]
    exact List.mem_cons_self
  exact (Key.of_mem_label hmem).2.1 rfl

/-- **What a line sets is told by the two sides of its first `=`**, `front` and `back`. That a
comment sets nothing needs no case of its own, because no key starts with its mark. -/
theorem assignment?_of_split (h : '=' ∉ front) (back : List Char) :
    assignment? (front ++ '=' :: back) =
      (Key.ofLabel? (trimChars isBlank front)).map fun key =>
        (key, String.ofList (unquote (trimChars isBlank back))) := by
  have hfront : '=' ∉ front.dropWhile isBlank := fun hmem =>
    h ((List.dropWhile_sublist _).subset hmem)
  unfold assignment?
  dsimp only
  rw [Text.trimChars_around isBlank_equals]
  split
  -- The line begins with the mark, so `front` does, and no label does.
  next hcomment =>
    rw [← @Text.trimChars_dropWhile isBlank front]
    cases hdrop : front.dropWhile isBlank with
    | nil =>
      rw [hdrop] at hcomment
      exact absurd (Option.some.inj hcomment) (by decide)
    | cons c rest =>
      rw [hdrop] at hcomment
      obtain rfl : c = '#' := Option.some.inj hcomment
      rw [ofLabel?_comment]
      rfl
  next =>
    rw [Text.splitOnce_append hfront]
    show (Key.ofLabel? (trimChars isBlank (front.dropWhile isBlank)) >>= fun key =>
      some (key, String.ofList (unquote
        (trimChars isBlank (back.reverse.dropWhile isBlank).reverse)))) = _
    rw [Text.trimChars_dropWhile, Text.trimChars_dropWhile_reverse]
    cases Key.ofLabel? (trimChars isBlank front) <;> rfl

/-! ### Lines are read as what they say -/

theorem areBlanks_nil : AreBlanks [] := fun _ h => absurd h List.not_mem_nil

theorem not_mem_of_areBlanks {c : Char} {cs : List Char} (h : AreBlanks cs)
    (hc : isBlank c = false) : c ∉ cs := by
  intro hmem
  rw [h c hmem] at hc
  cases hc

/-- What is put between blanks is trimmed to itself. -/
theorem trimChars_between {before cs after : List Char} (hbefore : AreBlanks before)
    (hcs : Text.IsTrimmed isBlank cs) (hafter : AreBlanks after) :
    trimChars isBlank (before ++ cs ++ after) = cs := by
  rw [Text.trimChars_append_right hafter, Text.trimChars_append_left hbefore, hcs.trimChars_eq]

theorem Key.isTrimmed_label (key : Key) : Text.IsTrimmed isBlank key.label := by
  constructor
  · exact fun c h => (Key.of_mem_label (List.mem_of_head? h)).2.2
  · exact fun c h => (Key.of_mem_label (List.mem_of_getLast? h)).2.2

/-- A value is trimmed as it is spelled, and loses its quotes. -/
theorem Spells.isTrimmed {spelled : List Char} (h : Spells value spelled) :
    Text.IsTrimmed isBlank spelled := by
  cases h with
  | @quoted q hq =>
    have hblank : isBlank q = false := by obtain rfl | rfl := hq <;> rfl
    refine ⟨fun c hc => ?_, fun c hc => ?_⟩
    · rwa [← Option.some.inj hc]
    · rw [List.getLast?_concat] at hc
      rwa [← Option.some.inj hc]
  | bare htrim hplain => exact htrim

theorem Spells.unquote_eq {spelled : List Char} (h : Spells value spelled) :
    unquote spelled = value := by
  cases h with
  | quoted hq => exact unquote_quoted hq value
  | bare htrim hplain => exact unquote_bare hplain

/-- **A `line` sets what it says**, a field or nothing. -/
theorem Says.assignment?_eq {said? : Option (Key × String)} (h : Says said? line) :
    assignment? line = said? := by
  cases h with
  | @sets before after around behind spelled key value hbefore hafter haround hbehind hspelled =>
    have hfront : '=' ∉ before ++ key.label ++ after := by
      simp only [List.mem_append, not_or]
      exact ⟨⟨not_mem_of_areBlanks hbefore isBlank_equals, fun h => (Key.of_mem_label h).1 rfl⟩,
        not_mem_of_areBlanks hafter isBlank_equals⟩
    rw [assignment?_of_split hfront, trimChars_between hbefore key.isTrimmed_label hafter,
      trimChars_between haround hspelled.isTrimmed hbehind, hspelled.unquote_eq,
      Key.ofLabel?_label, String.ofList_toList]
    rfl
  | blank hblank => exact assignment?_of_not_mem (not_mem_of_areBlanks hblank isBlank_equals)
  | @comment before hbefore rest =>
    have hbefore' := not_mem_of_areBlanks hbefore isBlank_equals
    cases hsplit : Text.splitOnce '=' rest with
    | none =>
      refine assignment?_of_not_mem ?_
      simp only [List.mem_append, List.mem_cons, not_or]
      exact ⟨hbefore', by decide, Text.splitOnce_eq_none_iff.mp hsplit⟩
    | some parts =>
      -- The mark stands in front of the first `=`.
      obtain ⟨front, back⟩ := parts
      obtain ⟨rfl, hfront⟩ := Text.splitOnce_eq_some hsplit
      have hmarked : '=' ∉ before ++ '#' :: front := by
        simp only [List.mem_append, List.mem_cons, not_or]
        exact ⟨hbefore', by decide, hfront⟩
      rw [← List.cons_append, ← List.append_assoc, assignment?_of_split hmarked,
        Text.trimChars_append_left hbefore, ofLabel?_comment]
      rfl
  | bare hbare => exact assignment?_of_not_mem hbare
  | other hfront hkey back =>
    rw [assignment?_of_split hfront, Option.map_eq_none_iff, Key.ofLabel?_eq_none_iff]
    intro key hlabel
    obtain ⟨before, after, heq, hbefore, hafter⟩ := Text.exists_trimChars isBlank _
    rw [hlabel] at heq
    exact hkey key before after hbefore hafter heq

/-! ### Texts are read as what they give -/

/-- The blanks `back` at the end of a line do not matter, a carriage return among them. -/
theorem assignment?_append (h : AreBlanks back) :
    assignment? (line ++ back) = assignment? line := by
  unfold assignment?
  rw [Text.trimChars_append_right h]

theorem lines_of_not_mem (h : '\n' ∉ line) : lines line = [line] := by
  have hjoined : (['\n'].intercalate [line]).splitOn '\n' = [line] :=
    List.splitOn_intercalate '\n' (by simpa using h) (List.cons_ne_nil _ _)
  rwa [List.intercalate_singleton] at hjoined

theorem lines_append_cons (h : '\n' ∉ line) (rest : List Char) :
    lines (line ++ '\n' :: rest) = line :: lines rest := by
  have hline : line.splitOnP (· == '\n') = [line] := lines_of_not_mem h
  show (line ++ '\n' :: rest).splitOnP (· == '\n') = _
  rw [List.splitOnP_append_cons _ _ rfl, hline]
  rfl

/-- The description with the fields that are given, one after the other. -/
def setAll (r : OsRelease) (said : List (Key × String)) : OsRelease :=
  said.foldl (fun r (key, value) => r.set key value) r

/-- Reading a `line` sets what it says, with a carriage return behind it or other blanks. -/
theorem readLine_append {said? : Option (Key × String)} (h : Says said? line)
    (hback : AreBlanks back) (r : OsRelease) :
    readLine r (line ++ back) = r.setAll said?.toList := by
  rw [readLine, assignment?_append hback, h.assignment?_eq]
  cases said? <;> rfl

/-- A text sets the fields that it gives, in order. The induction is on `Renders`, one line at a
time, with the description `r` free. -/
theorem Renders.foldl_readLine {said : List (Key × String)} {text : List Char}
    (h : Renders said text) (r : OsRelease) :
    (lines text).foldl readLine r = r.setAll said := by
  induction h generalizing r with
  | @last said? line hmeans hline =>
    have hread : readLine r (line ++ []) = _ := readLine_append hmeans areBlanks_nil r
    rw [List.append_nil] at hread
    rw [lines_of_not_mem hline, List.foldl_cons, List.foldl_nil, hread]
  | @line said? line ending rest said hmeans hline hending hrest ih =>
    -- The carriage return is a blank at the end of the line.
    obtain ⟨back, hback, hnot, rfl⟩ :
        ∃ back, AreBlanks back ∧ '\n' ∉ back ∧ ending = back ++ ['\n'] := by
      obtain rfl | rfl := hending
      · exact ⟨[], areBlanks_nil, by decide, rfl⟩
      · exact ⟨['\r'], List.forall_mem_singleton.mpr rfl, by decide, rfl⟩
    have hend : '\n' ∉ line ++ back := by
      rw [List.mem_append, not_or]
      exact ⟨hline, hnot⟩
    rw [List.append_assoc, List.append_assoc, List.singleton_append, ← List.append_assoc,
      lines_append_cons hend, List.foldl_cons, readLine_append hmeans hback, ih, setAll, setAll,
      setAll, List.foldl_append]

/-! ### The last line for a field counts -/

theorem saidLast?_cons (key : Key) (head : Key × String) (said : List (Key × String)) :
    saidLast? key (head :: said) =
      (saidLast? key said).or (if head.1 = key then some head.2 else none) := by
  unfold saidLast?
  by_cases hkey : head.1 = key
  · rw [List.filter_cons_of_pos (by simpa using hkey), if_pos hkey, List.getLast?_cons]
    cases (said.filter (·.1 = key)).getLast? <;> rfl
  · rw [List.filter_cons_of_neg (by simpa using hkey), if_neg hkey, Option.or_none]

/-- Each field of `r.setAll said` is as it was said last, or as it was in `r`. -/
theorem get?_setAll (r : OsRelease) (said : List (Key × String)) (key : Key) :
    (r.setAll said).get? key = (saidLast? key said).or (r.get? key) := by
  induction said generalizing r with
  | nil => rfl
  | cons head said ih =>
    show ((r.set head.1 head.2).setAll said).get? key = _
    rw [ih, saidLast?_cons, get?_set, Option.or_assoc]
    congr 1
    split <;> rfl

/-- Each field is said once in `r.fields`, if it is set at all. -/
theorem filter_fields (r : OsRelease) (key : Key) :
    r.fields.filter (·.1 = key) = ((r.get? key).map (key, ·)).toList := by
  have hfield : ∀ other : Key, ((r.get? other).map (other, ·)).filter (·.1 = key) =
      if other = key then (r.get? key).map (key, ·) else none := by
    intro other
    split
    next heq => subst heq; cases r.get? other <;> simp
    next hne => cases r.get? other <;> simp [hne]
  rw [fields, List.filter_filterMap]
  simp only [hfield]
  cases key <;> cases r.get? _ <;> rfl

/-- In whatever order the fields of `r` are said, each is said as `r` has it. -/
theorem saidLast?_fields {r : OsRelease} {said : List (Key × String)} (h : said.Perm r.fields)
    (key : Key) : saidLast? key said = r.get? key := by
  -- At most one of the fields is that of `key`, wherever it stands in `said`.
  have hperm := h.filter (·.1 = key)
  rw [filter_fields] at hperm
  unfold saidLast?
  cases hget : r.get? key with
  | none =>
    rw [hget] at hperm
    rw [List.perm_nil.mp hperm]
    rfl
  | some value =>
    rw [hget] at hperm
    rw [List.perm_singleton.mp hperm]
    rfl

/-! ### Reading inverts writing -/

theorem newline_not_mem_label (key : Key) : '\n' ∉ key.label := fun h => by
  have := (Key.of_mem_label h).2.2
  cases this

/-- What is `said` can be rendered if there is no line feed in a value: each value can stand on a
line in quotes. -/
theorem exists_renders {said : List (Key × String)}
    (h : ∀ s ∈ said, '\n' ∉ s.2.toList) : ∃ text, Renders said text := by
  induction said with
  | nil =>
    have hblank : Says none [] := .blank areBlanks_nil
    exact ⟨[], .last hblank List.not_mem_nil⟩
  | cons head said ih =>
    obtain ⟨rest, hrest⟩ := ih fun s hs => h s (List.mem_cons_of_mem _ hs)
    -- Each field is written in quotes, since these keep any value apart from the line.
    have hmeans := Says.sets head.1 head.2 areBlanks_nil areBlanks_nil areBlanks_nil areBlanks_nil
      (.quoted (.inl rfl))
    refine ⟨_, .line hmeans ?_ (.inl rfl) hrest⟩
    have hlabel := newline_not_mem_label head.1
    have hvalue := h head List.mem_cons_self
    simp [hlabel, hvalue]

theorem not_mem_of_fields {r : OsRelease}
    (h : ∀ key value, r.get? key = some value → '\n' ∉ value.toList) :
    ∀ s ∈ r.fields, '\n' ∉ s.2.toList := by
  intro s hs
  obtain ⟨key, -, hkey⟩ := List.mem_filterMap.mp hs
  obtain ⟨value, hvalue, rfl⟩ := Option.map_eq_some_iff.mp hkey
  exact h key value hvalue

/-- **Reading inverts writing.** A description `r` whose values are free of line feeds can be
written with its fields in any order, and every text that gives these fields is read as the
description. Of any text that gives fields, also several times, each field is read as it is said
last (`saidLast?`). -/
theorem ofText_inverts :
    (∀ (r : OsRelease) (said : List (Key × String)), said.Perm r.fields →
      ((∀ key value, r.get? key = some value → '\n' ∉ value.toList) → ∃ text, Renders said text) ∧
        ∀ text, Renders said text → ofText (String.ofList text) = r) ∧
    ∀ (said : List (Key × String)) (text : List Char), Renders said text →
      ∀ key, (ofText (String.ofList text)).get? key = saidLast? key said := by
  have hget : ∀ (said : List (Key × String)) (text : List Char), Renders said text →
      ∀ key, (ofText (String.ofList text)).get? key = saidLast? key said := by
    intro said text h key
    rw [ofText, String.toList_ofList, h.foldl_readLine, get?_setAll]
    cases key <;> exact Option.or_none
  refine ⟨fun r said hsaid => ⟨fun hfree => ?_, fun text h => ext_get? fun key => ?_⟩, hget⟩
  · exact exists_renders fun s hs => not_mem_of_fields hfree s (hsaid.subset hs)
  · rw [hget said text h, saidLast?_fields hsaid]

/-! ### A file with all kinds of lines -/

/-- A description whose values hold quotes, marks, an `=`, a letter outside ASCII, or nothing. -/
def sample : OsRelease where
  name := "a = '#é'"
  version := ""
  id := "x=\"y"
  idLike := "\"x\""

/-- The fields of the description, in the order of the lines. -/
def sampleFields : List (Key × String) :=
  [(.name, "a = '#é'"), (.id, "x=\"y"), (.version, ""), (.idLike, "\"x\"")]

/-- The lines for them, with others between. -/
def sampleLines : List Char :=
  ("# os=1\r\n NAME\t= \"a = '#é'\" \n\nID=x=\"y\r\nHOME_URL='z'\nVERSION=\nnonsense\n" ++
    "ID_LIKE='\"x\"'").toList

/-- The lines give the fields, line by line: a comment, a field, a blank line, and so on. -/
theorem renders_sampleLines : Renders sampleFields sampleLines := by
  have hnone := areBlanks_nil
  have hspace : AreBlanks [' '] := List.forall_mem_singleton.mpr rfl
  have htab : AreBlanks ['\t'] := List.forall_mem_singleton.mpr rfl
  have hother : ∀ (key : Key) (before after : List Char), AreBlanks before → AreBlanks after →
      "HOME_URL".toList ≠ before ++ key.label ++ after := by
    intro key before after hbefore hafter heq
    have htrim := trimChars_between hbefore key.isTrimmed_label hafter
    rw [← heq] at htrim
    revert htrim
    cases key <;> decide
  have hid : Spells "x=\"y".toList "x=\"y".toList := by
    refine .bare ⟨?_, ?_⟩ fun q inner hq h => ?_
    · rintro _ ⟨⟩
      rfl
    · rintro _ ⟨⟩
      rfl
    obtain rfl : 'x' = q := Option.some.inj (congrArg List.head? h)
    revert hq
    unfold IsQuote
    decide
  have hnonsense : Says none "nonsense".toList := .bare (by decide)
  have hversion : Spells "".toList "".toList :=
    .bare ⟨nofun, nofun⟩ fun q inner _ h => List.cons_ne_nil _ _ h.symm
  obtain ⟨said, text, h, rfl, rfl⟩ :
      ∃ said text, Renders said text ∧ said = sampleFields ∧ text = sampleLines :=
    ⟨_, _,
      .line (.comment hnone " os=1".toList) (by decide) (.inr rfl) <|
      .line (.sets .name "a = '#é'" hspace htab hspace hspace (.quoted (.inl rfl))) (by decide)
        (.inl rfl) <|
      .line (.blank hnone) (by decide) (.inl rfl) <|
      .line (.sets .id "x=\"y" hnone hnone hnone hnone hid) (by decide) (.inr rfl) <|
      .line (.other (by decide) hother "'z'".toList) (by decide) (.inl rfl) <|
      .line (.sets .version "" hnone hnone hnone hnone hversion) (by decide) (.inl rfl) <|
      .line hnonsense (by decide) (.inl rfl) <|
      .last (.sets .idLike "\"x\"" hnone hnone hnone hnone (.quoted (.inr rfl))) (by decide),
      rfl, by decide +kernel⟩
  exact h

/-- **The sample is read from its lines**, also behind a line that gives its name otherwise. -/
theorem ofText_inverts_sample :
    Renders sampleFields sampleLines ∧ ofText (String.ofList sampleLines) = sample ∧
      Renders ((.name, "b") :: sampleFields) ("NAME=\"b\"\n".toList ++ sampleLines) ∧
      (ofText (String.ofList ("NAME=\"b\"\n".toList ++ sampleLines))).name = some "a = '#é'" := by
  have hnone := areBlanks_nil
  have hagain : Renders ((.name, "b") :: sampleFields) ("NAME=\"b\"\n".toList ++ sampleLines) :=
    .line (.sets .name "b" hnone hnone hnone hnone (.quoted (.inl rfl))) (by decide) (.inl rfl)
      renders_sampleLines
  refine ⟨renders_sampleLines, ?_, hagain, ?_⟩
  · exact (ofText_inverts.1 sample sampleFields (by decide)).2 _ renders_sampleLines
  · exact (ofText_inverts.2 _ _ hagain .name).trans (by decide)

end OsRelease

end FleetAgent
