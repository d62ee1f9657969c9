import FleetAgent.Proofs.Json.Tokens
import FleetAgent.Proofs.Text.Utf8
/-!
# What was written is read back

The compact text of a value `v` is read as its node `v.toNode` (`document_compact`), and so is the
indented one (`document_indented`), if all numbers in it are integers (`Exact`): doubles are read
near what was written and not always as the same.

The two texts differ in blanks only. `ReadsAs v cs` says that the text `cs` is read as `v` in
whatever text it stands: with any symbols `r` behind it that do not continue a number, and any
`fuel` that is not less than its length. `ItemsReadAs` and `MembersReadAs` say so of items and
members with the bracket or brace at their end. Each has a rule for every way to compose a text;
both layouts are built by these rules, with one case for each form of a value.
-/

namespace FleetAgent.Json

mutual

/-- Every number in the value is an integer. -/
def Exact : Json → Prop
  | .null | .boolean _ | .text _ | .number (.integer _ _) => True
  | .number (.double _) => False
  | .array items => ExactItems items
  | .object members => ExactMembers members

/-- Every number in the items is an integer. -/
def ExactItems : List Json → Prop
  | [] => True
  | v :: r => v.Exact ∧ ExactItems r

/-- Every number in the members is an integer. -/
def ExactMembers : List (String × Json) → Prop
  | [] => True
  | (_, v) :: r => v.Exact ∧ ExactMembers r

end

namespace Reader

open FleetAgent.Text (Symbol)

variable {fuel : Nat} {r s t : List Symbol} {c : Char} {b cs ds : List Char} {n : Node} {v : Json}
  {k : String}

/-! ### Steps of the reader -/

section Steps

variable {ns : List Node} {ms : List (Except Fault String × Node)}

theorem value_of_isBlank (h : IsBlank c) : value fuel (.char c :: r) = value fuel r := by
  cases fuel with
  | zero => rfl
  | succ fuel => rw [value, value, skipBlank_of_isBlank h]

theorem members_of_isBlank (h : IsBlank c) : members fuel (.char c :: r) = members fuel r := by
  cases fuel with
  | zero => rfl
  | succ fuel => rw [members, members, skipBlank_of_isBlank h]

/-- A quoted text `k` begins with its quote; what is escaped follows, and the other quote. -/
theorem quote_append (k : String) (r : List Symbol) :
    (quote k).map .char ++ r =
      .char '"' :: ((k.toList.flatMap escape).map .char ++ .char '"' :: r) := by
  rw [quote, List.cons_append, List.map_cons, List.map_append, List.cons_append, List.append_assoc]
  rfl

theorem value_text (k : String) :
    value (fuel + 1) ((quote k).map .char ++ r) = (.text (.ok k), some r) := by
  rw [quote_append, value, skipBlank_of_not_isBlank (by unfold IsBlank; decide)]
  dsimp only
  rw [if_neg (by decide), if_neg (by decide), if_pos rfl, stringBody_quoted]

/-- What begins with a digit is read as a number. -/
theorem value_digit (h : Text.isDigit c = true) :
    value (fuel + 1) (.char c :: r) = number false (.char c :: r) := by
  have hne : ∀ d : Char, Text.isDigit d = false → c ≠ d := by
    rintro d hd rfl
    rw [h] at hd
    cases hd
  have hblank : ¬ IsBlank c := by
    rintro (rfl | rfl | rfl | rfl) <;> cases h
  rw [value, skipBlank_of_not_isBlank hblank]
  dsimp only
  rw [if_neg (hne _ rfl), if_neg (hne _ rfl), if_neg (hne _ rfl), if_neg (hne _ rfl),
    if_neg (hne _ rfl), if_neg (hne _ rfl), if_neg (hne _ rfl), if_pos h]

/-- The members behind a brace make an object. -/
theorem value_brace (h : members fuel r = ((ms, .closed), some s)) :
    value (fuel + 1) (.char '\x7b' :: r) = (.object ms .closed, some s) := by
  -- Members do not start with the closing brace.
  have hopen : ∀ t, skipBlank r ≠ .char '\x7d' :: t := by
    intro t ht
    cases fuel with
    | zero => cases h
    | succ fuel =>
      rw [members, ht] at h
      cases h
  rw [value, skipBlank_of_not_isBlank (by unfold IsBlank; decide)]
  dsimp only
  rw [if_pos rfl]
  split
  next ht => exact absurd ht (hopen _)
  next => rw [h]

/-- The items behind a bracket make an array. -/
theorem value_bracket (h : items fuel r = ((ns, .closed), some s)) :
    value (fuel + 1) (.char '[' :: r) = (.array ns .closed, some s) := by
  -- Items neither start with the closing bracket nor are missing.
  have hstop : ∀ f, value (fuel - 1) r ≠ stop f := by
    intro f hf
    cases fuel with
    | zero => cases h
    | succ fuel =>
      rw [items, show value fuel r = stop f from hf] at h
      cases h
  have hvalue : ∀ q, skipBlank r = q → (q = [] ∨ ∃ t, q = .char ']' :: t) → False := by
    rintro _ hq (rfl | ⟨t, rfl⟩)
    all_goals
      cases hfuel : fuel - 1 with
      | zero =>
        rw [hfuel] at hstop
        exact hstop _ rfl
      | succ m =>
        rw [hfuel, value, hq] at hstop
        exact hstop _ rfl
  rw [value, skipBlank_of_not_isBlank (by unfold IsBlank; decide)]
  dsimp only
  rw [if_neg (by decide), if_pos rfl]
  split
  next ht => exact (hvalue _ ht (.inr ⟨_, rfl⟩)).elim
  next ht => exact (hvalue _ ht (.inl rfl)).elim
  next => rw [h]

theorem items_comma (h : value fuel r = (n, some s)) (hs : skipBlank s = .char ',' :: t)
    {u : List Symbol} (ht : items fuel t = ((ns, .closed), some u)) :
    items (fuel + 1) r = ((n :: ns, .closed), some u) := by
  simp only [items, h, hs, ht]

theorem items_close (h : value fuel r = (n, some s)) (hs : skipBlank s = .char ']' :: t) :
    items (fuel + 1) r = (([n], .closed), some t) := by
  simp only [items, h, hs]

/-- A comma behind the value of the member `k` is followed by more members. -/
theorem members_comma (k : String) (h : value fuel r = (n, some s))
    (hs : skipBlank s = .char ',' :: t) {u : List Symbol}
    (ht : members fuel t = ((ms, .closed), some u)) :
    members (fuel + 1) ((quote k).map .char ++ .char ':' :: r) =
      (((.ok k, n) :: ms, .closed), some u) := by
  have hcolon : skipBlank (.char ':' :: r) = .char ':' :: r := rfl
  rw [quote_append, members, skipBlank_of_not_isBlank (by unfold IsBlank; decide)]
  simp only [stringBody_quoted, hcolon, h, hs, ht]

theorem members_close (k : String) (h : value fuel r = (n, some s))
    (hs : skipBlank s = .char '\x7d' :: t) :
    members (fuel + 1) ((quote k).map .char ++ .char ':' :: r) =
      (([(.ok k, n)], .closed), some t) := by
  have hcolon : skipBlank (.char ':' :: r) = .char ':' :: r := rfl
  rw [quote_append, members, skipBlank_of_not_isBlank (by unfold IsBlank; decide)]
  simp only [stringBody_quoted, hcolon, h, hs]

end Steps

/-! ### Texts that are read as something -/

/-- The text `cs` is read as the value `v`, wherever it stands. -/
def ReadsAs (v : Json) (cs : List Char) : Prop :=
  ∀ fuel r, cs.length ≤ fuel → EndsNumber r → value fuel (cs.map .char ++ r) = (v.toNode, some r)

/-- The text `cs`, with the bracket at its end, is read as the items of an array. -/
def ItemsReadAs (vs : List Json) (cs : List Char) : Prop :=
  ∀ fuel r, cs.length ≤ fuel →
    items fuel (cs.map .char ++ r) = ((toNodes vs, .closed), some r)

/-- The text `cs`, with the brace at its end, is read as the members of an object. -/
def MembersReadAs (ms : List (String × Json)) (cs : List Char) : Prop :=
  ∀ fuel r, cs.length ≤ fuel →
    members fuel (cs.map .char ++ r) = ((toNodeMembers ms, .closed), some r)

/-- Neither a blank nor a mark between values continues a number. -/
theorem endsNumber_cons (h : IsBlank c ∨ c = ',' ∨ c = ']' ∨ c = '\x7d') :
    EndsNumber (.char c :: r) := by
  rintro s hs
  obtain rfl : Symbol.char c = s := Option.some.inj hs
  obtain (rfl | rfl | rfl | rfl) | rfl | rfl | rfl := h <;> decide

theorem endsNumber_append (hb : ∀ c ∈ b, IsBlank c) (h : EndsNumber r) :
    EndsNumber (b.map .char ++ r) := by
  cases b with
  | nil => exact h
  | cons c b => exact endsNumber_cons (.inl (hb c List.mem_cons_self))

/-- Of more `fuel` than a text is long, one unit can be taken. -/
theorem exists_succ_of_length_lt (h : cs.length < fuel) : ∃ m, fuel = m + 1 ∧ cs.length ≤ m :=
  ⟨fuel - 1, by omega, by omega⟩

namespace ReadsAs

theorem blanks (h : ReadsAs v cs) (hb : ∀ c ∈ b, IsBlank c) : ReadsAs v (b ++ cs) := by
  induction b with
  | nil => exact h
  | cons c b ih =>
    intro fuel r hlen hr
    have hrest := ih fun c hc => hb c (List.mem_cons_of_mem _ hc)
    rw [List.cons_append, List.map_cons, List.cons_append,
      value_of_isBlank (hb c List.mem_cons_self)]
    exact hrest fuel r (Nat.le_of_succ_le hlen) hr

theorem null : ReadsAs .null (render .null) := by
  rintro (_ | fuel) r hlen -
  · cases hlen
  · rfl

theorem boolean : ∀ b, ReadsAs (.boolean b) (render (.boolean b))
  | true | false => by
    rintro (_ | fuel) r hlen -
    · cases hlen
    · rfl

theorem text (k : String) : ReadsAs (.text k) (quote k) := by
  rintro (_ | fuel) r hlen -
  · cases hlen
  · exact value_text k

/-- An integer `i` is read from its digits, with a sign before them if it is negative. -/
theorem integer (i : Int) (h : FitsWord i) :
    ReadsAs (.number (.integer i h)) (Number.integer i h).render := by
  have hvalue := ofDigits_numerals i.natAbs
  rintro (_ | fuel) r hlen hr
  · -- There is at least one digit.
    have hpos : 0 < (Nat.toDigits 10 i.natAbs).length := Nat.length_toDigits_pos
    rw [Number.render] at hlen
    split at hlen
    · cases hlen
    · omega
  rw [Number.render]
  split
  next hneg =>
    -- The sign is read first, then the digits.
    have htoken : Number.ofToken ⟨true, numerals i.natAbs, [], none, false⟩ =
        some (.integer i h) := by
      have hrange : i.natAbs ≠ 0 ∧ i.natAbs ≤ 0x8000000000000000 := by omega
      have hi : -(i.natAbs : Int) = i := by omega
      simp only [Number.ofToken, hvalue, if_true, dif_pos hrange, hi]
    have hnumber : value (fuel + 1) ((('-' :: Nat.toDigits 10 i.natAbs).map .char) ++ r) =
        number true ((Nat.toDigits 10 i.natAbs).map .char ++ r) := rfl
    rw [hnumber, number, unsignedNumber_toDigits true _ hr]
    dsimp only
    rw [htoken, toNode]
  next hpos =>
    have htoken : Number.ofToken ⟨false, numerals i.natAbs, [], none, false⟩ =
        some (.integer i h) := by
      have hrange : i.natAbs < 0x10000000000000000 := by omega
      have hi : (i.natAbs : Int) = i := by omega
      simp only [Number.ofToken, hvalue, Bool.false_eq_true, if_false, dif_pos hrange, hi]
    -- Without a sign it is the first digit that makes it a number.
    have hnumber : value (fuel + 1) ((Nat.toDigits 10 i.natAbs).map .char ++ r) =
        number false ((Nat.toDigits 10 i.natAbs).map .char ++ r) := by
      obtain ⟨c, cs, hcs⟩ :=
        List.exists_cons_of_ne_nil (Nat.toDigits_ne_nil (n := i.natAbs) (b := 10))
      have hdigit := digit?_of_mem_toDigits (n := i.natAbs) (c := c) (by rw [hcs]; exact .head _)
      rw [hcs]
      refine value_digit ?_
      rw [digit?] at hdigit
      split at hdigit
      · assumption
      · cases hdigit
    rw [hnumber, number, unsignedNumber_toDigits false _ hr]
    dsimp only
    rw [htoken, toNode]

theorem emptyArray : ReadsAs (.array []) ['[', ']'] := by
  rintro (_ | fuel) r hlen -
  · cases hlen
  · rfl

theorem emptyObject : ReadsAs (.object []) ['\x7b', '\x7d'] := by
  rintro (_ | fuel) r hlen -
  · cases hlen
  · rfl

theorem array {vs : List Json} (h : ItemsReadAs vs cs) : ReadsAs (.array vs) ('[' :: cs) := by
  intro fuel r hlen _
  obtain ⟨fuel, rfl, hfuel⟩ := exists_succ_of_length_lt hlen
  exact value_bracket (h fuel r hfuel)

theorem object {ms : List (String × Json)} (h : MembersReadAs ms cs) :
    ReadsAs (.object ms) ('\x7b' :: cs) := by
  intro fuel r hlen _
  obtain ⟨fuel, rfl, hfuel⟩ := exists_succ_of_length_lt hlen
  exact value_brace (h fuel r hfuel)

end ReadsAs

namespace ItemsReadAs

theorem last (h : ReadsAs v cs) (hb : ∀ c ∈ b, IsBlank c) : ItemsReadAs [v] (cs ++ b ++ [']']) := by
  intro fuel r hlen
  obtain ⟨fuel, rfl, hfuel⟩ := @exists_succ_of_length_lt fuel cs (by simp at hlen; omega)
  have hends : EndsNumber (b.map .char ++ .char ']' :: r) :=
    endsNumber_append hb (endsNumber_cons (.inr (.inr (.inl rfl))))
  have hskip : skipBlank (b.map .char ++ .char ']' :: r) = .char ']' :: r := by
    rw [skipBlank_append hb]
    rfl
  have := items_close (h fuel _ hfuel hends) hskip
  simpa [toNodes] using this

theorem cons {vs : List Json} (h : ReadsAs v cs) (hs : ItemsReadAs vs ds) :
    ItemsReadAs (v :: vs) (cs ++ ',' :: ds) := by
  intro fuel r hlen
  obtain ⟨fuel, rfl, hfuel⟩ := @exists_succ_of_length_lt fuel cs (by simp at hlen; omega)
  have hends : EndsNumber (.char ',' :: (ds.map .char ++ r)) := endsNumber_cons (.inr (.inl rfl))
  have hrest := hs fuel r (by simp at hlen; omega)
  have := items_comma (h fuel _ hfuel hends) rfl hrest
  simpa [toNodes] using this

end ItemsReadAs

namespace MembersReadAs

theorem blanks {ms : List (String × Json)} (h : MembersReadAs ms cs) (hb : ∀ c ∈ b, IsBlank c) :
    MembersReadAs ms (b ++ cs) := by
  induction b with
  | nil => exact h
  | cons c b ih =>
    intro fuel r hlen
    have hrest := ih fun c hc => hb c (List.mem_cons_of_mem _ hc)
    rw [List.cons_append, List.map_cons, List.cons_append,
      members_of_isBlank (hb c List.mem_cons_self)]
    exact hrest fuel r (Nat.le_of_succ_le hlen)

theorem last (k : String) (h : ReadsAs v cs) (hb : ∀ c ∈ b, IsBlank c) :
    MembersReadAs [(k, v)] (quote k ++ ':' :: cs ++ b ++ ['\x7d']) := by
  intro fuel r hlen
  obtain ⟨fuel, rfl, hfuel⟩ := @exists_succ_of_length_lt fuel cs (by simp at hlen; omega)
  have hends : EndsNumber (b.map .char ++ .char '\x7d' :: r) :=
    endsNumber_append hb (endsNumber_cons (.inr (.inr (.inr rfl))))
  have hskip : skipBlank (b.map .char ++ .char '\x7d' :: r) = .char '\x7d' :: r := by
    rw [skipBlank_append hb]
    rfl
  have := members_close k (h fuel _ hfuel hends) hskip
  simpa [toNodeMembers] using this

theorem cons (k : String) {ms : List (String × Json)} (h : ReadsAs v cs)
    (hs : MembersReadAs ms ds) :
    MembersReadAs ((k, v) :: ms) (quote k ++ ':' :: cs ++ ',' :: ds) := by
  intro fuel r hlen
  obtain ⟨fuel, rfl, hfuel⟩ := @exists_succ_of_length_lt fuel cs (by simp at hlen; omega)
  have hends : EndsNumber (.char ',' :: (ds.map .char ++ r)) := endsNumber_cons (.inr (.inl rfl))
  have hrest := hs fuel r (by simp at hlen; omega)
  have := members_comma k (h fuel _ hfuel hends) rfl hrest
  simpa [toNodeMembers] using this

end MembersReadAs

/-! ### The compact text -/

/-- No blanks are blanks. -/
theorem isBlank_of_mem_nil : ∀ c ∈ ([] : List Char), IsBlank c :=
  fun _ hc => absurd hc List.not_mem_nil

mutual

/-- **The compact text of a value is read as the value**, by recursion on the value along with its
items and members. -/
theorem readsAs_render : ∀ {v : Json}, v.Exact → ReadsAs v v.render
  | .null, _ => ReadsAs.null
  | .boolean b, _ => ReadsAs.boolean b
  | .number (.integer i h), _ => ReadsAs.integer i h
  | .number (.double _), h => h.elim
  | .text s, _ => ReadsAs.text s
  | .array [], _ => ReadsAs.emptyArray
  | .array (v :: vs), h => ReadsAs.array (itemsReadAs_renderItems (List.cons_ne_nil v vs) h)
  | .object [], _ => ReadsAs.emptyObject
  | .object (m :: ms), h => ReadsAs.object (membersReadAs_renderMembers (List.cons_ne_nil m ms) h)

theorem itemsReadAs_renderItems : ∀ {vs : List Json}, vs ≠ [] → ExactItems vs →
    ItemsReadAs vs (renderItems vs ++ [']'])
  | [], hne, _ => absurd rfl hne
  | [v], _, h => by
    have := ItemsReadAs.last (readsAs_render h.1) isBlank_of_mem_nil
    rwa [List.append_nil] at this
  | v :: w :: vs, _, h => by
    have hrest := itemsReadAs_renderItems (List.cons_ne_nil w vs) h.2
    have := ItemsReadAs.cons (readsAs_render h.1) hrest
    rwa [renderItems, List.append_assoc, List.cons_append]

theorem membersReadAs_renderMembers : ∀ {ms : List (String × Json)}, ms ≠ [] → ExactMembers ms →
    MembersReadAs ms (renderMembers ms ++ ['\x7d'])
  | [], hne, _ => absurd rfl hne
  | [(k, v)], _, h => by
    have := MembersReadAs.last k (readsAs_render h.1) isBlank_of_mem_nil
    rwa [List.append_nil] at this
  | (k, v) :: m :: ms, _, h => by
    have hrest := membersReadAs_renderMembers (List.cons_ne_nil m ms) h.2
    have := MembersReadAs.cons k (readsAs_render h.1) hrest
    rwa [renderMembers, List.append_assoc, List.cons_append]

end

/-! ### The indented text -/

theorem isBlank_of_mem_newline (level : Nat) : ∀ c ∈ newline level, IsBlank c := by
  intro c hc
  rcases List.mem_cons.mp hc with rfl | hc
  · exact .inr (.inr (.inl rfl))
  · exact .inl (List.eq_of_mem_replicate hc)

theorem isBlank_of_mem_space : ∀ c ∈ [' '], IsBlank c := by
  intro c hc
  exact .inl (List.mem_singleton.mp hc)

mutual

/-- **The indented text of a value is read as the value**, at every level. What differs from the
compact one are blanks: `newline level` before each item, and one behind each colon. -/
theorem readsAs_renderIndented : ∀ {v : Json} (level : Nat), v.Exact →
    ReadsAs v (v.renderIndented level)
  | .null, _, _ => ReadsAs.null
  | .boolean b, _, _ => ReadsAs.boolean b
  | .number (.integer i h), _, _ => ReadsAs.integer i h
  | .number (.double _), _, h => h.elim
  | .text s, _, _ => ReadsAs.text s
  | .array [], _, _ => ReadsAs.emptyArray
  | .array (v :: vs), level, h => by
    have hitems := itemsReadAs_indentItems (level + 1) (isBlank_of_mem_newline level)
      (List.cons_ne_nil v vs) h
    rw [renderIndented]
    exact ReadsAs.array hitems
  | .object [], _, _ => ReadsAs.emptyObject
  | .object (m :: ms), level, h => by
    have hmembers := membersReadAs_indentMembers (level + 1) (isBlank_of_mem_newline level)
      (List.cons_ne_nil m ms) h
    rw [renderIndented]
    exact ReadsAs.object hmembers

theorem itemsReadAs_indentItems : ∀ {vs : List Json} {b : List Char} (level : Nat),
    (∀ c ∈ b, IsBlank c) → vs ≠ [] → ExactItems vs →
      ItemsReadAs vs (indentItems level vs ++ b ++ [']'])
  | [], _, _, _, hne, _ => absurd rfl hne
  | [v], _, level, hb, _, h => by
    have hv := (readsAs_renderIndented level h.1).blanks (isBlank_of_mem_newline level)
    exact ItemsReadAs.last hv hb
  | v :: w :: vs, _, level, hb, _, h => by
    have hv := (readsAs_renderIndented level h.1).blanks (isBlank_of_mem_newline level)
    have hrest := itemsReadAs_indentItems level hb (List.cons_ne_nil w vs) h.2
    have := ItemsReadAs.cons hv hrest
    rw [indentItems]
    simpa using this

theorem membersReadAs_indentMembers : ∀ {ms : List (String × Json)} {b : List Char} (level : Nat),
    (∀ c ∈ b, IsBlank c) → ms ≠ [] → ExactMembers ms →
      MembersReadAs ms (indentMembers level ms ++ b ++ ['\x7d'])
  | [], _, _, _, hne, _ => absurd rfl hne
  | [(k, v)], _, level, hb, _, h => by
    have hv := (readsAs_renderIndented level h.1).blanks isBlank_of_mem_space
    have := (MembersReadAs.last k hv hb).blanks (isBlank_of_mem_newline level)
    rw [indentMembers]
    simpa using this
  | (k, v) :: m :: ms, _, level, hb, _, h => by
    have hv := (readsAs_renderIndented level h.1).blanks isBlank_of_mem_space
    have hrest := membersReadAs_indentMembers level hb (List.cons_ne_nil m ms) h.2
    have := (MembersReadAs.cons k hv hrest).blanks (isBlank_of_mem_newline level)
    rw [indentMembers]
    simpa using this

end

/-! ### Documents -/

/-- A text that is read as `v` is a document that is read as `v`: nothing stands behind it, and
there is fuel for its length. -/
theorem document_of_readsAs (h : ReadsAs v cs) :
    document (Text.Utf8.symbols (Text.Utf8.encode (String.ofList cs))) = ⟨v.toNode, true⟩ := by
  -- A document starts with more fuel than it has characters.
  have hlen : cs.length ≤ 2 * (cs.map Symbol.char).length + 2 := by
    rw [List.length_map]
    omega
  have hvalue := h _ [] hlen (by rintro s ⟨⟩)
  rw [List.append_nil] at hvalue
  rw [Text.Utf8.symbols_encode_ofList, document, hvalue]
  rfl

/-- **A value is read back from its compact text**, and nothing follows it. -/
theorem document_compact (h : v.Exact) :
    document (Text.Utf8.symbols (Text.Utf8.encode v.compact)) = ⟨v.toNode, true⟩ :=
  document_of_readsAs (readsAs_render h)

/-- **A value is read back from its indented text**: the blanks between its parts are skipped. -/
theorem document_indented (h : v.Exact) :
    document (Text.Utf8.symbols (Text.Utf8.encode v.indented)) = ⟨v.toNode, true⟩ :=
  document_of_readsAs (readsAs_renderIndented 0 h)

end Reader

end FleetAgent.Json
