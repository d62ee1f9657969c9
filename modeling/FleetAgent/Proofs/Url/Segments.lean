import FleetAgent.Proofs.Url.Encoding
import FleetAgent.Controller.Endpoint
/-!
# What becomes of the segments of a path

A path that is made of valid segments is divided at its slashes again, but also at backslashes, and
its dots are resolved. `parseSegments_slashed` gives the pieces that are resolved. The segments come
out one for one exactly if they are all *plain* (`IsPlain`): not a dot, not two dots, and without a
backslash (`map_decode_parseSegments_iff`).

That plain segments come out is `parseSegments_of_plain`. That others do not is because everything
that comes out is plain or nothing (`of_mem_parseSegments`), whatever went in.
-/

namespace FleetAgent.Url

open FleetAgent.Text

/-! ### Paths of valid segments -/

/-- Segments as they are written behind each other, each behind a slash. -/
def slashed (segments : List String) : List Char :=
  segments.flatMap fun s => '/' :: s.toList

/-- Whether a segment is taken as it is. -/
def IsPlain (s : String) : Prop :=
  s ≠ "." ∧ s ≠ ".." ∧ '\\' ∉ s.toList

instance (s : String) : Decidable (IsPlain s) :=
  inferInstanceAs (Decidable (_ ∧ _ ∧ _))

/-- A character `c` that can stand in a segment is no slash, ends no path, is not encoded already,
and is not dropped. -/
theorem of_mem_validSegment {s : String} (h : ValidSegment s) {c : Char} (hc : c ∈ s.toList) :
    c ≠ '/' ∧ c ≠ '?' ∧ c ≠ '#' ∧ c ≠ '%' ∧ 0x20 < c.toNat := by
  have hfree : isReserved c = false := by
    have := List.find?_eq_none.mp h.2 c hc
    simpa using this
  simp only [isReserved, Bool.or_eq_false_iff, beq_eq_false_iff_ne, ne_eq] at hfree
  obtain ⟨⟨⟨⟨⟨h1, h2⟩, h3⟩, h4⟩, hblank⟩, hcontrol⟩ := hfree
  refine ⟨h1, h2, h3, h4, ?_⟩
  simp only [Text.isBlank, Text.isControl] at hblank hcontrol
  simp at hblank hcontrol
  omega

/-- What can stand in a segment is not encoded already. -/
theorem percent_not_mem {s : String} (h : ValidSegment s) : '%' ∉ s.toList :=
  fun hc => (of_mem_validSegment h hc).2.2.2.1 rfl

theorem toList_join (segments : List String) :
    (String.join (segments.map ("/" ++ ·))).toList = slashed segments := by
  rw [String.toList_join, List.flatMap_map, slashed]
  congr 1
  funext t
  rw [String.toList_append]
  rfl

/-- A character `c` of the path is a slash or stands in a segment. -/
theorem of_mem_slashed {segments : List String} {c : Char} (h : c ∈ slashed segments) :
    c = '/' ∨ ∃ s ∈ segments, c ∈ s.toList := by
  obtain ⟨s, hs, hc⟩ := List.mem_flatMap.mp h
  exact (List.mem_cons.mp hc).imp_right fun hc => ⟨s, hs, hc⟩

/-! ### Dividing at slashes -/

/-- Segments that are written start with a slash, if there are any. -/
theorem isSlash_head?_slashed (segments : List String) :
    ∀ c ∈ (slashed segments).head?, isSlash true c = true := by
  intro c hc
  cases segments with
  | nil => cases hc
  | cons s segments =>
    obtain rfl := Option.some.inj hc
    rfl

theorem splitOn_of_not_mem {sep : Char} {a : List Char} (h : sep ∉ a) : splitOn sep a = [a] := by
  induction a with
  | nil => rfl
  | cons c a ih =>
    rw [List.mem_cons, not_or] at h
    rw [splitOn, if_neg (Ne.symm h.1), ih h.2]

theorem splitOn_append_cons {sep : Char} {a : List Char} (h : sep ∉ a) (b : List Char) :
    splitOn sep (a ++ sep :: b) = a :: splitOn sep b := by
  induction a with
  | nil => exact if_pos rfl
  | cons c a ih =>
    rw [List.mem_cons, not_or] at h
    rw [List.cons_append, splitOn, if_neg (Ne.symm h.1), ih h.2]

/-- The parts `p` of a text are made of its characters, without the mark `sep`. -/
theorem of_mem_splitOn {sep : Char} {cs p : List Char} (h : p ∈ splitOn sep cs) {c : Char}
    (hc : c ∈ p) : c ∈ cs ∧ c ≠ sep := by
  induction cs generalizing p with
  | nil =>
    rw [splitOn, List.mem_singleton] at h
    rw [h] at hc
    cases hc
  | cons d cs ih =>
    rw [splitOn] at h
    split at h
    next heq =>
      rcases List.mem_cons.mp h with rfl | h
      · cases hc
      · exact ⟨List.mem_cons_of_mem _ (ih h hc).1, (ih h hc).2⟩
    next hne =>
      split at h
      next hnil =>
        rw [List.mem_singleton] at h
        rw [h, List.mem_singleton] at hc
        exact ⟨hc ▸ List.mem_cons_self, hc ▸ hne⟩
      -- The character belongs to the first part of the rest.
      next q qs hcons =>
        rw [hcons] at ih
        rcases List.mem_cons.mp h with rfl | h
        · rcases List.mem_cons.mp hc with rfl | hc
          · exact ⟨List.mem_cons_self, hne⟩
          · have := ih List.mem_cons_self hc
            exact ⟨List.mem_cons_of_mem _ this.1, this.2⟩
        · have := ih (List.mem_cons_of_mem _ h) hc
          exact ⟨List.mem_cons_of_mem _ this.1, this.2⟩

/-- Segments without slashes are what their path is divided into. -/
theorem splitOn_slashed {s : String} {segments : List String}
    (h : ∀ t ∈ s :: segments, '/' ∉ t.toList) :
    splitOn '/' (s.toList ++ slashed segments) = (s :: segments).map String.toList := by
  induction segments generalizing s with
  | nil =>
    rw [slashed, List.flatMap_nil, List.append_nil]
    exact splitOn_of_not_mem (h s List.mem_cons_self)
  | cons t segments ih =>
    have hrest := ih fun u hu => h u (List.mem_cons_of_mem _ hu)
    rw [slashed, List.flatMap_cons, List.cons_append,
      splitOn_append_cons (h s List.mem_cons_self), List.map_cons]
    exact congrArg _ hrest

/-- Segments without slashes are told from what is written. -/
theorem slashed_inj {segments segments' : List String} (h : ∀ s ∈ segments, '/' ∉ s.toList)
    (h' : ∀ s ∈ segments', '/' ∉ s.toList) :
    slashed segments = slashed segments' ↔ segments = segments' := by
  refine ⟨fun heq => ?_, congrArg slashed⟩
  cases segments with
  | nil =>
    cases segments' with
    | nil => rfl
    | cons s' segments' => cases heq
  | cons s segments =>
    cases segments' with
    | nil => cases heq
    | cons s' segments' =>
      have htail : s.toList ++ slashed segments = s'.toList ++ slashed segments' :=
        (List.cons.inj heq).2
      have hsplit := congrArg (splitOn '/') htail
      rw [splitOn_slashed h, splitOn_slashed h'] at hsplit
      exact (List.map_inj_right fun _ _ => String.toList_inj.mp).mp hsplit

/-! ### Resolving dots -/

theorem resolve_singleton (done : List String) (s : List Char) :
    resolve done [s] = if isDoubleDot s then done.dropLast ++ [""]
      else if isSingleDot s then done ++ [""] else done ++ [String.ofList s] := by
  rfl

theorem resolve_cons_cons (done : List String) (s u : List Char) (segments : List (List Char)) :
    resolve done (s :: u :: segments) = if isDoubleDot s then resolve done.dropLast (u :: segments)
      else if isSingleDot s then resolve done (u :: segments)
      else resolve (done ++ [String.ofList s]) (u :: segments) := by
  rfl

/-- Pieces that are no dots come out as they are, behind what is `done`. -/
theorem resolve_of_no_dots {segments : List (List Char)}
    (h : ∀ s ∈ segments, isDoubleDot s = false ∧ isSingleDot s = false) (done : List String) :
    resolve done segments = done ++ segments.map String.ofList := by
  induction segments generalizing done with
  | nil => rw [resolve, List.map_nil, List.append_nil]
  | cons s segments ih =>
    obtain ⟨hdouble, hsingle⟩ := h s List.mem_cons_self
    have hrest := ih fun t ht => h t (List.mem_cons_of_mem _ ht)
    cases segments with
    | nil =>
      rw [resolve_singleton, hdouble, hsingle]
      rfl
    | cons t segments =>
      rw [resolve_cons_cons, hdouble, hsingle]
      show resolve (done ++ [String.ofList s]) (t :: segments) = _
      rw [hrest, List.append_assoc, List.singleton_append]
      rfl

/-- A segment `s` is put behind what is `done`, or nothing is, or the last of it is taken away. -/
theorem exists_resolve_cons (done : List String) (s : List Char) (segments : List (List Char)) :
    ∃ front, resolve done (s :: segments) = resolve front segments ∧
      ∀ t ∈ front, t ∈ done ∨ t = "" ∨
        t = String.ofList s ∧ isDoubleDot s = false ∧ isSingleDot s = false := by
  have hdrop : ∀ t ∈ done.dropLast, t ∈ done := fun t ht => List.dropLast_subset _ ht
  cases segments with
  | nil =>
    -- At the end a dot leaves an empty segment behind.
    rw [resolve_singleton]
    split
    next =>
      refine ⟨done.dropLast ++ [""], rfl, fun t ht => ?_⟩
      exact (List.mem_append.mp ht).imp (hdrop t) fun ht => .inl (List.mem_singleton.mp ht)
    next hdouble =>
    split
    next =>
      refine ⟨done ++ [""], rfl, fun t ht => ?_⟩
      exact (List.mem_append.mp ht).imp_right fun ht => .inl (List.mem_singleton.mp ht)
    next hsingle =>
      refine ⟨done ++ [String.ofList s], rfl, fun t ht => ?_⟩
      exact (List.mem_append.mp ht).imp_right fun ht => .inr ⟨List.mem_singleton.mp ht,
        Bool.not_eq_true _ ▸ hdouble, Bool.not_eq_true _ ▸ hsingle⟩
  | cons u segments =>
    rw [resolve_cons_cons]
    split
    next => exact ⟨done.dropLast, rfl, fun t ht => .inl (hdrop t ht)⟩
    next hdouble =>
    split
    next => exact ⟨done, rfl, fun t ht => .inl ht⟩
    next hsingle =>
      refine ⟨done ++ [String.ofList s], rfl, fun t ht => ?_⟩
      exact (List.mem_append.mp ht).imp_right fun ht => .inr ⟨List.mem_singleton.mp ht,
        Bool.not_eq_true _ ▸ hdouble, Bool.not_eq_true _ ▸ hsingle⟩

/-- What is resolved, `t`, is no dot, or nothing in the place of a dot at the end. -/
theorem of_mem_resolve {segments : List (List Char)} {done : List String} {t : String}
    (h : t ∈ resolve done segments) :
    t ∈ done ∨ t = "" ∨
      ∃ s ∈ segments, t = String.ofList s ∧ isDoubleDot s = false ∧ isSingleDot s = false := by
  induction segments generalizing done with
  | nil => exact .inl h
  | cons s segments ih =>
    obtain ⟨front, hresolve, hfront⟩ := exists_resolve_cons done s segments
    rw [hresolve] at h
    rcases ih h with ht | rfl | ⟨s', hs', hdot⟩
    · rcases hfront t ht with ht | rfl | hs
      · exact .inl ht
      · exact .inr (.inl rfl)
      · exact .inr (.inr ⟨s, List.mem_cons_self, hs⟩)
    · exact .inr (.inl rfl)
    · exact .inr (.inr ⟨s', List.mem_cons_of_mem _ hs', hdot⟩)

/-! ### Segments that come out one for one -/

theorem inPath_dot : inPath '.' = false := by
  decide

/-- The path of segments is divided at slashes and backslashes, and resolved. -/
theorem parseSegments_slashed (s : String) (segments : List String) :
    parseSegments true (slashed (s :: segments)) = resolve [] ((splitOn '/'
      ((s.toList ++ slashed segments).map fun c => if isSlash true c then '/' else c)).map
        (encode inPath)) := by
  rfl

/-- What is in a path of valid segments is plain, or nothing. -/
theorem of_mem_parseSegments {segments : List String} (hne : segments ≠ [])
    (hvalid : ∀ s ∈ segments, ValidSegment s) {t : String}
    (h : t ∈ parseSegments true (slashed segments)) :
    t = "" ∨ ∃ s, decode t.toList = Utf8.encode s ∧ IsPlain s := by
  obtain ⟨s, segments, rfl⟩ := List.exists_cons_of_ne_nil hne
  rw [parseSegments_slashed] at h
  rcases of_mem_resolve h with h | h | ⟨p, hp, rfl, hdouble, hsingle⟩
  · cases h
  · exact .inl h
  · obtain ⟨q, hq, rfl⟩ := List.mem_map.mp hp
    -- Backslashes were made slashes, and slashes divide.
    have hchars : ∀ c ∈ q, c ≠ '%' ∧ c ≠ '\\' := by
      intro c hc
      obtain ⟨hmem, -⟩ := of_mem_splitOn hq hc
      obtain ⟨d, hd, rfl⟩ := List.mem_map.mp hmem
      split
      next => decide
      next hslash =>
        have hd' : d ∈ slashed (s :: segments) := List.mem_cons_of_mem _ hd
        refine ⟨?_, fun heq => hslash (heq ▸ rfl)⟩
        rcases of_mem_slashed hd' with rfl | ⟨u, hu, hdu⟩
        · decide
        · exact (of_mem_validSegment (hvalid u hu) hdu).2.2.2.1
    have hpercent : '%' ∉ q := fun hc => (hchars _ hc).1 rfl
    refine .inr ⟨String.ofList q, ?_, ?_, ?_, ?_⟩
    · rw [String.toList_ofList]
      exact decode_encode hpercent
    · intro heq
      have hq : q = ['.'] := String.ofList_injective heq
      rw [(isSingleDot_encode_iff inPath_dot hpercent).mpr hq] at hsingle
      cases hsingle
    · intro heq
      have hq : q = ['.', '.'] := String.ofList_injective heq
      rw [(isDoubleDot_encode_iff inPath_dot hpercent).mpr hq] at hdouble
      cases hdouble
    · rw [String.toList_ofList]
      exact fun hc => (hchars _ hc).2 rfl

/-- The path of plain segments has these segments, encoded. -/
theorem parseSegments_of_plain {segments : List String} (hne : segments ≠ [])
    (hvalid : ∀ s ∈ segments, ValidSegment s) (hplain : ∀ s ∈ segments, IsPlain s) :
    parseSegments true (slashed segments) =
      segments.map fun s => String.ofList (encode inPath s.toList) := by
  obtain ⟨s, segments, rfl⟩ := List.exists_cons_of_ne_nil hne
  -- Without backslashes, the slashes are those that were written.
  have hslash : (s.toList ++ slashed segments).map (fun c => if isSlash true c then '/' else c) =
      s.toList ++ slashed segments := by
    refine (List.map_congr_left fun c hc => ?_).trans (List.map_id _)
    have hc' : c ∈ slashed (s :: segments) := List.mem_cons_of_mem _ hc
    rcases of_mem_slashed hc' with rfl | ⟨u, hu, hcu⟩
    · rfl
    · refine if_neg fun hslash => ?_
      rw [isSlash, Bool.true_and, Bool.or_eq_true, beq_iff_eq, beq_iff_eq] at hslash
      rcases hslash with rfl | rfl
      · exact (of_mem_validSegment (hvalid u hu) hcu).1 rfl
      · exact (hplain u hu).2.2 hcu
  rw [parseSegments_slashed, hslash, splitOn_slashed, resolve_of_no_dots, List.nil_append,
    List.map_map, List.map_map]
  · rfl
  · intro p hp
    obtain ⟨q, hq, rfl⟩ := List.mem_map.mp hp
    obtain ⟨u, hu, rfl⟩ := List.mem_map.mp hq
    have hpercent : '%' ∉ u.toList := percent_not_mem (hvalid u hu)
    constructor
    · rw [← Bool.not_eq_true, isDoubleDot_encode_iff inPath_dot hpercent]
      exact fun heq => (hplain u hu).2.1 (String.toList_inj.mp heq)
    · rw [← Bool.not_eq_true, isSingleDot_encode_iff inPath_dot hpercent]
      exact fun heq => (hplain u hu).1 (String.toList_inj.mp heq)
  · exact fun t ht hmem => (of_mem_validSegment (hvalid t ht) hmem).1 rfl

/-- **Segments come out one for one exactly if they are plain** (`IsPlain`): resolving drops those
that stand for a place. -/
theorem map_decode_parseSegments_iff {segments : List String} (hne : segments ≠ [])
    (hvalid : ∀ s ∈ segments, ValidSegment s) :
    (parseSegments true (slashed segments)).map (fun t => decode t.toList) =
      segments.map Utf8.encode ↔ ∀ s ∈ segments, IsPlain s := by
  constructor
  · -- What comes out is plain, so a segment that comes out is.
    intro heq s hs
    obtain ⟨t, ht, hbytes⟩ : ∃ t ∈ parseSegments true (slashed segments),
        decode t.toList = Utf8.encode s := by
      rw [← List.mem_map, heq]
      exact List.mem_map_of_mem hs
    rcases of_mem_parseSegments hne hvalid ht with rfl | ⟨u, hu, hplain⟩
    · -- A segment is not empty.
      have hempty : Utf8.encode "" = Utf8.encode s := hbytes
      exact absurd (Utf8.encode_injective hempty).symm (hvalid s hs).1
    · rw [Utf8.encode_injective (hbytes.symm.trans hu)]
      exact hplain
  · intro hplain
    rw [parseSegments_of_plain hne hvalid hplain, List.map_map]
    refine List.map_congr_left fun s hs => ?_
    rw [Function.comp_apply, String.toList_ofList, decode_encode (percent_not_mem (hvalid s hs)),
      String.ofList_toList]

/-! ### URLs with given segments -/

/-- The path of a URL has these segments, one for one and at most encoded, and nothing stands behind
it. -/
def HasSegments (u : Url) (segments : List String) : Prop :=
  ∃ list, u.path = .segments list ∧
    list.map (fun t => decode t.toList) = segments.map Utf8.encode ∧
    u.query = none ∧ u.fragment = none

/-- The URL with these segments in the place of its path. -/
def withSegments (u : Url) (segments : List String) : Url :=
  { u with path := .segments (parseSegments true (slashed segments)) }

/-- What is asked for at a URL `u` without a query is its path. -/
theorem toList_target_withSegments {u : Url} (hquery : u.query = none) (segments : List String) :
    (u.withSegments segments).target.toList = slashed (parseSegments true (slashed segments)) := by
  unfold withSegments target pathText
  rw [hquery, String.toList_append, toList_join]
  exact List.append_nil _

/-- A URL `u` has the `segments` that it was given exactly if they are plain. -/
theorem hasSegments_withSegments_iff {u : Url} (hquery : u.query = none)
    (hfragment : u.fragment = none) {segments : List String} (hne : segments ≠ [])
    (hvalid : ∀ s ∈ segments, ValidSegment s) :
    (u.withSegments segments).HasSegments segments ↔ ∀ s ∈ segments, IsPlain s := by
  rw [← map_decode_parseSegments_iff hne hvalid]
  constructor
  · rintro ⟨list, hlist, hbytes, -⟩
    rw [Path.segments.inj hlist]
    exact hbytes
  · exact fun hbytes => ⟨_, rfl, hbytes, hquery, hfragment⟩

/-- Plain segments are told from what is written of their path. -/
theorem parseSegments_inj_of_plain {segments segments' : List String} (hne : segments ≠ [])
    (hne' : segments' ≠ []) (hvalid : ∀ s ∈ segments, ValidSegment s)
    (hvalid' : ∀ s ∈ segments', ValidSegment s) (hplain : ∀ s ∈ segments, IsPlain s)
    (hplain' : ∀ s ∈ segments', IsPlain s)
    (h : slashed (parseSegments true (slashed segments)) =
      slashed (parseSegments true (slashed segments'))) : segments = segments' := by
  have hfree : ∀ {segments : List String}, segments ≠ [] → (∀ s ∈ segments, ValidSegment s) →
      (∀ s ∈ segments, IsPlain s) →
      ∀ t ∈ parseSegments true (slashed segments), '/' ∉ t.toList := by
    intro segments hne hvalid hplain t ht
    rw [parseSegments_of_plain hne hvalid hplain] at ht
    obtain ⟨s, hs, rfl⟩ := List.mem_map.mp ht
    rw [String.toList_ofList]
    exact slash_not_mem_encode fun hc => (of_mem_validSegment (hvalid s hs) hc).1 rfl
  have hlist := (slashed_inj (hfree hne hvalid hplain) (hfree hne' hvalid' hplain')).mp h
  have hbytes : segments.map Utf8.encode = segments'.map Utf8.encode := by
    rw [← (map_decode_parseSegments_iff hne hvalid).mpr hplain, hlist,
      (map_decode_parseSegments_iff hne' hvalid').mpr hplain']
  exact (List.map_inj_right fun _ _ => Utf8.encode_injective).mp hbytes

end FleetAgent.Url
