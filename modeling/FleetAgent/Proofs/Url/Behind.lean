import FleetAgent.Proofs.Url.PlainBase
/-!
# What is read of a path that goes on

A path that goes on behind its text is resolved on its own up to there: `trunk path` is what it
comes to, and `parseSegments_append` reads the longer path as that and what comes behind. Segments
of letters, digits, `_` and `-` (`IsWord`) come out one for one behind the trunk
(`parseSegments_append_slashed`).

The trunk differs from `parseSegments true path` in the end of the path only: a dot at the end
leaves an empty segment there if nothing follows (`exists_parseSegments_eq`).
-/

namespace FleetAgent.Url

open FleetAgent.Text

/-! ### Paths that go on -/

/-- The text with slashes in the place of backslashes. -/
def straighten (cs : List Char) : List Char :=
  cs.map fun c => if isSlash true c then '/' else c

/-- The pieces of `path`, which starts with a slash, divided and encoded. An empty path has none. -/
def pieces : List Char → List (List Char)
  | [] => []
  | _ :: cs => (splitOn '/' (straighten cs)).map (encode inPath)

/-- What the pieces of a path come to behind `done` if more pieces follow. -/
def walk (done : List String) (segments : List (List Char)) : List String :=
  segments.foldl (fun done s =>
    if isDoubleDot s then done.dropLast
    else if isSingleDot s then done
    else done ++ [String.ofList s]) done

/-- What `path` comes to if it goes on. -/
def trunk (path : List Char) : List String :=
  walk [] (pieces path)

theorem splitOn_ne_nil (sep : Char) (cs : List Char) : splitOn sep cs ≠ [] := by
  cases cs with
  | nil => exact List.cons_ne_nil _ _
  | cons c cs =>
    rw [splitOn]
    split
    · exact List.cons_ne_nil _ _
    · split <;> exact List.cons_ne_nil _ _

/-- A mark `sep` divides the parts before it from those behind it. -/
theorem splitOn_append (sep : Char) (a b : List Char) :
    splitOn sep (a ++ sep :: b) = splitOn sep a ++ splitOn sep b := by
  induction a with
  | nil => exact if_pos rfl
  | cons c a ih =>
    rw [List.cons_append, splitOn, splitOn, ih]
    split
    · rfl
    · obtain ⟨p, ps, hparts⟩ := List.exists_cons_of_ne_nil (splitOn_ne_nil sep a)
      rw [hparts]
      rfl

/-- Resolving goes on with `rest` where `walk` has come, if there is a rest. -/
theorem resolve_append (done : List String) (segments : List (List Char))
    {rest : List (List Char)} (hne : rest ≠ []) :
    resolve done (segments ++ rest) = resolve (walk done segments) rest := by
  induction segments generalizing done with
  | nil => rfl
  | cons s segments ih =>
    obtain ⟨u, more, hmore⟩ := List.exists_cons_of_ne_nil
      (List.append_ne_nil_of_right_ne_nil segments hne)
    rw [List.cons_append, hmore, resolve_cons_cons, ← hmore, ih, ih, ih, walk, walk, walk, walk,
      List.foldl_cons]
    split
    · rfl
    split <;> rfl

theorem parseSegments_cons (c : Char) (hc : isSlash true c = true) (cs : List Char) :
    parseSegments true (c :: cs) = resolve [] (pieces (c :: cs)) := by
  rw [parseSegments, List.map_cons, if_pos hc]
  rfl

/-- **A path that goes on** is its `trunk`, and what comes behind. -/
theorem parseSegments_append {path : List Char} (hpath : ∀ c ∈ path.head?, isSlash true c = true)
    (rest : List Char) :
    parseSegments true (path ++ '/' :: rest) =
      resolve (trunk path) ((splitOn '/' (straighten rest)).map (encode inPath)) := by
  cases path with
  | nil => exact parseSegments_cons '/' rfl rest
  | cons c cs =>
    rw [List.cons_append, parseSegments_cons c (hpath c rfl), pieces, straighten, List.map_append,
      List.map_cons, if_pos (by rfl), splitOn_append, List.map_append, resolve_append]
    · rfl
    · exact mt List.map_eq_nil_iff.mp (splitOn_ne_nil _ _)

/-- A `path` that does not go on is its `trunk`, perhaps with a slash behind. -/
theorem exists_parseSegments_eq {path : List Char}
    (hpath : ∀ c ∈ path.head?, isSlash true c = true) :
    ∃ k, parseSegments true path = trunk path ++ List.replicate k "" := by
  cases path with
  | nil => exact ⟨1, rfl⟩
  | cons c cs =>
    have hne : pieces (c :: cs) ≠ [] := mt List.map_eq_nil_iff.mp (splitOn_ne_nil _ _)
    rw [parseSegments_cons c (hpath c rfl), trunk]
    obtain ⟨front, s, hfront⟩ := (List.eq_nil_or_concat (pieces (c :: cs))).resolve_left hne
    rw [hfront, List.concat_eq_append, resolve_append _ _ (List.cons_ne_nil _ _),
      resolve_singleton, walk, walk, List.foldl_append, List.foldl_cons, List.foldl_nil]
    split
    · exact ⟨1, rfl⟩
    split
    · exact ⟨1, rfl⟩
    · exact ⟨0, (List.append_nil _).symm⟩

/-! ### Plain segments behind a path -/

/-- Whether a segment is made of letters, digits, `_` and `-`. -/
def IsWord (s : String) : Prop :=
  s.toList.all inBasePath = true

instance (s : String) : Decidable (IsWord s) :=
  inferInstanceAs (Decidable (_ = _))

/-- A character `c` of a word is not dropped, divides nothing, ends nothing, and is not encoded. -/
theorem of_mem_word {s : String} (h : IsWord s) {c : Char} (hc : c ∈ s.toList) :
    0x20 < c.toNat ∧ c ≠ '/' ∧ c ≠ '\\' ∧ c ≠ '.' ∧ c ≠ '%' ∧ c ≠ '?' ∧ c ≠ '#' ∧
      inPath c = false := by
  have hrange := PlainBase.toNat_of_inBasePath (List.all_eq_true.mp h c hc)
  -- All characters that matter lie outside of the ranges of letters and digits.
  have hne : ∀ d : Char, d.toNat < 45 ∨ d.toNat = 46 ∨ d.toNat = 47 ∨ d.toNat = 60 ∨
      d.toNat = 62 ∨ d.toNat = 63 ∨ d.toNat = 92 ∨ 122 < d.toNat → c ≠ d := by
    rintro d hd rfl
    omega
  refine ⟨by omega, hne _ (by decide), hne _ (by decide), hne _ (by decide), hne _ (by decide),
    hne _ (by decide), hne _ (by decide), ?_⟩
  simp only [inPath, inFragment, inControls, Bool.or_eq_false_iff, beq_eq_false_iff_ne,
    decide_eq_false_iff_not]
  have hfragment : ((((((¬ c.toNat < 0x20 ∧ ¬ 0x7E < c.toNat) ∧ c ≠ ' ') ∧ c ≠ '"') ∧ c ≠ '<') ∧
      c ≠ '>') ∧ c.toNat ≠ 0x60) :=
    ⟨⟨⟨⟨⟨by omega, hne _ (by decide)⟩, hne _ (by decide)⟩, hne _ (by decide)⟩, hne _ (by decide)⟩,
      by omega⟩
  exact ⟨⟨⟨⟨hfragment, hne _ (by decide)⟩, hne _ (by decide)⟩, hne _ (by decide)⟩,
    hne _ (by decide)⟩

/-- A text `cs` of which no character is to be encoded stays as it is. -/
theorem encode_eq_self {cls : Char → Bool} {cs : List Char} (h : ∀ c ∈ cs, cls c = false) :
    encode cls cs = cs := by
  induction cs with
  | nil => rfl
  | cons c cs ih =>
    rw [encode, List.flatMap_cons, h c List.mem_cons_self]
    exact congrArg _ (ih fun d hd => h d (List.mem_cons_of_mem _ hd))

theorem encode_word {s : String} (h : IsWord s) : encode inPath s.toList = s.toList :=
  encode_eq_self fun _ hc => (of_mem_word h hc).2.2.2.2.2.2.2

/-- Words are no dots. -/
theorem no_dots_of_word {s : String} (h : IsWord s) :
    isDoubleDot s.toList = false ∧ isSingleDot s.toList = false := by
  have hpercent : '%' ∉ s.toList := fun hc => (of_mem_word h hc).2.2.2.2.1 rfl
  have hdot : '.' ∉ s.toList := fun hc => (of_mem_word h hc).2.2.2.1 rfl
  have hdouble := isDoubleDot_encode_iff inPath_dot hpercent
  have hsingle := isSingleDot_encode_iff inPath_dot hpercent
  rw [encode_word h] at hdouble hsingle
  constructor
  · rw [← Bool.not_eq_true, hdouble]
    intro heq
    rw [heq] at hdot
    exact hdot List.mem_cons_self
  · rw [← Bool.not_eq_true, hsingle]
    intro heq
    rw [heq] at hdot
    exact hdot List.mem_cons_self

theorem of_mem_slashed_words {segments : List String} (h : ∀ s ∈ segments, IsWord s) {c : Char}
    (hc : c ∈ slashed segments) : 0x20 < c.toNat ∧ c ≠ '?' ∧ c ≠ '#' := by
  rcases of_mem_slashed hc with rfl | ⟨s, hs, hc⟩
  · decide
  · obtain ⟨hlow, -, -, -, -, hquery, hsharp, -⟩ := of_mem_word (h s hs) hc
    exact ⟨hlow, hquery, hsharp⟩

/-- **Words behind a path come out one for one**, behind the `trunk` of the path: each of the
`segments` is a piece that is kept as it is. -/
theorem parseSegments_append_slashed {path : List Char}
    (hpath : ∀ c ∈ path.head?, isSlash true c = true) {segments : List String}
    (hne : segments ≠ []) (hwords : ∀ s ∈ segments, IsWord s) :
    parseSegments true (path ++ slashed segments) = trunk path ++ segments := by
  obtain ⟨s, segments, rfl⟩ := List.exists_cons_of_ne_nil hne
  -- There is no backslash in a word, so nothing is straightened.
  have hstraight : straighten (s.toList ++ slashed segments) = s.toList ++ slashed segments := by
    refine (List.map_congr_left fun c hc => ?_).trans (List.map_id _)
    have hc' : c ∈ slashed (s :: segments) := List.mem_cons_of_mem _ hc
    rcases of_mem_slashed hc' with rfl | ⟨u, hu, hcu⟩
    · rfl
    · obtain ⟨-, hslash, hback, -⟩ := of_mem_word (hwords u hu) hcu
      exact if_neg (by simp [isSlash, hslash, hback])
  have hencode : ((s :: segments).map String.toList).map (encode inPath) =
      (s :: segments).map String.toList := by
    rw [List.map_map]
    exact List.map_congr_left fun u hu => encode_word (hwords u hu)
  show parseSegments true (path ++ '/' :: (s.toList ++ slashed segments)) = _
  rw [parseSegments_append hpath, hstraight, splitOn_slashed, hencode, resolve_of_no_dots,
    List.map_map]
  · simp
  · rw [List.forall_mem_map]
    exact fun u hu => no_dots_of_word (hwords u hu)
  · exact fun u hu hc => (of_mem_word (hwords u hu) hc).2.1 rfl

theorem replicate_slash (k : Nat) : List.replicate k '/' = slashed (List.replicate k "") := by
  induction k with
  | zero => rfl
  | succ k ih =>
    rw [List.replicate_succ, ih]
    rfl

/-- Slashes behind a path come out as empty segments behind its trunk. -/
theorem exists_parseSegments_slashes {path : List Char}
    (hpath : ∀ c ∈ path.head?, isSlash true c = true) (k : Nat) :
    ∃ j, parseSegments true (path ++ List.replicate k '/') = trunk path ++ List.replicate j "" := by
  cases k with
  | zero =>
    rw [List.replicate_zero, List.append_nil]
    exact exists_parseSegments_eq hpath
  | succ k =>
    refine ⟨k + 1, ?_⟩
    rw [replicate_slash]
    refine parseSegments_append_slashed hpath (List.cons_ne_nil _ _) fun s hs => ?_
    rw [List.eq_of_mem_replicate hs]
    rfl

end FleetAgent.Url
