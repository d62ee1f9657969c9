import FleetAgent.Proofs.Text.Composed
import FleetAgent.Proofs.Text.Utf8
import FleetAgent.Proofs.Url.Behind
import Mathlib.Data.List.Flatten
/-!
# Blanks before what goes on

A blank `c` that is dropped at the end of a text is part of the authority or of the path when the
text goes on. No authority of a special scheme ends in one (`parseAuthority_concat_blank`): neither
a host (`parseHost_concat_blank`) nor a port (`parsePort_concat_blank`) does. A path is longer with
it (`length_slashed_lt`), because it is encoded and no dot is written with it.

For a host the blank is followed through each of its steps: it is the last byte that is decoded
(`exists_decode_concat`), it is still there in the text of the bytes (`mem_of_decode?_concat`) and
in the usual spelling (`mem_usualSpelling?_of_blank`), and no name holds it (`asciiName?_of_blank`).
-/

namespace FleetAgent

/-! ### Bytes -/

namespace Text.Utf8

/-- The second byte of a character is none of ASCII. -/
theorem le_lo_of_first {a : UInt8} {p : Pending} (h : first a = .inr p) : 0x80 ≤ p.lo := by
  unfold first at h
  dsimp only at h
  split at h
  · cases h
  split at h
  · cases h
  split at h
  · cases h
    exact Nat.le_refl _
  split at h
  · cases h
    dsimp only
    split <;> decide
  split at h
  · cases h
    dsimp only
    split <;> decide
  · cases h

/-- What comes out after a byte `a` that is looked at as a first one, before `b`, whichever way it
is taken. -/
theorem exists_of_first {b : UInt8} {bytes : List UInt8}
    (hnone : ∃ front, symbolsFrom none bytes = front ++ [.char (Char.ofNat b.toNat)])
    (hsome : ∀ p : Pending, 0x80 ≤ p.lo →
      ∃ front, symbolsFrom (some p) bytes = front ++ [.char (Char.ofNat b.toNat)]) (a : UInt8) :
    ∃ front, (match first a with
      | .inl s => s :: symbolsFrom none bytes
      | .inr p => symbolsFrom (some p) bytes) = front ++ [.char (Char.ofNat b.toNat)] := by
  cases ha : first a with
  | inl s =>
    obtain ⟨front, hfront⟩ := hnone
    exact ⟨s :: front, congrArg _ hfront⟩
  | inr p => exact hsome p (le_lo_of_first ha)

/-- A byte `b` of ASCII is a character of its own, wherever it stands: at a start, or where a byte
is owed, which it is not. The induction is on the bytes before it. -/
theorem exists_symbolsFrom_concat {b : UInt8} (hb : b.toNat < 0x80) (bytes : List UInt8) :
    (∃ front, symbolsFrom none (bytes ++ [b]) = front ++ [.char (Char.ofNat b.toNat)]) ∧
      ∀ p : Pending, 0x80 ≤ p.lo →
        ∃ front, symbolsFrom (some p) (bytes ++ [b]) = front ++ [.char (Char.ofNat b.toNat)] := by
  induction bytes with
  | nil =>
    have hfirst : first b = .inl (.char (Char.ofNat b.toNat)) := first_of_lt hb
    refine ⟨⟨[], by rw [List.nil_append, symbolsFrom, hfirst]; rfl⟩, fun p hp => ?_⟩
    -- The character that was begun is broken off.
    refine ⟨[.stray p.size], ?_⟩
    rw [List.nil_append, symbolsFrom, if_neg (by omega), hfirst]
    rfl
  | cons a bytes ih =>
    obtain ⟨hnone, hsome⟩ := ih
    refine ⟨?_, fun p hp => ?_⟩
    · rw [List.cons_append, symbolsFrom]
      exact exists_of_first hnone hsome a
    · rw [List.cons_append, symbolsFrom]
      split
      next =>
        dsimp only
        split
        · obtain ⟨front, hfront⟩ := hnone
          exact ⟨_ :: front, congrArg _ hfront⟩
        · exact hsome _ (Nat.le_refl _)
      next =>
        obtain ⟨front, hfront⟩ := exists_of_first hnone hsome a
        exact ⟨_ :: front, congrArg _ hfront⟩

/-- A text `s` that is read from bytes ends in the byte `b` of ASCII that they end in. -/
theorem mem_of_decode?_concat {b : UInt8} (hb : b.toNat < 0x80) {bytes : List UInt8} {s : String}
    (h : decode? (bytes ++ [b]) = some s) : Char.ofNat b.toNat ∈ s.toList := by
  obtain ⟨cs, hcs, rfl⟩ := Option.map_eq_some_iff.mp h
  obtain ⟨front, hfront⟩ := (exists_symbolsFrom_concat hb bytes).1
  rw [symbols, hfront, List.mapM_append] at hcs
  rw [String.toList_ofList]
  simp only [List.mapM_cons, List.mapM_nil, Symbol.char?, Option.bind_eq_bind,
    Option.pure_def, Option.bind_some, Option.bind_eq_some_iff] at hcs
  obtain ⟨ds, -, hds⟩ := hcs
  rw [← Option.some.inj hds]
  simp

end Text.Utf8

/-! ### Hosts and ports -/

namespace Url

open FleetAgent.Text

/-- A blank is no digit. -/
theorem hexValue?_of_blank {c : Char} (hc : c.toNat ≤ 0x20) : hexValue? c = none := by
  have hlt : ∀ d : Char, 0x20 < d.toNat → ¬ d ≤ c := by
    intro d hd hle
    have hle : d.toNat ≤ c.toNat := hle
    omega
  simp only [hexValue?, isDigit, decide_eq_false (hlt '0' (by decide)),
    decide_eq_false (hlt 'a' (by decide)), decide_eq_false (hlt 'A' (by decide)), Bool.false_and]
  rfl

theorem encode_singleton_of_lt {c : Char} (hc : c.toNat < 0x80) :
    Utf8.encode (String.singleton c) = [UInt8.ofNat c.toNat] := by
  have hle : c.val.toNat ≤ 0x7F := Nat.le_of_lt_succ hc
  rw [Utf8.encode_singleton, String.utf8EncodeChar]
  exact if_pos hle

/-- A blank at the end of a text is the last byte that is decoded. -/
theorem exists_decode_concat {c : Char} (hc : c.toNat ≤ 0x20) :
    ∀ cs : List Char, ∃ bytes, decode (cs ++ [c]) = bytes ++ [UInt8.ofNat c.toNat]
  | [] => by
    refine ⟨[], ?_⟩
    rw [List.nil_append, decode_cons_of_ne (ne_of_blank hc (by decide)),
      encode_singleton_of_lt (by omega)]
    rfl
  | d :: cs => by
    by_cases hd : d = '%'
    · subst hd
      match cs with
      | [] =>
        obtain ⟨bytes, hbytes⟩ := exists_decode_concat hc []
        exact ⟨Utf8.encode "%" ++ bytes, by
          rw [List.append_assoc, ← hbytes]
          rfl⟩
      | [a] =>
        -- The blank is not the second digit of a byte.
        obtain ⟨bytes, hbytes⟩ := exists_decode_concat hc [a]
        refine ⟨Utf8.encode "%" ++ bytes, ?_⟩
        show decode ('%' :: a :: c :: []) = _
        rw [decode, hexValue?_of_blank hc, List.append_assoc, ← hbytes]
        cases hexValue? a <;> rfl
      | a :: b :: cs =>
        show ∃ bytes, decode ('%' :: a :: b :: (cs ++ [c])) = _
        rw [decode]
        split
        · obtain ⟨bytes, hbytes⟩ := exists_decode_concat hc cs
          exact ⟨_ :: bytes, congrArg _ hbytes⟩
        · obtain ⟨bytes, hbytes⟩ := exists_decode_concat hc (a :: b :: cs)
          exact ⟨Utf8.encode "%" ++ bytes, by
            rw [List.append_assoc, ← hbytes]
            rfl⟩
    · obtain ⟨bytes, hbytes⟩ := exists_decode_concat hc cs
      refine ⟨Utf8.encode (String.singleton d) ++ bytes, ?_⟩
      rw [List.cons_append, decode_cons_of_ne hd, hbytes, List.append_assoc]
termination_by cs => cs.length

/-- A blank `c` is its own replacement, so that it is still there in the usual spelling. -/
theorem mem_usualSpelling?_of_blank {c : Char} (hc : c.toNat ≤ 0x20) {cs name : List Char}
    (hmem : c ∈ cs) (h : usualSpelling? cs = some name) : c ∈ name := by
  have hlower : c.toLower = c := toLower_of_not_upper (by omega)
  have hreplacement : replacement? c = some [c] := by
    rw [replacement?, if_pos (by omega), hlower]
  rw [usualSpelling?] at h
  split at h
  · cases h
    exact List.mem_map.mpr ⟨c, hmem, hlower⟩
  · obtain ⟨parts, hparts, rfl⟩ := Option.map_eq_some_iff.mp h
    -- Each character is replaced on its own, and a blank by itself.
    have hpart : [c] ∈ parts := by
      obtain ⟨before, after, rfl⟩ := List.append_of_mem hmem
      rw [List.mapM_append, List.mapM_cons, hreplacement] at hparts
      simp only [Option.bind_eq_bind, Option.bind_some, Option.bind_eq_some_iff] at hparts
      obtain ⟨front, -, back, ⟨rest, -, hback⟩, hparts⟩ := hparts
      cases hback
      cases hparts
      exact List.mem_append_right _ List.mem_cons_self
    exact mem_composed (.of_blank hc) (List.mem_flatten.mpr ⟨[c], hpart, List.mem_singleton_self c⟩)

theorem asciiName?_of_blank {c : Char} (hc : c.toNat ≤ 0x20) {cs : List Char} (hmem : c ∈ cs) :
    asciiName? cs = none := by
  rw [asciiName?, Option.bind_eq_bind, Option.bind_eq_none_iff]
  intro name hname
  have hforbidden : isForbidden c = true := by simp [isForbidden, hc]
  have hany : name.any isForbidden = true :=
    List.any_eq_true.mpr ⟨c, mem_usualSpelling?_of_blank hc hmem hname, hforbidden⟩
  rw [hany, Bool.true_or, if_pos rfl]

/-- No host ends in a blank. -/
theorem parseHost_concat_blank {c : Char} (hc : c.toNat ≤ 0x20) (cs : List Char) (host : Host) :
    parseHost (cs ++ [c]) ≠ .ok host := by
  intro h
  unfold parseHost at h
  split at h
  next r hr =>
    -- A bracket that is opened must be closed at the end.
    split at h
    next hlast =>
      have hend := congrArg List.getLast? hr
      rw [List.getLast?_concat, List.getLast?_cons, hlast] at hend
      exact absurd (Option.some.inj hend) (ne_of_blank hc (by decide))
    next => cases h
  next =>
    have hbyte : (UInt8.ofNat c.toNat).toNat = c.toNat := Utf8.toNat_ofNat_of_lt (by omega)
    obtain ⟨bytes, hbytes⟩ := exists_decode_concat hc cs
    rw [hbytes] at h
    split at h
    next => cases h
    next s hs =>
      have hmem := Utf8.mem_of_decode?_concat (by omega) hs
      rw [hbyte, Char.ofNat_toNat] at hmem
      rw [asciiName?_of_blank hc hmem] at h
      cases h

/-- No port ends in a blank. -/
theorem parsePort_concat_blank {c : Char} (hc : c.toNat ≤ 0x20) (scheme : String) (cs : List Char)
    (port : Option Nat) : parsePort scheme (cs ++ [c]) ≠ .ok port := by
  have hnumber : number? 10 (cs ++ [c]) = none := by
    rw [number?, List.foldl_append, List.foldl_cons, List.foldl_nil, hexValue?_of_blank hc]
    rfl
  intro h
  rw [parsePort, hnumber] at h
  cases h

/-! ### Parts of an authority -/

theorem splitOnce_cons_of_ne {sep c : Char} (h : c ≠ sep) (cs : List Char) :
    splitOnce sep (c :: cs) = (splitOnce sep cs).map fun (a, b) => (c :: a, b) :=
  if_neg h

/-- What stands at the end, `c`, belongs to the part behind the last mark. -/
theorem cutLast_concat {sep c : Char} (h : c ≠ sep) (cs : List Char) :
    ∃ user hostPort, (cutLast sep cs).getD ([], cs) = (user, hostPort) ∧
      (cutLast sep (cs ++ [c])).getD ([], cs ++ [c]) = (user, hostPort ++ [c]) := by
  have hcut : cutLast sep (cs ++ [c]) = (cutLast sep cs).map fun (a, b) => (a, b ++ [c]) := by
    rw [cutLast, cutLast, List.reverse_append, List.reverse_singleton, List.singleton_append,
      splitOnce_cons_of_ne h, Option.map_map, Option.map_map]
    refine congrArg (Option.map · _) (funext fun p => ?_)
    simp
  rw [hcut]
  cases cutLast sep cs with
  | none => exact ⟨_, _, rfl, rfl⟩
  | some parts => exact ⟨_, _, rfl, rfl⟩

/-- What stands at the end, `c`, belongs to the port, or to the host if there is none. -/
theorem cutPort_concat {c : Char} (h : c ≠ ':') (inside : Bool) (cs : List Char) :
    cutPort inside (cs ++ [c]) =
      match cutPort inside cs with
      | (host, none) => (host ++ [c], none)
      | (host, some port) => (host, some (port ++ [c])) := by
  induction cs generalizing inside with
  | nil =>
    rw [List.nil_append, cutPort, cutPort, cutPort, if_neg fun hcolon => h hcolon.1]
    rfl
  | cons d cs ih =>
    rw [List.cons_append, cutPort, cutPort]
    split
    · rfl
    · rw [ih]
      dsimp only
      generalize cutPort _ cs = parts
      obtain ⟨host, _ | port⟩ := parts <;> rfl

/-- **No authority of a special scheme ends in a blank** `c`. The blank stands at the end of the
port, or of the host if there is no port. -/
theorem parseAuthority_concat_blank {c : Char} (hc : c.toNat ≤ 0x20) {cs : List Char}
    (hback : '\\' ∉ cs) (scheme : String) (more : Bool) (a : Authority) :
    parseAuthority scheme true more (cs ++ [c]) ≠ .ok a := by
  intro h
  obtain ⟨user, hostPort, hparts, -, ⟨host, hhost⟩, ⟨port, hport⟩, -⟩ :=
    of_parseAuthority_special h
  have hat : c ≠ '@' := ne_of_blank hc (by decide)
  have hcolon : c ≠ ':' := ne_of_blank hc (by decide)
  obtain ⟨user', front, hfront, hconcat⟩ := cutLast_concat hat cs
  obtain ⟨-, rfl⟩ := Prod.mk.inj (hparts.symm.trans hconcat)
  rw [cutPort_concat hcolon] at hhost hport
  cases hcut : cutPort false front with
  | mk hostText portText =>
    rw [hcut] at hhost hport
    cases portText with
    | none => exact parseHost_concat_blank hc _ _ hhost
    | some portText =>
      -- Nothing ends the port before the blank.
      have hall : (portText ++ [c]).takeWhile (· != '\\') = portText ++ [c] := by
        refine List.takeWhile_eq_self_iff.mpr fun d hd => bne_iff_ne.mpr ?_
        rcases List.mem_append.mp hd with hd | hd
        · rintro rfl
          exact hback (mem_of_mem_portText hfront hcut hd)
        · rw [List.mem_singleton.mp hd]
          exact ne_of_blank hc (by decide)
      dsimp only at hport
      rw [Option.getD_some, hall] at hport
      exact parsePort_concat_blank hc _ _ _ hport

/-! ### Paths -/

/-- A blank in a path is written as its byte, of which no dot is written: neither as `.` nor as
`%2e`. -/
theorem exists_encode_blank {c : Char} (hc : c.toNat ≤ 0x20) :
    ∃ x y, encode inPath [c] = ['%', x, y] ∧ y.toLower ≠ '.' ∧
      (x.toLower = '2' → y.toLower ≠ 'e') := by
  have hbyte : (UInt8.ofNat c.toNat).toNat = c.toNat := Utf8.toNat_ofNat_of_lt (by omega)
  have hin : inPath c = true := by
    rcases Nat.lt_or_eq_of_le hc with hlt | heq
    · simp [inPath, inFragment, inControls, hlt]
    · obtain rfl : c = ' ' := Char.toNat_inj.mp heq
      rfl
  refine ⟨hexDigit (c.toNat / 16), hexDigit (c.toNat % 16), ?_, ?_⟩
  · rw [encode, List.flatMap_singleton, if_pos hin, encode_singleton_of_lt (by omega),
      List.flatMap_singleton, percent, hbyte]
  · exact (show ∀ n < 0x21, (hexDigit (n % 16)).toLower ≠ '.' ∧
      ((hexDigit (n / 16)).toLower = '2' → (hexDigit (n % 16)).toLower ≠ 'e') by decide)
      c.toNat (by omega)

/-- What ends in a blank is no dot, however dots are written. -/
theorem no_dots_of_blank {c : Char} (hc : c.toNat ≤ 0x20) (s : List Char) :
    isDoubleDot (s ++ encode inPath [c]) = false ∧
      isSingleDot (s ++ encode inPath [c]) = false := by
  obtain ⟨x, y, hencode, hdot, hdigits⟩ := exists_encode_blank hc
  -- The last two characters in small letters.
  have hend : ((s ++ ['%', x, y]).map Char.toLower).reverse =
      y.toLower :: x.toLower :: '%'.toLower :: (s.map Char.toLower).reverse := by
    simp
  have hne : ∀ t : List Char, t.reverse.head? = some '.' ∨
      t.reverse.take 2 = ['e', '2'] → (s ++ ['%', x, y]).map Char.toLower ≠ t := by
    rintro t ht rfl
    rw [hend] at ht
    rcases ht with ht | ht
    · exact hdot (Option.some.inj ht)
    · obtain ⟨hy, hx⟩ := List.cons.inj ht
      exact hdigits (List.cons.inj hx).1 hy
  rw [hencode]
  constructor
  · simp only [isDoubleDot, List.contains_eq_mem, List.mem_cons, List.not_mem_nil, or_false,
      decide_eq_false_iff_not, not_or]
    exact ⟨hne _ (.inl rfl), hne _ (.inr rfl), hne _ (.inl rfl), hne _ (.inr rfl)⟩
  · simp only [isSingleDot, Bool.or_eq_false_iff, beq_eq_false_iff_ne]
    refine ⟨fun heq => ?_, (hne _ (.inr rfl)).symm⟩
    have hlength := congrArg List.length heq
    simp at hlength

/-- What does not hold the mark is part of the last piece. -/
theorem exists_splitOn_append {sep : Char} {tail : List Char} (h : sep ∉ tail) (cs : List Char) :
    ∃ front last, splitOn sep cs = front ++ [last] ∧
      splitOn sep (cs ++ tail) = front ++ [last ++ tail] := by
  induction cs with
  | nil => exact ⟨[], [], rfl, splitOn_of_not_mem h⟩
  | cons c cs ih =>
    obtain ⟨front, last, hcs, hgoes⟩ := ih
    rw [List.cons_append, splitOn, splitOn, hcs, hgoes]
    split
    · exact ⟨[] :: front, last, rfl, rfl⟩
    · cases front with
      | nil => exact ⟨[], c :: last, rfl, rfl⟩
      | cons p ps => exact ⟨(c :: p) :: ps, last, rfl, rfl⟩

/-- Blanks behind a path are part of its last piece. -/
theorem exists_pieces_append {path tail : List Char} (hne : path ≠ [])
    (hblank : ∀ c ∈ tail, c.toNat ≤ 0x20) :
    ∃ front last, pieces path = front ++ [last] ∧
      pieces (path ++ tail) = front ++ [last ++ encode inPath tail] := by
  have hslash : '/' ∉ tail := not_mem_of_blanks hblank (by decide)
  have hback : '\\' ∉ tail := not_mem_of_blanks hblank (by decide)
  have hstraight : straighten tail = tail := by
    refine (List.map_congr_left fun c hc => if_neg ?_).trans (List.map_id _)
    simp [isSlash, ne_of_mem_of_not_mem hc hslash, ne_of_mem_of_not_mem hc hback]
  obtain ⟨c, cs, rfl⟩ := List.exists_cons_of_ne_nil hne
  obtain ⟨front, last, hpieces, hgoes⟩ := exists_splitOn_append hslash (straighten cs)
  refine ⟨front.map (encode inPath), encode inPath last, ?_, ?_⟩
  · rw [pieces, hpieces, List.map_append, List.map_singleton]
  · rw [List.cons_append, pieces, straighten, List.map_append]
    show (splitOn '/' (straighten cs ++ straighten tail)).map (encode inPath) = _
    rw [hstraight, hgoes, List.map_append, List.map_singleton, encode, List.flatMap_append]
    rfl

theorem length_slashed_concat (done : List String) (s : String) :
    (slashed (done ++ [s])).length = (slashed done).length + (s.toList.length + 1) := by
  rw [slashed, List.flatMap_append, List.flatMap_singleton, List.length_append]
  rfl

/-- The last piece `s` of a path does not make it longer than it is. -/
theorem length_slashed_resolve_le (done : List String) (s : List Char) :
    (slashed (resolve done [s])).length ≤ (slashed done).length + (s.length + 1) := by
  have hdrop : (slashed done.dropLast).length ≤ (slashed done).length :=
    (done.dropLast_sublist.flatMap _).length_le
  have hempty : "".toList.length = 0 := rfl
  rw [resolve_singleton]
  split
  · rw [length_slashed_concat]
    omega
  split
  · rw [length_slashed_concat]
    omega
  · rw [length_slashed_concat, String.toList_ofList]

/-- **A path is longer with blanks behind it that are kept**: its last piece has three characters
more for each of the `tail`, and is no dot. -/
theorem length_slashed_lt {path tail : List Char} (hpath : ∀ c ∈ path.head?, isSlash true c = true)
    (hne : path ≠ []) (htail : tail ≠ []) (hblank : ∀ c ∈ tail, c.toNat ≤ 0x20) :
    (slashed (parseSegments true path)).length < (slashed (trunk (path ++ tail))).length := by
  obtain ⟨front, last, hpieces, hgoes⟩ := exists_pieces_append hne hblank
  obtain ⟨blanks, c, rfl⟩ := (List.eq_nil_or_concat tail).resolve_left htail
  have hc : c.toNat ≤ 0x20 := hblank c (by simp)
  have hencode : encode inPath (blanks.concat c) =
      encode inPath blanks ++ encode inPath [c] := by
    rw [List.concat_eq_append, encode, List.flatMap_append]
    rfl
  obtain ⟨hdouble, hsingle⟩ := no_dots_of_blank hc (last ++ encode inPath blanks)
  -- With a blank at its end the last piece is no dot, so it is one more segment.
  have htrunk : trunk (path ++ blanks.concat c) = walk [] front ++
      [String.ofList (last ++ encode inPath blanks ++ encode inPath [c])] := by
    rw [trunk, hgoes, hencode, ← List.append_assoc, walk, List.foldl_append, List.foldl_cons,
      List.foldl_nil, hdouble, hsingle]
    rfl
  have hresolve : parseSegments true path = resolve (walk [] front) [last] := by
    obtain ⟨d, cs, rfl⟩ := List.exists_cons_of_ne_nil hne
    rw [parseSegments_cons d (hpath d rfl), hpieces, resolve_append _ _ (List.cons_ne_nil _ _)]
  obtain ⟨x, y, hxy, -⟩ := exists_encode_blank hc
  have hle := length_slashed_resolve_le (walk [] front) last
  rw [hresolve, htrunk, hxy, length_slashed_concat, String.toList_ofList, List.length_append,
    List.length_append, List.length_cons]
  omega

end Url

end FleetAgent
