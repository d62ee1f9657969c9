import FleetAgent.Config
import FleetAgent.Proofs.Url.Blanks
/-!
# What is composed of a validated URL

The URL of a controller is validated as it is read, and kept as it was written: what is dropped when
`raw` is read alone can have a meaning when segments are put behind it. What is composed has the
parts of the validated URL `u` and the segments behind its path (`Composes u base segments`) exactly
if no blank was dropped at the end of the text (`EndsInBlank`), and the path that goes on ends in
one slash only: `Config.composes_iff`. With a space at its end, what is kept composes to another
place (`Config.composes_elsewhere`).

A text that is read at all is a `WebText w` behind the blanks that are dropped (`clean`), and
segments reach only the part behind `w.origin`. So the two cases are a text that goes on behind its
path (`exists_done_of_not_endsInBlank`) and one whose blank belongs to the path or the authority
then (`not_composes_of_endsInBlank`).
-/

namespace FleetAgent

open FleetAgent.Controller (joinUrl)
open FleetAgent.Text
open FleetAgent.Url

namespace Url

/-! ### Words behind a text -/

/-- The text of `segments` with a slash before each is not empty, if there is one. -/
theorem slashed_ne_nil {segments : List String} (h : segments ≠ []) : slashed segments ≠ [] := by
  obtain ⟨s, rest, rfl⟩ := List.exists_cons_of_ne_nil h
  exact List.cons_ne_nil _ _

theorem slashed_append (segments segments' : List String) :
    slashed (segments ++ segments') = slashed segments ++ slashed segments' :=
  List.flatMap_append

/-- A path `done` with a slash behind it ends in two slashes if the path ends in one. -/
theorem suffix_slashed_iff (done : List String) :
    ['/', '/'] <:+ slashed (done ++ [""]) ↔ (slashed done).getLast? = some '/' := by
  have hslashed : slashed (done ++ [""]) = slashed done ++ ['/'] := slashed_append _ _
  rw [hslashed, List.getLast?_eq_some_iff]
  constructor
  · rintro ⟨front, hfront⟩
    rw [← List.singleton_append, ← List.append_assoc] at hfront
    exact ⟨front, (List.append_cancel_right hfront).symm⟩
  · rintro ⟨front, hfront⟩
    exact ⟨front, by rw [hfront, List.append_assoc]; rfl⟩

/-- The text of the path of `u` is its segments with a slash before each. -/
theorem toList_pathText {u : Url} (segments : List String) (h : u.path = .segments segments) :
    u.pathText.toList = slashed segments := by
  rw [pathText, h, toList_join]

/-- The URL `v` is `u` with `segments` behind its path, which ends without slashes. -/
structure Extends (v u : Url) (segments : List String) : Prop where
  scheme : v.scheme = u.scheme
  username : v.username = u.username
  password : v.password = u.password
  host : v.host = u.host
  port : v.port = u.port
  query : v.query = none
  fragment : v.fragment = none
  path : v.pathText = joinUrl (dropTrailing '/' u.pathText) segments

/-- `segments` behind the text `base` give a URL: `u`, with the segments behind its path. -/
def Composes (u : Url) (base : String) (segments : List String) : Prop :=
  ∃ v, Url.parse (joinUrl base segments) = .ok v ∧ v.Extends u segments

theorem composes_iff_of_parse {u v : Url} {base : String} {segments : List String}
    (h : Url.parse (joinUrl base segments) = .ok v) :
    Composes u base segments ↔ v.Extends u segments := by
  constructor
  · rintro ⟨v', hv', hext⟩
    rwa [Except.ok.inj (h.symm.trans hv')]
  · exact fun hext => ⟨v, h, hext⟩

/-- The URL `u` with the path `done ++ segments` extends `u` exactly if `done` is the path of `u`
without its slashes. -/
theorem extends_iff {u : Url} (hquery : u.query = none) (hfragment : u.fragment = none)
    {done segments : List String} :
    { u with path := .segments (done ++ segments) }.Extends u segments ↔
      slashed done = (dropTrailing '/' u.pathText).toList := by
  have hpath : { u with path := .segments (done ++ segments) }.pathText =
      joinUrl (dropTrailing '/' u.pathText) segments ↔
        slashed done = (dropTrailing '/' u.pathText).toList := by
    rw [← String.toList_inj, toList_pathText _ rfl, PlainBase.toList_joinUrl, slashed_append,
      List.append_cancel_right_eq]
  constructor
  · exact fun hext => hpath.mp hext.path
  · exact fun h => ⟨rfl, rfl, rfl, rfl, rfl, hquery, hfragment, hpath.mpr h⟩

/-! ### Texts that go on -/

section

variable {w : WebText}

theorem endsAuthority_of_blank {c : Char} (hc : c.toNat ≤ 0x20) : endsAuthority true c = false := by
  have hne : ∀ {d : Char}, 0x20 < d.toNat → c ≠ d := fun hd => ne_of_blank hc hd
  simp only [endsAuthority, isSlash, Bool.or_eq_false_iff, Bool.and_eq_false_iff,
    beq_eq_false_iff_ne]
  exact ⟨⟨⟨hne (by decide), .inr (hne (by decide))⟩, hne (by decide)⟩, hne (by decide)⟩

/-- The text `w` with blanks behind its authority, and words behind them: how a text without a path
goes on. -/
def WebText.withBlanks (w : WebText) {tail : List Char} (hblank : ∀ c ∈ tail, c.toNat ≤ 0x20)
    {segments : List String} (hwords : ∀ s ∈ segments, IsWord s) : WebText where
  name := w.name
  slashes := w.slashes
  authority := w.authority ++ tail
  path := slashed segments
  name_ok := w.name_ok
  slashes_ok := w.slashes_ok
  authority_ne := List.append_ne_nil_of_left_ne_nil w.authority_ne _
  authority_ok := fun c hc => by
    rcases List.mem_append.mp hc with hc | hc
    · exact w.authority_ok c hc
    · exact endsAuthority_of_blank (hblank c hc)
  path_head := isSlash_head?_slashed segments
  path_ok := ⟨fun hc => (of_mem_slashed_words hwords hc).2.1 rfl,
    fun hc => (of_mem_slashed_words hwords hc).2.2 rfl⟩

/-- Words behind a text `s` that ends in a blank give no URL if there is no path: the blank is read
as part of the host, which may not hold it. -/
theorem parse_joinUrl_of_blank_authority {s : String} {tail : List Char}
    (hs : begun s.toList = w.origin ++ tail) (htail : tail ≠ [])
    (hblank : ∀ c ∈ tail, c.toNat ≤ 0x20) {segments : List String} (hne : segments ≠ [])
    (hwords : ∀ s ∈ segments, IsWord s) (v : Url) : Url.parse (joinUrl s segments) ≠ .ok v := by
  have hclean : clean (joinUrl s segments).toList = (w.withBlanks hblank hwords).text := by
    rw [PlainBase.toList_joinUrl, clean_append (fun c hc => (of_mem_slashed_words hwords hc).1)
      (slashed_ne_nil hne), hs]
    simp [WebText.withBlanks, WebText.origin, WebText.text]
  intro hv
  obtain ⟨a, ha, -⟩ := WebText.of_parse hv hclean
  obtain ⟨blanks, c, rfl⟩ := (List.eq_nil_or_concat tail).resolve_left htail
  -- The authority ends in the last of the blanks.
  have hend : (w.withBlanks hblank hwords).authority = w.authority ++ blanks ++ [c] := by
    rw [List.append_assoc, ← List.concat_eq_append]
    rfl
  have hback : '\\' ∉ w.authority ++ blanks := fun hc => by
    have hmem : '\\' ∈ (w.withBlanks hblank hwords).authority :=
      hend ▸ List.mem_append_left _ hc
    exact absurd ((w.withBlanks hblank hwords).authority_ok _ hmem) (by decide)
  rw [hend] at ha
  exact parseAuthority_concat_blank (hblank c (by simp)) hback _ _ a ha

variable {raw : String} {u : Url} (hu : Url.parse raw = .ok u) (hraw : clean raw.toList = w.text)

include hu hraw

/-- Words behind a text `s` that is begun like the validated `raw` stand behind the trunk of its
path. -/
theorem parse_joinUrl_of_begun {s : String} {path : List Char}
    (hs : begun s.toList = w.origin ++ path) (hhead : ∀ c ∈ path.head?, isSlash true c = true)
    (hok : '?' ∉ path ∧ '#' ∉ path) {segments : List String} (hne : segments ≠ [])
    (hwords : ∀ s ∈ segments, IsWord s) :
    Url.parse (joinUrl s segments) =
      .ok { u with path := .segments (trunk path ++ segments) } := by
  -- Words hold nothing that is dropped, so only what stands before them is cleaned.
  have hclean : clean (joinUrl s segments).toList = w.origin ++ (path ++ slashed segments) := by
    rw [PlainBase.toList_joinUrl, clean_append (fun c hc => (of_mem_slashed_words hwords hc).1)
      (slashed_ne_nil hne), hs, List.append_assoc]
  rw [WebText.parse_of_path hu hraw hclean, parseSegments_append_slashed hhead hne hwords]
  · intro c hc
    cases path with
    | nil => exact isSlash_head?_slashed segments c hc
    | cons d path => exact hhead c hc
  · simp only [List.mem_append, not_or]
    exact ⟨⟨hok.1, fun hc => (of_mem_slashed_words hwords hc).2.1 rfl⟩,
      ⟨hok.2, fun hc => (of_mem_slashed_words hwords hc).2.2 rfl⟩⟩

/-- **A text that does not end in a blank goes on behind its path.** The path of `u` is its trunk
`done` and `j` slashes, and words come behind the trunk. -/
theorem exists_done_of_not_endsInBlank (h : ¬ EndsInBlank raw) :
    ∃ done j, u.path = .segments (done ++ List.replicate j "") ∧
      ∀ segments : List String, segments ≠ [] → (∀ s ∈ segments, IsWord s) →
        Url.parse (joinUrl (dropTrailing '/' raw) segments) =
          .ok { u with path := .segments (done ++ segments) } := by
  obtain ⟨k, hclean⟩ := clean_of_not_endsInBlank h
  obtain ⟨path, hbegun, hpath⟩ := w.exists_path_of_slashes (hraw.symm.trans hclean)
  have hhead : ∀ c ∈ path.head?, isSlash true c = true := fun c hc =>
    w.path_head c (by
      rw [hpath, List.head?_append, hc]
      rfl)
  have hok : '?' ∉ path ∧ '#' ∉ path := by
    have hok := w.path_ok
    rw [hpath] at hok
    exact ⟨mt (List.mem_append_left _) hok.1, mt (List.mem_append_left _) hok.2⟩
  -- As it is read alone, the path is its trunk with one empty segment for each slash behind it.
  obtain ⟨j, hj⟩ := exists_parseSegments_slashes hhead k
  refine ⟨trunk path, j, ?_, fun segments => parse_joinUrl_of_begun hu hraw hbegun hhead hok⟩
  obtain ⟨a, -, rfl⟩ := WebText.of_parse hu hraw
  rw [hpath, hj]

/-- **A text that ends in a blank does not compose.** Either the blank belongs to the authority,
which cannot be read then, or the path becomes longer by it than `u` has it. -/
theorem not_composes_of_endsInBlank (h : EndsInBlank raw) {segments : List String}
    (hne : segments ≠ []) (hwords : ∀ s ∈ segments, IsWord s) :
    ¬ Composes u (dropTrailing '/' raw) segments := by
  have hclean : clean raw.toList ≠ [] := by
    rw [hraw, WebText.text]
    exact List.append_ne_nil_of_right_ne_nil _ (List.cons_ne_nil _ _)
  obtain ⟨hkept, tail, htail, hbegun, hblank⟩ := begun_of_endsInBlank hclean h
  rw [hkept]
  rw [hraw, WebText.text_eq, List.append_assoc] at hbegun
  by_cases hpath : w.path = []
  · rw [hpath, List.nil_append] at hbegun
    rintro ⟨v, hv, -⟩
    exact parse_joinUrl_of_blank_authority hbegun htail hblank hne hwords v hv
  · have hhead : ∀ c ∈ (w.path ++ tail).head?, isSlash true c = true := fun c hc => by
      rw [List.head?_append_of_ne_nil _ hpath] at hc
      exact w.path_head c hc
    have hok : '?' ∉ w.path ++ tail ∧ '#' ∉ w.path ++ tail := by
      simp only [List.mem_append, not_or]
      exact ⟨⟨w.path_ok.1, not_mem_of_blanks hblank (by decide)⟩,
        ⟨w.path_ok.2, not_mem_of_blanks hblank (by decide)⟩⟩
    have hparse := parse_joinUrl_of_begun hu hraw hbegun hhead hok hne hwords
    -- The blank stays in the path that goes on, and is no slash that would be dropped.
    have hlonger := length_slashed_lt w.path_head hpath htail hblank
    obtain ⟨a, -, rfl⟩ := WebText.of_parse hu hraw
    rw [composes_iff_of_parse hparse, extends_iff rfl rfl]
    intro hsame
    obtain ⟨k, hk⟩ := toList_dropTrailing '/' (pathText _)
    rw [← hsame, toList_pathText (parseSegments true w.path) rfl] at hk
    rw [hk, List.length_append] at hlonger
    omega

end

end Url

/-! ### Validated URLs -/

namespace Config

/-- What is known of a URL that was validated: what is kept of `raw`, and as what `raw` is read. -/
theorem of_validateUrl {raw kept : String} (h : validateUrl raw = .ok kept) :
    kept = dropTrailing '/' raw ∧ ∃ u, Url.parse raw = .ok u ∧ u.scheme ∈ ["http", "https"] ∧
      u.query = none ∧ u.fragment = none := by
  unfold validateUrl at h
  obtain ⟨u, hu, h⟩ := Except.bind_eq_ok_iff.mp h
  -- Each check ends in an error, or the next one follows.
  dsimp only at h
  split at h
  · cases h
  next hscheme =>
  split at h
  · cases h
  split at h
  · cases h
  next htail =>
  rw [Bool.or_eq_true, not_or, Option.not_isSome_iff_eq_none, Option.not_isSome_iff_eq_none]
    at htail
  refine ⟨(Except.ok.inj h).symm, u, Except.mapError_eq_ok_iff.mp hu, List.mem_pair.mpr ?_, htail⟩
  by_contra hneither
  exact hscheme (not_or.mp hneither)

/-- **A validated URL composes as it was validated, exactly if its text can go on.** No blank is
dropped at the end of `raw`, tabs and line breaks apart, and the path of what is `kept` does not end
in two slashes when one is put behind it. Neither depends on the segments. -/
theorem composes_iff {raw kept : String} (h : validateUrl raw = .ok kept) :
    ∃ u, Url.parse raw = .ok u ∧
      ∀ segments : List String, segments ≠ [] → (∀ s ∈ segments, IsWord s) →
        (Url.Composes u kept segments ↔
          ¬ EndsInBlank raw ∧
            ∃ v, Url.parse (kept ++ "/") = .ok v ∧ ¬ ['/', '/'] <:+ v.pathText.toList) := by
  obtain ⟨rfl, u, hu, hscheme, hquery, hfragment⟩ := of_validateUrl h
  obtain ⟨w, hw⟩ := exists_webText_of_parse hu hscheme hquery hfragment
  refine ⟨u, hu, fun segments hne hwords => ?_⟩
  by_cases hblank : EndsInBlank raw
  · exact iff_of_false (not_composes_of_endsInBlank hu hw hblank hne hwords)
      fun hright => hright.1 hblank
  obtain ⟨done, j, hpath, hgoes⟩ := exists_done_of_not_endsInBlank hu hw hblank
  -- One slash behind the text is an empty segment.
  have hslash : Url.parse (dropTrailing '/' raw ++ "/") =
      .ok { u with path := .segments (done ++ [""]) } :=
    hgoes [""] (List.cons_ne_nil _ _) fun s hs => by
      rw [List.mem_singleton.mp hs]
      rfl
  rw [composes_iff_of_parse (hgoes segments hne hwords), extends_iff hquery hfragment]
  have hpathText : u.pathText.toList = slashed done ++ List.replicate j '/' := by
    rw [toList_pathText _ hpath, slashed_append, replicate_slash]
  constructor
  · intro hsame
    refine ⟨hblank, _, hslash, ?_⟩
    rw [toList_pathText (done ++ [""]) rfl, suffix_slashed_iff, hsame]
    exact getLast?_dropTrailing _ _
  · rintro ⟨-, v, hv, hsingle⟩
    obtain rfl := Except.ok.inj (hslash.symm.trans hv)
    rw [toList_pathText (done ++ [""]) rfl, suffix_slashed_iff] at hsingle
    exact (toList_dropTrailing_of_eq hpathText hsingle).symm

/-- What a URL with a dot at its end is read as if it goes on. -/
def dottedUrl : Url where
  scheme := "https"
  username := ""
  password := ""
  host := some (.domain "ctl")
  port := some 8443
  path := .segments ["api", ""]
  query := none
  fragment := none

/-- A tab before the text, one slash for two and a dot at the end of the path do no harm. -/
theorem composes_iff_dotted :
    ∃ u, Url.parse "\tHTTPS:/ctl:8443/api/./" = .ok u ∧
      Url.Composes u "\tHTTPS:/ctl:8443/api/." ["projects", "prj_1"] := by
  have hvalid : validateUrl "\tHTTPS:/ctl:8443/api/./" = .ok "\tHTTPS:/ctl:8443/api/." := by
    decide +kernel
  have hblank : ¬ EndsInBlank "\tHTTPS:/ctl:8443/api/./" := by decide
  have hgoes : Url.parse ("\tHTTPS:/ctl:8443/api/." ++ "/") = .ok dottedUrl := rfl
  obtain ⟨u, hu, hiff⟩ := composes_iff hvalid
  refine ⟨u, hu, (hiff _ (List.cons_ne_nil _ _) (by decide)).mpr ⟨hblank, dottedUrl, hgoes, ?_⟩⟩
  decide +kernel

/-- The URL of a text with a space at its end. -/
def spacedUrl : Url where
  scheme := "http"
  username := ""
  password := ""
  host := some (.domain "ctl")
  port := none
  path := .segments ["api"]
  query := none
  fragment := none

/-- **With a space at its end, what is kept composes to another place**: `validateUrl` keeps the
space, which is read as part of the path. -/
theorem composes_elsewhere :
    validateUrl "http://ctl/api " = .ok "http://ctl/api " ∧
      Url.parse "http://ctl/api " = .ok spacedUrl ∧ IsWord "x" ∧
      Url.parse (joinUrl "http://ctl/api " ["x"]) =
        .ok { spacedUrl with path := .segments ["api%20", "x"] } ∧
      ¬ Url.Composes spacedUrl "http://ctl/api " ["x"] := by
  have hparse : Url.parse (joinUrl "http://ctl/api " ["x"]) =
      .ok { spacedUrl with path := .segments ["api%20", "x"] } := rfl
  refine ⟨rfl, rfl, rfl, hparse, ?_⟩
  rw [composes_iff_of_parse hparse]
  exact fun hext => absurd hext.path (by decide)

end Config

end FleetAgent
