import FleetAgent.Controller.Client
import FleetAgent.Proofs.Url.Segments
import FleetAgent.Proofs.Url.Web
/-!
# Plain base URLs

A plain base URL is a scheme `http` or `https`, an authority without a user, and segments of
letters, digits, `_` and `-` (`inBasePath`). Segments behind it change nothing but the path:
`PlainBase.parse_joinUrl` gives the URL with segments behind it in terms of the base URL alone. It
is the case of `WebText` in which nothing is dropped (`PlainBase.clean_origin`).
-/

namespace FleetAgent

open FleetAgent.Controller (joinUrl)
open FleetAgent.Text

/-- Whether a character neither ends an authority nor divides it, and is not dropped. -/
def inAuthority (c : Char) : Bool :=
  0x20 < c.toNat && c != '/' && c != '\\' && c != '?' && c != '#' && c != '@'

/-- Whether a character may stand in a segment of a plain base. -/
def inBasePath (c : Char) : Bool :=
  c.isAlphanum || c == '_' || c == '-'

/-- A base URL of the plain form. -/
structure PlainBase where
  /-- Whether the scheme is `https`. -/
  secure : Bool
  /-- The host, with a port or without. -/
  authority : String
  /-- The segments of the path. -/
  path : List String
  /-- There is a host. -/
  authority_ne : authority ≠ ""
  /-- No character ends the authority, divides it or is dropped. -/
  authority_plain : authority.toList.all inAuthority = true
  /-- The segments are not empty and of plain characters. -/
  path_plain : ∀ s ∈ path, s ≠ "" ∧ s.toList.all inBasePath = true

namespace PlainBase

variable (base : PlainBase)

/-- The scheme of the base. -/
def scheme : String :=
  if base.secure then "https" else "http"

/-- The base up to its path. -/
def origin : String :=
  base.scheme ++ "://" ++ base.authority

/-- The base as it is written. -/
def text : String :=
  joinUrl base.origin base.path

/-! ### Segments of a base -/

theorem of_mem_authority {c : Char} (hc : c ∈ base.authority.toList) :
    0x20 < c.toNat ∧ c ≠ '/' ∧ c ≠ '\\' ∧ c ≠ '?' ∧ c ≠ '#' ∧ c ≠ '@' := by
  have hplain := List.all_eq_true.mp base.authority_plain c hc
  simp only [inAuthority, Bool.and_eq_true, decide_eq_true_eq, bne_iff_ne] at hplain
  obtain ⟨⟨⟨⟨⟨hlow, hslash⟩, hback⟩, hquery⟩, hsharp⟩, hat⟩ := hplain
  exact ⟨hlow, hslash, hback, hquery, hsharp, hat⟩

/-- The ranges in which a character of a path lies. -/
theorem toNat_of_inBasePath {c : Char} (h : inBasePath c = true) :
    45 = c.toNat ∨ 48 ≤ c.toNat ∧ c.toNat ≤ 57 ∨ 65 ≤ c.toNat ∧ c.toNat ≤ 90 ∨ 95 = c.toNat ∨
      97 ≤ c.toNat ∧ c.toNat ≤ 122 := by
  rw [inBasePath, Bool.or_eq_true, Bool.or_eq_true, beq_iff_eq, beq_iff_eq] at h
  rcases h with (h | rfl) | rfl
  · -- A letter of either case, or a digit.
    obtain halpha | hdigit := Bool.or_eq_true_iff.mp h
    · obtain hupper | hlower := Bool.or_eq_true_iff.mp halpha
      · exact .inr (.inr (.inl (of_decide_eq_true hupper)))
      · obtain ⟨hlow, hhigh⟩ := Bool.and_eq_true_iff.mp hlower
        exact .inr (.inr (.inr (.inr ⟨of_decide_eq_true hlow, of_decide_eq_true hhigh⟩)))
    · obtain ⟨hlow, hhigh⟩ := Bool.and_eq_true_iff.mp hdigit
      exact .inr (.inl ⟨of_decide_eq_true hlow, of_decide_eq_true hhigh⟩)
  · decide
  · decide

/-- A character `c` of a path can stand in any segment, and is no dot and no backslash. -/
theorem of_inBasePath {c : Char} (h : inBasePath c = true) :
    isReserved c = false ∧ c ≠ '.' ∧ c ≠ '\\' := by
  have hc := toNat_of_inBasePath h
  have hne : ∀ d : Char, d.toNat < 45 ∨ d.toNat = 46 ∨ d.toNat = 47 ∨ d.toNat = 63 ∨
      d.toNat = 92 → c ≠ d := by
    rintro d hd rfl
    omega
  refine ⟨?_, hne '.' (by decide), hne '\\' (by decide)⟩
  simp only [isReserved, Bool.or_eq_false_iff, beq_eq_false_iff_ne]
  refine ⟨⟨⟨⟨⟨hne '/' (by decide), hne '?' (by decide)⟩, hne '#' (by decide)⟩,
    hne '%' (by decide)⟩, ?_⟩, ?_⟩
  · simp [isBlank]
    omega
  · simp [isControl]
    omega

/-- A segment `s` of the base is not empty, and of characters that can stand in any segment. -/
theorem of_mem_path {s : String} (hs : s ∈ base.path) :
    s ≠ "" ∧ ∀ c ∈ s.toList, isReserved c = false ∧ c ≠ '.' ∧ c ≠ '\\' := by
  obtain ⟨hne, hchars⟩ := base.path_plain s hs
  exact ⟨hne, fun c hc => of_inBasePath (List.all_eq_true.mp hchars c hc)⟩

theorem validSegment_path {s : String} (hs : s ∈ base.path) : ValidSegment s := by
  obtain ⟨hne, hchars⟩ := base.of_mem_path hs
  refine ⟨hne, List.find?_eq_none.mpr fun c hc => ?_⟩
  rw [(hchars c hc).1]
  exact Bool.false_ne_true

theorem isPlain_path {s : String} (hs : s ∈ base.path) : Url.IsPlain s := by
  obtain ⟨-, hchars⟩ := base.of_mem_path hs
  refine ⟨?_, ?_, fun hmem => (hchars _ hmem).2.2 rfl⟩
  · rintro rfl
    exact (hchars '.' (by decide)).2.1 rfl
  · rintro rfl
    exact (hchars '.' (by decide)).2.1 rfl

/-! ### Texts of segments -/

theorem toList_joinUrl (s : String) (segments : List String) :
    (joinUrl s segments).toList = s.toList ++ Url.slashed segments := by
  rw [joinUrl, String.toList_append, Url.toList_join]

theorem joinUrl_text (segments : List String) :
    joinUrl base.text segments = joinUrl base.origin (base.path ++ segments) := by
  rw [← String.toList_inj, toList_joinUrl, text, toList_joinUrl, toList_joinUrl, Url.slashed,
    Url.slashed, Url.slashed, List.flatMap_append, List.append_assoc]

/-! ### Reading -/

open FleetAgent.Url (slashed isSlash endsAuthority clean parseAuthority parseSegments WebText
  clean_of_forall isSlash_of_mem_slashes isSlash_head?_slashed of_mem_slashed of_mem_validSegment)

variable {base : PlainBase} {segments : List String}

/-- The parts of a base with segments behind its authority. -/
def webText (base : PlainBase) (segments : List String)
    (hvalid : ∀ s ∈ segments, ValidSegment s) : WebText where
  name := base.scheme.toList
  slashes := ['/', '/']
  authority := base.authority.toList
  path := slashed segments
  name_ok := by
    rw [scheme]
    split <;> decide
  slashes_ok := isSlash_of_mem_slashes
  authority_ne := mt String.toList_eq_nil_iff.mp base.authority_ne
  authority_ok := fun c hc => by
    obtain ⟨-, hslash, hback, hquery, hsharp, -⟩ := base.of_mem_authority hc
    simp [endsAuthority, isSlash, hslash, hback, hquery, hsharp]
  path_head := isSlash_head?_slashed segments
  path_ok := by
    constructor <;> intro hmem <;> rcases of_mem_slashed hmem with h | ⟨s, hs, hc⟩
    · cases h
    · exact (of_mem_validSegment (hvalid s hs) hc).2.1 rfl
    · cases h
    · exact (of_mem_validSegment (hvalid s hs) hc).2.2.1 rfl

theorem toList_origin (segments : List String) :
    (joinUrl base.origin segments).toList =
      base.scheme.toList ++ ':' :: '/' :: '/' :: (base.authority.toList ++ slashed segments) := by
  rw [toList_joinUrl, origin, String.toList_append, String.toList_append, List.append_assoc,
    List.append_assoc]
  rfl

theorem of_mem_scheme {c : Char} (hc : c ∈ base.scheme.toList) : 0x20 < c.toNat := by
  have hall : base.scheme.toList.all (fun c => 0x20 < c.toNat) = true := by
    rw [scheme]
    cases base.secure <;> rfl
  exact of_decide_eq_true (List.all_eq_true.mp hall c hc)

/-- Nothing is dropped of a base with valid segments behind it. -/
theorem clean_origin (hvalid : ∀ s ∈ segments, ValidSegment s) :
    clean (joinUrl base.origin segments).toList = (base.webText segments hvalid).text := by
  rw [toList_origin]
  refine clean_of_forall fun c hc => ?_
  simp only [List.mem_append, List.mem_cons] at hc
  rcases hc with hc | rfl | rfl | rfl | hc | hc
  · exact base.of_mem_scheme hc
  · decide
  · decide
  · decide
  · exact (base.of_mem_authority hc).1
  · rcases of_mem_slashed hc with rfl | ⟨s, hs, hc⟩
    · decide
    · exact (of_mem_validSegment (hvalid s hs) hc).2.2.2.2

/-- A base with valid `segments` is read part by part: the authority decides whether it can be read,
and the segments make the path. -/
theorem parse_origin (hvalid : ∀ s ∈ segments, ValidSegment s) :
    Url.parse (joinUrl base.origin segments) =
      (parseAuthority base.scheme true false base.authority.toList).map fun a =>
        { scheme := base.scheme, username := a.username, password := a.password, host := a.host,
          port := a.port, path := .segments (parseSegments true (slashed segments)),
          query := none, fragment := none } := by
  have hscheme : (base.webText segments hvalid).scheme = base.scheme := by
    show String.ofList (base.scheme.toList.map Char.toLower) = base.scheme
    rw [scheme]
    split <;> rfl
  rw [(base.webText segments hvalid).parse_of_clean_eq (clean_origin hvalid), hscheme]
  rfl

/-- **Segments behind a base change nothing but the path**: what is read is the base with
`base.path ++ segments`. -/
theorem parse_joinUrl (hvalid : ∀ s ∈ segments, ValidSegment s) :
    Url.parse (joinUrl base.text segments) =
      (Url.parse base.text).map (·.withSegments (base.path ++ segments)) := by
  have hpath : ∀ s ∈ base.path ++ segments, ValidSegment s := by
    intro s hs
    rcases List.mem_append.mp hs with hs | hs
    · exact base.validSegment_path hs
    · exact hvalid s hs
  rw [joinUrl_text, parse_origin hpath, text, parse_origin fun s hs => base.validSegment_path hs]
  cases parseAuthority base.scheme true false base.authority.toList <;> rfl

/-- Nothing stands behind the path of a base. -/
theorem of_parse_text {u : Url} (hu : Url.parse base.text = .ok u) :
    u.scheme = base.scheme ∧ u.query = none ∧ u.fragment = none := by
  rw [text, parse_origin fun s hs => base.validSegment_path hs] at hu
  cases ha : parseAuthority base.scheme true false base.authority.toList with
  | error e =>
    rw [ha] at hu
    cases hu
  | ok a =>
    rw [ha] at hu
    obtain rfl := Except.ok.inj hu
    exact ⟨rfl, rfl, rfl⟩

end PlainBase

end FleetAgent
