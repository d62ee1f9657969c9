import FleetAgent.Proofs.Outcome
import FleetAgent.Proofs.Text.Cut
import FleetAgent.Proofs.Url.Dropped
import FleetAgent.Proofs.Url.Encoding
/-!
# The parts of a URL of the web

A text is read as a URL of the scheme `http` or `https` without a query and a fragment exactly if it
consists, apart from what is dropped, of a scheme, a colon, any slashes, an authority and a path:
the fields of `WebText`. `WebText.parse_of_clean_eq` reads such a text, and
`exists_webText_of_parse` finds the parts of a text that was read.

What stands before the path is `w.origin`; a text with the same origin and another path is read as
the same URL with that path (`WebText.parse_of_path`).
-/

namespace FleetAgent.Url

open FleetAgent.Text

/-! ### Authorities of special schemes -/

/-- A `port` is made of characters of the text it is cut off. -/
theorem mem_of_mem_port {inside : Bool} {cs host port : List Char}
    (h : cutPort inside cs = (host, some port)) {c : Char} (hc : c ∈ port) : c ∈ cs := by
  induction cs generalizing inside host with
  | nil => cases h
  | cons d cs ih =>
    rw [cutPort] at h
    split at h
    · cases h
      exact List.mem_cons_of_mem _ hc
    · obtain ⟨-, hport⟩ := Prod.mk.inj h
      exact List.mem_cons_of_mem _ (ih (Prod.ext rfl hport))

theorem of_cutLast {sep : Char} {cs a b : List Char} (h : cutLast sep cs = some (a, b)) :
    cs = a ++ sep :: b := by
  rw [cutLast, Option.map_eq_some_iff] at h
  obtain ⟨⟨p, q⟩, hpq, heq⟩ := h
  obtain ⟨rfl, rfl⟩ := Prod.mk.inj heq
  have hcs := congrArg List.reverse (splitOnce_eq_some hpq).1
  rw [List.reverse_reverse] at hcs
  rw [hcs, List.reverse_append, List.reverse_cons, List.append_assoc, List.singleton_append]

/-- A port is made of characters of its authority. -/
theorem mem_of_mem_portText {cs user hostPort host port : List Char}
    (hparts : (cutLast '@' cs).getD ([], cs) = (user, hostPort))
    (hport : cutPort false hostPort = (host, some port)) {c : Char} (hc : c ∈ port) : c ∈ cs := by
  have hmem : c ∈ hostPort := mem_of_mem_port hport hc
  cases hcut : cutLast '@' cs with
  | none =>
    rw [hcut] at hparts
    obtain ⟨-, rfl⟩ := Prod.mk.inj hparts
    exact hmem
  | some p =>
    rw [hcut, Option.getD_some] at hparts
    rw [of_cutLast (hcut.trans (congrArg some hparts))]
    exact List.mem_append_right _ (List.mem_cons_of_mem _ hmem)

/-- In a special `scheme` there must be a host, so what stands behind the authority (`more`) does
not matter to it. -/
theorem parseAuthority_special_more (scheme : String) (more : Bool) (cs : List Char) :
    parseAuthority scheme true more cs = parseAuthority scheme true false cs := by
  unfold parseAuthority
  generalize (cutLast '@' cs).isSome = hasUser
  generalize (cutLast '@' cs).getD ([], cs) = parts
  obtain ⟨user, hostPort⟩ := parts
  dsimp only
  rw [Bool.and_false]
  cases hostPort with
  | nil =>
    -- Without a host both end in the same error.
    cases hasUser && user.isEmpty && List.isEmpty ([] : List Char) && more <;> rfl
  | cons c hostPort => rw [List.isEmpty_cons, Bool.and_false, Bool.false_and]

/-- What an authority of a special scheme comes to, step by step. -/
theorem of_parseAuthority_special {scheme : String} {more : Bool} {cs : List Char} {a : Authority}
    (h : parseAuthority scheme true more cs = .ok a) :
    ∃ user hostPort, (cutLast '@' cs).getD ([], cs) = (user, hostPort) ∧
      (cutPort false hostPort).1 ≠ [] ∧
      (∃ host, parseHost (cutPort false hostPort).1 = .ok host) ∧
      (∃ port, parsePort scheme (((cutPort false hostPort).2.getD []).takeWhile (· != '\\')) =
        .ok port) ∧
      a.leftover = ((cutPort false hostPort).2.getD []).drop
        (((cutPort false hostPort).2.getD []).takeWhile (· != '\\')).length := by
  unfold parseAuthority at h
  generalize (cutLast '@' cs).isSome = hasUser at h
  generalize (cutLast '@' cs).getD ([], cs) = parts at h ⊢
  obtain ⟨user, hostPort⟩ := parts
  refine ⟨user, hostPort, rfl, ?_⟩
  dsimp only at h
  simp only [Except.bind_eq_ok_iff] at h
  obtain ⟨-, -, _, hempty, host, hhost, -, -, port, hport, -, -, ha⟩ := h
  obtain rfl := Except.ok.inj ha
  refine ⟨?_, ⟨host, hhost⟩, ⟨port, hport⟩, rfl⟩
  intro hnil
  rw [hnil] at hempty
  cases hempty

/-- There is no authority without a host. -/
theorem authority_ne_nil {scheme : String} {more : Bool} {a : Authority} :
    parseAuthority scheme true more [] ≠ .ok a := by
  intro h
  obtain ⟨user, hostPort, hparts, hne, -⟩ := of_parseAuthority_special h
  obtain ⟨-, rfl⟩ := Prod.mk.inj hparts
  exact hne rfl

/-- Nothing of an authority `a` belongs to the path, unless there is a backslash in it. -/
theorem leftover_of_special {scheme : String} {more : Bool} {cs : List Char} {a : Authority}
    (hslash : '\\' ∉ cs) (h : parseAuthority scheme true more cs = .ok a) : a.leftover = [] := by
  obtain ⟨user, hostPort, hparts, -, -, -, hleftover⟩ := of_parseAuthority_special h
  rw [hleftover]
  cases hport : (cutPort false hostPort).2 with
  | none => rfl
  | some port =>
    have hall : port.takeWhile (· != '\\') = port := by
      refine List.takeWhile_eq_self_iff.mpr fun c hc => bne_iff_ne.mpr ?_
      rintro rfl
      exact hslash (mem_of_mem_portText hparts (Prod.ext rfl hport) hc)
    rw [Option.getD_some, hall]
    exact List.drop_length

/-! ### Texts in their parts -/

theorem cutTail_of_not_mem {cs : List Char} (hquery : '?' ∉ cs) (hfragment : '#' ∉ cs) :
    cutTail cs = (cs, none, none) := by
  simp only [cutTail, splitOnce_eq_none_iff.mpr hfragment, splitOnce_eq_none_iff.mpr hquery]

/-- The slashes that stand before an authority as a rule. -/
theorem isSlash_of_mem_slashes : ∀ c ∈ ['/', '/'], isSlash true c = true := by
  simp [isSlash]

/-- The parts of a text that is read as a URL of the web. -/
structure WebText where
  /-- The scheme as it is written. -/
  name : List Char
  /-- The slashes behind the colon. -/
  slashes : List Char
  /-- The authority. -/
  authority : List Char
  /-- The path. -/
  path : List Char
  /-- The scheme is one of two. -/
  name_ok : String.ofList (name.map Char.toLower) ∈ ["http", "https"]
  /-- Slashes are slashes. -/
  slashes_ok : ∀ c ∈ slashes, isSlash true c = true
  /-- There is an authority. -/
  authority_ne : authority ≠ []
  /-- Nothing ends the authority but the path. -/
  authority_ok : ∀ c ∈ authority, endsAuthority true c = false
  /-- The path starts with a slash, if there is one. -/
  path_head : ∀ c ∈ path.head?, isSlash true c = true
  /-- No query and no fragment follows. -/
  path_ok : '?' ∉ path ∧ '#' ∉ path

namespace WebText

variable (w : WebText)

/-- The scheme in small letters. -/
def scheme : String :=
  String.ofList (w.name.map Char.toLower)

/-- The text. -/
def text : List Char :=
  w.name ++ ':' :: (w.slashes ++ (w.authority ++ w.path))

/-- A scheme is made of letters. -/
theorem isAlpha_of_mem_name {c : Char} (hc : c ∈ w.name) : c.isAlpha = true := by
  have hlower : c.toLower ∈ w.scheme.toList := by
    rw [scheme, String.toList_ofList]
    exact List.mem_map_of_mem hc
  have halpha : c.toLower.isAlpha = true := by
    rcases List.mem_pair.mp w.name_ok with h | h <;> rw [scheme, h] at hlower
    · exact List.all_eq_true.mp (show "http".toList.all Char.isAlpha = true by decide) _ hlower
    · exact List.all_eq_true.mp (show "https".toList.all Char.isAlpha = true by decide) _ hlower
  by_cases hupper : c.isUpper = true
  · exact Bool.or_eq_true_iff.mpr (.inl hupper)
  · -- What is no capital letter is small already.
    have heq : c.toLower = c := toLower_of_not_upper fun hc => hupper (decide_eq_true hc)
    rwa [heq] at halpha

theorem name_ne : w.name ≠ [] := by
  intro hnil
  have hmem := w.name_ok
  rw [hnil] at hmem
  exact absurd hmem (by decide)

theorem colon_not_mem_name : ':' ∉ w.name :=
  fun hc => absurd (w.isAlpha_of_mem_name hc) (by decide)

/-- The scheme ends at the first colon. -/
theorem cutScheme_text :
    cutScheme w.text = some (w.scheme, w.slashes ++ (w.authority ++ w.path)) := by
  obtain ⟨c, r, hname⟩ := List.exists_cons_of_ne_nil w.name_ne
  have halpha : ∀ d ∈ c :: r, d.isAlpha = true := fun d hd => w.isAlpha_of_mem_name (hname ▸ hd)
  have hall : r.all inScheme = true := by
    refine List.all_eq_true.mpr fun d hd => ?_
    rw [inScheme, Char.isAlphanum, halpha d (List.mem_cons_of_mem _ hd)]
    rfl
  rw [text, scheme, cutScheme, splitOnce_append w.colon_not_mem_name, hname]
  dsimp only
  rw [halpha c List.mem_cons_self, hall]
  rfl

theorem scheme_special : w.scheme ≠ "file" ∧ (defaultPort? w.scheme).isSome = true := by
  rcases List.mem_pair.mp w.name_ok with h | h <;> rw [scheme, h] <;> decide

/-- The slashes end where the authority begins. -/
theorem dropWhile_slashes :
    (w.slashes ++ (w.authority ++ w.path)).dropWhile (isSlash true) = w.authority ++ w.path := by
  rw [List.dropWhile_append_of_pos w.slashes_ok]
  obtain ⟨c, r, hcons⟩ := List.exists_cons_of_ne_nil w.authority_ne
  have hc := w.authority_ok c (hcons ▸ List.mem_cons_self)
  rw [hcons]
  refine dropWhile_of_head ?_ _
  simp only [endsAuthority, Bool.or_eq_false_iff] at hc
  exact hc.1.1

/-- The authority ends where the path begins. -/
theorem takeWhile_authority :
    (w.authority ++ w.path).takeWhile (!endsAuthority true ·) = w.authority := by
  have hnone : w.path.takeWhile (!endsAuthority true ·) = [] := by
    cases hpath : w.path with
    | nil => rfl
    | cons c r =>
      have hc := w.path_head c (by rw [hpath]; rfl)
      rw [List.takeWhile_cons, endsAuthority, hc]
      rfl
  rw [List.takeWhile_append_of_pos, hnone, List.append_nil]
  intro c hc
  rw [w.authority_ok c hc]
  rfl

/-- **A text `w` of the web is read part by part**, as far as its authority can be read. -/
theorem parse_of_clean_eq {s : String} (h : clean s.toList = w.text) :
    Url.parse s = (parseAuthority w.scheme true false w.authority).map fun a =>
      { scheme := w.scheme, username := a.username, password := a.password, host := a.host,
        port := a.port, path := .segments (parseSegments true w.path),
        query := none, fragment := none } := by
  have hback : '\\' ∉ w.authority := fun hc => absurd (w.authority_ok _ hc) (by decide)
  rw [Url.parse, h, cutScheme_text]
  show (if w.scheme = "file" then _ else _) = _
  rw [if_neg w.scheme_special.1, if_pos w.scheme_special.2, dropWhile_slashes, parseWithAuthority,
    takeWhile_authority, List.drop_left, parseAuthority_special_more]
  cases ha : parseAuthority w.scheme true false w.authority with
  | error e => rfl
  | ok a =>
    simp only [bind, Except.bind, leftover_of_special hback ha, List.nil_append,
      cutTail_of_not_mem w.path_ok.1 w.path_ok.2]
    rfl

/-! ### Texts with another path -/

/-- The text before the path. -/
def origin : List Char :=
  w.name ++ ':' :: (w.slashes ++ w.authority)

theorem text_eq : w.text = w.origin ++ w.path := by
  simp [text, origin]

/-- No authority ends in a slash. -/
theorem getLast?_origin : w.origin.getLast? ≠ some '/' := by
  intro h
  have hlast : w.origin.getLast? = w.authority.getLast? := by
    rw [origin, ← List.singleton_append, ← List.append_assoc, ← List.append_assoc,
      List.getLast?_append_of_ne_nil _ w.authority_ne]
  rw [hlast] at h
  cases w.authority_ok _ (List.mem_of_getLast? h)

/-- The `k` slashes at the end of a text stand at the end of its path. -/
theorem exists_path_of_slashes {cs : List Char} {k : Nat}
    (h : w.text = cs ++ List.replicate k '/') :
    ∃ path, cs = w.origin ++ path ∧ w.path = path ++ List.replicate k '/' := by
  rw [text_eq] at h
  rcases List.append_eq_append_iff.mp h with ⟨path, hcs, hpath⟩ | ⟨rest, horigin, hslashes⟩
  · exact ⟨path, hcs, hpath⟩
  · rcases List.eq_nil_or_concat rest with rfl | ⟨front, c, rfl⟩
    · rw [List.append_nil] at horigin
      exact ⟨[], by rw [List.append_nil, horigin], hslashes.symm⟩
    · -- The authority would end in a slash.
      have hmem : c ∈ List.replicate k '/' := by
        rw [hslashes]
        simp
      have hc : c = '/' := List.eq_of_mem_replicate hmem
      refine absurd ?_ w.getLast?_origin
      rw [horigin, hc]
      simp

/-- The text with another path. -/
def withPath (path : List Char) (path_head : ∀ c ∈ path.head?, isSlash true c = true)
    (path_ok : '?' ∉ path ∧ '#' ∉ path) : WebText :=
  { w with path, path_head, path_ok }

variable {w} {raw : String} {u : Url}

/-- What was read of a text of the web. -/
theorem of_parse (hu : Url.parse raw = .ok u) (hraw : clean raw.toList = w.text) :
    ∃ a, parseAuthority w.scheme true false w.authority = .ok a ∧
      u = { scheme := w.scheme, username := a.username, password := a.password, host := a.host,
            port := a.port, path := .segments (parseSegments true w.path),
            query := none, fragment := none } := by
  rw [w.parse_of_clean_eq hraw] at hu
  cases ha : parseAuthority w.scheme true false w.authority with
  | error e =>
    rw [ha] at hu
    cases hu
  | ok a =>
    rw [ha] at hu
    exact ⟨a, rfl, (Except.ok.inj hu).symm⟩

/-- A text `s` that differs from `raw` in its `path` is read as the URL with that path. -/
theorem parse_of_path (hu : Url.parse raw = .ok u) (hraw : clean raw.toList = w.text) {s : String}
    {path : List Char} (hs : clean s.toList = w.origin ++ path)
    (hhead : ∀ c ∈ path.head?, isSlash true c = true) (hok : '?' ∉ path ∧ '#' ∉ path) :
    Url.parse s = .ok { u with path := .segments (parseSegments true path) } := by
  obtain ⟨a, ha, rfl⟩ := of_parse hu hraw
  have htext : clean s.toList = (w.withPath path hhead hok).text :=
    hs.trans (w.withPath path hhead hok).text_eq.symm
  rw [parse_of_clean_eq _ htext]
  show (parseAuthority w.scheme true false w.authority).map _ = _
  rw [ha]
  rfl

end WebText

/-! ### Finding the parts -/

theorem of_cutScheme {cs rest : List Char} {scheme : String}
    (h : cutScheme cs = some (scheme, rest)) :
    ∃ name, cs = name ++ ':' :: rest ∧ scheme = String.ofList (name.map Char.toLower) := by
  unfold cutScheme at h
  split at h
  next c r rest' hsplit =>
    split at h
    · obtain ⟨rfl, rfl⟩ := Prod.mk.inj (Option.some.inj h)
      exact ⟨c :: r, (splitOnce_eq_some hsplit).1, rfl⟩
    · cases h
  next => cases h

/-- Where neither a query nor a fragment is cut off, none begins. -/
theorem of_cutTail {cs : List Char} (hquery : (cutTail cs).2.1 = none)
    (hfragment : (cutTail cs).2.2 = none) : '?' ∉ cs ∧ '#' ∉ cs := by
  cases hsharp : splitOnce '#' cs with
  | some parts =>
    rw [cutTail, hsharp] at hfragment
    dsimp only at hfragment
    split at hfragment <;> cases hfragment
  -- Without a fragment, the question mark is looked for in the whole text.
  | none =>
    refine ⟨?_, splitOnce_eq_none_iff.mp hsharp⟩
    cases hmark : splitOnce '?' cs with
    | some parts =>
      rw [cutTail, hsharp] at hquery
      dsimp only at hquery
      rw [hmark] at hquery
      cases hquery
    | none => exact splitOnce_eq_none_iff.mp hmark

theorem drop_length_takeWhile (p : Char → Bool) (cs : List Char) :
    cs.drop (cs.takeWhile p).length = cs.dropWhile p := by
  have hdrop : (cs.takeWhile p ++ cs.dropWhile p).drop (cs.takeWhile p).length = cs.dropWhile p :=
    List.drop_left
  rwa [List.takeWhile_append_dropWhile] at hdrop

/-- What is read with an authority, `u`, has that authority, and its tail behind. -/
theorem of_parseWithAuthority {scheme : String} {special : Bool} {cs : List Char} {u : Url}
    (h : parseWithAuthority scheme special cs = .ok u) :
    u.scheme = scheme ∧ ∃ more a,
      parseAuthority scheme special more (cs.takeWhile (!endsAuthority special ·)) = .ok a ∧
      u.query = (cutTail (a.leftover ++ cs.dropWhile (!endsAuthority special ·))).2.1.map
        (encodeQuery special) ∧
      u.fragment = (cutTail (a.leftover ++ cs.dropWhile (!endsAuthority special ·))).2.2.map
        encodeFragment := by
  obtain ⟨a, ha, hu⟩ := Except.bind_eq_ok_iff.mp h
  obtain rfl := Except.ok.inj hu
  rw [← drop_length_takeWhile]
  exact ⟨rfl, _, a, ha, rfl, rfl⟩

/-- A file has the scheme of files. -/
theorem scheme_of_parseFile {cs : List Char} {u : Url} (h : parseFile cs = .ok u) :
    u.scheme = "file" := by
  unfold parseFile at h
  -- The host, the rest and its tail are of no interest.
  split at h
  split at h
  dsimp only at h
  split at h
  · obtain rfl := Except.ok.inj h
    rfl
  · simp only [Except.bind_eq_ok_iff] at h
    obtain ⟨host, -, host', -, hu⟩ := h
    obtain rfl := Except.ok.inj hu
    rfl

/-- A text `s` that is read as a URL of the web is a scheme, a colon, slashes, and what
`parseWithAuthority` reads. -/
theorem parseWithAuthority_of_parse {s : String} {u : Url} (h : Url.parse s = .ok u)
    (hscheme : u.scheme ∈ ["http", "https"]) :
    ∃ name rest, clean s.toList = name ++ ':' :: rest ∧
      u.scheme = String.ofList (name.map Char.toLower) ∧
      parseWithAuthority u.scheme true (rest.dropWhile (isSlash true)) = .ok u := by
  have hspecial : (defaultPort? u.scheme).isSome = true := by
    rcases List.mem_pair.mp hscheme with h | h <;> rw [h] <;> decide
  have hfile : u.scheme ≠ "file" := by
    rcases List.mem_pair.mp hscheme with h | h <;> rw [h] <;> decide
  unfold Url.parse at h
  split at h
  next => cases h
  next scheme rest hcut =>
    obtain ⟨name, hclean, hname⟩ := of_cutScheme hcut
    suffices hparse : parseWithAuthority scheme true (rest.dropWhile (isSlash true)) = .ok u by
      have heq := (of_parseWithAuthority hparse).1
      exact ⟨name, rest, hclean, heq.trans hname, by rw [heq]; exact hparse⟩
    split at h
    next => exact absurd (scheme_of_parseFile h) hfile
    split at h
    next => exact h
    next hplain =>
      -- Nothing else is of one of the two schemes.
      have heq : u.scheme = scheme := by
        split at h
        · exact (of_parseWithAuthority h).1
        · rw [← Except.ok.inj h]
          rfl
      exact absurd (heq ▸ hspecial) hplain

/-- **What was read as a URL of the web** without a query and a fragment has the parts of a
`WebText`. -/
theorem exists_webText_of_parse {s : String} {u : Url} (h : Url.parse s = .ok u)
    (hscheme : u.scheme ∈ ["http", "https"]) (hquery : u.query = none)
    (hfragment : u.fragment = none) : ∃ w : WebText, clean s.toList = w.text := by
  obtain ⟨name, rest, hclean, hname, hparse⟩ := parseWithAuthority_of_parse h hscheme
  obtain ⟨-, more, a, ha, hqueryEq, hfragmentEq⟩ := of_parseWithAuthority hparse
  -- What stands behind the slashes is divided where the authority ends.
  let body := rest.dropWhile (isSlash true)
  let authority := body.takeWhile (!endsAuthority true ·)
  let path := body.dropWhile (!endsAuthority true ·)
  have hends : ∀ c ∈ authority, endsAuthority true c = false := fun c hc => by
    simpa using List.mem_takeWhile_imp hc
  have hleftover : a.leftover = [] :=
    leftover_of_special (fun hc => absurd (hends _ hc) (by decide)) ha
  rw [hleftover, List.nil_append] at hqueryEq hfragmentEq
  have hne : authority ≠ [] := by
    intro hnil
    rw [show List.takeWhile _ (rest.dropWhile (isSlash true)) = [] from hnil] at ha
    exact authority_ne_nil ha
  have hpath : '?' ∉ path ∧ '#' ∉ path :=
    of_cutTail (Option.map_eq_none_iff.mp (hqueryEq.symm.trans hquery))
      (Option.map_eq_none_iff.mp (hfragmentEq.symm.trans hfragment))
  refine ⟨{
    name, authority, path
    slashes := rest.takeWhile (isSlash true)
    name_ok := hname ▸ hscheme
    slashes_ok := fun c hc => List.mem_takeWhile_imp hc
    authority_ne := hne
    authority_ok := hends
    path_head := ?_
    path_ok := hpath }, ?_⟩
  · -- The path starts with what ends the authority, which is no question mark and no number sign.
    intro c hc
    have hstop := List.head?_dropWhile_not (!endsAuthority true ·) body
    rw [show (body.dropWhile (!endsAuthority true ·)).head? = some c from hc] at hstop
    have hmem : c ∈ path := List.mem_of_mem_head? hc
    simp only [endsAuthority, Bool.not_eq_false', Bool.or_eq_true, beq_iff_eq] at hstop
    rcases hstop with (hslash | rfl) | rfl
    · exact hslash
    · exact absurd hmem hpath.1
    · exact absurd hmem hpath.2
  · rw [hclean, WebText.text]
    show _ = name ++ ':' :: (rest.takeWhile (isSlash true) ++ (authority ++ path))
    rw [List.takeWhile_append_dropWhile, List.takeWhile_append_dropWhile]

end FleetAgent.Url
