import FleetAgent.Proofs.Controller.Composition
import FleetAgent.Proofs.Text.Cut
/-!
# Where connections are dialled

Requests are sent to what the URL of the controller is read as. Connections for messages are dialled
at its text, which is divided at the first `://` into `scheme` and `rest` (`splitAtText`). Both go
to the same controller, whatever segments are put behind the text (`Dials u base segments`), exactly
if the text holds that mark, what stands before it tells the scheme, and what stands behind it up to
the next slash names host and port (`Names`): `Config.forall_dials_iff`. So it is with a text that
is written directly (`WebText.IsDirect`). Of a text that is not, segments can choose the host
(`Config.dials_elsewhere`).

Segments never reach the authority behind a mark (`takeWhile_append_slashed`), so that one condition
decides about all of them; without a mark the empty list of segments is enough to see that nothing
is dialled (`not_dials_of_splitAtText`).
-/

namespace FleetAgent

open FleetAgent.Controller (joinUrl webSocketUrl)
open FleetAgent.Text
open FleetAgent.Url

namespace Url

/-! ### The same controller -/

/-- The text `authority` names the host and the port of `u`, and nothing is left of it. -/
def Names (authority : List Char) (u : Url) : Prop :=
  ∃ a, parseAuthority u.scheme true false authority = .ok a ∧ a.host = u.host ∧ a.port = u.port ∧
    a.leftover = []

/-- Connections at `segments` behind the text `base` go to the controller of `u`: with encryption
exactly if the scheme of `u` asks for it, and to its host and port. -/
def Dials (u : Url) (base : String) (segments : List String) : Prop :=
  ∃ text scheme rest, webSocketUrl base segments = .ok text ∧
    splitAtText [':', '/', '/'] text.toList = some (scheme, rest) ∧
    (String.ofList scheme = "ws" ↔ u.scheme = "http") ∧
    (String.ofList scheme = "wss" ↔ u.scheme = "https") ∧
    Names (rest.takeWhile (· != '/')) u

/-- Segments do not reach the authority. -/
theorem takeWhile_append_slashed (rest : List Char) (segments : List String) :
    (rest ++ slashed segments).takeWhile (· != '/') = rest.takeWhile (· != '/') := by
  induction rest with
  | nil => cases segments <;> rfl
  | cons c rest ih => rw [List.cons_append, List.takeWhile_cons, List.takeWhile_cons, ih]

/-- The scheme for messages, given whether that of the text is `http`. -/
def messageScheme (scheme : List Char) : String :=
  if toAsciiLower (String.ofList scheme) ≠ "http" then "wss" else "ws"

/-- There are two schemes for messages, and which of them it is tells whether the text is begun by
`http`. -/
theorem messageScheme_iff (scheme : List Char) :
    (messageScheme scheme = "ws" ↔ toAsciiLower (String.ofList scheme) = "http") ∧
      (messageScheme scheme = "wss" ↔ toAsciiLower (String.ofList scheme) ≠ "http") := by
  rw [messageScheme]
  split
  next hsecure => exact ⟨iff_of_false (by decide) hsecure, iff_of_true rfl hsecure⟩
  next hplain =>
    rw [not_not] at hplain
    exact ⟨iff_of_true rfl hplain, iff_of_false (by decide) (not_not.mpr hplain)⟩

variable {base : String} {scheme rest : List Char}

/-- What is dialled at a text `base` that holds the mark `://`: it holds the mark as well, with the
scheme for messages before it and the `segments` behind `rest`. -/
theorem webSocketUrl_of_splitAtText
    (h : splitAtText [':', '/', '/'] base.toList = some (scheme, rest)) (segments : List String) :
    ∃ text, webSocketUrl base segments = .ok text ∧
      splitAtText [':', '/', '/'] text.toList =
        some ((messageScheme scheme).toList, rest ++ slashed segments) := by
  refine ⟨messageScheme scheme ++ "://" ++ String.ofList (rest ++ slashed segments), ?_, ?_⟩
  · rw [webSocketUrl, PlainBase.toList_joinUrl, splitAtText_append h]
    rfl
  · have hcolon : ':' ∉ (messageScheme scheme).toList := by
      rw [messageScheme]
      split <;> decide
    rw [String.toList_append, String.toList_append, String.toList_ofList, String.toList_ofList,
      List.append_assoc]
    exact splitAtText_of_not_mem hcolon _

/-- **The segments do not matter behind a text that holds the mark**: neither `scheme` nor the
authority depends on them. -/
theorem dials_iff_of_splitAtText {u : Url} (hscheme : u.scheme ∈ ["http", "https"])
    (h : splitAtText [':', '/', '/'] base.toList = some (scheme, rest)) (segments : List String) :
    Dials u base segments ↔
      (toAsciiLower (String.ofList scheme) = "http" ↔ u.scheme = "http") ∧
        Names (rest.takeWhile (· != '/')) u := by
  obtain ⟨text, htext, hsplit⟩ := webSocketUrl_of_splitAtText h segments
  obtain ⟨hws, hwss⟩ := messageScheme_iff scheme
  -- There are two schemes, so not to be `http` is to be `https`.
  have hother : u.scheme = "https" ↔ u.scheme ≠ "http" := by
    rcases List.mem_pair.mp hscheme with hu | hu <;> rw [hu] <;> decide
  rw [← takeWhile_append_slashed rest segments]
  constructor
  · rintro ⟨text', scheme', rest', htext', hsplit', hhttp, -, hnames⟩
    obtain rfl := Except.ok.inj (htext.symm.trans htext')
    obtain ⟨rfl, rfl⟩ := Prod.mk.inj (Option.some.inj (hsplit.symm.trans hsplit'))
    rw [String.ofList_toList, hws] at hhttp
    exact ⟨hhttp, hnames⟩
  · rintro ⟨hhttp, hnames⟩
    refine ⟨text, _, _, htext, hsplit, ?_, ?_, hnames⟩
    · rw [String.ofList_toList]
      exact hws.trans hhttp
    · rw [String.ofList_toList]
      exact (hwss.trans (not_congr hhttp)).trans hother.symm

/-- A URL without encryption is not dialled with it. -/
theorem not_dials_of_secure {u : Url} {segments : List String} {text : String}
    (hscheme : u.scheme = "http") (htext : webSocketUrl base segments = .ok text)
    (hsplit : splitAtText [':', '/', '/'] text.toList = some (['w', 's', 's'], rest)) :
    ¬ Dials u base segments := by
  rintro ⟨text', scheme', rest', htext', hsplit', -, hsecure, -⟩
  obtain rfl := Except.ok.inj (htext.symm.trans htext')
  obtain ⟨rfl, rfl⟩ := Prod.mk.inj (Option.some.inj (hsplit.symm.trans hsplit'))
  have hhttps : u.scheme = "https" := hsecure.mp rfl
  rw [hscheme] at hhttps
  exact absurd hhttps (by decide)

/-- Without the mark nothing is dialled at the text itself. -/
theorem not_dials_of_splitAtText {u : Url}
    (h : splitAtText [':', '/', '/'] base.toList = none) : ¬ Dials u base [] := by
  rintro ⟨text, -, -, htext, -⟩
  have hbase : joinUrl base [] = base := by
    rw [← String.toList_inj, PlainBase.toList_joinUrl]
    exact List.append_nil _
  rw [webSocketUrl, hbase, h] at htext
  cases htext

/-- **A text dials the controller at all segments, exactly if it holds the mark where it should.**
For the direction from `Dials` to the mark the empty list of segments is enough. -/
theorem forall_dials_iff_of_scheme {u : Url} (hscheme : u.scheme ∈ ["http", "https"])
    (base : String) :
    (∀ segments, Dials u base segments) ↔
      ∃ scheme rest, splitAtText [':', '/', '/'] base.toList = some (scheme, rest) ∧
        (toAsciiLower (String.ofList scheme) = "http" ↔ u.scheme = "http") ∧
        Names (rest.takeWhile (· != '/')) u := by
  constructor
  · intro hall
    cases hsplit : splitAtText [':', '/', '/'] base.toList with
    | none => exact absurd (hall []) (not_dials_of_splitAtText hsplit)
    | some parts =>
      obtain ⟨scheme, rest⟩ := parts
      exact ⟨scheme, rest, rfl, (dials_iff_of_splitAtText hscheme hsplit []).mp (hall [])⟩
  · rintro ⟨scheme, rest, hsplit, hright⟩ segments
    exact (dials_iff_of_splitAtText hscheme hsplit segments).mpr hright

/-! ### Texts that are written directly -/

namespace WebText

/-- The text `w` has two slashes before its authority and a slash behind it, and no blanks before
its path. -/
structure IsDirect (w : WebText) : Prop where
  /-- Two slashes stand before the authority. -/
  slashes : w.slashes = ['/', '/']
  /-- There is no blank in the authority. -/
  authority : ∀ c ∈ w.authority, 0x20 < c.toNat
  /-- The path, if there is one, begins with a slash. -/
  path : ∀ c ∈ w.path.head?, c = '/'

variable {w : WebText}

/-- There is no blank before the path, so that `clean` drops nothing there. -/
theorem IsDirect.of_mem_origin (hw : w.IsDirect) {c : Char} (hc : c ∈ w.origin) :
    0x20 < c.toNat := by
  simp only [origin, hw.slashes, List.mem_append, List.mem_cons, List.not_mem_nil, or_false] at hc
  rcases hc with hc | rfl | (rfl | rfl) | hc
  · have hrange := PlainBase.toNat_of_inBasePath (c := c) (by
      rw [inBasePath, Char.isAlphanum, w.isAlpha_of_mem_name hc]
      rfl)
    omega
  · decide
  · decide
  · decide
  · exact hw.authority c hc

/-- What is dropped of a text `w` that is written directly stands in its `path`. -/
theorem IsDirect.exists_clean_eq (hw : w.IsDirect) :
    ∃ path, clean w.text = w.origin ++ path ∧ (∀ c ∈ path.head?, c = '/') ∧ '?' ∉ path ∧
      '#' ∉ path := by
  have hbegun : begun w.text = w.origin ++ w.path.filter isKept := by
    have hne : w.origin ≠ [] := List.append_ne_nil_of_right_ne_nil _ (List.cons_ne_nil _ _)
    obtain ⟨c, rest, horigin⟩ := List.exists_cons_of_ne_nil hne
    have hc : 0x20 < c.toNat := hw.of_mem_origin (by rw [horigin]; exact List.mem_cons_self)
    have hstart : w.text.dropWhile (fun c => c.toNat ≤ 0x20) = w.text := by
      rw [text_eq, horigin, List.cons_append]
      exact dropWhile_of_head (by simpa using hc) _
    rw [begun, hstart, text_eq, List.filter_append, filter_isKept fun c hc => hw.of_mem_origin hc]
  obtain ⟨tail, htail, hblank⟩ := exists_begun_eq w.text
  rw [hbegun] at htail
  rcases List.append_eq_append_iff.mp htail with ⟨path, hclean, hpath⟩ | ⟨rest, horigin, hrest⟩
  · refine ⟨path, hclean, fun c hc => ?_, fun hc => w.path_ok.1 ?_, fun hc => w.path_ok.2 ?_⟩
    · cases hcs : w.path with
      | nil =>
        rw [hcs, List.filter_nil] at hpath
        rw [(List.append_eq_nil_iff.mp hpath.symm).1] at hc
        cases hc
      | cons d rest =>
        obtain rfl := hw.path d (by rw [hcs]; rfl)
        rw [hcs, List.filter_cons_of_pos (by decide)] at hpath
        have hhead := congrArg List.head? hpath
        rw [List.head?_append, hc] at hhead
        exact (Option.some.inj hhead).symm
    · exact List.mem_of_mem_filter (hpath ▸ List.mem_append_left _ hc)
    · exact List.mem_of_mem_filter (hpath ▸ List.mem_append_left _ hc)
  · -- The text before the path does not end in a blank.
    have hnil : rest = [] := by
      refine List.eq_nil_iff_forall_not_mem.mpr fun c hc => ?_
      have hlow := (hblank c (hrest ▸ List.mem_append_left _ hc)).1
      have hhigh := hw.of_mem_origin (horigin ▸ List.mem_append_right _ hc)
      omega
    rw [hnil, List.append_nil] at horigin
    exact ⟨[], by rw [List.append_nil, horigin], by simp, List.not_mem_nil, List.not_mem_nil⟩

/-- A text `w` that is written directly is divided at the first mark as it is read, whatever `path`
stands behind. -/
theorem IsDirect.splitAtText_append (hw : w.IsDirect) (path : List Char) :
    splitAtText [':', '/', '/'] (w.origin ++ path) = some (w.name, w.authority ++ path) := by
  rw [origin, hw.slashes, List.append_assoc]
  exact splitAtText_of_not_mem w.colon_not_mem_name _

/-- **A text that is written directly dials the controller that it is read as**, at all
`segments`. -/
theorem IsDirect.dials (hw : w.IsDirect) {raw : String} {u : Url} (hraw : raw.toList = w.text)
    (hu : Url.parse raw = .ok u) (segments : List String) :
    Dials u (dropTrailing '/' raw) segments := by
  have hback : '\\' ∉ w.authority := fun hc => absurd (w.authority_ok _ hc) (by decide)
  have hslash : ∀ c ∈ w.authority, (c != '/') = true := fun c hc => by
    have hends := w.authority_ok c hc
    simp only [endsAuthority, isSlash, Bool.or_eq_false_iff] at hends
    rw [bne, hends.1.1.1]
    rfl
  -- It is read with the authority that is written.
  obtain ⟨path, hclean, hhead, hok⟩ := hw.exists_clean_eq
  have hread : clean raw.toList =
      (w.withPath path (fun c hc => by rw [hhead c hc]; rfl) hok).text := by
    rw [hraw, hclean]
    exact (w.withPath path _ hok).text_eq.symm
  obtain ⟨a, ha, rfl⟩ := of_parse hu hread
  -- It is kept with that authority, too.
  obtain ⟨k, hk⟩ := toList_dropTrailing '/' raw
  obtain ⟨rest, hkept, hrest⟩ := w.exists_path_of_slashes (hraw.symm.trans hk)
  have hsplit : splitAtText [':', '/', '/'] (dropTrailing '/' raw).toList =
      some (w.name, w.authority ++ rest) := by
    rw [hkept, hw.splitAtText_append]
  refine (dials_iff_of_splitAtText w.name_ok hsplit segments).mpr ⟨?_, ?_⟩
  · rw [toAsciiLower, String.toList_ofList]
    rfl
  · have hauthority : (w.authority ++ rest).takeWhile (· != '/') = w.authority := by
      have hnone : rest.takeWhile (· != '/') = [] := by
        cases rest with
        | nil => rfl
        | cons c rest =>
          obtain rfl := hw.path c (by rw [hrest]; rfl)
          rfl
      rw [List.takeWhile_append_of_pos hslash, hnone, List.append_nil]
    rw [hauthority]
    exact ⟨a, ha, rfl, rfl, leftover_of_special hback ha⟩

end WebText

end Url

/-! ### The controller of a configuration -/

namespace Config

/-- The URL of a `config` is the one that was given, without slashes at its end. They are dropped
twice, which is no different from once. -/
theorem of_ofGiven {g : Given} {config : Config} (h : ofGiven g = .ok config) :
    config.controllerUrl = dropTrailing '/' g.controller ∧
      ∃ u, Url.parse g.controller = .ok u ∧ u.scheme ∈ ["http", "https"] := by
  unfold ofGiven at h
  obtain ⟨kept, hkept, h⟩ := Except.bind_eq_ok_iff.mp h
  obtain ⟨project, -, h⟩ := Except.bind_eq_ok_iff.mp h
  obtain ⟨rfl, u, hu, hscheme, -⟩ := of_validateUrl (Except.mapError_eq_ok_iff.mp hkept)
  refine ⟨?_, u, hu, hscheme⟩
  dsimp only at h
  split at h
  next level =>
    obtain rfl := Except.ok.inj h
    exact dropTrailing_dropTrailing '/' g.controller
  next => cases h

/-- **Connections go to the controller that requests go to, exactly if its URL is divided as it is
read.**

The URL that is kept holds `://`; what stands before it is `http` exactly if that is the scheme of
the URL, and what stands behind it up to the next slash names its host and port. Then no segments,
not those that the controller tells either, lead elsewhere. A text that is written directly is such
a URL. -/
theorem forall_dials_iff {g : Given} {config : Config} (h : ofGiven g = .ok config) :
    ∃ u, Url.parse g.controller = .ok u ∧
      ((∀ segments, Dials u config.controllerUrl segments) ↔
        ∃ scheme rest,
          splitAtText [':', '/', '/'] config.controllerUrl.toList = some (scheme, rest) ∧
          (toAsciiLower (String.ofList scheme) = "http" ↔ u.scheme = "http") ∧
          Names (rest.takeWhile (· != '/')) u) ∧
      ∀ w : WebText, g.controller.toList = w.text → w.IsDirect →
        ∀ segments, Dials u config.controllerUrl segments := by
  obtain ⟨hkept, u, hu, hscheme⟩ := of_ofGiven h
  refine ⟨u, hu, forall_dials_iff_of_scheme hscheme _, fun w hraw hw segments => ?_⟩
  rw [hkept]
  exact hw.dials hraw hu segments

/-- Settings with this URL. -/
def givenAt (controller : String) : Given where
  controller := controller
  project := "prj"
  registrationToken := none
  confDir := "/etc/deviceplane"
  stateDir := "/var/lib/deviceplane"
  serverPort := 4444
  logLevel := "info"
  logFormat := .json

/-- A URL with a port and a slash at its end. -/
def directText : WebText where
  name := ['h', 't', 't', 'p']
  slashes := ['/', '/']
  authority := ['C', 't', 'l', ':', '8', '0', '8', '0']
  path := ['/', 'a', 'p', 'i', '/']
  name_ok := by decide
  slashes_ok := isSlash_of_mem_slashes
  authority_ne := by decide
  authority_ok := by simp [endsAuthority, isSlash]
  path_head := by simp [isSlash]
  path_ok := by decide

/-- A path that looks like a URL leads to the controller nevertheless. -/
theorem forall_dials_iff_direct :
    ∃ config u, ofGiven (givenAt "http://Ctl:8080/api/") = .ok config ∧
      Url.parse "http://Ctl:8080/api/" = .ok u ∧
      Dials u config.controllerUrl ["x://evil/"] := by
  have hconfig : ∃ config, ofGiven (givenAt "http://Ctl:8080/api/") = .ok config := ⟨_, rfl⟩
  obtain ⟨config, hconfig⟩ := hconfig
  have hdirect : directText.IsDirect := ⟨rfl, by simp [directText], by simp [directText]⟩
  obtain ⟨u, hu, -, hdials⟩ := forall_dials_iff hconfig
  exact ⟨config, u, hconfig, hu, hdials directText rfl hdirect _⟩

/-- **A blank before the URL crosses the setting of encryption** (`http` is dialled as `wss`), **and
behind a URL without slashes the path that the controller tells is dialled as another host.** -/
theorem dials_elsewhere :
    (∃ config u, ofGiven (givenAt " http://ctl/api") = .ok config ∧
      Url.parse " http://ctl/api" = .ok u ∧ u.scheme = "http" ∧
      webSocketUrl config.controllerUrl ["x"] = .ok "wss://ctl/api/x" ∧
      ¬ Dials u config.controllerUrl ["x"]) ∧
    ∃ config u, ofGiven (givenAt "http:ctl") = .ok config ∧
      Url.parse "http:ctl" = .ok u ∧ u.host = some (.domain "ctl") ∧
      webSocketUrl config.controllerUrl ["x://evil"] = .ok "wss://evil" ∧
      ¬ Dials u config.controllerUrl ["x://evil"] := by
  refine ⟨⟨_, _, rfl, rfl, rfl, rfl, ?_⟩, _, _, rfl, rfl, rfl, rfl, ?_⟩
  · exact not_dials_of_secure rfl rfl rfl
  · exact not_dials_of_secure rfl rfl rfl

end Config

end FleetAgent
