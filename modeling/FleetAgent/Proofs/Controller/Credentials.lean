import FleetAgent.Controller.Dial
import FleetAgent.Proofs.Controller.Addresses
import FleetAgent.Proofs.Controller.Endpoints
import FleetAgent.Proofs.Outcome
import FleetAgent.Proofs.Text.Cut
import FleetAgent.Proofs.Wire.RoundTrip
/-!
# What the controller reads of a key

A device shows its key as the name of a user with an empty password. `readBasic?` reads such a
header the way a server does: up to the first colon stands the name, behind it the password. Every
request but that of registration has the header, and so has every dial: `authenticates_iff`. What is
read tells the keys apart, but it is the key as the name with the empty password only if there is no
colon in the key (`readBasic?_eq_self_iff`), and a key can come with one
(`reads_otherwise_of_colon`).

The header is undone in two steps: `Base64.decode?` and `Utf8.decode?` give back the text
`key ++ ":"`, and `Text.splitOnce` cuts it at its first colon (`readBasic?_authorization`).
-/

namespace FleetAgent.Controller

open FleetAgent.Text
open FleetAgent.PlainBase (localBase localProject parse_localBase request_client)

variable {key key' : AccessKey}

/-! ### Reading a header -/

/-- The name of a user and a password, as `header` shows them; `none` if it shows none. -/
def readBasic? (header : String) : Option (String × String) := do
  let digits ← stripLeading "Basic ".toList header.toList
  let bytes ← Base64.decode? digits
  let text ← Utf8.decode? bytes
  let (user, password) ← splitOnce ':' text.toList
  return (String.ofList user, String.ofList password)

/-- What is shown of a `key` is its secret with a colon behind it, which is cut at its first
colon. -/
theorem readBasic?_authorization (key : AccessKey) :
    readBasic? (authorization key) =
      (splitOnce ':' (key.secret.toList ++ [':'])).map fun (user, password) =>
        (String.ofList user, String.ofList password) := by
  have hdigits : stripLeading "Basic ".toList (authorization key).toList =
      some (Base64.encode (Utf8.encode (key.secret ++ ":"))) := by
    rw [authorization, String.toList_append, stripLeading_append, String.toList_ofList]
  have htext : (key.secret ++ ":").toList = key.secret.toList ++ [':'] := String.toList_append
  simp only [readBasic?, hdigits, Base64.decode?_encode, Utf8.decode?_encode, htext,
    Option.bind_eq_bind, Option.bind_some]
  cases splitOnce ':' (key.secret.toList ++ [':']) <;> rfl

/-- The name `user` and the `password` are what stands on the two sides of the first colon. -/
theorem exists_readBasic?_eq (key : AccessKey) :
    ∃ user password, readBasic? (authorization key) = some (user, password) ∧
      user ++ ":" ++ password = key.secret ++ ":" ∧ ':' ∉ user.toList := by
  cases hsplit : splitOnce ':' (key.secret.toList ++ [':']) with
  | none =>
    -- There is a colon, be it the one behind the key.
    refine absurd ?_ (splitOnce_eq_none_iff.mp hsplit)
    exact List.mem_append_right _ List.mem_cons_self
  | some parts =>
    obtain ⟨user, password⟩ := parts
    obtain ⟨hwhole, huser⟩ := splitOnce_eq_some hsplit
    refine ⟨String.ofList user, String.ofList password, ?_, ?_, by rwa [String.toList_ofList]⟩
    · rw [readBasic?_authorization, hsplit]
      rfl
    · rw [← String.toList_inj]
      simp only [String.toList_append, String.toList_ofList]
      exact (List.append_assoc _ _ _).trans hwhole.symm

/-- **A key is read as the name with the empty password exactly if there is no colon in its
secret.** -/
theorem readBasic?_eq_self_iff :
    readBasic? (authorization key) = some (key.secret, "") ↔ ':' ∉ key.secret.toList := by
  constructor
  · intro h
    obtain ⟨user, password, hread, -, huser⟩ := exists_readBasic?_eq key
    rw [h] at hread
    rwa [← (Prod.mk.inj (Option.some.inj hread)).1] at huser
  · intro h
    rw [readBasic?_authorization, splitOnce_append h]
    exact congrArg (fun user => some (user, "")) String.ofList_toList

/-- **What is read tells keys apart**: the two sides of the first colon give the secret back. -/
theorem readBasic?_authorization_inj :
    readBasic? (authorization key) = readBasic? (authorization key') ↔ key = key' := by
  refine ⟨fun h => ?_, fun h => by rw [h]⟩
  obtain ⟨user, password, hread, hwhole, -⟩ := exists_readBasic?_eq key
  obtain ⟨user', password', hread', hwhole', -⟩ := exists_readBasic?_eq key'
  rw [hread, hread'] at h
  obtain ⟨rfl, rfl⟩ := Prod.mk.inj (Option.some.inj h)
  -- The two parts around a colon make the key with the colon behind it, so they tell the key.
  have hsecret : key.secret.toList ++ ":".toList = key'.secret.toList ++ ":".toList := by
    rw [← String.toList_append, ← String.toList_append, ← hwhole, hwhole']
  exact congrArg AccessKey.mk (String.toList_inj.mp (List.append_cancel_right hsecret))

/-! ### Requests and dials -/

/-- A header is there, and `key` is read from it, up to its first colon as the name of the user and
behind it as the password. -/
def Shows (header? : Option String) (key : AccessKey) : Prop :=
  ∃ header user password, header? = some header ∧ readBasic? header = some (user, password) ∧
    user ++ ":" ++ password = key.secret ++ ":" ∧ ':' ∉ user.toList ∧
    ((user, password) = (key.secret, "") ↔ ':' ∉ key.secret.toList)

theorem shows_authorization? (key : AccessKey) : Shows (authorization? key) key := by
  obtain ⟨user, password, hread, hwhole, huser⟩ := exists_readBasic?_eq key
  refine ⟨_, user, password, authorization?_eq key, hread, hwhole, huser, ?_⟩
  rw [← readBasic?_eq_self_iff, hread, Option.some.injEq]

variable {c : Client} {ctx : Context} {signal : Signal} {now : Moment}

/-- Every request but that of registration shows the key of the device. -/
theorem authorization_of_request {call : Call} {r : Request} (h : c.request? call = .ok (some r))
    (hregister : call.operation ≠ .register) :
    ∃ i, c.identity? = some i ∧ r.authorization? = authorization? i.accessKey := by
  rw [Client.request?] at h
  obtain ⟨⟨text, who?⟩, haddress, h⟩ := Except.bind_eq_ok_iff.mp h
  -- What was composed as the header is what the request has, whatever the URL is read as.
  have hwho : r.authorization? = who? := by
    dsimp only at h
    split at h
    next => cases h
    next =>
      split at h
      next => cases h; rfl
      next => cases h
  rw [Client.address] at haddress
  split at haddress
  next hnone => exact absurd (Operation.place?_eq_none_iff.mp hnone) hregister
  next => cases haddress
  next i _ hi =>
    cases haddress
    exact ⟨i, hi, hwho⟩

/-- A dial that is started with `key` shows it. -/
theorem authorization_of_startDial {segments : List String} {d : Dial}
    (h : c.startDial ctx signal now key segments = .ok d) :
    d.authorization? = authorization? key := by
  rw [Client.startDial] at h
  obtain ⟨url, -, h⟩ := Except.bind_eq_ok_iff.mp h
  split at h
  next => cases h
  next =>
    obtain ⟨_, -, h⟩ := Except.bind_eq_ok_iff.mp h
    cases h
    rfl

/-- Every dial shows the key of the device. -/
theorem authorization_of_dial {d : Dial}
    (h : c.startTunnel ctx signal now = .ok d ∨
      ∃ path, c.startDialBack ctx signal now path = .ok d) :
    ∃ i, c.identity? = some i ∧ d.authorization? = authorization? i.accessKey := by
  -- Without an identity nothing is dialled at all.
  cases hi : c.identity? with
  | none =>
    obtain h | ⟨path, h⟩ := h
    · rw [Client.startTunnel, hi] at h
      cases h
    · rw [Client.startDialBack, hi] at h
      cases h
  | some i =>
    refine ⟨i, rfl, ?_⟩
    obtain h | ⟨path, h⟩ := h
    · rw [Client.startTunnel, hi] at h
      exact authorization_of_startDial h
    · rw [Client.startDialBack, hi] at h
      exact authorization_of_startDial h

/-- **Whatever a device that is registered sends or dials shows its key**: every request but that of
the registration, and every dial. The controller reads the `key` as the name of the user with the
empty password exactly if there is no colon in the key. It never reads two keys alike. -/
theorem authenticates_iff (c : Client) (ctx : Context) (signal : Signal) (now : Moment) :
    (∀ call r, c.request? call = .ok (some r) → call.operation ≠ .register →
      ∃ i, c.identity? = some i ∧ Shows r.authorization? i.accessKey) ∧
    (∀ d, (c.startTunnel ctx signal now = .ok d ∨
        ∃ path, c.startDialBack ctx signal now path = .ok d) →
      ∃ i, c.identity? = some i ∧ Shows d.authorization? i.accessKey) ∧
    ∀ key key', (authorization? key).bind readBasic? = (authorization? key').bind readBasic? ↔
      key = key' := by
  refine ⟨fun call r hr hregister => ?_, fun d hd => ?_, fun key key' => ?_⟩
  · obtain ⟨i, hi, hauthorization⟩ := authorization_of_request hr hregister
    exact ⟨i, hi, hauthorization ▸ shows_authorization? i.accessKey⟩
  · obtain ⟨i, hi, hauthorization⟩ := authorization_of_dial hd
    exact ⟨i, hi, hauthorization ▸ shows_authorization? i.accessKey⟩
  · rw [authorization?_eq, authorization?_eq, Option.bind_some, Option.bind_some]
    exact readBasic?_authorization_inj

/-- The bundle is asked for with a key outside ASCII. -/
theorem authenticates_iff_accented :
    ∃ r header, (localBase.client localProject ⟨⟨"dev", by decide⟩, ⟨"ké"⟩⟩).request?
        .getBundle = .ok (some r) ∧
      r.authorization? = some header ∧ readBasic? header = some ("ké", "") := by
  have hr := request_client localBase localProject ⟨⟨"dev", by decide⟩, ⟨"ké"⟩⟩ parse_localBase
    .getBundle
  obtain ⟨i, hi, header, user, password, hheader, hread, -, -, hself⟩ :=
    (authenticates_iff _ Context.root ⟨false, false⟩ 0).1 .getBundle _ hr nofun
  obtain rfl := Option.some.inj hi
  exact ⟨_, header, hr, hheader, (hself.mpr (by decide)) ▸ hread⟩

/-- **A key with a colon is taken, but it is read as another name with a password**: `a:b` as the
user `a` with the password `b:`. -/
theorem reads_otherwise_of_colon :
    ∃ body r header, Wire.decode Wire.registration body = .ok r ∧ r.accessKey = "a:b" ∧
      authorization? r.identity.accessKey = some header ∧
      readBasic? header = some ("a", "b:") ∧ readBasic? header ≠ some ("a:b", "") ∧
      readBasic? (authorization ⟨"a"⟩) = some ("a", "") := by
  have hexact : (Json.object [("deviceId", .text "d"), ("accessKey", .text "a:b")]).Exact :=
    ⟨trivial, trivial, trivial⟩
  have hdecode := Wire.decodeNoting_of_document (Json.Reader.document_compact hexact)
    (Wire.yields_credentials "RegisterDeviceResponse" ⟨⟨"d", by decide⟩, "a:b"⟩ [])
  have hread : readBasic? (authorization ⟨"a:b"⟩) = some ("a", "b:") :=
    readBasic?_authorization ⟨"a:b"⟩
  refine ⟨_, ⟨⟨"d", by decide⟩, "a:b"⟩, _, congrArg Prod.fst hdecode, rfl, authorization?_eq _,
    hread, ?_, readBasic?_authorization ⟨"a"⟩⟩
  rw [Registration.identity, hread]
  decide

end FleetAgent.Controller
