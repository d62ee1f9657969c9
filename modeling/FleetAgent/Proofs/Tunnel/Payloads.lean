import FleetAgent.Proofs.Wire.Lists
import FleetAgent.Tunnel.ControlMessage
/-!
# Payloads that ask for a connection

`AsksFor payload path` says of a payload, whatever its bytes are, that it asks to dial back on
`path`: it decodes, and so and so stands in its fields. That is what makes the message that it
decodes to ask for the path (`asksFor_iff`), so a payload asks for one path at most
(`AsksFor.unique`).

What a message holds is what its fields give (`ControlMessage.fields_of_canYield`), and its action
depends on that alone (`ControlMessage.action_eq_dial_iff`).
-/

namespace FleetAgent

open FleetAgent.Json (Node)
open FleetAgent.Wire
open FleetAgent.Wire.Decoder

/-- The payload asks to dial back on `path`. -/
structure AsksFor (payload : List UInt8) (path : String) : Prop where
  /-- It decodes as a message. -/
  decodes : ∃ m, decode ControlMessage.ofNode payload = .ok m
  /-- The message is about a connection. -/
  command : (root payload).HasField "Command" 0 (.text (.ok "conn-ready"))
  /-- It tells the path. -/
  connPath : (root payload).HasField "ConnPath" 1 (.text (.ok path))
  /-- The path is not empty. -/
  path_ne : path ≠ ""
  /-- If it tells of an error at all, it is `null` or empty. -/
  err : ∀ n, (root payload).HasField "Err" 2 n → n = .null ∨ n = .text (.ok "")

namespace ControlMessage

variable {m : ControlMessage} {path : String} {payload : List UInt8}

/-! ### Fields -/

theorem isField_command : IsField slots ignored "Command" 0 Draft.command text :=
  isField_of rfl rfl (fun _ _ => rfl) (by simp [slots, keeps_of]) fun _ => keeps_ignored

/-- The path is the second, and may be missing or `null`. -/
theorem isField_connPath :
    IsField slots ignored "ConnPath" 1 Draft.connPath (optional text) :=
  isField_of rfl rfl (fun _ _ => rfl) (by simp [slots, keeps_of]) fun _ => keeps_ignored

theorem isField_err : IsField slots ignored "Err" 2 Draft.err (optional text) :=
  isField_of rfl rfl (fun _ _ => rfl) (by simp [slots, keeps_of]) fun _ => keeps_ignored

/-- What a message holds is what its fields give. -/
theorem fields_of_canYield {n : Node} (h : (ofNode n).CanYield m) :
    ∃ connPath err, FieldGives "Command" 0 text n (some m.command) ∧
      FieldGives "ConnPath" 1 (optional text) n connPath ∧
      FieldGives "Err" 2 (optional text) n err ∧
      m.connPath = connPath.getD none ∧ m.err = err.getD none := by
  obtain ⟨x, y, h⟩ := h
  simp only [ofNode, yields_bind, yields_pure, yields_required] at h
  obtain ⟨d, z, hd, command, z', ⟨hcommand, rfl⟩, rfl, -⟩ := h
  refine ⟨d.connPath, d.err, ?_, isField_connPath.record rfl hd, isField_err.record rfl hd,
    rfl, rfl⟩
  have hfield := isField_command.record rfl hd
  rwa [hcommand] at hfield

/-- A text that may be missing is read as none from `null`, and as a text from a text. -/
theorem canYield_optional_text {n : Node} {o : Option String} :
    (optional text n).CanYield o ↔ n = .null ∧ o = none ∨ ∃ s, n = .text (.ok s) ∧ o = some s := by
  by_cases hnull : n = .null
  · subst hnull
    constructor
    · rintro ⟨x, y, h⟩
      exact .inl ⟨rfl, (yields_pure.mp h).1.symm⟩
    · rintro (⟨-, rfl⟩ | ⟨s, hs, -⟩)
      · exact ⟨[], [], yields_pure.mpr ⟨rfl, rfl⟩⟩
      · cases hs
  · constructor
    · rintro ⟨x, y, h⟩
      obtain ⟨s, hs, rfl⟩ := (yields_optional_of_ne_null hnull).mp h
      exact .inr ⟨s, (yields_text.mp hs).1, rfl⟩
    · rintro (⟨hn, -⟩ | ⟨s, hs, rfl⟩)
      · exact absurd hn hnull
      · exact ⟨[], [], (yields_optional_of_ne_null hnull).mpr ⟨s, yields_text.mpr ⟨hs, rfl⟩, rfl⟩⟩

/-- A text that may be missing was there in the field `name` if it is there behind decoding. -/
theorem hasField_of_getD {n : Node} {name s : String} {place : Nat} {r : Option (Option String)}
    (h : FieldGives name place (optional text) n r) (hr : r.getD none = some s) :
    n.HasField name place (.text (.ok s)) := by
  have hsome : r = some (some s) := by
    cases r with
    | none => cases hr
    | some o => exact congrArg some hr
  obtain ⟨m, hm, hyield⟩ := h.2 (some s) hsome
  rcases canYield_optional_text.mp hyield with ⟨-, hnone⟩ | ⟨t, rfl, ht⟩
  · cases hnone
  · rw [Option.some.inj ht]
    exact hm

/-- What stands in a field that may be missing is there behind decoding, and `null` is nothing. -/
theorem getD_of_hasField {n m : Node} {name : String} {place : Nat} {r : Option (Option String)}
    (h : FieldGives name place (optional text) n r) (hm : n.HasField name place m) :
    m = .null ∧ r.getD none = none ∨ ∃ s, m = .text (.ok s) ∧ r.getD none = some s := by
  obtain ⟨o, hyield, rfl⟩ := h.1 m hm
  exact canYield_optional_text.mp hyield

/-! ### Actions -/

/-- When a message `m` asks to dial back: it is about a connection, and tells a path and no
error. -/
theorem action_eq_dial_iff :
    m.action = .dial path ↔ m.command = "conn-ready" ∧ m.connPath = some path ∧ path ≠ "" ∧
      (m.err = none ∨ m.err = some "") := by
  have herr : m.errorText = "" ↔ m.err = none ∨ m.err = some "" := by
    rw [errorText]
    cases m.err <;> simp
  rw [action, ← herr]
  -- The command is looked at first, then the error, and the path last.
  by_cases hkeep : m.command = "keep-alive"
  · simp [hkeep]
  by_cases hready : m.command = "conn-ready"
  · rw [if_neg hkeep, if_pos hready]
    by_cases hquiet : m.errorText = ""
    · rw [if_neg fun h => h hquiet]
      rcases m.connPath with _ | p
      · simp
      · by_cases hp : p = ""
        · simp only [if_pos hp]
          refine iff_of_false nofun fun h => h.2.2.1 ?_
          rw [← Option.some.inj h.2.1, hp]
        · simp only [if_neg hp, ControlAction.dial.injEq, Option.some.injEq]
          constructor
          · rintro rfl
            exact ⟨hready, rfl, hp, hquiet⟩
          · exact fun h => h.2.1
    · rw [if_pos hquiet]
      exact iff_of_false nofun fun h => hquiet h.2.2.2
  · rw [if_neg hkeep, if_neg hready]
    exact iff_of_false nofun fun h => hready h.1

end ControlMessage

open ControlMessage

variable {path path' : String} {payload : List UInt8}

/-- **A `payload` asks for a `path`** exactly if the message that it decodes to does. Each of the
three fields is followed in both directions, from what stands in the payload to what the message
holds, and back. -/
theorem asksFor_iff :
    AsksFor payload path ↔
      ∃ m, decode ControlMessage.ofNode payload = .ok m ∧ m.action = .dial path := by
  constructor
  · rintro ⟨⟨m, hm⟩, hcommand, hpath, hne, herr⟩
    obtain ⟨connPath, err, hfcommand, hfpath, hferr, hmpath, hmerr⟩ :=
      fields_of_canYield (canYield_of_decode hm)
    refine ⟨m, hm, action_eq_dial_iff.mpr ⟨?_, ?_, hne, ?_⟩⟩
    · obtain ⟨s, ⟨x, y, hs⟩, hsome⟩ := hfcommand.1 _ hcommand
      obtain ⟨htext, -⟩ := yields_text.mp hs
      rw [Option.some.inj hsome, ← Except.ok.inj (Node.text.inj htext)]
    · rw [hmpath]
      rcases getD_of_hasField hfpath hpath with ⟨hnull, -⟩ | ⟨s, htext, hs⟩
      · cases hnull
      · rw [hs, ← Except.ok.inj (Node.text.inj htext)]
    · rw [hmerr]
      rcases hget : err.getD none with _ | s
      · exact .inl rfl
      · rcases herr _ (hasField_of_getD hferr hget) with hnull | htext
        · cases hnull
        · exact .inr (congrArg some (Except.ok.inj (Node.text.inj htext)))
  · rintro ⟨m, hm, haction⟩
    obtain ⟨hcommand, hpath, hne, herr⟩ := action_eq_dial_iff.mp haction
    obtain ⟨connPath, err, hfcommand, hfpath, hferr, hmpath, hmerr⟩ :=
      fields_of_canYield (canYield_of_decode hm)
    refine ⟨⟨m, hm⟩, ?_, hasField_of_getD hfpath (hmpath.symm.trans hpath), hne, fun n hn => ?_⟩
    · obtain ⟨n, hn, x, y, hs⟩ := hfcommand.2 _ rfl
      rw [(yields_text.mp hs).1, hcommand] at hn
      exact hn
    · rcases getD_of_hasField hferr hn with ⟨hnull, -⟩ | ⟨s, rfl, hs⟩
      · exact .inl hnull
      · rw [← hmerr] at hs
        rcases herr with hnone | hempty
        · rw [hnone] at hs
          cases hs
        · rw [hempty] at hs
          rw [← Option.some.inj hs]
          exact .inr rfl

/-- A payload asks for one path at most. -/
theorem AsksFor.unique (h : AsksFor payload path) (h' : AsksFor payload path') : path = path' := by
  obtain ⟨m, hm, haction⟩ := asksFor_iff.mp h
  obtain ⟨m', hm', haction'⟩ := asksFor_iff.mp h'
  rw [hm] at hm'
  obtain rfl := Except.ok.inj hm'
  exact ControlAction.dial.inj (haction.symm.trans haction')

/-- The paths that payloads ask for, one for each payload that asks, in order. -/
inductive AskedPaths : List (List UInt8) → List String → Prop
  /-- No payload asks for nothing. -/
  | nil : AskedPaths [] []
  /-- A payload asks for a path. -/
  | asks {payload : List UInt8} {path : String} {payloads : List (List UInt8)}
      {paths : List String} (h : AsksFor payload path) (hrest : AskedPaths payloads paths) :
      AskedPaths (payload :: payloads) (path :: paths)
  /-- A payload asks for nothing. -/
  | other {payload : List UInt8} {payloads : List (List UInt8)} {paths : List String}
      (h : ∀ path, ¬ AsksFor payload path) (hrest : AskedPaths payloads paths) :
      AskedPaths (payload :: payloads) paths

theorem AskedPaths.append {payloads more : List (List UInt8)} {paths later : List String}
    (h : AskedPaths payloads paths) (hmore : AskedPaths more later) :
    AskedPaths (payloads ++ more) (paths ++ later) := by
  induction h with
  | nil => exact hmore
  | asks hasks _ ih => exact .asks hasks ih
  | other hnone _ ih => exact .other hnone ih

end FleetAgent
