import FleetAgent.Identity.Store
import FleetAgent.Proofs.Json.ReadBack
import FleetAgent.Proofs.Wire.Leaves
/-!
# Records that were written are decoded

A text that is read back as a value decodes as whatever the node of the value decodes to, with the
same notes (`decodeNoting_of_document`). An identity is decoded from the file that it was written to
(`decode_contents`), whatever characters its key holds: `yields_credentials` fills its two members,
and writing texts is exact (`exact_identity`).
-/

namespace FleetAgent.Wire

open Decoder

variable {α : Type} {x : List Skipped}

/-- A text that is read as the value `v`, with nothing behind it, decodes as the node of `v`
does. -/
theorem decodeNoting_of_document {d : Json.Node → Decoder α} {bytes : List UInt8} {v : Json} {a : α}
    {notes : List Skipped}
    (hdoc : Json.Reader.document (Text.Utf8.symbols bytes) = ⟨v.toNode, true⟩)
    (h : (d v.toNode).Yields [] a notes) : decodeNoting d bytes = (.ok a, notes) := by
  have houtcome : (d v.toNode).outcome = (.ok a, notes) := h
  simp only [decodeNoting, decodeSymbols, hdoc, houtcome]
  rfl

/-- The two members that make a registration or an identity. -/
theorem yields_credentials (name : String) (r : Registration) (x : List Skipped) :
    (credentials name (Json.object [("deviceId", .text r.deviceId.text),
      ("accessKey", .text r.accessKey)]).toNode).Yields x r x := by
  have hid : (identifier .device (.text (.ok r.deviceId.text))).Yields x r.deviceId x :=
    yields_identifier.mpr ⟨rfl, rfl⟩
  have hkey : (text (.text (.ok r.accessKey))).Yields x r.accessKey x :=
    yields_text.mpr ⟨rfl, rfl⟩
  refine yields_bind.mpr ⟨⟨some r.deviceId, some r.accessKey⟩, x, ?_, rfl⟩
  refine yields_bind.mpr ⟨_, x, ?_, yields_bind.mpr ⟨(), x, rfl, yields_pure.mpr ⟨rfl, rfl⟩⟩⟩
  -- Each of the two members fills its field.
  refine yields_fillMembers_cons.mpr ⟨_, rfl, ⟨some r.deviceId, none⟩, x, ?_, ?_⟩
  · exact yields_fill_of.mpr ⟨_, hid, rfl⟩
  · refine yields_fillMembers_cons.mpr ⟨_, rfl, ⟨some r.deviceId, some r.accessKey⟩, x, ?_, rfl⟩
    exact yields_fill_of.mpr ⟨_, hkey, rfl⟩

theorem yields_identity (i : Identity) (x : List Skipped) :
    (identity i.toJson.toNode).Yields x i x := by
  have hcredentials := yields_credentials "Identity" ⟨i.deviceId, i.accessKey.secret⟩ x
  exact yields_map.mpr ⟨_, hcredentials, rfl⟩

theorem exact_identity (i : Identity) : i.toJson.Exact :=
  ⟨trivial, trivial, trivial⟩

theorem decodeNoting_contents (i : Identity) :
    decodeNoting identity (IdentityStore.contents i) = (.ok i, []) :=
  decodeNoting_of_document (Json.Reader.document_indented (exact_identity i)) (yields_identity i [])

/-- **An identity is decoded from what it was written as.** -/
theorem decode_contents (i : Identity) : decode identity (IdentityStore.contents i) = .ok i := by
  rw [decode, decodeNoting_contents]

end FleetAgent.Wire
