/-!
# Frames

A connection for messages carries frames. A frame starts with two bytes: the first tells whether it
ends a message and what kind of frame it is, the second how long its payload is; a long payload has
its length in the two or eight bytes that follow. Frames of the controller are not masked.

`Frame.read` reads one frame from the start of a stream, `Frame.encode` writes one.
-/

namespace FleetAgent.WebSocket

/-- The kinds of frames that are in use; other numbers are refused. -/
inductive Opcode where
  | continuation
  | text
  | binary
  | close
  | ping
  | pong
deriving Repr, DecidableEq

namespace Opcode

/-- The number of a kind. -/
def code : Opcode → Nat
  | .continuation => 0
  | .text => 1
  | .binary => 2
  | .close => 8
  | .ping => 9
  | .pong => 10

/-- The kind of a number. -/
def ofCode? : Nat → Option Opcode
  | 0 => some .continuation
  | 1 => some .text
  | 2 => some .binary
  | 8 => some .close
  | 9 => some .ping
  | 10 => some .pong
  | _ => none

/-- Whether a frame is about the connection, and not part of a message. -/
def isControl : Opcode → Bool
  | .close | .ping | .pong => true
  | _ => false

@[simp] theorem ofCode?_code (o : Opcode) : ofCode? o.code = some o := by
  cases o <;> rfl

end Opcode

/-- A frame, without a mask. -/
structure Frame where
  /-- Whether it ends a message. -/
  isLast : Bool
  /-- Its kind. -/
  opcode : Opcode
  /-- What it carries. -/
  payload : List UInt8
deriving Repr, DecidableEq

/-- What stands at the start of a stream. -/
inductive FrameResult where
  /-- A frame, and what follows it. -/
  | frame (f : Frame) (rest : List UInt8)
  /-- The start of a frame. -/
  | incomplete
  /-- No frame. -/
  | malformed
deriving Repr, DecidableEq

namespace Frame

/-- The longest payload that is accepted: sixteen mebibytes. -/
def maxLength : Nat := 16777216

/-- The longest payload of a frame about the connection. -/
def maxControlLength : Nat := 125

/-- The number that `bytes` stand for, the most significant byte first. -/
def number (bytes : List UInt8) : Nat :=
  bytes.foldl (fun n b => n * 256 + b.toNat) 0

/-- Takes the length of the payload, given its first seven bits `first`; none if `bytes` end before
it. -/
def readLength (first : Nat) (bytes : List UInt8) : Option (Nat × List UInt8) :=
  let size := if first = 126 then 2 else if first = 127 then 8 else 0
  if size = 0 then some (first, bytes)
  else if bytes.length < size then none
  else some (number (bytes.take size), bytes.drop size)

/-- Takes a frame from the start of the stream `bytes`. A frame that is too long is refused as soon
as its length is known, before its payload has come. -/
def read (bytes : List UInt8) : FrameResult :=
  match bytes with
  | b :: c :: rest =>
    let isLast := 128 ≤ b.toNat
    let isMasked := 128 ≤ c.toNat
    match Opcode.ofCode? (b.toNat % 16) with
    | none => .malformed
    | some opcode =>
      if b.toNat / 16 % 8 ≠ 0 ∨ isMasked then .malformed
      else match readLength (c.toNat % 128) rest with
        | none => .incomplete
        | some (length, rest) =>
          if maxLength < length then .malformed
          else if opcode.isControl ∧ (¬ isLast ∨ maxControlLength < length) then .malformed
          else if rest.length < length then .incomplete
          else .frame ⟨isLast, opcode, rest.take length⟩ (rest.drop length)
  | _ => .incomplete

/-- The bytes of the frame `f`, not masked, with its length in the fewest bytes. -/
def encode (f : Frame) : List UInt8 :=
  let n := f.payload.length
  let first := UInt8.ofNat ((if f.isLast then 128 else 0) + f.opcode.code)
  let length :=
    if n < 126 then [UInt8.ofNat n]
    else if n < 65536 then [126, UInt8.ofNat (n / 256), UInt8.ofNat n]
    else 127 :: (List.range 8).map fun i => UInt8.ofNat (n / Nat.pow 256 (7 - i))
  first :: length ++ f.payload

theorem length_le_of_readLength {first n : Nat} {bytes rest : List UInt8}
    (h : readLength first bytes = some (n, rest)) : rest.length ≤ bytes.length := by
  unfold readLength at h
  generalize (if first = 126 then 2 else if first = 127 then 8 else 0) = size at h
  by_cases h0 : size = 0
  · simp only [h0, ↓reduceIte, Option.some.injEq, Prod.mk.injEq] at h
    simp [← h.2]
  · by_cases hs : bytes.length < size
    · simp [h0, hs] at h
    · simp only [h0, hs, ↓reduceIte, Option.some.injEq, Prod.mk.injEq] at h
      simp [← h.2]

/-- A frame takes at least one byte off the stream, so that the messages of a stream can be read by
recursion. -/
theorem length_lt_of_read {bytes rest : List UInt8} {f : Frame}
    (h : read bytes = .frame f rest) : rest.length < bytes.length := by
  unfold read at h
  split at h
  · rename_i b c tail
    simp only at h
    split at h
    · simp at h
    · split at h
      · simp at h
      · split at h
        · simp at h
        · rename_i length r hl
          have hr := length_le_of_readLength hl
          repeat' split at h
          all_goals simp only [FrameResult.frame.injEq, reduceCtorEq] at h
          rw [← h.2]
          simp only [List.length_drop, List.length_cons]
          omega
  · simp at h

end Frame

end FleetAgent.WebSocket
