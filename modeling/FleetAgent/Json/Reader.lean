import FleetAgent.Json.Node
import FleetAgent.Text.Utf8
/-!
# Reading JSON texts

The reader works on the symbols of a byte string. Each of its functions gives what it has read and
the symbols that are left, or nothing if the text broke off: then nothing behind that place is
looked at.

Inside a string the two ways of reading part. Taking a string needs surrogates in pairs and
well-formed UTF-8; a surrogate without its partner is noticed where it stands, ill-formed UTF-8 only
at the closing quote. `Gathering` carries what the taker knows while the text is scanned once.
-/

namespace FleetAgent.Json.Reader

open FleetAgent.Text (Symbol)

/-- The symbols behind the blanks at the start. Only the four blanks of JSON are such. -/
def skipBlank : List Symbol → List Symbol
  | .char c :: r =>
    if c = ' ' ∨ c = '\t' ∨ c = '\n' ∨ c = '\r' then skipBlank r else .char c :: r
  | s => s

/-! ### Literals and numbers -/

/-- Reads the letters of a literal, and gives what is behind them. -/
def literal : List Char → List Symbol → Except Fault (List Symbol)
  | [], s => .ok s
  | _ :: _, [] => .error .truncated
  | c :: cs, .char d :: r => if c = d then literal cs r else .error .malformed
  | _ :: _, .stray _ :: _ => .error .malformed

/-- The value of a decimal digit. -/
def digit? : Symbol → Option Nat
  | .char c => if Text.isDigit c then some (c.toNat - '0'.toNat) else none
  | .stray _ => none

/-- Reads as many digits as there are, and gives their values and what is behind them. -/
def digits : List Symbol → List Nat × List Symbol
  | [] => ([], [])
  | s :: r =>
    match digit? s with
    | some d => let (ds, rest) := digits r; (d :: ds, rest)
    | none => ([], s :: r)

/-- The faults of taking and of passing over a number that goes on with `s` where a digit must
stand. -/
def missingDigit (s : List Symbol) : Fault × Fault :=
  if s.isEmpty then (.truncated, .malformed) else (.malformed, .malformed)

/-- A piece of the text of type `α` that has been read, with what is left of it, or the faults of
taking and of passing over it. -/
abbrev Piece (α : Type) := Except (Fault × Fault) (α × List Symbol)

/-- Reads the exponent of a number, if it has one. -/
def exponent : List Symbol → Piece (Option (Bool × List Nat))
  | .char e :: r =>
    if e = 'e' ∨ e = 'E' then
      let (negative, r) := match r with
        | .char '+' :: r => (false, r)
        | .char '-' :: r => (true, r)
        | r => (false, r)
      match digits r with
      | ([], r) => .error (missingDigit r)
      | (ds, r) => .ok (some (negative, ds), r)
    else .ok (none, .char e :: r)
  | r => .ok (none, r)

/-- Reads a number behind its sign, which `negative` tells. A zero is followed by no other digit. -/
def unsignedNumber (negative : Bool) (s : List Symbol) :
    Except (Fault × Fault) (Number.Token × List Symbol) := do
  let (whole, r) ← match digits s with
    | ([], r) => .error (missingDigit r)
    | ([0], r) => .ok ([0], r)
    | (0 :: _, _) => .error (.malformed, .malformed)
    | (ds, r) => .ok (ds, r)
  let (hasPoint, fraction, r) ← match r with
    | .char '.' :: r =>
      match digits r with
      | ([], r) => .error (missingDigit r)
      | (ds, r) => .ok (true, ds, r)
    | r => .ok (false, [], r)
  let (exponent, r) ← exponent r
  return (⟨negative, whole, fraction, exponent, hasPoint⟩, r)

/-! ### Strings -/

/-- What the taker of a string knows at one place of it. Passing over the string needs none of
it. -/
inductive Gathering where
  /-- The characters so far, last first; the first half of a surrogate pair that still wants its
  second; and whether there was ill-formed UTF-8. -/
  | going (chars : List Char) (half : Option Nat) (stray : Bool)
  /-- The string cannot be taken. -/
  | failed (fault : Fault)

namespace Gathering

/-- Nothing yet. -/
def start : Gathering := .going [] none false

/-- A character follows. -/
def push (c : Char) : Gathering → Gathering
  | .going cs none stray => .going (c :: cs) none stray
  | .going _ (some _) _ => .failed .malformed
  | g => g

/-- Ill-formed UTF-8 follows. -/
def pushStray : Gathering → Gathering
  | .going cs none _ => .going cs none true
  | .going _ (some _) _ => .failed .malformed
  | g => g

/-- A unit given by its four hexadecimal digits follows. -/
def pushUnit (n : Nat) : Gathering → Gathering
  | .going cs none stray =>
    -- The second half of a pair cannot come without the first.
    if 0xDC00 ≤ n ∧ n ≤ 0xDFFF then .failed .malformed
    else if 0xD800 ≤ n ∧ n ≤ 0xDBFF then .going cs (some n) stray
    else .going (Char.ofNat n :: cs) none stray
  | .going cs (some h) stray =>
    if 0xDC00 ≤ n ∧ n ≤ 0xDFFF then
      .going (Char.ofNat (0x10000 + (h - 0xD800) * 0x400 + (n - 0xDC00)) :: cs) none stray
    else .failed .malformed
  | g => g

/-- The fault of taking the string if the text breaks off here. -/
def breakOff (f : Fault) : Gathering → Fault
  | .going _ _ _ => f
  | .failed g => g

/-- The string, at its closing quote. -/
def close : Gathering → Except Fault String
  | .going cs none false => .ok (String.ofList cs.reverse)
  -- A first half is still open, or bytes were stray.
  | .going _ _ _ => .error .malformed
  | .failed f => .error f

end Gathering

/-- The character that a letter stands for behind a backslash. -/
def shortEscape? (c : Char) : Option Char :=
  if c = '"' ∨ c = '\\' ∨ c = '/' then some c
  else if c = 'b' then some (Char.ofNat 0x8)
  else if c = 'f' then some (Char.ofNat 0xC)
  else if c = 'n' then some '\n'
  else if c = 'r' then some '\r'
  else if c = 't' then some '\t'
  else none

/-- Whether fewer than four bytes are left, so that four digits cannot follow. -/
def isShort (s : List Symbol) : Bool :=
  (s.take 4).foldl (fun n c => n + c.byteLength) 0 < 4

/-- The number of four hexadecimal digits. -/
def unit? (a b c d : Symbol) : Option Nat := do
  let digit (s : Symbol) : Option Nat := s.char?.bind Text.hexValue?
  return (← digit a) * 4096 + (← digit b) * 256 + (← digit c) * 16 + (← digit d)

/-- Reads a string behind its opening quote, and gives it with what is behind its closing quote. `g`
is what has been gathered of it. -/
def stringBody (g : Gathering) : List Symbol → Piece (Except Fault String)
  | [] => .error (g.breakOff .truncated, .truncated)
  | .stray _ :: r => stringBody g.pushStray r
  | .char '"' :: r => .ok (g.close, r)
  | .char '\\' :: [] => .error (g.breakOff .truncated, .truncated)
  | .char '\\' :: .char 'u' :: r =>
    -- That too little is left is found before any of the digits is looked at.
    if isShort r then .error (g.breakOff .truncated, .truncated)
    else match r with
      | a :: b :: c :: d :: r =>
        match unit? a b c d with
        | some n => stringBody (g.pushUnit n) r
        | none => .error (g.breakOff .malformed, .malformed)
      | _ => .error (g.breakOff .malformed, .malformed)
  | .char '\\' :: e :: r =>
    match e.char?.bind shortEscape? with
    | some c => stringBody (g.push c) r
    | none => .error (g.breakOff .malformed, .malformed)
  | .char c :: r =>
    if c.toNat < 0x20 then .error (g.breakOff .malformed, .malformed)
    else stringBody (g.push c) r

/-! ### Values -/

/-- What has been read, of type `α`, and what is left of the text unless it broke off. -/
abbrev Progress (α : Type) := α × Option (List Symbol)

/-- A node that cannot be read further. -/
def stop (f : Fault × Fault) : Progress Node :=
  (.broken f.1 f.2, none)

/-- A literal as a node. -/
def word (letters : List Char) (node : Node) (s : List Symbol) : Progress Node :=
  match literal letters s with
  | .ok r => (node, some r)
  | .error f => stop (f, f)

/-- A number as a node. -/
def number (negative : Bool) (s : List Symbol) : Progress Node :=
  match unsignedNumber negative s with
  | .ok (t, r) => (.number (Number.ofToken t), some r)
  | .error f => stop f

/-- The ending and the rest of a text in which neither a comma nor the bracket follows. -/
def unfinished (s : List Symbol) : Ending :=
  if s.isEmpty then .broken .truncated .truncated else .broken .malformed .malformed

mutual

/-- Reads a value. The first argument bounds the depth of the recursion; `document` gives enough of
it. -/
def value : Nat → List Symbol → Progress Node
  | 0, _ => stop (.truncated, .truncated)
  | fuel + 1, s =>
    match skipBlank s with
    | [] => stop (.truncated, .truncated)
    | .stray _ :: _ => stop (.malformed, .malformed)
    | .char c :: r =>
      if c = '\x7b' then
        match skipBlank r with
        | .char '\x7d' :: r => (.object [] .closed, some r)
        | _ =>
          let ((members, ending), rest) := members fuel r
          (.object members ending, rest)
      else if c = '[' then
        match skipBlank r with
        | .char ']' :: r => (.array [] .closed, some r)
        | [] => (.array [] (.broken .truncated .truncated), none)
        | _ =>
          let ((items, ending), rest) := items fuel r
          (.array items ending, rest)
      else if c = '"' then
        match stringBody .start r with
        | .ok (content, r) => (.text content, some r)
        | .error f => stop f
      else if c = 'n' then word ['u', 'l', 'l'] .null r
      else if c = 't' then word ['r', 'u', 'e'] (.boolean true) r
      else if c = 'f' then word ['a', 'l', 's', 'e'] (.boolean false) r
      else if c = '-' then number true r
      else if Text.isDigit c then number false (.char c :: r)
      else stop (.malformed, .malformed)

/-- Reads the items of an array, of which at least one must follow. -/
def items : Nat → List Symbol → Progress (List Node × Ending)
  | 0, _ => (([], .broken .truncated .truncated), none)
  | fuel + 1, s =>
    match value fuel s with
    | (v, none) => (([v], .broken .truncated .truncated), none)
    | (v, some r) =>
      match skipBlank r with
      | .char ',' :: r =>
        let ((vs, ending), rest) := items fuel r
        ((v :: vs, ending), rest)
      | .char ']' :: r => (([v], .closed), some r)
      | r => (([v], unfinished r), none)

/-- Reads the members of an object, of which at least one must follow. -/
def members : Nat → List Symbol → Progress (List (Except Fault String × Node) × Ending)
  | 0, _ => (([], .broken .truncated .truncated), none)
  | fuel + 1, s =>
    match skipBlank s with
    | .char '"' :: r =>
      match stringBody .start r with
      | .error (taken, passed) => (([], .broken taken passed), none)
      | .ok (key, r) =>
        match skipBlank r with
        | .char ':' :: r =>
          match value fuel r with
          | (v, none) => (([(key, v)], .broken .truncated .truncated), none)
          | (v, some r) =>
            match skipBlank r with
            | .char ',' :: r =>
              let ((vs, ending), rest) := members fuel r
              (((key, v) :: vs, ending), rest)
            | .char '\x7d' :: r => (([(key, v)], .closed), some r)
            | r => (([(key, v)], unfinished r), none)
        | [] => (([(key, .broken .truncated .truncated)], .broken .truncated .truncated), none)
        | _ => (([(key, .broken .malformed .malformed)], .broken .malformed .malformed), none)
    | r => (([], unfinished r), none)

end

/-! ### Documents -/

/-- A whole text: its value, and whether something follows it. -/
structure Document where
  /-- The value at the start of the text. -/
  root : Node
  /-- Whether nothing but blanks follows the value. -/
  ended : Bool

/-- Reads a whole text. Every call of the reader but one in two takes a symbol off the text, so
twice its length is enough. -/
def document (s : List Symbol) : Document :=
  match value (2 * s.length + 2) s with
  | (root, some r) => ⟨root, (skipBlank r).isEmpty⟩
  -- A text that broke off is at fault itself, so what follows does not matter.
  | (root, none) => ⟨root, true⟩

end FleetAgent.Json.Reader
