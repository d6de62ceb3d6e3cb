/-!
# UTF-8

`ofUtf8` reads bytes as a text. Bytes that are no text are refused with the place where the
first ill-formed sequence starts: it is cut off by the end, or its first bytes up to a given
number begin no character.
-/

namespace DeviceManagement.Text

/-- Why bytes are no text: the sequence that starts at `index` is cut off, or its first
`length` bytes begin no character. -/
inductive Utf8Fault where
  | incomplete (index : Nat)
  | invalid (length index : Nat)
  deriving DecidableEq, Repr

/-- The wording of a fault. -/
def Utf8Fault.message : Utf8Fault → String
  | incomplete index => "incomplete utf-8 byte sequence from index " ++ index.repr
  | invalid length index =>
    "invalid utf-8 sequence of " ++ length.repr ++ " bytes from index " ++ index.repr

/-- The bytes that may continue a sequence. -/
def continuation : UInt8 × UInt8 := (0x80, 0xBF)

/-- The ranges of the bytes that follow a given first byte of a sequence. -/
def followers? (first : UInt8) : Option (List (UInt8 × UInt8)) :=
  if first < 0x80 then some []
  else if first < 0xC2 then none
  else if first < 0xE0 then some [continuation]
  else if first = 0xE0 then some [(0xA0, 0xBF), continuation]
  else if first = 0xED then some [(0x80, 0x9F), continuation]
  else if first < 0xF0 then some [continuation, continuation]
  else if first = 0xF0 then some [(0x90, 0xBF), continuation, continuation]
  else if first < 0xF4 then some [continuation, continuation, continuation]
  else if first = 0xF4 then some [(0x80, 0x8F), continuation, continuation]
  else none

/-- The first fault of bytes of which the next has the number `index`, where the sequence
that starts at `start` still lacks bytes in the ranges `missing`. -/
def utf8Fault? (index start : Nat) (missing : List (UInt8 × UInt8)) : List UInt8 → Option Utf8Fault
  | [] => if missing.isEmpty then none else some (.incomplete start)
  | b :: bytes =>
    match missing with
    | [] =>
      match followers? b with
      | none => some (.invalid 1 index)
      | some missing => utf8Fault? (index + 1) index missing bytes
    | (low, high) :: missing =>
      if low ≤ b ∧ b ≤ high then
        utf8Fault? (index + 1) start missing bytes
      else
        some (.invalid (index - start) start)

/-- The bytes of a text. -/
def utf8 (text : String) : List UInt8 :=
  text.toByteArray.data.toList

/-- The text with the given bytes. -/
def ofUtf8 (bytes : List UInt8) : Except Utf8Fault String :=
  match String.fromUTF8? ⟨bytes.toArray⟩ with
  | some text => .ok text
  | none => .error ((utf8Fault? 0 0 [] bytes).getD (.incomplete bytes.length))

/-- The bytes of a text are read back as the text. -/
theorem ofUtf8_utf8 (text : String) :
  ofUtf8 (utf8 text) = .ok text
  := by
  have h : String.fromUTF8? ⟨(utf8 text).toArray⟩ = some text := by
    simp [utf8, String.fromUTF8?, text.isValidUTF8, String.fromUTF8]
  simp [ofUtf8, h]

end DeviceManagement.Text
