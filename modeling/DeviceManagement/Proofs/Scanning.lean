import DeviceManagement.Proofs.Numerals
import Mathlib.Tactic.Use

/-!
# Scanning printed texts

The printer puts one token right after the other, and `Scanned` is the relation between such a text
and its tokens. It is built up token by token from the end of the text: a string can stand before
anything (`Scanned.append_string`), and a number before anything that does not go on with it
(`Scanned.append_number`). A string is read character by character, as each character has an
escape of its own or stands for itself (`ReadsString.escape`).
-/

namespace DeviceManagement.Json

/-! ### Strings -/

/-- A text is read as a string with the given characters up to its quote, and `rest` follows. -/
def ReadsString (cs chars rest : List Char) : Prop :=
  ∃ pieces, scanPieces cs = some (pieces, rest) ∧ joinPieces pieces = some chars

theorem hexValue?_hexDigit (n : Nat) :
  hexValue? (hexDigit n) = some (n % 16)
  := by
  have hall : ∀ d < 16, hexValue? (Nat.digitChar d) = some d := by decide
  apply hall (n % 16) (Nat.mod_lt n (by decide))

/-- A unit that is no surrogate stands for a character. -/
theorem joinPieces_unit_cons {u : Nat} (h : u < 0xD800) (pieces : List Piece) :
  joinPieces (.unit u :: pieces) = (joinPieces pieces).map (Char.ofNat u :: ·)
  := by
  have hlead : isLead u = false := by
    simp [isLead]
    omega
  have htrail : isTrail u = false := by
    simp [isTrail]
    omega
  rcases pieces with _ | ⟨_ | _, pieces⟩ <;> simp [joinPieces, hlead, htrail]

/-- The characters that are escaped by a letter, with this letter. -/
def lettered : List (Char × Char) :=
  [('"', '"'), ('\\', '\\'), ('\x08', 'b'), ('\x0c', 'f'), ('\n', 'n'), ('\r', 'r'), ('\t', 't')]

theorem escape_of_mem_lettered :
  ∀ entry ∈ lettered,
    escape entry.1 = ['\\', entry.2] ∧ entry.2 ≠ 'u' ∧ unescape? entry.2 = some entry.1
  := by
  decide

namespace ReadsString

theorem quote (rest : List Char) :
  ReadsString ('"' :: rest) [] rest
  := ⟨[], rfl, rfl⟩

variable {cs chars rest : List Char} (h : ReadsString cs chars rest)

include h

theorem letter {e c : Char} (he : e ≠ 'u') (hc : unescape? e = some c) :
  ReadsString ('\\' :: e :: cs) (c :: chars) rest
  := by
  obtain ⟨pieces, hscan, hjoin⟩ := h
  use .char c :: pieces
  constructor
  · rw [scanPieces]
    · simp [hc, hscan]
    · intro _ _ _ _ _ hu
      apply absurd hu he
  · rw [joinPieces, hjoin, Option.map_some]

theorem unit {c : Char} (hc : c.toNat < 0x20) :
  ReadsString ('\\' :: 'u' :: '0' :: '0' :: hexDigit (c.toNat / 16) :: hexDigit c.toNat :: cs)
    (c :: chars) rest
  := by
  obtain ⟨pieces, hscan, hjoin⟩ := h
  have hzero : hexValue? '0' = some 0 := by decide
  have hvalue : c.toNat / 16 % 16 * 16 + c.toNat % 16 = c.toNat := by omega
  use .unit c.toNat :: pieces
  constructor
  · simp [scanPieces, hzero, hexValue?_hexDigit, hscan, hvalue]
  · rw [joinPieces_unit_cons (by omega), hjoin, Option.map_some, Char.ofNat_toNat]

theorem char {c : Char} (hc : 0x20 ≤ c.toNat) (hquote : c ≠ '"') (hbackslash : c ≠ '\\') :
  ReadsString (c :: cs) (c :: chars) rest
  := by
  obtain ⟨pieces, hscan, hjoin⟩ := h
  use .char c :: pieces
  constructor
  · simp [scanPieces, hbackslash, hc, hscan]
  · rw [joinPieces, hjoin, Option.map_some]

/-- What is printed for a character is read as this character. -/
theorem escape (c : Char) :
  ReadsString (escape c ++ cs) (c :: chars) rest
  := by
  by_cases hlettered : c ∈ lettered.map Prod.fst
  · obtain ⟨entry, hentry, rfl⟩ := List.mem_map.mp hlettered
    obtain ⟨hescape, hne, hc⟩ := escape_of_mem_lettered entry hentry
    rw [hescape]
    apply h.letter hne hc
  · have hne : c ≠ '"' ∧ c ≠ '\\' ∧ c ≠ '\x08' ∧ c ≠ '\x0c' ∧ c ≠ '\n' ∧ c ≠ '\r' ∧ c ≠ '\t' := by
      simpa [lettered] using hlettered
    obtain ⟨hquote, hbackslash, hcontrol⟩ := hne
    by_cases hc : c.toNat < 0x20
    · have hescape : Json.escape c
          = ['\\', 'u', '0', '0', hexDigit (c.toNat / 16), hexDigit c.toNat] := by
        simp [Json.escape, hquote, hbackslash, hcontrol, hc]
      rw [hescape]
      apply h.unit hc
    · have hescape : Json.escape c = [c] := by
        simp [Json.escape, hquote, hbackslash, hcontrol, hc]
      rw [hescape]
      apply h.char (Nat.le_of_not_lt hc) hquote hbackslash

end ReadsString

/-- What is printed between the quotes of a string is read as this string. -/
theorem readsString_flatMap_escape (cs rest : List Char) :
  ReadsString (cs.flatMap escape ++ '"' :: rest) cs rest
  := by
  induction cs with
  | nil => apply ReadsString.quote
  | cons c cs ih =>
      rw [List.flatMap_cons, List.append_assoc]
      apply ih.escape

/-! ### Tokens -/

/-- What is printed for a string is scanned as this string. -/
theorem scanToken_printString (s : String) (rest : List Char) :
  scanToken (printString s ++ rest) = some (.string (some s), rest)
  := by
  obtain ⟨pieces, hscan, hjoin⟩ := readsString_flatMap_escape s.toList rest
  rw [printString, List.cons_append, List.append_assoc, scanToken]
  simp [hscan, hjoin]

/-- The characters that white space and the other tokens start with. -/
def otherStarts : List Char :=
  [' ', '\t', '\n', '\r', '\x7b', '\x7d', '[', ']', ',', ':', 'n', 't', 'f', '"']

theorem StartsNumber.notMem {c : Char} (h : StartsNumber c) :
  c ∉ otherStarts
  := by
  have hnone : otherStarts.all fun d => d != '-' && !d.isDigit := rfl
  intro hc
  have hother := List.all_eq_true.mp hnone c hc
  rcases h with rfl | h
  · cases hother
  · simp [h] at hother

theorem scanToken_of_startsNumber
    {c : Char} (h : StartsNumber c) {cs rest : List Char} {form : NumberForm}
    (hscan : scanNumber (c :: cs) = some (form, rest)) :
  scanToken (c :: cs) = some (.number form, rest)
  := by
  have hne := h.notMem
  simp only [otherStarts, List.mem_cons, not_or] at hne
  rw [scanToken]
  · rw [hscan]
    rfl
  all_goals grind

/-! ### Texts -/

/-- A text consists of the given tokens, one right after the other. -/
inductive Scanned : List Char → List Token → Prop
  | nil : Scanned [] []
  | cons
      {c : Char} {cs rest : List Char} {token : Token} {tokens : List Token}
      (visible : isBlank c = false)
      (first : scanToken (c :: (cs ++ rest)) = some (token, rest))
      (more : Scanned rest tokens) :
      Scanned (c :: (cs ++ rest)) (token :: tokens)

namespace Scanned

theorem scanUpTo_eq
    {cs : List Char} {tokens : List Token} (h : Scanned cs tokens)
    {fuel : Nat} (hfuel : cs.length ≤ fuel) :
  scanUpTo fuel cs = some tokens
  := by
  induction h generalizing fuel with
  | nil => cases fuel <;> rfl
  | @cons c cs rest token tokens visible first more ih =>
      rw [List.length_cons, List.length_append] at hfuel
      obtain ⟨fuel, rfl⟩ := Nat.exists_eq_add_of_lt hfuel
      have hmore : scanUpTo (cs.length + rest.length + fuel) rest = some tokens := by
        apply ih
        omega
      simp [scanUpTo, visible, first, hmore]

/-- The scanner takes a text apart into its tokens. -/
theorem scan_eq {cs : List Char} {tokens : List Token} (h : Scanned cs tokens) :
  scan cs = some tokens
  := h.scanUpTo_eq (Nat.le_refl _)

variable {rest : List Char} {tokens : List Token} (h : Scanned rest tokens)

include h

/-- A token of a single character stands before anything. -/
theorem mark
    {c : Char} {token : Token} (visible : isBlank c = false)
    (first : scanToken (c :: rest) = some (token, rest)) :
  Scanned (c :: rest) (token :: tokens)
  := @cons c [] rest token tokens visible first h

theorem append_string (s : String) :
  Scanned (printString s ++ rest) (.string (some s) :: tokens)
  := cons rfl (scanToken_printString s rest) h

/-- The name of a member stands before its colon. -/
theorem append_name (name : String) :
  Scanned (printString name ++ ':' :: rest) (.string (some name) :: .colon :: tokens)
  := (h.mark rfl rfl).append_string name

theorem append_number (n : Number) (hrest : EndsNumber rest) :
  Scanned (printNumber n ++ rest) (.number n.form :: tokens)
  := by
  have hscan := scanNumber_printNumber n hrest
  obtain ⟨c, cs, hcs, hc⟩ := n.wellFormed_numeral.exists_text_eq_cons
  rw [printNumber_eq_text, hcs, List.cons_append] at hscan ⊢
  apply cons _ _ h
  · have hne := hc.notMem
    simp only [otherStarts, List.mem_cons, not_or] at hne
    simp [isBlank, hne]
  · apply scanToken_of_startsNumber hc hscan

end Scanned

end DeviceManagement.Json
