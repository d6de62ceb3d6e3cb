/-!
# Bounded decimal numbers

`readUnsigned max` reads the decimal digits of a number up to `max`; one plus sign may stand
in front, and leading zeros are allowed. Of two faults the one further left is reported. A text
is read if and only if it `Spells` a number up to `max`.
-/

namespace DeviceManagement.Text

/-- Why a text is no decimal number within its bound. -/
inductive UnsignedFault where
  | empty
  | invalidDigit
  | tooLarge
  deriving DecidableEq, Repr

/-- The wording of a fault. -/
def UnsignedFault.message : UnsignedFault → String
  | .empty => "cannot parse integer from empty string"
  | .invalidDigit => "invalid digit found in string"
  | .tooLarge => "number too large to fit in target type"

/-- The value of a decimal digit. -/
def digit? (c : Char) : Option Nat :=
  if c.isDigit then some (c.toNat - '0'.toNat) else none

/-- The number that the digits read so far, `value`, and the remaining ones make. -/
def readDigits (max : Nat) (value : Nat) : List Char → Except UnsignedFault Nat
  | [] => .ok value
  | c :: r =>
    match digit? c with
    | none => .error .invalidDigit
    | some d => if value * 10 + d ≤ max then readDigits max (value * 10 + d) r else .error .tooLarge

/-- The number up to `max` that a text stands for. -/
def readUnsigned (max : Nat) : List Char → Except UnsignedFault Nat
  | [] => .error .empty
  | '+' :: c :: r => readDigits max 0 (c :: r)
  | c :: r => readDigits max 0 (c :: r)

/-- A text spells a number by its decimal digits, with at most one plus sign in front. -/
def Spells (text : List Char) (n : Nat) : Prop :=
  ∃ digits, (text = digits ∨ text = '+' :: digits) ∧ digits ≠ [] ∧ (∀ c ∈ digits, c.isDigit) ∧
    Nat.ofDigitChars 10 digits 0 = n

/-- More digits do not make a number smaller. -/
theorem le_ofDigitChars (digits : List Char) (value : Nat) :
  value ≤ Nat.ofDigitChars 10 digits value
  := by
  induction digits generalizing value with
  | nil => apply Nat.le_refl
  | cons c digits ih =>
      rw [Nat.ofDigitChars_cons]
      apply Nat.le_trans _ (ih _)
      omega

/-- Digits behind a number make the number with these digits, unless it is beyond the bound. -/
theorem readDigits_eq_ok_iff {max value n : Nat} (h : value ≤ max) (digits : List Char) :
  readDigits max value digits = .ok n
    ↔ (∀ c ∈ digits, c.isDigit) ∧ Nat.ofDigitChars 10 digits value = n ∧ n ≤ max
  := by
  induction digits generalizing value with
  | nil =>
      rw [readDigits, Nat.ofDigitChars_nil, Except.ok.injEq]
      constructor
      · rintro rfl
        exact ⟨fun _ => nofun, rfl, h⟩
      · rintro ⟨-, rfl, -⟩
        rfl
  | cons c digits ih =>
      rw [readDigits, List.forall_mem_cons, Nat.ofDigitChars_cons, Nat.mul_comm 10 value, digit?]
      cases hdigit : c.isDigit with
      | false => simp
      | true =>
          by_cases hbound : value * 10 + (c.toNat - '0'.toNat) ≤ max
          · simp only [if_true, if_pos hbound, ih hbound, true_and]
          · have hgrows := le_ofDigitChars digits (value * 10 + (c.toNat - '0'.toNat))
            simp only [if_true, if_neg hbound, true_and]
            constructor
            · rintro ⟨⟩
            · rintro ⟨-, rfl, hle⟩
              exact absurd (Nat.le_trans hgrows hle) hbound

/-- Without a plus sign in front, a text consists of the digits. -/
theorem spells_cons_iff_of_ne {c : Char} (h : c ≠ '+') {rest : List Char} {n : Nat} :
  Spells (c :: rest) n
    ↔ (∀ d ∈ c :: rest, d.isDigit) ∧ Nat.ofDigitChars 10 (c :: rest) 0 = n
  := by
  constructor
  · rintro ⟨digits, rfl | htext, -, hdigits, hvalue⟩
    · exact ⟨hdigits, hvalue⟩
    · cases htext
      exact absurd rfl h
  · rintro ⟨hdigits, hvalue⟩
    exact ⟨c :: rest, .inl rfl, List.cons_ne_nil c rest, hdigits, hvalue⟩

/-- Behind a plus sign stand the digits. -/
theorem spells_plus_iff {rest : List Char} {n : Nat} :
  Spells ('+' :: rest) n
    ↔ rest ≠ [] ∧ (∀ d ∈ rest, d.isDigit) ∧ Nat.ofDigitChars 10 rest 0 = n
  := by
  constructor
  · rintro ⟨digits, rfl | htext, hne, hdigits, hvalue⟩
    · exact absurd (hdigits '+' List.mem_cons_self) (by decide)
    · cases htext
      exact ⟨hne, hdigits, hvalue⟩
  · rintro ⟨hne, hdigits, hvalue⟩
    exact ⟨rest, .inr rfl, hne, hdigits, hvalue⟩

/-- A text is read as the number it spells, unless that is beyond the bound. -/
theorem readUnsigned_eq_ok_iff {max n : Nat} {text : List Char} :
  readUnsigned max text = .ok n ↔ Spells text n ∧ n ≤ max
  := by
  fun_cases readUnsigned max text with
  | case1 =>
      constructor
      · rintro ⟨⟩
      · rintro ⟨⟨digits, rfl | htext, hne, -⟩, -⟩
        · exact absurd rfl hne
        · cases htext
  | case2 c rest =>
      rw [readDigits_eq_ok_iff (Nat.zero_le max), spells_plus_iff, and_assoc, and_assoc]
      simp
  | case3 c rest hplus =>
      rw [readDigits_eq_ok_iff (Nat.zero_le max)]
      by_cases hc : c = '+'
      · -- A plus sign alone is no digit, and no digit follows it.
        subst hc
        cases rest with
        | nil =>
            rw [spells_plus_iff]
            simp
        | cons d rest => exact absurd rfl (hplus d rest rfl)
      · rw [spells_cons_iff_of_ne hc, and_assoc]

/-- The decimal form of a number spells it. -/
theorem spells_repr (n : Nat) :
  Spells n.repr.toList n
  := by
  rw [Nat.toList_repr]
  refine ⟨Nat.toDigits 10 n, .inl rfl, Nat.toDigits_ne_nil, ?_, Nat.ofDigitChars_ten_toDigits⟩
  intro c hc
  apply Nat.isDigit_of_mem_toDigits _ _ hc
  · decide
  · decide

/-- What spells a number has no characters but digits and a plus sign. -/
theorem Spells.isDigit_or_eq {text : List Char} {n : Nat} (h : Spells text n) {c : Char}
    (hc : c ∈ text) :
  c.isDigit ∨ c = '+'
  := by
  obtain ⟨digits, rfl | rfl, -, hdigits, -⟩ := h
  · exact .inl (hdigits c hc)
  · rcases List.mem_cons.mp hc with rfl | hc
    · exact .inr rfl
    · exact .inl (hdigits c hc)

end DeviceManagement.Text
