import DeviceManagement.Json.Form
import DeviceManagement.Json.Printer
import DeviceManagement.Text.Cut
import Mathlib.Data.List.Basic

/-!
# Numerals

A `Numeral` has the parts that a number is printed with. Every number is printed as the text of its
numeral (`printNumber_eq_text`), and where no more of a number follows, the scanner takes the text
of a numeral apart into these parts again (`scanNumber_text`). That it can is a property of the
digits: there are some before the point and after it, and a zero in front stands alone.
-/

namespace DeviceManagement

/-! ### Shortest decimals of zero -/

namespace Decimal

/-- Leaving out trailing zeros leaves something of a number that is not zero. -/
theorem Scientific.digits_trim_ne_zero {s : Scientific} (h : s.digits ≠ 0) (fuel : Nat) :
  (trim fuel s).digits ≠ 0
  := by
  fun_induction trim fuel s with
  | case1 s => exact h
  | case2 fuel s htrailing ih =>
      apply ih
      show s.digits / 10 ≠ 0
      omega
  | case3 fuel s htrailing => exact h

theorem Scientific.trim_zero (fuel : Nat) :
  trim fuel ⟨0, 0⟩ = ⟨0, 0⟩
  := by
  cases fuel with
  | zero => rfl
  | succ fuel => simp [trim]

namespace Double

/-- Zero does not read back as any other double. -/
theorem readsBack_zero {d : Double} {ulp : Nat} (hd : d.significand ≠ 0) (hulp : 0 < ulp) :
  d.readsBack (d.significand * ulp) ulp 0 = false
  := by
  have hle : ulp ≤ d.significand * ulp := Nat.le_mul_of_pos_left ulp (Nat.pos_of_ne_zero hd)
  unfold readsBack
  grind

theorem digits_ne_zero_of_onGrid? {d : Double} {exponent : Int} {s : Scientific}
    (hd : d.significand ≠ 0) (h : d.onGrid? exponent = some s) :
  s.digits ≠ 0
  := by
  revert h
  fun_cases onGrid? d exponent with
  | case1 num den hratio n unit hscale ulp below rest belowFits aboveFits belowNearer hfits =>
      rintro ⟨⟩
      intro (hbelow : below = 0)
      have hn : n = d.significand * ulp := by
        cases hratio
        cases hscale
        apply Nat.mul_assoc
      have hulp : 0 < ulp := Nat.mul_pos (Nat.pow_pos (by decide)) (Nat.pow_pos (by decide))
      -- The neighbour below is zero only if zero reads back as the double, which it does not.
      have hnever : belowFits = false := by
        change d.readsBack n ulp (4 * (below * unit)) = false
        rw [hbelow, hn, Nat.zero_mul]
        apply readsBack_zero hd hulp
      rw [hnever] at hfits
      cases hfits
  | case2 =>
      rintro ⟨⟩
      apply Nat.succ_ne_zero
  | case3 => rintro ⟨⟩

theorem shortestFrom_eq_zero_or {d : Double} (hd : d.significand ≠ 0) (leading : Int)
    (digits more : Nat) :
  d.shortestFrom leading digits more = ⟨0, 0⟩ ∨ (d.shortestFrom leading digits more).digits ≠ 0
  := by
  fun_induction shortestFrom d leading digits more with
  | case1 digits =>
      cases h : d.onGrid? (leading - digits + 1) with
      | none => exact .inl rfl
      | some s => exact .inr (digits_ne_zero_of_onGrid? hd h)
  | case2 digits more s h => exact .inr (digits_ne_zero_of_onGrid? hd h)
  | case3 digits more h ih => exact ih

/-- Of all decimals without digits only zero is a shortest one. -/
theorem exponent_shortest {d : Double} (h : d.shortest.digits = 0) :
  d.shortest.exponent = 0
  := by
  unfold shortest at h ⊢
  split
  · rfl
  · next hd =>
      rw [if_neg hd] at h
      have hd : d.significand ≠ 0 := by simpa [isZero] using hd
      dsimp only at h ⊢
      rcases shortestFrom_eq_zero_or hd (leadingExponent d.ratio.1 d.ratio.2) 1 16 with hzero | hne
      · rw [hzero, Scientific.trim_zero]
      · exact absurd h (Scientific.digits_trim_ne_zero hne 17)

end Double

end Decimal

namespace Json

/-! ### Digits -/

/-- The values of some digits. -/
def digitValues (cs : List Char) : List Nat :=
  cs.map fun c => c.toNat - '0'.toNat

/-- Some digits, at least one of them. -/
structure IsDigits (cs : List Char) : Prop where
  ne_nil : cs ≠ []
  isDigit : ∀ c ∈ cs, c.isDigit

/-- Digits that can stand before the point: a zero stands alone. -/
structure IsWhole (cs : List Char) : Prop extends IsDigits cs where
  zero_alone : cs.head? = some '0' → cs = ['0']

namespace IsDigits

variable {cs : List Char} (h : IsDigits cs)

include h

theorem append_replicate (k : Nat) :
  IsDigits (cs ++ List.replicate k '0')
  := by
  constructor
  · simp [h.ne_nil]
  · intro c hc
    rcases List.mem_append.mp hc with hc | hc
    · apply h.isDigit c hc
    · rw [List.eq_of_mem_replicate hc]
      rfl

theorem replicate_append (k : Nat) :
  IsDigits (List.replicate k '0' ++ cs)
  := by
  constructor
  · simp [h.ne_nil]
  · intro c hc
    apply (h.append_replicate k).isDigit c
    rw [List.mem_append] at hc ⊢
    apply hc.symm

theorem take (k : Nat) :
  IsDigits (cs.take (k + 1))
  := by
  constructor
  · simp [h.ne_nil]
  · intro c hc
    apply h.isDigit c (List.mem_of_mem_take hc)

theorem drop {k : Nat} (hne : cs.drop k ≠ []) :
  IsDigits (cs.drop k)
  := by
  constructor
  · apply hne
  · intro c hc
    apply h.isDigit c (List.mem_of_mem_drop hc)

end IsDigits

theorem isWhole_zero :
  IsWhole ['0']
  := by
  constructor
  · constructor
    · apply List.cons_ne_nil
    · intro c hc
      rw [List.mem_singleton.mp hc]
      rfl
  · intro
    rfl

theorem isDigits_toDigits (n : Nat) :
  IsDigits (Nat.toDigits 10 n)
  := by
  constructor
  · apply Nat.toDigits_ne_nil
  · intro c hc
    apply Nat.isDigit_of_mem_toDigits _ _ hc <;> decide

theorem head?_toDigits_ne {n : Nat} (h : n ≠ 0) :
  (Nat.toDigits 10 n).head? ≠ some '0'
  := by
  induction n using Nat.strongRecOn with
  | ind n ih =>
      by_cases hn : n < 10
      · have hzero : ∀ d < 10, d.digitChar = '0' → d = 0 := by decide
        rw [Nat.toDigits_of_lt_base hn]
        intro hhead
        apply h (hzero n hn (Option.some.inj hhead))
      · rw [Nat.toDigits_of_base_le (by decide) (by omega),
          List.head?_append_of_ne_nil _ Nat.toDigits_ne_nil]
        apply ih <;> omega

theorem isWhole_toDigits (n : Nat) :
  IsWhole (Nat.toDigits 10 n)
  := by
  refine ⟨isDigits_toDigits n, ?_⟩
  intro hhead
  by_cases hn : n = 0
  · rw [hn, Nat.toDigits_zero]
  · exact absurd hhead (head?_toDigits_ne hn)

/-- The digits of a number stand for it. -/
theorem natural_digitValues (n : Nat) :
  NumberForm.natural (digitValues (Nat.toDigits 10 n)) = n
  := by
  rw [NumberForm.natural, digitValues, List.foldl_map]
  simp only [Nat.mul_comm _ 10]
  apply Nat.ofDigitChars_ten_toDigits

/-- A text that does not start with a digit. -/
def EndsDigits (cs : List Char) : Prop :=
  ∀ c, cs.head? = some c → c.isDigit = false

theorem someDigits_append {cs rest : List Char} (hcs : IsDigits cs) (hrest : EndsDigits rest) :
  someDigits (cs ++ rest) = some (digitValues cs, rest)
  := by
  rw [someDigits, spanDigits, Text.takeWhile_append hcs.isDigit hrest,
    Text.dropWhile_append hcs.isDigit hrest]
  simp [digitValues, hcs.ne_nil]

theorem eq_zero_of_digitValue {c : Char} (h : c.isDigit) (hzero : c.toNat - '0'.toNat = 0) :
  c = '0'
  := by
  have hle : '0'.toNat ≤ c.toNat := by
    simp [Char.isDigit] at h
    exact h.1
  apply Char.toNat_inj.mp
  omega

theorem scanWhole_append {cs rest : List Char} (hcs : IsWhole cs) (hrest : EndsDigits rest) :
  scanWhole (cs ++ rest) = some (digitValues cs, rest)
  := by
  have hzero : ¬ ((digitValues cs).head? = some 0 ∧ digitValues cs ≠ [0]) := by
    rintro ⟨hhead, hne⟩
    obtain ⟨c, cs, rfl⟩ := List.exists_cons_of_ne_nil hcs.ne_nil
    have hc := eq_zero_of_digitValue (hcs.isDigit c List.mem_cons_self) (Option.some.inj hhead)
    subst hc
    apply hne
    rw [hcs.zero_alone rfl]
    rfl
  simp [scanWhole, someDigits_append hcs.toIsDigits hrest, hzero]

/-! ### Numerals -/

/-- The characters that a number can start with. -/
def StartsNumber (c : Char) : Prop :=
  c = '-' ∨ c.isDigit

/-- The parts that a number is printed with. -/
structure Numeral where
  negative : Bool
  whole : List Char
  fraction : Option (List Char)
  exponent : Option Int

namespace Numeral

/-- The fraction as it stands behind the whole. -/
def fractionText : Option (List Char) → List Char
  | some fraction => '.' :: fraction
  | none => []

/-- The exponent as it stands behind the fraction. -/
def exponentText : Option Int → List Char
  | some exponent => printExponent exponent
  | none => []

/-- A numeral as it is printed. -/
def text (n : Numeral) : List Char :=
  (if n.negative then ['-'] else [])
    ++ (n.whole ++ (fractionText n.fraction ++ exponentText n.exponent))

/-- The form of a numeral. -/
def form (n : Numeral) : NumberForm where
  negative := n.negative
  whole := digitValues n.whole
  fraction := n.fraction.map digitValues
  exponent := n.exponent.map fun e => (decide (e < 0), digitValues (Nat.toDigits 10 e.natAbs))

/-- A numeral has digits where a number needs them. -/
structure WellFormed (n : Numeral) : Prop where
  whole : IsWhole n.whole
  fraction : ∀ cs ∈ n.fraction, IsDigits cs

/-- A number starts with a minus sign or with a digit. -/
theorem WellFormed.exists_text_eq_cons {n : Numeral} (h : n.WellFormed) :
  ∃ c cs, n.text = c :: cs ∧ StartsNumber c
  := by
  rw [text]
  split
  · use '-', n.whole ++ (fractionText n.fraction ++ exponentText n.exponent), rfl
    apply Or.inl rfl
  · obtain ⟨c, cs, hwhole⟩ := List.exists_cons_of_ne_nil h.whole.ne_nil
    rw [hwhole]
    use c, cs ++ (fractionText n.fraction ++ exponentText n.exponent), rfl
    apply Or.inr (h.whole.isDigit c _)
    rw [hwhole]
    apply List.mem_cons_self

end Numeral

/-- A text that does not go on with a number. -/
def EndsNumber (cs : List Char) : Prop :=
  ∀ c, cs.head? = some c → c.isDigit = false ∧ c ≠ '.' ∧ c ≠ 'e' ∧ c ≠ 'E'

theorem endsNumber_nil :
  EndsNumber []
  := nofun

/-- A number ends before a comma and before a bracket that closes. -/
theorem endsNumber_cons {c : Char} (h : c ∈ [',', ']', '\x7d']) (cs : List Char) :
  EndsNumber (c :: cs)
  := by
  simp only [List.mem_cons, List.not_mem_nil, or_false] at h
  rintro _ ⟨⟩
  rcases h with rfl | rfl | rfl <;> decide

theorem EndsNumber.endsDigits {rest : List Char} (h : EndsNumber rest) :
  EndsDigits rest
  := fun c hc => (h c hc).1

section

variable {rest : List Char} (hrest : EndsNumber rest)

include hrest

theorem scanExponent_append (exponent : Option Int) :
  scanExponent (Numeral.exponentText exponent ++ rest)
    = some (exponent.map fun e => (decide (e < 0), digitValues (Nat.toDigits 10 e.natAbs)), rest)
  := by
  cases exponent with
  | none =>
      cases rest with
      | nil => rfl
      | cons c rest =>
          obtain ⟨-, -, he, hE⟩ := hrest c rfl
          simp [Numeral.exponentText, scanExponent, he, hE]
  | some e =>
      have hdigits := someDigits_append (isDigits_toDigits e.natAbs) hrest.endsDigits
      by_cases he : e < 0
      · simp [Numeral.exponentText, printExponent, scanExponent, he, hdigits]
      · simp [Numeral.exponentText, printExponent, scanExponent, he, hdigits]

theorem head?_exponentText_append
    (exponent : Option Int) {c : Char}
    (hc : (Numeral.exponentText exponent ++ rest).head? = some c) :
  c.isDigit = false ∧ c ≠ '.'
  := by
  cases exponent with
  | none =>
      obtain ⟨hdigit, hpoint, -⟩ := hrest c hc
      exact ⟨hdigit, hpoint⟩
  | some e =>
      cases hc
      decide

theorem endsDigits_fractionText_append (fraction : Option (List Char)) (exponent : Option Int) :
  EndsDigits (Numeral.fractionText fraction ++ (Numeral.exponentText exponent ++ rest))
  := by
  intro c hc
  cases fraction with
  | none => exact (head?_exponentText_append hrest exponent hc).1
  | some fraction =>
      cases hc
      decide

omit hrest in
theorem scanFraction_of_head?_ne {cs : List Char} (h : cs.head? ≠ some '.') :
  scanFraction cs = some (none, cs)
  := by
  fun_cases scanFraction cs with
  | case1 cs => apply absurd rfl h
  | case2 cs => rfl

theorem scanFraction_append {fraction : Option (List Char)}
    (hfraction : ∀ cs ∈ fraction, IsDigits cs) (exponent : Option Int) :
  scanFraction (Numeral.fractionText fraction ++ (Numeral.exponentText exponent ++ rest))
    = some (fraction.map digitValues, Numeral.exponentText exponent ++ rest)
  := by
  cases fraction with
  | none =>
      apply scanFraction_of_head?_ne
      intro hpoint
      apply (head?_exponentText_append hrest exponent hpoint).2 rfl
  | some cs =>
      have hends : EndsDigits (Numeral.exponentText exponent ++ rest) :=
        fun c hc => (head?_exponentText_append hrest exponent hc).1
      simp [Numeral.fractionText, scanFraction, someDigits_append (hfraction cs rfl) hends]

/-- What is printed for a numeral is scanned as its form. -/
theorem scanNumber_text {n : Numeral} (hn : n.WellFormed) :
  scanNumber (n.text ++ rest) = some (n.form, rest)
  := by
  have hwhole := scanWhole_append hn.whole
    (endsDigits_fractionText_append hrest n.fraction n.exponent)
  have hfraction := scanFraction_append hrest hn.fraction n.exponent
  have hexponent := scanExponent_append hrest n.exponent
  have hsign : (n.whole ++ (Numeral.fractionText n.fraction
      ++ (Numeral.exponentText n.exponent ++ rest))).head? ≠ some '-' := by
    rw [List.head?_append_of_ne_nil _ hn.whole.ne_nil]
    intro hc
    apply absurd (hn.whole.isDigit _ (List.mem_of_mem_head? hc))
    decide
  rw [Numeral.text, List.append_assoc, List.append_assoc, List.append_assoc]
  cases hnegative : n.negative with
  | false =>
      rw [if_neg Bool.false_ne_true, List.nil_append]
      simp only [scanNumber, hsign, decide_false, if_false, hwhole, hfraction, hexponent,
        Option.bind_eq_bind, Option.bind_some]
      simp [Numeral.form, hnegative]
  | true => simp [Numeral.form, scanNumber, hnegative, hwhole, hfraction, hexponent]

end

/-! ### The numerals of numbers -/

namespace Numeral

/-- The numeral of an integer. -/
def ofInteger (n : Int) : Numeral where
  negative := n < 0
  whole := Nat.toDigits 10 n.natAbs
  fraction := none
  exponent := none

/-- The numeral with the given digits, the first of them at `leading`. -/
def ofDigits (negative : Bool) (digits : List Char) (leading : Int) : Numeral :=
  if leading < minPositional ∨ maxPositional < leading then
    ⟨negative, digits.take 1, if digits.tail.isEmpty then none else some digits.tail, some leading⟩
  else if leading < 0 then
    ⟨negative, ['0'], some (List.replicate (-leading - 1).toNat '0' ++ digits), none⟩
  else
    let whole := leading.toNat + 1
    let fraction := digits.drop whole
    ⟨negative, digits.take whole ++ List.replicate (whole - digits.length) '0',
      some (if fraction.isEmpty then ['0'] else fraction), none⟩

theorem wellFormed_ofInteger (n : Int) :
  (ofInteger n).WellFormed
  := ⟨isWhole_toDigits n.natAbs, nofun⟩

theorem text_ofInteger (n : Int) :
  (ofInteger n).text = printInteger n
  := by
  simp [text, ofInteger, printInteger, fractionText, exponentText]

theorem text_ofDigits (negative : Bool) {digits : List Char} (h : digits ≠ []) (leading : Int) :
  (ofDigits negative digits leading).text
    = (if negative then ['-'] else []) ++ printDigits digits leading
  := by
  obtain ⟨d, rest, rfl⟩ := List.exists_cons_of_ne_nil h
  rw [text, ofDigits, printDigits]
  split
  · cases rest <;> simp [fractionText, exponentText]
  · split <;> simp [fractionText, exponentText]

theorem wellFormed_ofDigits (negative : Bool) {digits : List Char} {leading : Int}
    (h : IsWhole digits) (hzero : digits.head? = some '0' → leading = 0) :
  (ofDigits negative digits leading).WellFormed
  := by
  have hdigits := h.toIsDigits
  rw [ofDigits]
  split
  · constructor
    · refine ⟨hdigits.take 0, ?_⟩
      intro hhead
      have hhead : digits.head? = some '0' := by
        rwa [List.head?_take, if_neg (Nat.succ_ne_zero 0)] at hhead
      dsimp only
      rw [h.zero_alone hhead]
      rfl
    · intro cs hcs
      split at hcs
      · cases hcs
      · next hne =>
          cases hcs
          rw [List.isEmpty_iff, ← List.drop_one] at hne
          rw [← List.drop_one]
          apply hdigits.drop hne
  split
  · constructor
    · apply isWhole_zero
    · rintro _ ⟨⟩
      apply hdigits.replicate_append
  · constructor
    · refine ⟨(hdigits.take _).append_replicate _, ?_⟩
      intro hhead
      have hhead : digits.head? = some '0' := by
        rwa [List.head?_append_of_ne_nil _ (hdigits.take _).ne_nil, List.head?_take,
          if_neg (Nat.succ_ne_zero _)] at hhead
      dsimp only
      rw [hzero hhead, h.zero_alone hhead]
      rfl
    · rintro _ ⟨⟩
      split
      · apply isWhole_zero.toIsDigits
      · next hne =>
          rw [List.isEmpty_iff] at hne
          apply hdigits.drop hne

end Numeral

/-- The numeral of a number. -/
def Number.numeral : Number → Numeral
  | .integer n => .ofInteger n
  | .double d =>
    let digits := Nat.toDigits 10 d.shortest.digits
    .ofDigits d.negative digits (d.shortest.exponent + digits.length - 1)

theorem printNumber_eq_text (n : Number) :
  printNumber n = n.numeral.text
  := by
  cases n with
  | integer n => exact (Numeral.text_ofInteger n).symm
  | double d => exact (Numeral.text_ofDigits d.negative Nat.toDigits_ne_nil _).symm

theorem Number.wellFormed_numeral (n : Number) :
  n.numeral.WellFormed
  := by
  cases n with
  | integer n => apply Numeral.wellFormed_ofInteger
  | double d =>
      apply Numeral.wellFormed_ofDigits
      · apply isWhole_toDigits
      · intro hhead
        have hdigits : d.shortest.digits = 0 := by
          by_contra hne
          apply head?_toDigits_ne hne hhead
        rw [hdigits, Decimal.Double.exponent_shortest hdigits]
        rfl

/-- The form of a number as it is printed. -/
def Number.form (n : Number) : NumberForm :=
  n.numeral.form

/-- What is printed for a number is scanned as its form. -/
theorem scanNumber_printNumber (n : Number) {rest : List Char} (hrest : EndsNumber rest) :
  scanNumber (printNumber n ++ rest) = some (n.form, rest)
  := by
  rw [printNumber_eq_text]
  apply scanNumber_text hrest n.wellFormed_numeral

section

variable {n : Int} (hlow : -Nat.pow 2 63 ≤ n) (hhigh : n < Nat.pow 2 64)

include hlow hhigh

/-- The form of an integer stands for this integer if 64 bits are enough for it, with its sign if it
is negative and without one if it is not. -/
theorem integer?_form :
  (Number.integer n).form.integer? = some n
  := by
  have hnatural : NumberForm.natural (Number.integer n).form.whole = n.natAbs :=
    natural_digitValues n.natAbs
  have hnegative : (Number.integer n).form.negative = decide (n < 0) := rfl
  have hparts : ((Number.integer n).form.fraction.isSome
    || (Number.integer n).form.exponent.isSome) = false := rfl
  have hmin : Nat.pow 2 63 = 9223372036854775808 := rfl
  have hsize : Nat.pow 2 64 = 18446744073709551616 := rfl
  have hmax : maxSignificand = 18446744073709551615 := rfl
  rw [hmin] at hlow
  rw [hsize] at hhigh
  rw [NumberForm.integer?, hparts, hnatural, hnegative, hmin, hmax]
  grind

theorem number?_form :
  (Number.integer n).form.number? = some (.integer n)
  := by
  rw [NumberForm.number?, integer?_form hlow hhigh]

end

end Json

end DeviceManagement
