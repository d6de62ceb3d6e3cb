/-!
# Base64

Bytes as letters of the standard alphabet, four letters for three bytes. A last group of one
or two bytes is padded with `=` to four letters, and its unused bits are zero. `decode?`
accepts exactly these canonical texts, and `decode?_encode` says that it reads what `encode`
writes.
-/

namespace DeviceManagement.Text.Base64

/-- The letters for the numbers below 64, in order. -/
def alphabet : List Char :=
  "ABCDEFGHIJKLMNOPQRSTUVWXYZabcdefghijklmnopqrstuvwxyz0123456789+/".toList

/-- The sign that fills up the last group. -/
def padding : Char := '='

/-- The letter for the last six bits of a number. -/
def letter (n : Nat) : Char :=
  alphabet.getD (n % 64) padding

/-- The number that a letter stands for. -/
def value? (c : Char) : Option Nat :=
  alphabet.idxOf? c

/-- The letters for some bytes. -/
def encode : List UInt8 → List Char
  | [] => []
  | [x] =>
    let n := x.toNat * 16
    [letter (n / 64), letter n, padding, padding]
  | [x, y] =>
    let n := (x.toNat * 256 + y.toNat) * 4
    [letter (n / 4096), letter (n / 64), letter n, padding]
  | x :: y :: z :: bytes =>
    let n := (x.toNat * 256 + y.toNat) * 256 + z.toNat
    letter (n / 262144) :: letter (n / 4096) :: letter (n / 64) :: letter n :: encode bytes

/-- The byte that two letters and their padding stand for. -/
def decodeTwo? (a b : Char) : Option (List UInt8) := do
  let n := (← value? a) * 64 + (← value? b)
  if n % 16 = 0 then some [UInt8.ofNat (n / 16)] else none

/-- The bytes that three letters and their padding stand for. -/
def decodeThree? (a b c : Char) : Option (List UInt8) := do
  let n := ((← value? a) * 64 + (← value? b)) * 64 + (← value? c)
  if n % 4 = 0 then some [UInt8.ofNat (n / 1024), UInt8.ofNat (n / 4)] else none

/-- The bytes that four letters stand for. -/
def decodeFour? (a b c d : Char) : Option (List UInt8) := do
  let n := (((← value? a) * 64 + (← value? b)) * 64 + (← value? c)) * 64 + (← value? d)
  return [UInt8.ofNat (n / 65536), UInt8.ofNat (n / 256), UInt8.ofNat n]

/-- The bytes that a text of letters stands for. -/
def decode? : List Char → Option (List UInt8)
  | [] => some []
  | a :: b :: c :: d :: rest =>
    if d = padding then
      if rest = [] then
        if c = padding then decodeTwo? a b else decodeThree? a b c
      else
        none
    else do
      let first ← decodeFour? a b c d
      let bytes ← decode? rest
      return first ++ bytes
  | _ => none

/-! ### Letters and bytes -/

/-- A letter stands for the last six bits of the number it is chosen for. -/
theorem value?_letter (n : Nat) :
  value? (letter n) = some (n % 64)
  := by
  have h : ∀ m < 64, value? (alphabet.getD m padding) = some m := by decide +kernel
  exact h (n % 64) (Nat.mod_lt n (by decide))

/-- The padding is no letter. -/
theorem letter_ne_padding (n : Nat) :
  letter n ≠ padding
  := by
  intro h
  have hv := value?_letter n
  rw [h, show value? padding = none by decide +kernel] at hv
  exact absurd hv (by simp)

/-- Two letters for twelve bits, of which the last four are zero, stand for a byte. -/
theorem decodeTwo?_letters {n : Nat} (h : n < 64 * 64) (hn : n % 16 = 0) :
  decodeTwo? (letter (n / 64)) (letter n) = some [UInt8.ofNat (n / 16)]
  := by
  have hs : n / 64 % 64 * 64 + n % 64 = n := by omega
  simp only [decodeTwo?, value?_letter, Option.bind_eq_bind, Option.bind_some, hs, hn, if_true]

/-- Three letters for 18 bits, of which the last two are zero, stand for two bytes. -/
theorem decodeThree?_letters {n : Nat} (h : n < 64 * 64 * 64) (hn : n % 4 = 0) :
  decodeThree? (letter (n / 4096)) (letter (n / 64)) (letter n)
    = some [UInt8.ofNat (n / 1024), UInt8.ofNat (n / 4)]
  := by
  have hs : (n / 4096 % 64 * 64 + n / 64 % 64) * 64 + n % 64 = n := by omega
  simp only [decodeThree?, value?_letter, Option.bind_eq_bind, Option.bind_some, hs, hn, if_true]

/-- Four letters for 24 bits stand for three bytes. -/
theorem decodeFour?_letters {n : Nat} (h : n < 64 * 64 * 64 * 64) :
  decodeFour? (letter (n / 262144)) (letter (n / 4096)) (letter (n / 64)) (letter n)
    = some [UInt8.ofNat (n / 65536), UInt8.ofNat (n / 256), UInt8.ofNat n]
  := by
  have hs : ((n / 262144 % 64 * 64 + n / 4096 % 64) * 64 + n / 64 % 64) * 64 + n % 64 = n := by
    omega
  simp only [decodeFour?, value?_letter, Option.bind_eq_bind, Option.bind_some, hs]
  rfl

/-- A byte is determined by its number up to multiples of 256. -/
theorem byte_eq_of_mod {x : UInt8} {n : Nat} (h : n % 256 = x.toNat) :
  UInt8.ofNat n = x
  := by
  apply UInt8.toNat_inj.mp
  simpa using h

/-- The letters for some bytes stand for these bytes. -/
theorem decode?_encode (bytes : List UInt8) :
  decode? (encode bytes) = some bytes
  := by
  fun_induction encode bytes with
  | case1 => rfl
  | case2 x n =>
    have hx := x.toNat_lt
    have h : UInt8.ofNat (n / 16) = x := byte_eq_of_mod (by omega)
    simp only [decode?, if_true, decodeTwo?_letters (n := n) (by omega) (by omega), h]
  | case3 x y n =>
    have hx := x.toNat_lt
    have hy := y.toNat_lt
    have h₁ : UInt8.ofNat (n / 1024) = x := byte_eq_of_mod (by omega)
    have h₂ : UInt8.ofNat (n / 4) = y := byte_eq_of_mod (by omega)
    simp only [decode?, if_true, letter_ne_padding, if_false,
      decodeThree?_letters (n := n) (by omega) (by omega), h₁, h₂]
  | case4 x y z bytes n ih =>
    have hx := x.toNat_lt
    have hy := y.toNat_lt
    have hz := z.toNat_lt
    have h₁ : UInt8.ofNat (n / 65536) = x := byte_eq_of_mod (by omega)
    have h₂ : UInt8.ofNat (n / 256) = y := byte_eq_of_mod (by omega)
    have h₃ : UInt8.ofNat n = z := byte_eq_of_mod (by omega)
    simp only [decode?, letter_ne_padding, if_false, decodeFour?_letters (n := n) (by omega),
      ih, h₁, h₂, h₃, Option.bind_eq_bind, Option.bind_some]
    rfl

end DeviceManagement.Text.Base64
