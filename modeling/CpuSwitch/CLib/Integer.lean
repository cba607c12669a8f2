import CpuSwitch.CLib.Text
import Mathlib.Algebra.Order.Ring.Rat

/-! Integer conversions of the C library on an LP64 machine. -/

instance CLib.linearOrderUInt64 : LinearOrder UInt64 where
  le_refl := UInt64.le_refl
  le_trans _ _ _ := UInt64.le_trans
  le_antisymm _ _ := UInt64.le_antisymm
  lt_iff_le_not_ge a b := by
    simp only [UInt64.lt_iff_toNat_lt, UInt64.le_iff_toNat_le]
    omega
  le_total := UInt64.le_total
  toDecidableLE := inferInstance
  toDecidableLT := inferInstance
  toDecidableEq := inferInstance

namespace CLib

/-- The outcome of a conversion: its value, the first byte not consumed, and `ERANGE`. -/
structure Conversion (α : Type) where
  value : α
  rest : Text
  rangeError : Bool
  deriving DecidableEq

/-- An optional sign; the flag tells a minus. -/
def takeSign : Text → Bool × Text
  | '-' :: rest => (true, rest)
  | '+' :: rest => (false, rest)
  | rest => (false, rest)

/-- White space, a sign and at least one decimal digit: sign, magnitude and what follows. -/
def scanInteger (text : Text) : Option (Bool × ℕ × Text) :=
  let (negative, rest) := takeSign (skipSpace text)
  match rest.takeWhile Char.isDigit with
  | [] => none
  | digits => some (negative, Nat.ofDigitChars 10 digits 0, rest.dropWhile Char.isDigit)

/-- `strtol(text, &end, 10)`; `none` stands for `end == text`. -/
def strtol (text : Text) : Option (Conversion ℤ) :=
  (scanInteger text).map fun (negative, magnitude, rest) =>
    if negative then
      if 2 ^ 63 < magnitude then ⟨-2 ^ 63, rest, true⟩ else ⟨-magnitude, rest, false⟩
    else if 2 ^ 63 ≤ magnitude then ⟨2 ^ 63 - 1, rest, true⟩ else ⟨magnitude, rest, false⟩

/-- `strtoull(text, &end, 10)`: a minus wraps around, an overflow saturates. -/
def strtoull (text : Text) : Option (Conversion UInt64) :=
  (scanInteger text).map fun (negative, magnitude, rest) =>
    if 2 ^ 64 ≤ magnitude then ⟨UInt64.ofNat (2 ^ 64 - 1), rest, true⟩
    else if negative then ⟨-UInt64.ofNat magnitude, rest, false⟩
    else ⟨UInt64.ofNat magnitude, rest, false⟩

/-- The conversion `%llu` of the `scanf` family, which ignores `ERANGE`. -/
def scanLlu (text : Text) : Option (UInt64 × Text) :=
  (strtoull text).map fun conversion => (conversion.value, conversion.rest)

/-- The conversion `%llu` of the `printf` family. -/
def formatLlu (value : UInt64) : Text := Nat.toDigits 10 value.toNat

/-- The text does not go on with a byte of the given class. -/
def Stops (p : Char → Bool) (rest : Text) : Prop := ∀ c ∈ rest.head?, p c = false

section Scan
variable {p : Char → Bool} {front digits rest text : Text} {c : Char}

theorem stops_nil : Stops p [] := by simp [Stops]

theorem stops_cons : Stops p (c :: rest) ↔ p c = false := by simp [Stops]

theorem dropWhile_of_stops (h : Stops p rest) : rest.dropWhile p = rest := by
  cases rest with
  | nil => rfl
  | cons c rest => simp [stops_cons.mp h]

theorem takeWhile_of_stops (h : Stops p rest) : rest.takeWhile p = [] := by
  cases rest with
  | nil => rfl
  | cons c rest => simp [stops_cons.mp h]

/-- A maximal block is taken whole when the text stops after it. -/
theorem takeWhile_block (hf : ∀ c ∈ front, p c = true) (h : Stops p rest) :
    (front ++ rest).takeWhile p = front := by
  rw [List.takeWhile_append_of_pos hf, takeWhile_of_stops h, List.append_nil]

theorem dropWhile_block (hf : ∀ c ∈ front, p c = true) (h : Stops p rest) :
    (front ++ rest).dropWhile p = rest := by
  rw [List.dropWhile_append_of_pos hf, dropWhile_of_stops h]

theorem isDigit_toDigits {n : ℕ} : ∀ c ∈ Nat.toDigits 10 n, c.isDigit = true :=
  fun _ hc => Nat.isDigit_of_mem_toDigits (by decide) (by decide) hc

end Scan

end CLib
