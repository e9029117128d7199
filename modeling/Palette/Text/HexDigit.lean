/-!
# Hexadecimal digits

Numbers in base sixteen, read from digits in either letter case and written with
digits in lower case.
-/

namespace Palette.Text

/-- The value of a hexadecimal digit. -/
def hexDigit? (character : Char) : Option Nat :=
  if '0' ≤ character ∧ character ≤ '9' then some (character.toNat - '0'.toNat)
  else if 'a' ≤ character ∧ character ≤ 'f' then some (character.toNat - 'a'.toNat + 10)
  else if 'A' ≤ character ∧ character ≤ 'F' then some (character.toNat - 'A'.toNat + 10)
  else none

/-- Whether a character is a hexadecimal digit. -/
def isHexDigit (character : Char) : Bool :=
  (hexDigit? character).isSome

/-- The value of a row of hexadecimal digits. -/
def hexValue (digits : List Char) : Nat :=
  digits.foldl (fun value digit => 16 * value + (hexDigit? digit).getD 0) 0

/-- The lower-case hexadecimal digits of `value`, filled up to `width` with
zeros. -/
def hexDigits (width value : Nat) : List Char :=
  let digits := Nat.toDigits 16 value
  List.replicate (width - digits.length) '0' ++ digits

/-! ## Interface lemmas -/

@[simp] theorem hexValue_nil : hexValue [] = 0 := rfl

/-- A digit as it is written is read back. -/
theorem hexDigit?_digitChar {value : Nat} (hvalue : value < 16) :
    hexDigit? (Nat.digitChar value) = some value := by
  have hall : ∀ digit : Fin 16, hexDigit? (Nat.digitChar digit) = some digit.val := by decide
  exact hall ⟨value, hvalue⟩

/-- The value of a digit is less than sixteen. -/
theorem hexDigit?_lt {character : Char} {value : Nat} (hdigit : hexDigit? character = some value) :
    value < 16 := by
  have hle {low high : Char} (h : low ≤ high) : low.toNat ≤ high.toNat := h
  unfold hexDigit? at hdigit
  split at hdigit
  · rename_i hrange
    have hhigh : character.toNat ≤ 57 := hle hrange.2
    have hzero : '0'.toNat = 48 := rfl
    simp only [Option.some.injEq] at hdigit
    omega
  · split at hdigit
    · rename_i hrange
      have hhigh : character.toNat ≤ 102 := hle hrange.2
      have hletter : 'a'.toNat = 97 := rfl
      simp only [Option.some.injEq] at hdigit
      omega
    · split at hdigit
      · rename_i hrange
        have hhigh : character.toNat ≤ 70 := hle hrange.2
        have hletter : 'A'.toNat = 65 := rfl
        simp only [Option.some.injEq] at hdigit
        omega
      · simp at hdigit

end Palette.Text
