import OverclockBuilder.BashText

namespace CNumber

open RadixText BashText

/-!
# Numbers in C programs

`strtoul` as a program uses it that insists on the end of the argument and on
an unchanged `errno`, and `printf` with `%x` and `%u`.  `unsigned long` has 64
bits.
-/

/-- The first number outside `unsigned long`. -/
def ulongLimit : Nat :=
  2 ^ 64

/-- `isspace` in the C locale. -/
def isSpace (character : Char) : Bool :=
  character = ' ' || decide (9 ≤ character.toNat ∧ character.toNat ≤ 13)

/-- An optional sign, and the text behind it. -/
def sign : Text → Bool × Text
  | '-' :: rest => (true, rest)
  | '+' :: rest => (false, rest)
  | text => (false, text)

/-- The radix `strtoul` selects, and the digits behind the prefix. -/
def radixPrefix (base : Nat) : Text → Nat × Text
  | '0' :: marker :: digit :: rest =>
      if (base = 0 ∨ base = 16) ∧ (marker = 'x' ∨ marker = 'X') ∧
          (digitBelow 16 digit).isSome then
        (16, digit :: rest)
      else
        (if base = 0 then 8 else base, '0' :: marker :: digit :: rest)
  | '0' :: rest =>
      (if base = 0 then 8 else base, '0' :: rest)
  | text =>
      (if base = 0 then 10 else base, text)

/--
`strtoul(argument, &endptr, base)`, where a set `errno` or a nonempty rest at
`endptr` counts as failure.

Without any digit `endptr` stays at the start of the argument.
-/
def strtoul (base : Nat) (argument : Text) : Option Nat :=
  let (negative, body) := sign (argument.dropWhile isSpace)
  let (radix, digits) := radixPrefix base body
  match scanDigits radix 0 digits with
  | (value, []) =>
      if digits = [] then
        if argument = [] then some 0 else none
      else if value < ulongLimit then
        some (if negative then (ulongLimit - value) % ulongLimit else value)
      else
        none
  | (_, _ :: _) =>
      none

/-- `printf("%x")` of a non-negative number -/
def printHex (value : Nat) : Text :=
  Nat.toDigits 16 value

/-- `printf("%u")` -/
def printUnsigned (value : Nat) : Text :=
  Nat.toDigits 10 value

/-! ## Plain digit texts -/

theorem le_toNat_of_isAlphanum
    {character : Char}
    (alphanumeric : character.isAlphanum = true) :
    48 ≤ character.toNat := by
  have spelled :
      character.isAlphanum =
        (decide (character.val ≥ 'A'.val ∧ character.val ≤ 'Z'.val) ||
            (decide (character.val ≥ 'a'.val) &&
              decide (character.val ≤ 'z'.val)) ||
          character.isDigit) := rfl
  simp only [spelled, Char.isDigit, Bool.or_eq_true, Bool.and_eq_true,
    decide_eq_true_eq, UInt32.le_iff_toNat_le, ge_iff_le] at alphanumeric
  change ((65 ≤ character.toNat ∧ character.toNat ≤ 90) ∨
    (97 ≤ character.toNat ∧ character.toNat ≤ 122)) ∨
      (48 ≤ character.toNat ∧ character.toNat ≤ 57) at alphanumeric
  omega

/-- A text of digits carries no blank, no sign and no prefix of its own. -/
theorem strtoul_of_plain
    {base : Nat}
    {argument : Text}
    {radix : Nat}
    (nonempty : argument ≠ [])
    (plain : ∀ digit ∈ argument, digit.isAlphanum = true)
    (selected : radixPrefix base argument = (radix, argument)) :
    strtoul base argument =
      match scanDigits radix 0 argument with
      | (value, []) =>
          if value < ulongLimit then some value else none
      | (_, _ :: _) =>
          none := by
  cases argument with
  | nil =>
      exact (nonempty rfl).elim
  | cons head rest =>
      have high := le_toNat_of_isAlphanum (plain head List.mem_cons_self)
      have notSpace : isSpace head = false := by
        simp only [isSpace, Bool.or_eq_false_iff, decide_eq_false_iff_not]
        refine ⟨?_, by omega⟩
        rintro rfl
        exact absurd high (by decide)
      have unsigned : sign (head :: rest) = (false, head :: rest) := by
        unfold sign
        split
        · rename_i same
          rw [(List.cons.inj same).1] at high
          exact absurd high (by decide)
        · rename_i same
          rw [(List.cons.inj same).1] at high
          exact absurd high (by decide)
        · rfl
      simp [strtoul, notSpace, unsigned, selected]

/-- Printed digits are letters and digits, and never a radix marker. -/
theorem mem_toDigits
    {base value : Nat}
    {digit : Char}
    (atLeastTwo : 1 < base)
    (baseBound : base ≤ 16)
    (member : digit ∈ Nat.toDigits base value) :
    digit.isAlphanum = true ∧ digit ≠ 'x' ∧ digit ≠ 'X' := by
  obtain ⟨number, below, rfl⟩ :=
    exists_digitChar_of_mem_toDigits atLeastTwo member
  have small : number < 16 := by omega
  clear member below
  revert number
  decide

/-- What `%x` prints has no prefix. -/
theorem radixPrefix_printHex (value : Nat) :
    radixPrefix 16 (printHex value) = (16, printHex value) := by
  unfold radixPrefix
  split
  · rename_i marker digit rest same
    have member : marker ∈ Nat.toDigits 16 value := by
      rw [← printHex, same]
      simp
    have unmarked := mem_toDigits (by decide) (by decide) member
    simp [unmarked.2.1, unmarked.2.2, same]
  · rename_i same
    simp [same]
  · rfl

/-- `strtoul(.., 16)` reads back what `%x` printed. -/
theorem strtoul_printHex
    {value : Nat}
    (inRange : value < ulongLimit) :
    strtoul 16 (printHex value) = some value := by
  have scanned : scanDigits 16 0 (printHex value) = (value, []) :=
    scanDigits_toDigits (by decide) (by decide) value
  have nonempty : printHex value ≠ [] := Nat.toDigits_ne_nil
  rw [strtoul_of_plain nonempty
    (fun digit member =>
      (mem_toDigits (by decide) (by decide) member).1)
    (radixPrefix_printHex value), scanned]
  exact if_pos inRange

/-- Base zero reads a digit text as `$(( ))` does: octal behind a zero. -/
theorem strtoul_zero_of_isDecimal
    {argument : Text}
    (decimal : isDecimal argument = true) :
    strtoul 0 argument =
      if digitsBelow (arithmeticBase argument) argument = true ∧
          numeral (arithmeticBase argument) argument < ulongLimit then
        some (numeral (arithmeticBase argument) argument)
      else
        none := by
  simp only [isDecimal, Bool.and_eq_true, Bool.not_eq_true',
    List.isEmpty_eq_false_iff] at decimal
  obtain ⟨nonempty, digits⟩ := decimal
  have allDecimal : ∀ digit ∈ argument, digit.isDigit = true := by
    simpa [allDigits] using digits
  have selected :
      radixPrefix 0 argument = (arithmeticBase argument, argument) := by
    unfold radixPrefix arithmeticBase
    split
    · rename_i marker digit rest
      have isDigit : marker.isDigit = true := allDecimal marker (by simp)
      have unmarked : marker ≠ 'x' ∧ marker ≠ 'X' := by
        refine ⟨?_, ?_⟩ <;>
          · rintro rfl
            revert isDigit
            decide
      simp [unmarked]
    · simp
    · rename_i leading
      have notZero : argument.head? ≠ some '0' := by
        cases argument with
        | nil =>
            simp
        | cons head rest =>
            intro same
            simp only [List.head?_cons, Option.some.injEq] at same
            exact leading rest (by rw [same])
      simp [notZero]
  rw [strtoul_of_plain nonempty
    (fun digit member => by
      simp [Char.isAlphanum, allDecimal digit member]) selected]
  cases below : digitsBelow (arithmeticBase argument) argument with
  | true =>
      rw [scanDigits_of_digitsBelow below]
      simp [numeral]
  | false =>
      have stopped := scanDigits_rest_ne_nil digits below 0
      rcases shape : scanDigits (arithmeticBase argument) 0 argument with
        ⟨value, _ | ⟨head, rest⟩⟩
      · simp [shape] at stopped
      · simp

end CNumber
