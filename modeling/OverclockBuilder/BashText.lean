import Mathlib.Data.List.DropRight
import OverclockBuilder.RadixText

namespace BashText

open RadixText

/-!
# Reading numbers and answers in bash

Bash reads a number in two different ways.  `[ a -op b ]` hands its operands
to `strtoimax` in base ten and fails with status 2 outside the signed 64-bit
range.  `$(( ))` scans a constant with a leading `0` as octal and accumulates
it modulo 2^64.  Both readers are modelled on the texts the script gives them,
and the last section says exactly where they agree.
-/

/-- Bash integers, with wrapping arithmetic. -/
abbrev Intmax := Int64

/-- The default field separators: space, tab and newline. -/
def isIfsBlank (character : Char) : Bool :=
  character = ' ' || character = '\t' || character = '\n'

/--
`read -r NAME` removes separators at both ends of the line.

Lines are free of NUL bytes, which bash drops.
-/
def readStrip (line : Text) : Text :=
  (line.dropWhile isIfsBlank).rdropWhile isIfsBlank

/-- `${NAME,,}`, on answers in ASCII -/
def lowercase (text : Text) : Text :=
  text.map Char.toLower

/-- `[[ text =~ ^[0-9]+$ ]]` -/
def isDecimal (text : Text) : Bool :=
  !text.isEmpty && allDigits text

/-! ## The `[ ]` reader -/

/-- The first number outside the signed 64-bit range. -/
def intmaxLimit : Nat :=
  2 ^ 63

/-- `legal_number` on a digit string: decimal, and an error out of range. -/
def legalNumber (text : Text) : Option Nat :=
  if numeral 10 text < intmaxLimit then
    some (numeral 10 text)
  else
    none

/-- The outcome of `[ text -op constant ]`; `none` is status 2. -/
def integerTest (relation : Nat → Bool) (text : Text) : Option Bool :=
  (legalNumber text).map relation

/-- Whether a test ends with status 0, which is all `if`, `||` and `&&` see. -/
def succeeds (status : Option Bool) : Bool :=
  status == some true

/-- `[ text -eq bound ]` as a condition -/
def testEq (text : Text) (bound : Nat) : Bool :=
  succeeds (integerTest (· == bound) text)

/-- `[ text -gt bound ]` as a condition -/
def testGt (text : Text) (bound : Nat) : Bool :=
  succeeds (integerTest (fun value => decide (bound < value)) text)

/-- `[ text -le bound ]` as a condition -/
def testLe (text : Text) (bound : Nat) : Bool :=
  succeeds (integerTest (fun value => decide (value ≤ bound)) text)

theorem testEq_iff
    {text : Text}
    {bound : Nat} :
    testEq text bound = true ↔
      numeral 10 text < intmaxLimit ∧ numeral 10 text = bound := by
  simp only [testEq, succeeds, integerTest, legalNumber]
  split <;> simp_all

theorem testGt_iff
    {text : Text}
    {bound : Nat} :
    testGt text bound = true ↔
      numeral 10 text < intmaxLimit ∧ bound < numeral 10 text := by
  simp only [testGt, succeeds, integerTest, legalNumber]
  split <;> simp_all

theorem testLe_iff
    {text : Text}
    {bound : Nat} :
    testLe text bound = true ↔
      numeral 10 text < intmaxLimit ∧ numeral 10 text ≤ bound := by
  simp only [testLe, succeeds, integerTest, legalNumber]
  split <;> simp_all

/-! ## The `$(( ))` reader -/

/--
Accumulate digits of one base in 64-bit arithmetic.

`none` is bash's expansion error, raised for a digit that is too great for the
base and for any other character inside the constant.
-/
def strlongFrom (base : Nat) : Intmax → Text → Option Intmax
  | value, [] =>
      some value
  | value, digit :: rest =>
      match digitBelow base digit with
      | some next =>
          strlongFrom base
            (value * Int64.ofNat base + Int64.ofNat next) rest
      | none =>
          none

/-- The value of a variable's text inside `$(( ))`; the empty text is zero. -/
def strlong : Text → Option Intmax
  | [] =>
      some 0
  | ['0'] =>
      some 0
  | '0' :: 'x' :: rest =>
      strlongFrom 16 0 rest
  | '0' :: 'X' :: rest =>
      strlongFrom 16 0 rest
  | '0' :: rest =>
      strlongFrom 8 0 rest
  | text =>
      strlongFrom 10 0 text

/-- `$((16#text))` -/
def strlongHex (text : Text) : Option Intmax :=
  strlongFrom 16 0 text

/-- Wrapping at every digit is wrapping once at the end. -/
theorem strlongFrom_ofNat
    (base : Nat)
    (text : Text)
    (start : Nat) :
    strlongFrom base (Int64.ofNat start) text =
      match scanDigits base start text with
      | (value, []) => some (Int64.ofNat value)
      | (_, _ :: _) => none := by
  induction text generalizing start with
  | nil =>
      rfl
  | cons digit rest inductionHypothesis =>
      rw [strlongFrom, scanDigits]
      cases below : digitBelow base digit with
      | none =>
          rfl
      | some next =>
          have wraps :
              Int64.ofNat start * Int64.ofNat base + Int64.ofNat next =
                Int64.ofNat (base * start + next) := by
            rw [Int64.ofNat_add, Int64.ofNat_mul, Int64.mul_comm]
          simp only [wraps]
          exact inductionHypothesis _

/-- A digit text of the base is read as its numeral, modulo 2^64. -/
theorem strlongFrom_of_digitsBelow
    {base : Nat}
    {text : Text}
    (below : digitsBelow base text = true) :
    strlongFrom base 0 text =
      some (Int64.ofNat (numeral base text)) := by
  have read := strlongFrom_ofNat base text 0
  rw [scanDigits_of_digitsBelow below] at read
  exact read

/-- A digit too great for the base is an expansion error. -/
theorem strlongFrom_eq_none
    {base : Nat}
    {text : Text}
    (digits : allDigits text = true)
    (above : digitsBelow base text = false) :
    strlongFrom base 0 text = none := by
  have read := strlongFrom_ofNat base text 0
  have unread := scanDigits_rest_ne_nil digits above 0
  rcases shape : scanDigits base 0 text with ⟨value, _ | ⟨head, rest⟩⟩
  · simp [shape] at unread
  · rw [shape] at read
    exact read

/-! ## Where the two readers agree -/

/-- The base in which `$(( ))` reads a digit string. -/
def arithmeticBase (text : Text) : Nat :=
  if text.head? = some '0' then 8 else 10

/-- On digit strings, `$(( ))` reads octal behind a leading zero. -/
theorem strlong_of_isDecimal
    {text : Text}
    (decimal : isDecimal text = true) :
    strlong text =
      strlongFrom (arithmeticBase text) 0 text := by
  simp only [isDecimal, Bool.and_eq_true] at decimal
  unfold strlong arithmeticBase
  split
  · simp at decimal
  · decide
  · simp [allDigits] at decimal
  · simp [allDigits] at decimal
  · rename_i rest _ _ _
    simp only [List.head?_cons, ↓reduceIte]
    rw [strlongFrom]
    rfl
  · rename_i noZero _ _ _ _
    have leading : text.head? ≠ some '0' := by
      intro starts
      cases text with
      | nil =>
          simp at starts
      | cons digit rest =>
          simp only [List.head?_cons, Option.some.injEq] at starts
          subst starts
          simp_all
    simp [leading]

/--
A digit string that both readers understand as the same number.

A leading zero selects octal, which agrees with decimal only on a single
significant digit.
-/
def ReadsAlike (text : Text) : Prop :=
  text.head? = some '0' → numeral 10 text ≤ 7

instance (text : Text) : Decidable (ReadsAlike text) :=
  inferInstanceAs (Decidable (_ → _))

/-- A digit string `$(( ))` refuses: octal by its zero, with an 8 or 9. -/
def Unreadable (text : Text) : Prop :=
  text.head? = some '0' ∧ digitsBelow 8 text = false

instance (text : Text) : Decidable (Unreadable text) :=
  inferInstanceAs (Decidable (_ ∧ _))

/-- Expansion fails exactly on octal texts with a digit that is not octal. -/
theorem strlong_eq_none_iff
    {text : Text}
    (decimal : isDecimal text = true) :
    strlong text = none ↔ Unreadable text := by
  have digits : allDigits text = true := by
    simp only [isDecimal, Bool.and_eq_true] at decimal
    exact decimal.2
  rw [strlong_of_isDecimal decimal]
  unfold arithmeticBase Unreadable
  split
  · rename_i leading
    cases below : digitsBelow 8 text with
    | true =>
        simp [strlongFrom_of_digitsBelow below]
    | false =>
        simp [strlongFrom_eq_none digits below, leading]
  · rename_i leading
    simp [strlongFrom_of_digitsBelow (digitsBelow_ten digits), leading]

/-- Where the readers agree, `$(( ))` yields the decimal number. -/
theorem strlong_of_readsAlike
    {text : Text}
    (decimal : isDecimal text = true)
    (alike : ReadsAlike text) :
    strlong text = some (Int64.ofNat (numeral 10 text)) := by
  have digits : allDigits text = true := by
    simp only [isDecimal, Bool.and_eq_true] at decimal
    exact decimal.2
  rw [strlong_of_isDecimal decimal]
  unfold arithmeticBase
  split
  · rename_i leading
    have small := alike leading
    have octal : numeral 8 text = numeral 10 text :=
      (numeral_eq_ten_iff (by omega) digits).mpr (by omega)
    rw [strlongFrom_of_digitsBelow
        (digitsBelow_of_numeral_lt digits (by omega)), octal]
  · exact strlongFrom_of_digitsBelow (digitsBelow_ten digits)

/-- On numbers of the 64-bit range, agreement is exactly `ReadsAlike`. -/
theorem strlong_eq_numeral_iff
    {text : Text}
    (decimal : isDecimal text = true)
    (inRange : numeral 10 text < intmaxLimit) :
    strlong text = some (Int64.ofNat (numeral 10 text)) ↔
      ReadsAlike text := by
  refine ⟨?_, strlong_of_readsAlike decimal⟩
  intro same leading
  have digits : allDigits text = true := by
    simp only [isDecimal, Bool.and_eq_true] at decimal
    exact decimal.2
  rw [strlong_of_isDecimal decimal] at same
  simp only [arithmeticBase, leading, ↓reduceIte] at same
  cases below : digitsBelow 8 text with
  | false =>
      rw [strlongFrom_eq_none digits below] at same
      cases same
  | true =>
      rw [strlongFrom_of_digitsBelow below] at same
      have lower : numeral 8 text ≤ numeral 10 text :=
        ofDigitChars_le_ten (by omega) text (Nat.le_refl 0)
      have octal : numeral 8 text = numeral 10 text := by
        have wrapped :=
          congrArg Int64.toInt (Option.some.inj same)
        simp only [intmaxLimit] at inRange
        rw [Int64.toInt_ofNat_of_lt (by omega),
          Int64.toInt_ofNat_of_lt (by omega)] at wrapped
        omega
      have single :=
        (numeral_eq_ten_iff (by omega) digits).mp octal
      have octalDigit :=
        numeral_lt_of_digitsBelow (by omega) below single
      omega

end BashText
