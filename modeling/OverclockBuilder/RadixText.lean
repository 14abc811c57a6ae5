import Mathlib.Data.Nat.Digits.Defs
import Mathlib.Tactic.Ring

namespace RadixText

/-!
# Numerals as text

Digit text in an arbitrary base, as C and shell readers scan it and as `printf`
writes it.  A scan consumes the longest prefix of digits below the base and
returns the unread remainder, so one definition serves readers that reject
trailing text and readers that stop there.
-/

/-- Text is a finite list of characters. -/
abbrev Text := List Char

/-- The value of an alphanumeric digit; letters in any case count from ten. -/
def digitValue (digit : Char) : Option Nat :=
  if digit.isDigit then
    some (digit.toNat - '0'.toNat)
  else if digit.isLower then
    some (digit.toNat - 'a'.toNat + 10)
  else if digit.isUpper then
    some (digit.toNat - 'A'.toNat + 10)
  else
    none

/-- A digit that is legal in the given base. -/
def digitBelow (base : Nat) (digit : Char) : Option Nat :=
  (digitValue digit).filter (· < base)

/-- Scan the longest digit prefix, returning its value and the unread text. -/
def scanDigits (base : Nat) : Nat → Text → Nat × Text
  | value, [] =>
      (value, [])
  | value, digit :: rest =>
      match digitBelow base digit with
      | some next =>
          scanDigits base (base * value + next) rest
      | none =>
          (value, digit :: rest)

/-- Every character is a decimal digit. -/
def allDigits (text : Text) : Bool :=
  text.all Char.isDigit

/-- The number a digit text denotes when its characters are read in `base`. -/
def numeral (base : Nat) (text : Text) : Nat :=
  Nat.ofDigitChars base text 0

theorem isDigit_iff
    {digit : Char} :
    digit.isDigit = true ↔
      48 ≤ digit.toNat ∧ digit.toNat ≤ 57 := by
  rw [Char.isDigit_iff_toNat]
  rfl

/-- A decimal digit denotes its distance from `0`. -/
theorem digitValue_of_isDigit
    {digit : Char}
    (decimal : digit.isDigit = true) :
    digitValue digit = some (digit.toNat - 48) := by
  simp [digitValue, decimal]

/-- The digit printed for a small number reads back as that number. -/
theorem digitBelow_digitChar
    {base value : Nat}
    (small : value < base)
    (baseBound : base ≤ 16) :
    digitBelow base (Nat.digitChar value) = some value := by
  have shown : digitValue (Nat.digitChar value) = some value := by
    have bound : value < 16 := by omega
    clear small
    revert value
    decide
  simp [digitBelow, shown, small]

/-- A scan of digits printed for one base resumes behind them. -/
theorem scanDigits_toDigits_append
    {base : Nat}
    (atLeastTwo : 1 < base)
    (baseBound : base ≤ 16)
    (value start : Nat)
    (rest : Text) :
    scanDigits base start (Nat.toDigits base value ++ rest) =
      scanDigits base
        (base ^ (Nat.toDigits base value).length * start + value) rest := by
  induction value using Nat.strong_induction_on generalizing rest with
  | _ value inductionHypothesis =>
      by_cases single : value < base
      · simp [Nat.toDigits_of_lt_base single, scanDigits,
          digitBelow_digitChar single baseBound]
      · have positive : 0 < base := by omega
        have smaller : value / base < value :=
          Nat.div_lt_self (by omega) atLeastTwo
        have lastDigit : value % base < base :=
          Nat.mod_lt value positive
        rw [Nat.toDigits_of_base_le atLeastTwo (by omega),
          List.append_assoc, inductionHypothesis _ smaller]
        simp only [List.cons_append, List.nil_append, scanDigits,
          digitBelow_digitChar lastDigit baseBound]
        congr 1
        have split : base * (value / base) + value % base = value :=
          Nat.div_add_mod value base
        simp only [List.length_append, List.length_cons,
          List.length_nil, Nat.zero_add, pow_succ]
        calc
          base * (base ^ (Nat.toDigits base (value / base)).length *
                start + value / base) + value % base
              = base ^ (Nat.toDigits base (value / base)).length *
                  base * start +
                (base * (value / base) + value % base) := by ring
          _ = base ^ (Nat.toDigits base (value / base)).length *
                  base * start + value := by rw [split]

/-- Printing a number and scanning it in the same base is the identity. -/
theorem scanDigits_toDigits
    {base : Nat}
    (atLeastTwo : 1 < base)
    (baseBound : base ≤ 16)
    (value : Nat) :
    scanDigits base 0 (Nat.toDigits base value) = (value, []) := by
  simpa [scanDigits] using
    scanDigits_toDigits_append atLeastTwo baseBound value 0 []

/-- Printed numerals consist of digit characters of their base. -/
theorem exists_digitChar_of_mem_toDigits
    {base value : Nat}
    {digit : Char}
    (atLeastTwo : 1 < base)
    (member : digit ∈ Nat.toDigits base value) :
    ∃ number < base, digit = Nat.digitChar number := by
  induction value using Nat.strong_induction_on with
  | _ value inductionHypothesis =>
      by_cases single : value < base
      · rw [Nat.toDigits_of_lt_base single, List.mem_singleton] at member
        exact ⟨value, single, member⟩
      · have positive : 0 < base := by omega
        rw [Nat.toDigits_of_base_le atLeastTwo (by omega),
          List.mem_append, List.mem_singleton] at member
        rcases member with earlier | last
        · exact inductionHypothesis (value / base)
            (Nat.div_lt_self (by omega) atLeastTwo) earlier
        · exact ⟨value % base, Nat.mod_lt value positive, last⟩

/-- Printed numerals have no leading zero, except zero itself. -/
theorem eq_zero_of_head_toDigits
    {value : Nat}
    (leading : (Nat.toDigits 10 value).head? = some '0') :
    value = 0 := by
  induction value using Nat.strong_induction_on with
  | _ value inductionHypothesis =>
      by_cases single : value < 10
      · rw [Nat.toDigits_of_lt_base single] at leading
        have shownZero :
            ∀ digit < 10,
              [Nat.digitChar digit].head? = some '0' → digit = 0 := by
          decide
        exact shownZero value single leading
      · have front :
            (Nat.toDigits 10 (value / 10)).head? = some '0' := by
          rw [Nat.toDigits_of_base_le (by decide) (by omega),
            List.head?_append] at leading
          cases shown : (Nat.toDigits 10 (value / 10)).head? with
          | none =>
              exact absurd (List.head?_eq_none_iff.mp shown)
                Nat.toDigits_ne_nil
          | some digit =>
              rw [shown] at leading
              exact leading
        have shorter := inductionHypothesis (value / 10) (by omega) front
        omega

/-- A decimal digit below the base is consumed by the scan. -/
theorem digitBelow_of_isDigit
    {base : Nat}
    {digit : Char}
    (decimal : digit.isDigit = true)
    (below : digit.toNat - 48 < base) :
    digitBelow base digit = some (digit.toNat - 48) := by
  simp [digitBelow, digitValue_of_isDigit decimal, below]

/-- A decimal digit at or above the base stops the scan. -/
theorem digitBelow_none_of_isDigit
    {base : Nat}
    {digit : Char}
    (decimal : digit.isDigit = true)
    (above : base ≤ digit.toNat - 48) :
    digitBelow base digit = none := by
  simp [digitBelow, digitValue_of_isDigit decimal, above]

/-- Every character is a decimal digit below the base. -/
def digitsBelow (base : Nat) (text : Text) : Bool :=
  text.all fun digit => digit.isDigit && decide (digit.toNat - 48 < base)

/-- A digit text wholly below the base is consumed entirely. -/
theorem scanDigits_of_digitsBelow
    {base : Nat}
    {text : Text}
    (below : digitsBelow base text = true)
    (start : Nat) :
    scanDigits base start text =
      (Nat.ofDigitChars base text start, []) := by
  induction text generalizing start with
  | nil =>
      simp [scanDigits]
  | cons digit rest inductionHypothesis =>
      simp only [digitsBelow, List.all_cons, Bool.and_eq_true,
        decide_eq_true_eq] at below
      obtain ⟨⟨decimal, small⟩, restBelow⟩ := below
      rw [scanDigits, digitBelow_of_isDigit decimal small]
      simpa [Nat.ofDigitChars_cons] using
        inductionHypothesis restBelow _

/-- A digit text with a digit at or above the base is not consumed entirely. -/
theorem scanDigits_rest_ne_nil
    {base : Nat}
    {text : Text}
    (digits : allDigits text = true)
    (above : digitsBelow base text = false)
    (start : Nat) :
    (scanDigits base start text).2 ≠ [] := by
  induction text generalizing start with
  | nil =>
      simp [digitsBelow] at above
  | cons digit rest inductionHypothesis =>
      simp only [allDigits, List.all_cons, Bool.and_eq_true] at digits
      by_cases small : digit.toNat - 48 < base
      · have restAbove : digitsBelow base rest = false := by
          simpa [digitsBelow, digits.1, small] using above
        rw [scanDigits, digitBelow_of_isDigit digits.1 small]
        exact inductionHypothesis digits.2 restAbove _
      · rw [scanDigits,
          digitBelow_none_of_isDigit digits.1 (by omega)]
        simp

/-- Decimal digits are below base ten. -/
theorem digitsBelow_ten
    {text : Text}
    (digits : allDigits text = true) :
    digitsBelow 10 text = true := by
  simp only [allDigits, digitsBelow, List.all_eq_true,
    Bool.and_eq_true, decide_eq_true_eq] at digits ⊢
  intro digit member
  have decimal := digits digit member
  have range := isDigit_iff.mp decimal
  exact ⟨decimal, by omega⟩

/-- Folding digits in any base does not lower a decimal start. -/
theorem start_le_ofDigitChars_ten
    (text : Text)
    (start : Nat) :
    start ≤ Nat.ofDigitChars 10 text start := by
  induction text generalizing start with
  | nil =>
      simp
  | cons digit rest inductionHypothesis =>
      rw [Nat.ofDigitChars_cons]
      have step := inductionHypothesis
        (10 * start + (digit.toNat - '0'.toNat))
      omega

/-- Reading the same digits in a base below ten never gives more. -/
theorem ofDigitChars_le_ten
    {base : Nat}
    (smallBase : base ≤ 10)
    (text : Text)
    {low high : Nat}
    (ordered : low ≤ high) :
    Nat.ofDigitChars base text low ≤
      Nat.ofDigitChars 10 text high := by
  induction text generalizing low high with
  | nil =>
      simpa using ordered
  | cons digit rest inductionHypothesis =>
      simp only [Nat.ofDigitChars_cons]
      apply inductionHypothesis
      have product : base * low ≤ 10 * high :=
        Nat.mul_le_mul smallBase ordered
      omega

/-- Behind a nonzero digit, every further digit separates the two bases. -/
theorem ofDigitChars_lt_ten
    {base : Nat}
    (smallBase : base < 10)
    {text : Text}
    (nonempty : text ≠ [])
    {start : Nat}
    (positive : 0 < start) :
    Nat.ofDigitChars base text start <
      Nat.ofDigitChars 10 text start := by
  induction text generalizing start with
  | nil =>
      exact (nonempty rfl).elim
  | cons digit rest inductionHypothesis =>
      simp only [Nat.ofDigitChars_cons]
      have product : base * start < 10 * start :=
        Nat.mul_lt_mul_of_pos_right smallBase positive
      have lowered :
          Nat.ofDigitChars base rest
              (base * start + (digit.toNat - '0'.toNat)) ≤
            Nat.ofDigitChars 10 rest
              (10 * start + (digit.toNat - '0'.toNat) - 1) :=
        ofDigitChars_le_ten (by omega) rest (by omega)
      have monotone :
          Nat.ofDigitChars 10 rest
              (10 * start + (digit.toNat - '0'.toNat) - 1) <
            Nat.ofDigitChars 10 rest
              (10 * start + (digit.toNat - '0'.toNat)) := by
        rw [@Nat.ofDigitChars_eq_ofDigitChars_zero rest
            (10 * start + (digit.toNat - '0'.toNat) - 1),
          @Nat.ofDigitChars_eq_ofDigitChars_zero rest
            (10 * start + (digit.toNat - '0'.toNat))]
        have power : 0 < 10 ^ rest.length := Nat.pow_pos (by omega)
        have scaled :
            10 ^ rest.length *
                (10 * start + (digit.toNat - '0'.toNat) - 1) <
              10 ^ rest.length *
                (10 * start + (digit.toNat - '0'.toNat)) :=
          Nat.mul_lt_mul_of_pos_left (by omega) power
        omega
      omega

/--
A digit text denotes the same number in base ten and in a smaller base exactly
when that number is a single decimal digit.
-/
theorem numeral_eq_ten_iff
    {base : Nat}
    (smallBase : base < 10)
    {text : Text}
    (digits : allDigits text = true) :
    numeral base text = numeral 10 text ↔ numeral 10 text < 10 := by
  induction text with
  | nil =>
      simp [numeral]
  | cons digit rest inductionHypothesis =>
      simp only [allDigits, List.all_cons, Bool.and_eq_true] at digits
      have range := isDigit_iff.mp digits.1
      simp only [numeral, Nat.ofDigitChars_cons] at inductionHypothesis ⊢
      by_cases zero : digit.toNat - '0'.toNat = 0
      · rw [zero]
        simpa using inductionHypothesis digits.2
      · by_cases empty : rest = []
        · subst empty
          simp only [Nat.ofDigitChars_nil]
          constructor
          · intro _
            change _ + (digit.toNat - 48) < 10
            omega
          · intro _
            omega
        · have strict :=
            ofDigitChars_lt_ten smallBase empty
              (Nat.pos_of_ne_zero zero)
          have grown :
              10 * (digit.toNat - '0'.toNat) ≤
                Nat.ofDigitChars 10 rest (digit.toNat - '0'.toNat) := by
            obtain ⟨next, later, shape⟩ :=
              List.exists_cons_of_ne_nil empty
            subst shape
            rw [Nat.ofDigitChars_cons]
            have start := start_le_ofDigitChars_ten later
              (10 * (digit.toNat - '0'.toNat) +
                (next.toNat - '0'.toNat))
            omega
          simp only [Nat.mul_zero, Nat.zero_add]
          omega

/-- The leading digit weighs a power of ten. -/
theorem numeral_ten_cons
    (digit : Char)
    (rest : Text) :
    numeral 10 (digit :: rest) =
      10 ^ rest.length * (digit.toNat - '0'.toNat) +
        numeral 10 rest := by
  simp only [numeral, Nat.ofDigitChars_cons]
  rw [Nat.ofDigitChars_eq_ofDigitChars_zero]
  simp

/-- A text that denotes a number below the base has only digits below it. -/
theorem digitsBelow_of_numeral_lt
    {base : Nat}
    {text : Text}
    (digits : allDigits text = true)
    (small : numeral 10 text < base) :
    digitsBelow base text = true := by
  induction text with
  | nil =>
      rfl
  | cons digit rest inductionHypothesis =>
      simp only [allDigits, List.all_cons, Bool.and_eq_true] at digits
      rw [numeral_ten_cons] at small
      have power : 0 < 10 ^ rest.length := Nat.pow_pos (by omega)
      have grows :
          digit.toNat - '0'.toNat ≤
            10 ^ rest.length * (digit.toNat - '0'.toNat) :=
        Nat.le_mul_of_pos_left _ power
      have digitSmall : digit.toNat - 48 < base := by
        change digit.toNat - '0'.toNat < base
        omega
      have restBelow := inductionHypothesis digits.2 (by omega)
      simp only [digitsBelow, List.all_cons, Bool.and_eq_true,
        decide_eq_true_eq]
      exact ⟨⟨digits.1, digitSmall⟩, restBelow⟩

/-- One significant digit below the base denotes a number below the base. -/
theorem numeral_lt_of_digitsBelow
    {base : Nat}
    {text : Text}
    (positive : 0 < base)
    (below : digitsBelow base text = true)
    (single : numeral 10 text < 10) :
    numeral 10 text < base := by
  induction text with
  | nil =>
      simpa [numeral] using positive
  | cons digit rest inductionHypothesis =>
      simp only [digitsBelow, List.all_cons, Bool.and_eq_true,
        decide_eq_true_eq] at below
      rw [numeral_ten_cons] at single ⊢
      by_cases empty : rest = []
      · subst empty
        simpa [numeral] using below.1.2
      · have longer : 0 < rest.length :=
          List.length_pos_iff.mpr empty
        have power : 10 ≤ 10 ^ rest.length :=
          Nat.le_self_pow (by omega) 10
        have weighed :
            10 * (digit.toNat - '0'.toNat) ≤
              10 ^ rest.length * (digit.toNat - '0'.toNat) :=
          Nat.mul_le_mul_right _ power
        have zero : digit.toNat - '0'.toNat = 0 := by omega
        have restBelow := inductionHypothesis below.2 (by omega)
        rw [zero]
        simpa using restBelow

end RadixText
