import OverclockBuilder.WordText

namespace ArgumentText

open RadixText WordText

/-!
# Argument lists as text

`shlex.join` writes an argument list as shell text, and an unquoted expansion
cuts text into words without removing quotes.  The two invert each other only
on arguments that need no quotes.  A `sed` substitution of the operand behind
an option is described on the words it meets.
-/

/-! ## Quoting -/

/-- The characters `shlex.quote` leaves alone. -/
def isSafe (character : Char) : Bool :=
  character.isAlphanum ||
    ['_', '@', '%', '+', '=', ':', ',', '.', '-', '/'].contains character

/-- `shlex.quote` -/
def shlexQuote (argument : Text) : Text :=
  if argument = [] then
    "''".toList
  else if argument.all isSafe then
    argument
  else
    '\'' :: argument.flatMap (fun character =>
      if character = '\'' then "'\"'\"'".toList else [character]) ++ ['\'']

/-- `shlex.join` -/
def shlexJoin (arguments : List Text) : Text :=
  [' '].intercalate (arguments.map shlexQuote)

/-- An argument that is written without quotes. -/
structure Plain (argument : Text) : Prop where
  nonempty : argument ≠ []
  safe : argument.all isSafe = true

instance (argument : Text) : Decidable (Plain argument) :=
  decidable_of_iff (argument ≠ [] ∧ argument.all isSafe = true)
    ⟨fun ⟨nonempty, safe⟩ => ⟨nonempty, safe⟩,
      fun ⟨nonempty, safe⟩ => ⟨nonempty, safe⟩⟩

theorem shlexQuote_of_plain
    {argument : Text}
    (plain : Plain argument) :
    shlexQuote argument = argument := by
  rw [shlexQuote, if_neg plain.nonempty, if_pos plain.safe]

/-- Quoting is visible. -/
theorem shlexQuote_eq_self_iff {argument : Text} :
    shlexQuote argument = argument ↔ Plain argument := by
  refine ⟨?_, shlexQuote_of_plain⟩
  intro unchanged
  by_cases empty : argument = []
  · subst empty
    cases unchanged
  · refine ⟨empty, ?_⟩
    by_contra unsafeArgument
    rw [shlexQuote, if_neg empty, if_neg unsafeArgument] at unchanged
    have length := congrArg List.length unchanged
    have grows (text : Text) :
        text.length ≤
          (text.flatMap fun character =>
            if character = '\'' then "'\"'\"'".toList
            else [character]).length := by
      induction text with
      | nil =>
          simp
      | cons head rest inductionHypothesis =>
          have atLeastOne :
              1 ≤
                (if head = '\'' then "'\"'\"'".toList
                  else [head]).length := by
            split <;> simp
          rw [List.flatMap_cons, List.length_append, List.length_cons]
          omega
    have atLeast := grows argument
    simp only [List.length_cons, List.length_append, List.length_nil]
      at length
    omega

/-- A plain argument has no separators that are not safe. -/
theorem solid_of_plain
    {separator : Char → Bool}
    (unsafeSeparators :
      ∀ character, separator character = true → isSafe character = false)
    {argument : Text}
    (plain : Plain argument) :
    Solid separator argument := by
  refine ⟨plain.nonempty, ?_⟩
  intro character member
  have safe := List.all_eq_true.mp plain.safe character member
  cases separates : separator character with
  | false =>
      rfl
  | true =>
      rw [unsafeSeparators character separates] at safe
      cases safe

/-- Quoting adds only quotes. -/
theorem mem_shlexQuote
    {argument : Text}
    {character : Char}
    (member : character ∈ shlexQuote argument) :
    character ∈ argument ∨ character = '\'' ∨ character = '"' := by
  unfold shlexQuote at member
  split at member
  · right
    left
    simpa using member
  · split at member
    · exact .inl member
    · simp only [List.mem_cons, List.mem_append, List.mem_flatMap,
        List.not_mem_nil, or_false] at member
      rcases member with (quoted | ⟨other, inside, here⟩) | quoted
      · exact .inr (.inl quoted)
      · split at here
        · right
          have quotes :
              character = '\'' ∨ character = '"' ∨ character = '\'' ∨
                character = '"' ∨ character = '\'' := by
            simpa using here
          tauto
        · rw [List.mem_singleton] at here
          exact .inl (here ▸ inside)
      · exact .inr (.inl quoted)

theorem shlexQuote_ne_nil (argument : Text) : shlexQuote argument ≠ [] := by
  unfold shlexQuote
  split
  · decide
  · split
    · assumption
    · simp

/-- Quoting introduces no separators. -/
theorem solid_shlexQuote
    {separator : Char → Bool}
    (noQuote : separator '\'' = false)
    (noDoubleQuote : separator '"' = false)
    {argument : Text}
    (solid : Solid separator argument) :
    Solid separator (shlexQuote argument) := by
  refine ⟨shlexQuote_ne_nil argument, ?_⟩
  intro character member
  rcases mem_shlexQuote member with inside | rfl | rfl
  · exact solid.2 character inside
  · exact noQuote
  · exact noDoubleQuote

/-! ## Replacing the operand of an option -/

/--
`sed "s|FLAG [^ ]*|FLAG OPERAND|"` on one line: the first occurrence of the
flag and a space, with everything up to the next space.
-/
def substituteOperand (flag operand : Text) : Text → Text
  | [] =>
      []
  | head :: rest =>
      if (flag ++ [' ']).isPrefixOf (head :: rest) then
        flag ++ ' ' :: operand ++
          ((head :: rest).drop (flag.length + 1)).dropWhile (· ≠ ' ')
      else
        head :: substituteOperand flag operand rest

/-- The same on words: the word behind the first one that ends in the flag. -/
def replaceOperand (flag operand : Text) : List Text → List Text
  | word :: next :: rest =>
      if flag.isSuffixOf word then
        word :: operand :: rest
      else
        word :: replaceOperand flag operand (next :: rest)
  | words => words

section Substitution

variable {flag operand : Text}

/-- Up to the first space, a match is an equality. -/
theorem prefix_append_space_iff
    (flagSpaceless : ' ' ∉ flag)
    {word : Text}
    (spaceless : ' ' ∉ word)
    (rest : Text) :
    (flag ++ [' ']).isPrefixOf (word ++ ' ' :: rest) = true ↔
      flag = word := by
  rw [List.isPrefixOf_iff_prefix]
  refine ⟨?_, ?_⟩
  · rintro ⟨tail, same⟩
    induction flag generalizing word with
    | nil =>
        cases word with
        | nil =>
            rfl
        | cons head word =>
            simp only [List.nil_append, List.cons_append,
              List.cons.injEq] at same
            exact (spaceless (same.1 ▸ List.mem_cons_self)).elim
    | cons first flag inductionHypothesis =>
        cases word with
        | nil =>
            simp only [List.cons_append, List.nil_append,
              List.cons.injEq] at same
            exact (flagSpaceless (same.1 ▸ List.mem_cons_self)).elim
        | cons head word =>
            simp only [List.cons_append, List.cons.injEq] at same
            rw [same.1, inductionHypothesis
              (fun member => flagSpaceless (List.mem_cons_of_mem _ member))
              (fun member => spaceless (List.mem_cons_of_mem _ member))
              same.2]
  · rintro rfl
    exact ⟨rest, by simp⟩

/-- Without a space there is nothing to substitute. -/
theorem substituteOperand_of_spaceless
    {word : Text}
    (spaceless : ' ' ∉ word) :
    substituteOperand flag operand word = word := by
  induction word with
  | nil =>
      rfl
  | cons head rest inductionHypothesis =>
      have unmatched :
          ¬ (flag ++ [' ']).isPrefixOf (head :: rest) = true := by
        rw [List.isPrefixOf_iff_prefix]
        intro isPrefix
        exact spaceless (isPrefix.subset (by simp))
      rw [substituteOperand, if_neg unmatched,
        inductionHypothesis fun member =>
          spaceless (List.mem_cons_of_mem head member)]

/-- In front of a space, the substitution looks at the end of the word. -/
theorem substituteOperand_append_space
    (flagNonempty : flag ≠ [])
    (flagSpaceless : ' ' ∉ flag)
    {word : Text}
    (spaceless : ' ' ∉ word)
    (rest : Text) :
    substituteOperand flag operand (word ++ ' ' :: rest) =
      if flag.isSuffixOf word then
        word ++ ' ' :: operand ++ rest.dropWhile (· ≠ ' ')
      else
        word ++ ' ' :: substituteOperand flag operand rest := by
  induction word with
  | nil =>
      have unmatched :
          ¬ (flag ++ [' ']).isPrefixOf ([] ++ ' ' :: rest) = true := by
        rw [prefix_append_space_iff flagSpaceless List.not_mem_nil]
        exact flagNonempty
      have noSuffix : ¬ flag.isSuffixOf [] = true := by
        simpa using flagNonempty
      rw [List.nil_append] at unmatched
      rw [List.nil_append, substituteOperand, if_neg unmatched,
        if_neg noSuffix]
      rfl
  | cons head word inductionHypothesis =>
      have tailSpaceless : ' ' ∉ word := fun member =>
        spaceless (List.mem_cons_of_mem head member)
      by_cases whole : flag = head :: word
      · have matched :
            (flag ++ [' ']).isPrefixOf (head :: word ++ ' ' :: rest) =
              true :=
          (prefix_append_space_iff flagSpaceless spaceless rest).mpr whole
        rw [List.cons_append] at matched
        have isSuffix : flag.isSuffixOf (head :: word) = true := by
          rw [List.isSuffixOf_iff_suffix]
          exact whole ▸ List.suffix_refl _
        rw [List.cons_append, substituteOperand, if_pos matched,
          if_pos isSuffix, whole]
        simp
      · have unmatched :
            ¬ (flag ++ [' ']).isPrefixOf (head :: word ++ ' ' :: rest) =
              true :=
          (prefix_append_space_iff flagSpaceless spaceless rest).not.mpr
            whole
        rw [List.cons_append] at unmatched
        have sameSuffix :
            flag.isSuffixOf (head :: word) = flag.isSuffixOf word := by
          rw [Bool.eq_iff_iff, List.isSuffixOf_iff_suffix,
            List.isSuffixOf_iff_suffix, List.suffix_cons_iff]
          simp [whole]
        rw [List.cons_append, substituteOperand, if_neg unmatched,
          inductionHypothesis tailSpaceless, sameSuffix]
        split <;> simp

/-- On joined words, `sed` replaces a whole word. -/
theorem substituteOperand_intercalate
    (flagNonempty : flag ≠ [])
    (flagSpaceless : ' ' ∉ flag)
    {texts : List Text}
    (spaceless : ∀ text ∈ texts, ' ' ∉ text) :
    substituteOperand flag operand ([' '].intercalate texts) =
      [' '].intercalate (replaceOperand flag operand texts) := by
  have joined (text next : Text) (rest : List Text) :
      [' '].intercalate (text :: next :: rest) =
        text ++ ' ' :: [' '].intercalate (next :: rest) := by
    simp [List.intercalate]
  induction texts with
  | nil =>
      rfl
  | cons text rest inductionHypothesis =>
      have textSpaceless := spaceless text List.mem_cons_self
      cases rest with
      | nil =>
          simpa [replaceOperand] using
            substituteOperand_of_spaceless textSpaceless
      | cons next rest =>
          rw [joined, substituteOperand_append_space flagNonempty
            flagSpaceless textSpaceless, replaceOperand]
          split
          · -- the operand runs to the next space or to the end
            have nextSpaceless : ∀ character ∈ next, character ≠ ' ' := by
              rintro character member rfl
              exact spaceless next (by simp) member
            have dropped (tail : Text) :
                (next ++ tail).dropWhile (· ≠ ' ') =
                  tail.dropWhile (· ≠ ' ') := by
              rw [List.dropWhile_append_of_pos]
              simpa using nextSpaceless
            cases rest with
            | nil =>
                have all := dropped []
                rw [List.append_nil] at all
                simp only [List.intercalate_singleton, all]
                simp [List.intercalate]
            | cons third rest =>
                rw [joined, joined, joined, dropped]
                simp
          · have tailJoined := inductionHypothesis fun other member =>
              spaceless other (List.mem_cons_of_mem text member)
            rw [tailJoined]
            cases shape : replaceOperand flag operand (next :: rest) with
            | nil =>
                exfalso
                cases rest with
                | nil =>
                    cases shape
                | cons third rest =>
                    rw [replaceOperand] at shape
                    split at shape <;> cases shape
            | cons first others =>
                rw [joined]

/-- The words are the old ones and the operand. -/
theorem mem_replaceOperand
    {texts : List Text}
    {word : Text}
    (member : word ∈ replaceOperand flag operand texts) :
    word = operand ∨ word ∈ texts := by
  induction texts with
  | nil =>
      exact .inr member
  | cons text rest inductionHypothesis =>
      cases rest with
      | nil =>
          exact .inr member
      | cons next rest =>
          rw [replaceOperand] at member
          split at member
          · simp only [List.mem_cons] at member ⊢
            tauto
          · rcases List.mem_cons.mp member with here | later
            · exact .inr (here ▸ List.mem_cons_self)
            · rcases inductionHypothesis later with isOperand | inside
              · exact .inl isOperand
              · exact .inr (List.mem_cons_of_mem text inside)

/-- Words that do not end in the flag are passed over. -/
theorem replaceOperand_append
    {passed : List Text}
    (unmatched : ∀ word ∈ passed, flag.isSuffixOf word = false)
    (next : Text)
    (rest : List Text) :
    replaceOperand flag operand (passed ++ next :: rest) =
      passed ++ replaceOperand flag operand (next :: rest) := by
  induction passed with
  | nil =>
      rfl
  | cons word passed inductionHypothesis =>
      have wordUnmatched := unmatched word List.mem_cons_self
      have tail := inductionHypothesis fun other member =>
        unmatched other (List.mem_cons_of_mem word member)
      cases passed with
      | nil =>
          simp [replaceOperand, wordUnmatched]
      | cons second passed =>
          rw [List.cons_append, List.cons_append, replaceOperand,
            if_neg (by simp [wordUnmatched]), ← List.cons_append, tail]
          rfl

end Substitution

end ArgumentText
