import OverclockBuilder.RadixText

namespace ArgumentParser

open RadixText

/-!
# Command lines with options

`argparse` for parsers whose options take one value or none: `parse_known_args`
pairs every option with its value and leaves the other words over.  Options may
be abbreviated, and the value of a short one may follow it in the same word.
Clusters of short switches are left out.
-/

/-- The option strings of a parser, with what they stand for. -/
abbrev Options (α : Type u) := List (Text × α)

/-- The options of a parser, and those among them that take no value. -/
structure Parser (α : Type u) where
  options : Options α
  isSwitch : α → Bool

/-- A parser whose options all take a value. -/
def Parser.ofOptions (options : Options α) : Parser α where
  options := options
  isSwitch := fun _ => false

/-- How a word of a command line is read. -/
inductive Reading (α : Type u) where
  | value
  | flag (option : α)
  /-- `--option=value`, or `-ovalue` -/
  | assignment (option : α) (operand : Text)
  | unknown
  /-- two dashes, behind which every word is a value -/
  | separator
  deriving Repr, DecidableEq

/-- A negative number is a value where no option looks like one. -/
def isNegativeNumber : Text → Bool
  | '-' :: body =>
      match body.dropWhile Char.isDigit with
      | [] =>
          body ≠ []
      | point :: fraction =>
          point = '.' && (fraction ≠ [] && allDigits fraction)
  | _ =>
      false

/-- `--name=operand` for the option of a name. -/
def readAssigned (option : α) (word : Text) : Reading α :=
  match word.dropWhile (· ≠ '=') with
  | [] => .flag option
  | _ :: operand => .assignment option operand

/--
`_get_option_tuples`: what an abbreviation can stand for, or a short option
with its value behind it.
-/
def optionTuples (options : Options α) (word : Text) : List (Reading α) :=
  if ['-', '-'].isPrefixOf word then
    let name := word.takeWhile (· ≠ '=')
    options.filterMap fun option =>
      if name.isPrefixOf option.1 then
        some (readAssigned option.2 word)
      else
        none
  else
    options.filterMap fun option =>
      if option.1 = word.take 2 then
        some (.assignment option.2 (word.drop 2))
      else if word.isPrefixOf option.1 then
        some (.flag option.2)
      else
        none

/-- `--name=operand` with the whole name of an option. -/
def readAssignment (options : Options α) (word : Text) :
    Option (Reading α) :=
  match word.dropWhile (· ≠ '=') with
  | [] =>
      none
  | _ :: operand =>
      (options.lookup (word.takeWhile (· ≠ '='))).map fun option =>
        .assignment option operand

/-- A word with a dash that is not spelled out as an option. -/
def readAbbreviation (options : Options α) (word : Text) :
    Option (Reading α) :=
  match optionTuples options word with
  | [] =>
      if isNegativeNumber word || ' ' ∈ word then
        some .value
      else
        some .unknown
  | [reading] =>
      some reading
  | _ =>
      none

/-- `_parse_optional`; an ambiguous abbreviation is an error. -/
def readArgument (options : Options α) (word : Text) : Option (Reading α) :=
  if word.head? ≠ some '-' then
    some .value
  else if word = ['-', '-'] then
    some .separator
  else if word = ['-'] then
    (options.lookup word).elim (some .value) fun option =>
      some (.flag option)
  else
    match options.lookup word, readAssignment options word with
    | some option, _ =>
        some (.flag option)
    | none, some reading =>
        some reading
    | none, none =>
        readAbbreviation options word

/-- Options with their values, and the words left over. -/
abbrev Parsed (α : Type u) := List (α × Text) × List Text

/-- `parse_known_args`; a switch is paired with the empty text. -/
def parseKnownArgs (parser : Parser α) :
    List Text → Option (Parsed α)
  | [] =>
      some ([], [])
  | word :: rest =>
      match readArgument parser.options word with
      | some .value =>
          (parseKnownArgs parser rest).map fun parsed =>
            (parsed.1, word :: parsed.2)
      | some .unknown =>
          (parseKnownArgs parser rest).map fun parsed =>
            (parsed.1, word :: parsed.2)
      | some .separator =>
          some ([], word :: rest)
      | some (.assignment option operand) =>
          if parser.isSwitch option then
            none
          else
            (parseKnownArgs parser rest).map fun parsed =>
              ((option, operand) :: parsed.1, parsed.2)
      | some (.flag option) =>
          if parser.isSwitch option then
            (parseKnownArgs parser rest).map fun parsed =>
              ((option, []) :: parsed.1, parsed.2)
          else
            match rest with
            | [] =>
                none
            | operand :: behind =>
                match readArgument parser.options operand with
                | some .value =>
                    (parseKnownArgs parser behind).map fun parsed =>
                      ((option, operand) :: parsed.1, parsed.2)
                | _ =>
                    none
      | none =>
          none

/--
The options whose actions are taken, in order, until the parser gives up.

Where a word is ambiguous, `argparse` may give up before the first action.
-/
def takenActions (parser : Parser α) : List Text → List (α × Text)
  | [] =>
      []
  | word :: rest =>
      match readArgument parser.options word with
      | some .value =>
          takenActions parser rest
      | some .unknown =>
          takenActions parser rest
      | some .separator =>
          []
      | some (.assignment option operand) =>
          if parser.isSwitch option then
            []
          else
            (option, operand) :: takenActions parser rest
      | some (.flag option) =>
          if parser.isSwitch option then
            (option, []) :: takenActions parser rest
          else
            match rest with
            | [] =>
                []
            | operand :: behind =>
                match readArgument parser.options operand with
                | some .value =>
                    (option, operand) :: takenActions parser behind
                | _ =>
                    []
      | none =>
          []

section Words

variable {options : Options α} {parser : Parser α} {word operand : Text}
  {rest : List Text}

/-- A word that is taken for a value. -/
def IsValue (options : Options α) (word : Text) : Prop :=
  readArgument options word = some .value

/-- A word that is left over. -/
def LeftOver (options : Options α) (word : Text) : Prop :=
  readArgument options word = some .value ∨
    readArgument options word = some .unknown

theorem IsValue.leftOver (isValue : IsValue options word) :
    LeftOver options word :=
  .inl isValue

/-- Only words that start with a dash are options. -/
theorem isValue_of_head (noDash : word.head? ≠ some '-') :
    IsValue options word := by
  rw [IsValue, readArgument, if_pos noDash]

/-- Every option string of one parser is one of another. -/
def Among (fewer : Options β) (options : Options α) : Prop :=
  ∀ row ∈ fewer, row.1 ∈ options.map Prod.fst

/-- What a parser does not know, one with fewer options does not know. -/
theorem Among.lookup_eq_none
    {fewer : Options β}
    (among : Among fewer options)
    {name : Text}
    (absent : options.lookup name = none) :
    fewer.lookup name = none := by
  rw [List.lookup_eq_none_iff] at absent ⊢
  intro row member
  obtain ⟨other, inOptions, same⟩ := List.mem_map.mp (among row member)
  rw [← same]
  exact absent other inOptions

theorem Among.optionTuples_eq_nil
    {fewer : Options β}
    (among : Among fewer options)
    (absent : optionTuples options word = []) :
    optionTuples fewer word = [] := by
  unfold optionTuples at absent ⊢
  by_cases dashes : ['-', '-'].isPrefixOf word = true
  · rw [if_pos dashes] at absent ⊢
    simp only [List.filterMap_eq_nil_iff, ite_eq_right_iff,
      reduceCtorEq, imp_false] at absent ⊢
    intro row member
    obtain ⟨other, inOptions, same⟩ := List.mem_map.mp (among row member)
    rw [← same]
    exact absent other inOptions
  · rw [if_neg dashes] at absent ⊢
    simp only [List.filterMap_eq_nil_iff, ite_eq_iff, reduceCtorEq,
      and_false, and_true, false_or] at absent ⊢
    intro row member
    obtain ⟨other, inOptions, same⟩ := List.mem_map.mp (among row member)
    rw [← same]
    exact absent other inOptions

theorem Among.readAssignment_eq_none
    {fewer : Options β}
    (among : Among fewer options)
    (absent : readAssignment options word = none) :
    readAssignment fewer word = none := by
  rw [readAssignment] at absent ⊢
  rcases behind : word.dropWhile (· ≠ '=') with _ | ⟨sign, operand⟩
  · rfl
  · simp only [behind, Option.map_eq_none_iff] at absent ⊢
    exact among.lookup_eq_none absent

/-- What an option can be told from is an option or a value of one. -/
theorem reading_of_mem_optionTuples
    {reading : Reading α}
    (member : reading ∈ optionTuples options word) :
    reading ≠ .value ∧ reading ≠ .unknown := by
  have assigned (option : α) :
      readAssigned option word ≠ .value ∧
        readAssigned option word ≠ .unknown := by
    rw [readAssigned]
    split <;>
      simp
  unfold optionTuples at member
  split at member
  · obtain ⟨row, -, read⟩ := List.mem_filterMap.mp member
    split at read
    · rw [← Option.some.inj read]
      exact assigned row.2
    · cases read
  · obtain ⟨row, -, read⟩ := List.mem_filterMap.mp member
    split at read
    · rw [← Option.some.inj read]
      simp
    · split at read
      · rw [← Option.some.inj read]
        simp
      · cases read

/-- A word with a dash is left over where nothing tells an option from it. -/
theorem leftOver_iff (dash : word.head? = some '-') :
    LeftOver options word ↔
      word ≠ ['-', '-'] ∧ options.lookup word = none ∧
        (word = ['-'] ∨
          readAssignment options word = none ∧
            optionTuples options word = []) := by
  have assigned {reading : Reading α}
      (read : readAssignment options word = some reading) :
      reading ≠ .value ∧ reading ≠ .unknown := by
    unfold readAssignment at read
    split at read
    · cases read
    · obtain ⟨option, -, rfl⟩ := Option.map_eq_some_iff.mp read
      simp
  rw [LeftOver, readArgument, if_neg (by simp [dash])]
  by_cases separator : word = ['-', '-']
  · simp [separator]
  rw [if_neg separator]
  by_cases single : word = ['-']
  · rw [if_pos single]
    cases options.lookup word with
    | none =>
        simp [single]
    | some option =>
        simp
  rw [if_neg single]
  cases whole : options.lookup word with
  | some option =>
      simp
  | none =>
      cases read : readAssignment options word with
      | some reading =>
          simp [single, assigned read]
      | none =>
          simp only [readAbbreviation]
          rcases tuples : optionTuples options word with
            _ | ⟨reading, _ | ⟨other, rest⟩⟩
          · cases isNegativeNumber word || ' ' ∈ word <;>
              simp [separator]
          · have inside : reading ∈ optionTuples options word := by
              simp [tuples]
            simp [single, reading_of_mem_optionTuples inside]
          · simp [single]

/-- What a parser leaves over, one with fewer options leaves over too. -/
theorem Among.leftOver
    {fewer : Options β}
    (among : Among fewer options)
    (leftOver : LeftOver options word) :
    LeftOver fewer word := by
  by_cases dash : word.head? = some '-'
  · rw [leftOver_iff dash] at leftOver ⊢
    obtain ⟨separator, whole, single | ⟨read, tuples⟩⟩ := leftOver
    · exact ⟨separator, among.lookup_eq_none whole, .inl single⟩
    · exact ⟨separator, among.lookup_eq_none whole,
        .inr ⟨among.readAssignment_eq_none read,
          among.optionTuples_eq_nil tuples⟩⟩
  · exact .inl (isValue_of_head dash)

/-- An option is paired with the value behind it. -/
theorem parseKnownArgs_pair
    {option : α}
    (isFlag : readArgument parser.options word = some (.flag option))
    (takesValue : parser.isSwitch option = false)
    (isValue : IsValue parser.options operand) :
    parseKnownArgs parser (word :: operand :: rest) =
      (parseKnownArgs parser rest).map fun parsed =>
        ((option, operand) :: parsed.1, parsed.2) := by
  rw [IsValue] at isValue
  rw [parseKnownArgs, isFlag]
  simp only [takesValue, Bool.false_eq_true, ↓reduceIte, isValue]

/-- Options are paired with the values behind them, in order. -/
theorem parseKnownArgs_pairs
    {pairs : List (Text × α × Text)}
    (known :
      ∀ pair ∈ pairs,
        readArgument parser.options pair.1 = some (.flag pair.2.1) ∧
          IsValue parser.options pair.2.2)
    (takeValues : ∀ pair ∈ pairs, parser.isSwitch pair.2.1 = false)
    (rest : List Text) :
    parseKnownArgs parser
        ((pairs.flatMap fun pair => [pair.1, pair.2.2]) ++ rest) =
      (parseKnownArgs parser rest).map fun parsed =>
        (pairs.map Prod.snd ++ parsed.1, parsed.2) := by
  induction pairs with
  | nil =>
      simp
  | cons pair pairs inductionHypothesis =>
      obtain ⟨isFlag, isValue⟩ := known pair List.mem_cons_self
      simp only [List.flatMap_cons, List.cons_append, List.nil_append]
      rw [parseKnownArgs_pair isFlag (takeValues pair List.mem_cons_self)
          isValue,
        inductionHypothesis
          (fun other member => known other (List.mem_cons_of_mem pair member))
          fun other member =>
            takeValues other (List.mem_cons_of_mem pair member),
        Option.map_map]
      rfl

/-- An option with its value behind an equals sign. -/
theorem readArgument_assignment
    {name : Text}
    {option : α}
    (known : options.lookup name = some option)
    (dashed : name.head? = some '-')
    (plain : '=' ∉ name)
    (others : ∀ other ∈ options, '=' ∉ other.1)
    (operand : Text) :
    readArgument options (name ++ '=' :: operand) =
      some (.assignment option operand) := by
  have unlike : options.lookup (name ++ '=' :: operand) = none := by
    rw [List.lookup_eq_none_iff]
    intro other member
    have differs : name ++ '=' :: operand ≠ other.1 := by
      intro same
      refine others other member ?_
      rw [← same]
      exact List.mem_append_right name List.mem_cons_self
    simpa using differs
  have noSign : ∀ character ∈ name, character ≠ '=' := by
    rintro character member rfl
    exact plain member
  have front : (name ++ '=' :: operand).takeWhile (· ≠ '=') = name := by
    rw [List.takeWhile_append_of_pos (by simpa using noSign)]
    simp
  have back :
      (name ++ '=' :: operand).dropWhile (· ≠ '=') = '=' :: operand := by
    rw [List.dropWhile_append_of_pos (by simpa using noSign)]
    simp
  have single : name ++ '=' :: operand ≠ ['-', '-'] := by
    intro same
    have member : '=' ∈ ['-', '-'] := by
      rw [← same]
      exact List.mem_append_right name List.mem_cons_self
    revert member
    decide
  have longer : name ++ '=' :: operand ≠ ['-'] := by
    intro same
    have member : '=' ∈ ['-'] := by
      rw [← same]
      exact List.mem_append_right name List.mem_cons_self
    revert member
    decide
  rw [readArgument, if_neg (by simp [List.head?_append, dashed]),
    if_neg single, if_neg longer, unlike]
  simp only [readAssignment, front, back, known, Option.map_some]

theorem parseKnownArgs_assignment
    {option : α}
    (isAssignment :
      readArgument parser.options word = some (.assignment option operand))
    (takesValue : parser.isSwitch option = false) :
    parseKnownArgs parser (word :: rest) =
      (parseKnownArgs parser rest).map fun parsed =>
        ((option, operand) :: parsed.1, parsed.2) := by
  rw [parseKnownArgs, isAssignment]
  simp only [takesValue, Bool.false_eq_true, ↓reduceIte]

/-- Other words are left over in order. -/
theorem parseKnownArgs_skip (leftOver : LeftOver parser.options word) :
    parseKnownArgs parser (word :: rest) =
      (parseKnownArgs parser rest).map fun parsed =>
        (parsed.1, word :: parsed.2) := by
  rw [parseKnownArgs]
  rcases leftOver with isValue | unknown
  · simp only [isValue]
  · simp only [unknown]

theorem parseKnownArgs_leftOver
    {words : List Text}
    (leftOver : ∀ word ∈ words, LeftOver parser.options word) :
    parseKnownArgs parser (words ++ rest) =
      (parseKnownArgs parser rest).map fun parsed =>
        (parsed.1, words ++ parsed.2) := by
  induction words with
  | nil =>
      simp
  | cons word words inductionHypothesis =>
      rw [List.cons_append,
        parseKnownArgs_skip (leftOver word List.mem_cons_self),
        inductionHypothesis fun other member =>
          leftOver other (List.mem_cons_of_mem word member),
        Option.map_map]
      rfl

/-- A parser that succeeds has taken the options it returns. -/
theorem takenActions_of_parseKnownArgs
    {words : List Text}
    {parsed : Parsed α}
    (isParsed : parseKnownArgs parser words = some parsed) :
    takenActions parser words = parsed.1 := by
  revert parsed
  induction words using parseKnownArgs.induct parser with
  | case1 =>
      rintro parsed ⟨⟩
      rfl
  | case2 word rest read inductionHypothesis
  | case3 word rest read inductionHypothesis =>
      intro parsed isParsed
      simp only [parseKnownArgs, read, Option.map_eq_some_iff] at isParsed
      obtain ⟨others, isOthers, rfl⟩ := isParsed
      simp only [takenActions, read, inductionHypothesis isOthers]
  | case4 word rest read =>
      intro parsed isParsed
      simp only [parseKnownArgs, read, Option.some.injEq] at isParsed
      subst isParsed
      simp only [takenActions, read]
  | case5 word rest option operand read isSwitch =>
      intro parsed isParsed
      simp [parseKnownArgs, read, isSwitch] at isParsed
  | case6 word rest option operand read takesValue inductionHypothesis =>
      intro parsed isParsed
      simp only [parseKnownArgs, read, takesValue, Bool.false_eq_true,
        ↓reduceIte, Option.map_eq_some_iff] at isParsed
      obtain ⟨others, isOthers, rfl⟩ := isParsed
      simp only [takenActions, read, takesValue, Bool.false_eq_true,
        ↓reduceIte, inductionHypothesis isOthers]
  | case7 word rest option read isSwitch inductionHypothesis =>
      intro parsed isParsed
      simp only [parseKnownArgs, read, isSwitch, ↓reduceIte,
        Option.map_eq_some_iff] at isParsed
      obtain ⟨others, isOthers, rfl⟩ := isParsed
      simp only [takenActions, read, isSwitch, ↓reduceIte,
        inductionHypothesis isOthers]
  | case8 word option read takesValue =>
      intro parsed isParsed
      simp [parseKnownArgs, read, takesValue] at isParsed
  | case9 word option read takesValue operand behind isValue
      inductionHypothesis =>
      intro parsed isParsed
      simp only [parseKnownArgs, read, takesValue, isValue,
        Bool.false_eq_true, ↓reduceIte, Option.map_eq_some_iff] at isParsed
      obtain ⟨others, isOthers, rfl⟩ := isParsed
      simp only [takenActions, read, takesValue, isValue, Bool.false_eq_true,
        ↓reduceIte, inductionHypothesis isOthers]
  | case10 word option read takesValue operand behind notValue =>
      intro parsed isParsed
      simp [parseKnownArgs, read, takesValue] at isParsed
  | case11 word rest read =>
      intro parsed isParsed
      simp [parseKnownArgs, read] at isParsed

end Words

end ArgumentParser
