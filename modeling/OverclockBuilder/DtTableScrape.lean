import Mathlib.Data.List.Infix
import OverclockBuilder.DtTable

namespace OverclockBuilder

open RadixText WordText BytePacking CNumber BashText

/-!
# Scraping the dump

The script takes five fields out of the text of `mkdtboimg.py dump` with `awk`
programs that stop at the first matching line, and cuts the device tree out of
the table with `dd`.
-/

/-- `awk '/PATTERN/ {print $FIELD; exit}'` -/
def awkFirst
    (pattern : Text → Bool)
    (field : Nat)
    (lines : List Text) :
    Text :=
  match lines.find? pattern with
  | some line => awkField field line
  | none => []

/-- A pattern without special characters matches anywhere in the line. -/
def contains (pattern line : Text) : Bool :=
  decide (pattern <:+: line)

/-- `/^[[:space:]]*version[[:space:]]*=/` -/
def isVersionLine (line : Text) : Bool :=
  let body := line.dropWhile isSpace
  "version".toList.isPrefixOf body &&
    ((body.drop "version".toList.length).dropWhile isSpace).head? = some '='

/-- `DT_COUNT` -/
def dtCount (dtinfo : List Text) : Text :=
  awkFirst (contains "dt_entry_count".toList) 3 dtinfo

/-- `DT_OFFSET` -/
def dtOffset (dtinfo : List Text) : Text :=
  awkFirst (contains "dt_offset".toList) 3 dtinfo

/-- `DT_SIZE` -/
def dtSize (dtinfo : List Text) : Text :=
  awkFirst (contains "dt_size".toList) 3 dtinfo

/-- `PAGE_SIZE` -/
def pageSize (dtinfo : List Text) : Text :=
  awkFirst (contains "page_size".toList) 3 dtinfo

/-- `DT_VERSION` -/
def dtVersion (dtinfo : List Text) : Text :=
  awkFirst isVersionLine 3 dtinfo

/-- `dd bs=1 skip=SKIP count=COUNT` of a regular file -/
def ddExtract (skip count : Text) (file : Bytes) : Option Bytes := do
  let skipped ← pyInt 10 skip
  let counted ← pyInt 10 count
  some ((file.drop skipped).take counted)

/-! ## Lines -/

/-- A blank-free pattern does not reach over a space. -/
theorem infix_append_space_iff
    {pattern : Text}
    (spaceless : ' ' ∉ pattern)
    (nonempty : pattern ≠ [])
    (before behind : Text) :
    pattern <:+: before ++ ' ' :: behind ↔
      pattern <:+: before ∨ pattern <:+: behind := by
  refine ⟨?_, ?_⟩
  · rintro ⟨front, back, same⟩
    rw [List.append_assoc, List.append_eq_append_iff] at same
    rcases same with ⟨inside, rfl, same⟩ | ⟨inside, rfl, same⟩
    · -- the match starts in front of the space
      rw [List.append_eq_append_iff] at same
      rcases same with ⟨rest, rfl, -⟩ | ⟨rest, rfl, same⟩
      · exact .inl ⟨front, rest, by simp⟩
      · cases rest with
        | nil =>
            exact .inl ⟨front, [], by simp⟩
        | cons head rest =>
            rw [List.cons_append, List.cons.injEq] at same
            exact (spaceless (by simp [← same.1])).elim
    · cases inside with
      | nil =>
          cases pattern with
          | nil =>
              exact (nonempty rfl).elim
          | cons head rest =>
              simp only [List.nil_append, List.cons_append,
                List.cons.injEq] at same
              exact (spaceless (same.1 ▸ List.mem_cons_self)).elim
      | cons head rest =>
          simp only [List.cons_append, List.cons.injEq] at same
          exact .inr ⟨rest, back, by simp [same.2]⟩
  · rintro (inFront | inBack)
    · exact inFront.trans (List.prefix_append _ _).isInfix
    · refine inBack.trans ?_
      exact ((List.suffix_cons ' ' behind).trans
        (List.suffix_append _ _)).isInfix

/-- A key with its padding. -/
def paddedKey (key : Text) : Text :=
  List.replicate (20 - key.length) ' ' ++ key

/-- A pattern with an underscore is looked for in the key only. -/
theorem contains_keyLine
    {pattern value : Text}
    (spaceless : ' ' ∉ pattern)
    (underscore : '_' ∈ pattern)
    (plain : '_' ∉ value)
    (key : Text) :
    contains pattern (keyLine key value) =
      contains pattern (paddedKey key) := by
  have nonempty : pattern ≠ [] := List.ne_nil_of_mem underscore
  have line :
      keyLine key value = paddedKey key ++ ' ' :: ("= ".toList ++ value) := by
    simp [keyLine, paddedKey]
  have notBehind : ¬ pattern <:+: "= ".toList ++ value := by
    intro matched
    have member := matched.subset underscore
    rw [List.mem_append] at member
    rcases member with mark | inValue
    · exact absurd mark (by decide)
    · exact plain inValue
  rw [contains, contains, line]
  exact decide_eq_decide.mpr
    ((infix_append_space_iff spaceless nonempty _ _).trans
      (or_iff_left notBehind))

/-- Printed numbers are solid and have no underscore. -/
theorem printed_of_toDigits
    {base value : Nat}
    (atLeastTwo : 1 < base)
    (baseBound : base ≤ 16) :
    Solid isIfsBlank (Nat.toDigits base value) ∧
      '_' ∉ Nat.toDigits base value := by
  refine ⟨⟨Nat.toDigits_ne_nil, ?_⟩, ?_⟩
  · intro digit member
    have alphanumeric := (mem_toDigits atLeastTwo baseBound member).1
    cases blank : isIfsBlank digit with
    | false =>
        rfl
    | true =>
        simp only [isIfsBlank, Bool.or_eq_true, decide_eq_true_eq] at blank
        rcases blank with (rfl | rfl) | rfl <;>
          exact absurd alphanumeric (by decide)
  · intro member
    exact absurd (mem_toDigits atLeastTwo baseBound member).1 (by decide)

theorem printUnsigned_printed (value : Nat) :
    Solid isIfsBlank (printUnsigned value) ∧ '_' ∉ printUnsigned value :=
  printed_of_toDigits (by decide) (by decide)

theorem formatHex08_underscore (value : Nat) : '_' ∉ formatHex08 value := by
  rw [formatHex08, List.mem_append, List.mem_replicate]
  rintro (⟨-, zero⟩ | digit)
  · exact absurd zero (by decide)
  · have printed :
        Solid isIfsBlank (Nat.toDigits 16 value) ∧
          '_' ∉ Nat.toDigits 16 value :=
      printed_of_toDigits (by decide) (by decide)
    exact printed.2 digit

/-- Blanks in front of a text do not change its words. -/
theorem words_replicate_append
    (count : Nat)
    (text : Text) :
    words isIfsBlank (List.replicate count ' ' ++ text) =
      words isIfsBlank text := by
  induction count with
  | zero =>
      rfl
  | succ count inductionHypothesis =>
      have cut :
          words isIfsBlank ([] ++ ' ' :: (List.replicate count ' ' ++ text)) =
            words isIfsBlank [] ++
              words isIfsBlank (List.replicate count ' ' ++ text) :=
        words_append_separator (by decide) [] _
      rw [List.nil_append, words_nil, List.nil_append] at cut
      rw [List.replicate_succ, List.cons_append, cut, inductionHypothesis]

/-- The third field of a key line is its value. -/
theorem awkField_keyLine
    {key value : Text}
    (solidKey : Solid isIfsBlank key)
    (solidValue : Solid isIfsBlank value) :
    awkField 3 (keyLine key value) = value := by
  have joined :
      key ++ " = ".toList ++ value =
        [' '].intercalate [key, "=".toList, value] := by
    simp [List.intercalate]
  have cut :
      words isIfsBlank (keyLine key value) = [key, "=".toList, value] := by
    rw [keyLine, List.append_assoc, List.append_assoc,
      words_replicate_append, ← List.append_assoc, joined]
    apply words_intercalate_of_solid (by decide)
    intro text member
    simp only [List.mem_cons, List.not_mem_nil, or_false] at member
    rcases member with rfl | rfl | rfl
    · exact solidKey
    · decide
    · exact solidValue
  rw [awkField, cut]
  rfl

/-- Lines without a match are passed over. -/
theorem awkFirst_skip
    {pattern : Text → Bool}
    {passed : List Text}
    (unmatched : ∀ line ∈ passed, pattern line = false)
    (field : Nat)
    (rest : List Text) :
    awkFirst pattern field (passed ++ rest) =
      awkFirst pattern field rest := by
  have none : passed.find? pattern = none := by
    rw [List.find?_eq_none]
    intro line member
    simp [unmatched line member]
  rw [awkFirst, awkFirst, List.find?_append, none, Option.none_or]

theorem awkFirst_cons
    {pattern : Text → Bool}
    {line : Text}
    (matched : pattern line = true)
    (field : Nat)
    (rest : List Text) :
    awkFirst pattern field (line :: rest) = awkField field line := by
  rw [awkFirst, List.find?_cons_of_pos matched]

/-! ## The fields of a dump -/

/-- A key and a value as the dump prints them. -/
structure Printed (field : Text × Text) : Prop where
  key : Solid isIfsBlank field.1
  value : Solid isIfsBlank field.2
  plain : '_' ∉ field.2

/-- The first matching key line below a title gives the value. -/
theorem awkFirst_titledLines
    {pattern : Text → Bool}
    {title : Text}
    (notTitle : pattern title = false)
    (before : List (Text × Text))
    (unmatched :
      ∀ field ∈ before, pattern (keyLine field.1 field.2) = false)
    {key value : Text}
    (printed : Printed (key, value))
    (matched : pattern (keyLine key value) = true)
    (behind : List (Text × Text))
    (rest : List Text) :
    awkFirst pattern 3
        (titledLines title (before ++ (key, value) :: behind) ++ rest) =
      value := by
  have lines :
      titledLines title (before ++ (key, value) :: behind) ++ rest =
        (title :: before.map fun field => keyLine field.1 field.2) ++
          keyLine key value ::
            ((behind.map fun field => keyLine field.1 field.2) ++
              rest) := by
    simp [titledLines]
  rw [lines, awkFirst_skip ?_, awkFirst_cons matched,
    awkField_keyLine printed.key printed.value]
  intro line member
  rcases List.mem_cons.mp member with rfl | inFields
  · exact notTitle
  · obtain ⟨field, inside, rfl⟩ := List.mem_map.mp inFields
    exact unmatched field inside

theorem printed_decimal
    {key : Text}
    (solid : Solid isIfsBlank key)
    (value : Nat) :
    Printed (key, printUnsigned value) :=
  ⟨solid, (printUnsigned_printed value).1, (printUnsigned_printed value).2⟩

/-- Lines whose keys do not contain the pattern are passed over. -/
theorem contains_unmatched
    {pattern : Text}
    (spaceless : ' ' ∉ pattern)
    (underscore : '_' ∈ pattern)
    {fields : List (Text × Text)}
    (plain : ∀ field ∈ fields, '_' ∉ field.2)
    (keys : List Text)
    (named : fields.map Prod.fst = keys)
    (absent : ∀ key ∈ keys, contains pattern (paddedKey key) = false) :
    ∀ field ∈ fields,
      contains pattern (keyLine field.1 field.2) = false := by
  intro field member
  rw [contains_keyLine spaceless underscore (plain field member)]
  exact absent field.1 (named ▸ List.mem_map_of_mem member)

/-- The keys of the header. -/
def headerKeys : List Text :=
  ["magic".toList, "total_size".toList, "header_size".toList,
    "dt_entry_size".toList, "dt_entry_count".toList,
    "dt_entries_offset".toList, "page_size".toList, "version".toList]

theorem Dtbo.fields_plain
    (table : Dtbo)
    {field : Text × Text}
    (member : field ∈ table.fields) :
    '_' ∉ field.2 := by
  simp only [Dtbo.fields, List.mem_cons, List.not_mem_nil, or_false]
    at member
  rcases member with
    rfl | rfl | rfl | rfl | rfl | rfl | rfl | rfl
  · exact formatHex08_underscore table.magic
  all_goals exact (printUnsigned_printed _).2

/-- `DT_COUNT` is the number of rows. -/
theorem dtCount_str (table : Dtbo) :
    dtCount table.str = printUnsigned table.dtEntryCount := by
  refine awkFirst_titledLines (by decide +kernel) (table.fields.take 4) ?_
    (printed_decimal (by decide) _) ?_
    (table.fields.drop 5) _
  · refine contains_unmatched (by decide) (by decide) ?_
      (headerKeys.take 4) rfl (by decide +kernel)
    intro field member
    exact table.fields_plain (List.mem_of_mem_take member)
  · rw [contains_keyLine (by decide) (by decide)
      (printUnsigned_printed _).2]
    decide +kernel

/-- `PAGE_SIZE` is the page size. -/
theorem pageSize_str (table : Dtbo) :
    pageSize table.str = printUnsigned table.pageSize := by
  refine awkFirst_titledLines (by decide +kernel) (table.fields.take 6) ?_
    (printed_decimal (by decide) _) ?_
    (table.fields.drop 7) _
  · refine contains_unmatched (by decide) (by decide) ?_
      (headerKeys.take 6) rfl (by decide +kernel)
    intro field member
    exact table.fields_plain (List.mem_of_mem_take member)
  · rw [contains_keyLine (by decide) (by decide)
      (printUnsigned_printed _).2]
    decide +kernel

/-- A key that does not start with a `v` is not the version. -/
theorem isVersionLine_keyLine
    {head : Char}
    (notV : head ≠ 'v')
    (notSpace : isSpace head = false)
    (key value : Text) :
    isVersionLine (keyLine (head :: key) value) = false := by
  have body :
      (keyLine (head :: key) value).dropWhile isSpace =
        head :: key ++ " = ".toList ++ value := by
    rw [keyLine, List.append_assoc, List.append_assoc,
      List.dropWhile_append_of_pos (by
        intro character member
        rw [(List.mem_replicate.mp member).2]
        decide),
      List.cons_append, List.dropWhile_cons_of_neg (by simp [notSpace])]
    simp
  have noPrefix :
      "version".toList.isPrefixOf (head :: key ++ " = ".toList ++ value) =
        false := by
    rw [Bool.eq_false_iff, ne_eq, List.isPrefixOf_iff_prefix]
    rintro ⟨rest, same⟩
    have heads := congrArg List.head? same
    exact notV (by simpa using heads.symm)
  rw [isVersionLine, body, noPrefix, Bool.false_and]

/-- `DT_VERSION` is the version. -/
theorem dtVersion_str (table : Dtbo) :
    dtVersion table.str = printUnsigned table.version := by
  refine awkFirst_titledLines (by decide +kernel) (table.fields.take 7) ?_
    (printed_decimal (by decide) _) ?_
    [] _
  · intro field member
    have named : field.1 ∈ headerKeys.take 7 :=
      List.mem_map_of_mem (f := Prod.fst) member
    have other :
        ∀ key ∈ headerKeys.take 7, ∃ head rest,
          key = head :: rest ∧ head ≠ 'v' ∧ isSpace head = false := by
      intro key inKeys
      cases key with
      | nil =>
          exact absurd inKeys (by decide +kernel)
      | cons head rest =>
          refine ⟨head, rest, rfl, ?_⟩
          have heads :
              ∀ key ∈ headerKeys.take 7, key.head?.all
                (fun head => head ≠ 'v' ∧ isSpace head = false) = true := by
            decide +kernel
          exact of_decide_eq_true (heads _ inKeys)
    obtain ⟨head, rest, isKey, notV, notSpace⟩ := other field.1 named
    rw [isKey]
    exact isVersionLine_keyLine notV notSpace rest field.2
  · rfl

/-- The rows of the dump start with row zero. -/
theorem Dtbo.str_of_cons
    {table : Dtbo}
    {entry : DtEntry}
    {others : List DtEntry}
    (rows : table.dtEntries = entry :: others) :
    ∃ rest,
      table.str =
        titledLines "dt_table_header:".toList table.fields ++
          (titledLines "dt_table_entry[0]:".toList entry.fields ++ rest) := by
  have title :
      "dt_table_entry[".toList ++ printUnsigned 0 ++ "]:".toList =
        "dt_table_entry[0]:".toList := by
    decide +kernel
  rw [← title, Dtbo.str, rows, List.zipIdx_cons, List.flatMap_cons]
  exact ⟨_, rfl⟩

/-- No header line matches a pattern that no header key contains. -/
theorem titledLines_unmatched
    {pattern : Text}
    (spaceless : ' ' ∉ pattern)
    (underscore : '_' ∈ pattern)
    (notTitle : contains pattern "dt_table_header:".toList = false)
    (absent :
      ∀ key ∈ headerKeys, contains pattern (paddedKey key) = false)
    (table : Dtbo) :
    ∀ line ∈ titledLines "dt_table_header:".toList table.fields,
      contains pattern line = false := by
  intro line member
  rcases List.mem_cons.mp member with rfl | inFields
  · exact notTitle
  · obtain ⟨field, inside, rfl⟩ := List.mem_map.mp inFields
    exact contains_unmatched spaceless underscore
      (fun field member => table.fields_plain member) headerKeys rfl absent
      field inside

section FirstEntry

variable {table : Dtbo} {entry : DtEntry} {others : List DtEntry}

/-- `DT_SIZE` is the size of the first row. -/
theorem dtSize_str (rows : table.dtEntries = entry :: others) :
    dtSize table.str = printUnsigned entry.dtSize := by
  obtain ⟨rest, lines⟩ := Dtbo.str_of_cons rows
  rw [dtSize, lines, awkFirst_skip
    (titledLines_unmatched (by decide) (by decide) (by decide +kernel)
      (by decide +kernel) table)]
  refine awkFirst_titledLines (by decide +kernel) [] (by simp)
    (printed_decimal (by decide) _) ?_ (entry.fields.drop 1) rest
  rw [contains_keyLine (by decide) (by decide) (printUnsigned_printed _).2]
  decide +kernel

/-- `DT_OFFSET` is the offset of the first row. -/
theorem dtOffset_str (rows : table.dtEntries = entry :: others) :
    dtOffset table.str = printUnsigned entry.dtOffset := by
  obtain ⟨rest, lines⟩ := Dtbo.str_of_cons rows
  rw [dtOffset, lines, awkFirst_skip
    (titledLines_unmatched (by decide) (by decide) (by decide +kernel)
      (by decide +kernel) table)]
  refine awkFirst_titledLines (by decide +kernel)
    [("dt_size".toList, printUnsigned entry.dtSize)] ?_
    (printed_decimal (by decide) _) ?_
    (entry.fields.drop 2) rest
  · refine contains_unmatched (by decide) (by decide) ?_
      ["dt_size".toList] rfl (by decide +kernel)
    intro field member
    rw [List.mem_singleton.mp member]
    exact (printUnsigned_printed _).2
  · rw [contains_keyLine (by decide) (by decide)
      (printUnsigned_printed _).2]
    decide +kernel

end FirstEntry

end OverclockBuilder
