import Mathlib.Data.List.Chain
import OverclockBuilder.AvbScrape

namespace OverclockBuilder

open RadixText WordText BytePacking CNumber BashText LineText

/-!
# The fingerprint property

The script keeps one property of the vbmeta: it greps the line of the
fingerprint, cuts the value out of it with `sed`, and hands the value to
`avbtool.py add_hash_footer --prop`.
-/

/-- `com.android.build.vendor_boot.fingerprint` -/
def fingerprintKey : Text :=
  "com.android.build.vendor_boot.fingerprint".toList

/-! ## grep and sed -/

/-- A regular expression of dots and plain characters matches here. -/
def matchesHere : Text → Text → Bool
  | [], _ => true
  | _ :: _, [] => false
  | symbol :: pattern, character :: rest =>
      (symbol = '.' || symbol = character) && matchesHere pattern rest

/-- `grep "Prop: com.android.build.vendor_boot.fingerprint"` -/
def isFingerprintLine (line : Text) : Bool :=
  line.tails.any (matchesHere ("Prop: ".toList ++ fingerprintKey))

/-- `sed` looks for this in front of the value. -/
def valueMark : Text :=
  " -> ".toList ++ [singleQuote]

/-- `sed -n "s/.* -> '\(.*\)'/\1/p"` on one line, both stars being greedy -/
def sedValue (line : Text) : Text :=
  match cutLast [singleQuote] line with
  | none => []
  | some (matched, unmatched) =>
      match cutLast valueMark matched with
      | none => []
      | some (_, value) => value ++ unmatched

section Script

variable (isBinary : Text → Bool)

/--
`PROP_LINE`

`grep` shows no lines of a file it takes for binary data, which it does when it
has met a NUL character.
-/
def propLine (avbInfo : Text) : Text :=
  if isBinary avbInfo then
    []
  else
    match (lines avbInfo).find? isFingerprintLine with
    | some line => capture line
    | none => []

/-- `PROP_VALUE`; `sed` prints no NUL characters for a captured line. -/
def propValue (avbInfo : Text) : Text :=
  sedValue (propLine isBinary avbInfo)

end Script

/-- The `--prop` of `AVB_ARGS`, if the value is not empty. -/
def propArguments (propValue : Text) : List Text :=
  if propValue = [] then
    []
  else
    [fingerprintKey ++ ":".toList ++ propValue]

/-- One `--prop KEY:VALUE`; without a colon `avbtool.py` raises. -/
def parseProp (prop : Text) : Option AvbPropertyDescriptor :=
  if ':' ∈ prop then
    some {
      key := prop.takeWhile (· ≠ ':')
      value := encodeUtf8 ((prop.dropWhile (· ≠ ':')).drop 1) }
  else
    none

/-- The property descriptors `_generate_vbmeta_blob` adds. -/
def generatedProperties (props : List Text) : Option (List AvbDescriptor) :=
  (props.mapM parseProp).map (List.map .property)

/-- The value of a fingerprint property. -/
def AvbDescriptor.fingerprint? : AvbDescriptor → Option Bytes
  | .property desc =>
      if desc.key = fingerprintKey then some desc.value else none
  | _ => none

/-- The value of the first fingerprint property. -/
def fingerprint? (descriptors : List AvbDescriptor) : Option Bytes :=
  descriptors.findSome? AvbDescriptor.fingerprint?

/-- The argument of the fingerprint splits behind its key. -/
theorem parseProp_fingerprint (propValue : Text) :
    parseProp (fingerprintKey ++ ":".toList ++ propValue) =
      some ⟨fingerprintKey, encodeUtf8 propValue⟩ := by
  have noColon :
      fingerprintKey.all (fun character => character ≠ ':') = true := by
    decide +kernel
  have keyed :
      ∀ character ∈ fingerprintKey, decide (character ≠ ':') = true :=
    List.all_eq_true.mp noColon
  have whole :
      fingerprintKey ++ ":".toList ++ propValue =
        fingerprintKey ++ ':' :: propValue := by
    simp
  rw [whole, parseProp, if_pos (by simp),
    List.takeWhile_append_of_pos keyed,
    List.dropWhile_append_of_pos keyed]
  simp

/-- What becomes of a captured value -/
theorem fingerprint?_generatedProperties (propValue : Text) :
    (generatedProperties (propArguments propValue)).map fingerprint? =
      some (if propValue = [] then none else some (encodeUtf8 propValue)) := by
  by_cases empty : propValue = []
  · rw [propArguments, if_pos empty, if_pos empty]
    rfl
  · rw [propArguments, if_neg empty, if_neg empty, generatedProperties,
      List.mapM_cons, parseProp_fingerprint]
    simp [fingerprint?, AvbDescriptor.fingerprint?]

/-! ## Escaped bytes -/

/-- A property of all bytes, checked number by number -/
theorem forall_byte
    {holds : UInt8 → Prop}
    (checked : ∀ number < 256, holds (UInt8.ofNat number)) :
    ∀ byte, holds byte := by
  intro byte
  have here := checked byte.toNat byte.toNat_lt
  rwa [UInt8.ofNat_toNat] at here

/-- A byte that `repr` shows as it is and `sed` does not stop at. -/
def isPlainByte (byte : UInt8) : Bool :=
  32 ≤ byte.toNat && byte.toNat < 127 && byteChar byte ≠ singleQuote &&
    byteChar byte ≠ '\\'

/-- A character on the line -/
def isVisible (character : Char) : Bool :=
  32 ≤ character.toNat && character.toNat < 127

/-- A quote follows a backslash only. -/
def Escaped (text : Text) : Prop :=
  text.IsChain fun first second => second = singleQuote → first = '\\'

instance (text : Text) : Decidable (Escaped text) :=
  inferInstanceAs (Decidable (List.IsChain _ _))

theorem reprByte_visible :
    ∀ byte, (reprByte singleQuote byte).all isVisible = true ∧
      (reprByte doubleQuote byte).all isVisible = true :=
  forall_byte (by decide +kernel)

theorem reprByte_escaped :
    ∀ byte, Escaped (reprByte singleQuote byte) ∧
      reprByte singleQuote byte ≠ [] ∧
        (reprByte singleQuote byte).head? ≠ some singleQuote :=
  forall_byte (by decide +kernel)

/-- Plain bytes stay, and the others get longer. -/
theorem encodeUtf8_reprByte :
    ∀ byte,
      (isPlainByte byte = true →
        encodeUtf8 (reprByte singleQuote byte) = [byte]) ∧
      (isPlainByte byte = false →
        2 ≤ (encodeUtf8 (reprByte singleQuote byte)).length) :=
  forall_byte (by decide +kernel)

/-- The text between apostrophes. -/
def escapeText (value : Bytes) : Text :=
  value.flatMap (reprByte singleQuote)

theorem escapeText_cons
    (byte : UInt8)
    (rest : Bytes) :
    escapeText (byte :: rest) =
      reprByte singleQuote byte ++ escapeText rest :=
  List.flatMap_cons

theorem escapeText_eq_nil_iff (value : Bytes) :
    escapeText value = [] ↔ value = [] := by
  cases value with
  | nil =>
      simp [escapeText]
  | cons byte rest =>
      have nonempty := (reprByte_escaped byte).2.1
      simp [escapeText_cons, nonempty]

/-- Every apostrophe of an escaped value has its backslash. -/
theorem escapeText_escaped (value : Bytes) :
    Escaped (escapeText value) ∧
      (escapeText value).head? ≠ some singleQuote := by
  induction value with
  | nil =>
      exact ⟨List.IsChain.nil, by simp [escapeText]⟩
  | cons byte rest inductionHypothesis =>
      obtain ⟨escaped, nonempty, headed⟩ := reprByte_escaped byte
      rw [escapeText_cons]
      refine ⟨List.IsChain.append escaped inductionHypothesis.1 ?_, ?_⟩
      · intro last _ head isHead isQuote
        exact (inductionHypothesis.2 (isQuote ▸ isHead)).elim
      · rwa [List.head?_append_of_ne_nil _ nonempty]

theorem length_le_encodeUtf8_escapeText (value : Bytes) :
    value.length ≤ (encodeUtf8 (escapeText value)).length := by
  induction value with
  | nil =>
      exact Nat.zero_le _
  | cons byte rest inductionHypothesis =>
      have here : 1 ≤ (encodeUtf8 (reprByte singleQuote byte)).length := by
        cases plain : isPlainByte byte with
        | true =>
            rw [(encodeUtf8_reprByte byte).1 plain]
            exact Nat.le_refl 1
        | false =>
            have long := (encodeUtf8_reprByte byte).2 plain
            omega
      rw [escapeText_cons, encodeUtf8_append, List.length_append,
        List.length_cons]
      omega

/-- Escaping is undone by reading the text as UTF-8 for plain bytes only. -/
theorem encodeUtf8_escapeText_iff (value : Bytes) :
    encodeUtf8 (escapeText value) = value ↔
      value.all isPlainByte = true := by
  induction value with
  | nil =>
      simp [escapeText, encodeUtf8]
  | cons byte rest inductionHypothesis =>
      rw [escapeText_cons, encodeUtf8_append, List.all_cons,
        Bool.and_eq_true]
      cases plain : isPlainByte byte with
      | true =>
          rw [(encodeUtf8_reprByte byte).1 plain, List.singleton_append,
            List.cons.injEq, inductionHypothesis]
          simp
      | false =>
          have long := (encodeUtf8_reprByte byte).2 plain
          have behind := length_le_encodeUtf8_escapeText rest
          refine ⟨fun same => ?_, fun wrong => by simp at wrong⟩
          have lengths := congrArg List.length same
          rw [List.length_append, List.length_cons] at lengths
          omega

/-! ## What `sed` cuts out -/

/-- An escaped value is cut out whole. -/
theorem sedValue_escapeText
    (label : Text)
    (value : Bytes) :
    sedValue
        (label ++ valueMark ++ escapeText value ++ [singleQuote]) =
      escapeText value := by
  have lastQuote :
      cutLast [singleQuote]
          (label ++ valueMark ++ escapeText value ++ [singleQuote]) =
        some (label ++ valueMark ++ escapeText value ++ [], []) :=
    cutLast_append rfl _
  have unmarked : ¬ valueMark <:+: escapeText value := by
    rintro ⟨front, back, whole⟩
    have escaped : Escaped (front ++ valueMark ++ back) :=
      whole ▸ (escapeText_escaped value).1
    have marked : Escaped valueMark :=
      List.IsChain.right_of_append (List.IsChain.left_of_append escaped)
    exact absurd marked (by decide)
  -- only the first place of the mark is one
  have none₁ : cutLast valueMark (singleQuote :: escapeText value) = none :=
    cutLast_cons_of_not_prefix (cutLast_eq_none unmarked) rfl
  have none₂ :
      cutLast valueMark (' ' :: singleQuote :: escapeText value) = none :=
    cutLast_cons_of_not_prefix none₁ rfl
  have none₃ :
      cutLast valueMark ('>' :: ' ' :: singleQuote :: escapeText value) =
        none :=
    cutLast_cons_of_not_prefix none₂ rfl
  have none₄ :
      cutLast valueMark
          ('-' :: '>' :: ' ' :: singleQuote :: escapeText value) = none :=
    cutLast_cons_of_not_prefix none₃ rfl
  have marked :
      cutLast valueMark (valueMark ++ escapeText value) =
        some ([], escapeText value) :=
    cutLast_cons_of_prefix none₄ rfl
  have lastMark := cutLast_append marked label
  rw [sedValue, lastQuote, List.append_nil, List.append_assoc]
  dsimp only
  rw [lastMark]
  exact List.append_nil _

/-- What stands behind the last apostrophe is kept. -/
theorem sedValue_ending
    {line : Text}
    {last : Char}
    (ends : line.getLast? = some last)
    (notQuote : last ≠ singleQuote) :
    sedValue line = [] ∨ last ∈ sedValue line := by
  rw [sedValue]
  cases cut : cutLast [singleQuote] line with
  | none =>
      exact .inl rfl
  | some halves =>
      obtain ⟨matched, unmatched⟩ := halves
      have whole := eq_of_cutLast cut
      have inTail : last ∈ unmatched := by
        rw [whole, List.append_assoc, List.getLast?_append] at ends
        cases unmatched with
        | nil =>
            exact (notQuote (by simpa using ends.symm)).elim
        | cons head rest =>
            rw [List.getLast?_append, List.getLast?_cons, Option.some_or,
              Option.some_or, ← List.getLast?_cons] at ends
            exact List.mem_of_getLast? ends
      cases value : cutLast valueMark matched with
      | none =>
          exact .inl (by simp only [value])
      | some parts =>
          right
          simp only [value]
          exact List.mem_append_right _ inTail

/-- Without an apostrophe nothing is printed. -/
theorem sedValue_of_not_mem
    {line : Text}
    (absent : singleQuote ∉ line) :
    sedValue line = [] := by
  have none : cutLast [singleQuote] line = none :=
    cutLast_eq_none fun inside => absent (inside.subset (by simp))
  rw [sedValue, none]

/-! ## The line of the fingerprint -/

/-- What the line of a fingerprint starts with. -/
def fingerprintLabel : Text :=
  "    Prop: ".toList ++ fingerprintKey

theorem matchesHere_self (pattern rest : Text) :
    matchesHere pattern (pattern ++ rest) = true := by
  induction pattern with
  | nil =>
      rfl
  | cons symbol pattern inductionHypothesis =>
      simp [matchesHere, inductionHypothesis]

/-- Characters that are not dots match themselves only. -/
theorem prefix_of_matchesHere
    {literal pattern text : Text}
    (undotted : '.' ∉ literal)
    (here : matchesHere (literal ++ pattern) text = true) :
    literal <+: text := by
  induction literal generalizing text with
  | nil =>
      exact List.nil_prefix
  | cons symbol literal inductionHypothesis =>
      cases text with
      | nil =>
          cases here
      | cons character rest =>
          rw [List.mem_cons, not_or] at undotted
          rw [List.cons_append, matchesHere, Bool.and_eq_true,
            Bool.or_eq_true, decide_eq_true_eq, decide_eq_true_eq] at here
          have same : symbol = character :=
            here.1.resolve_left fun dot => undotted.1 dot.symm
          rw [same]
          exact List.cons_prefix_cons.mpr
            ⟨rfl, inductionHypothesis undotted.2 here.2⟩

theorem isFingerprintLine_label (rest : Text) :
    isFingerprintLine (fingerprintLabel ++ rest) = true := by
  have indented :
      "    ".toList ++ ("Prop: ".toList ++ fingerprintKey ++ rest) =
        fingerprintLabel ++ rest := by
    rw [← List.append_assoc, ← List.append_assoc]
    rfl
  have here := matchesHere_self ("Prop: ".toList ++ fingerprintKey) rest
  rw [isFingerprintLine, List.any_eq_true]
  exact ⟨_, (List.mem_tails _ _).mpr ⟨_, indented⟩, here⟩

/-- `grep` passes over quiet lines. -/
theorem Quiet.not_fingerprintLine
    {line : Text}
    (quiet : Quiet line) :
    isFingerprintLine line = false := by
  have noProp : contains "Prop:".toList line = false := by
    simpa using List.all_eq_true.mp quiet.2 "Prop:".toList (by decide)
  rw [isFingerprintLine, List.any_eq_false]
  intro tail member here
  have starts : "Prop:".toList <+: tail :=
    prefix_of_matchesHere (by decide) here
  have inside : "Prop:".toList <:+: line :=
    starts.isInfix.trans ((List.mem_tails _ _).mp member).isInfix
  exact of_decide_eq_false noProp inside

/-- A value that survives: short, and of visible characters other than the
apostrophe and the backslash. -/
structure PlainValue (value : Bytes) : Prop where
  nonempty : value ≠ []
  short : value.length < 256
  plain : value.all isPlainByte = true

theorem isVisible_printUnsigned (value : Nat) :
    (printUnsigned value).all isVisible = true := by
  have digits : hexDigits.all isVisible = true := by
    decide
  rw [List.all_eq_true]
  intro digit member
  exact List.all_eq_true.mp digits digit (mem_printUnsigned member)

/-- The text of a bytes object is visible. -/
theorem isVisible_bytesLiteral (value : Bytes) :
    (bytesLiteral value).all isVisible = true := by
  have quoted
      {quote : Char}
      (isQuote : isVisible quote = true)
      (visible : ∀ byte, (reprByte quote byte).all isVisible = true) :
      (quote :: value.flatMap (reprByte quote) ++ [quote]).all isVisible =
        true := by
    rw [List.cons_append, List.all_cons, List.all_append, List.all_flatMap,
      isQuote]
    simp [isQuote, visible]
  rw [bytesLiteral, reprQuote]
  split
  · exact quoted (by decide) fun byte => (reprByte_visible byte).2
  · exact quoted (by decide) fun byte => (reprByte_visible byte).1

/-- A visible text is one line that the shell keeps as it is. -/
theorem visible_line
    {text : Text}
    (visible : text.all isVisible = true) :
    pieceLines text = [text] ∧ capture text = text := by
  have shown := List.all_eq_true.mp visible
  refine ⟨pieceLines_of_not_mem fun member => ?_, ?_⟩
  · exact absurd (shown '\n' member) (by decide)
  · rw [capture, List.filter_eq_self]
    intro character member
    rw [decide_eq_true_eq]
    rintro rfl
    exact absurd (shown '\x00' member) (by decide)

/-- A length is no value. -/
theorem sedValue_length (length : Nat) :
    sedValue (fingerprintLabel ++ (" -> (".toList ++
      printUnsigned length ++ " bytes)".toList)) = [] := by
  have digits : hexDigits.all (fun digit => digit ≠ singleQuote) = true := by
    decide
  refine sedValue_of_not_mem ?_
  rw [List.mem_append, List.mem_append, List.mem_append]
  rintro (inLabel | (inArrow | inNumber) | inUnit)
  · exact absurd inLabel (by decide +kernel)
  · exact absurd inArrow (by decide +kernel)
  · simpa using
      List.all_eq_true.mp digits singleQuote (mem_printUnsigned inNumber)
  · exact absurd inUnit (by decide +kernel)

/-- A value between quotation marks comes back with one of them. -/
theorem sedValue_doubleQuoted
    {value : Bytes}
    (quoted : reprQuote (value.map byteChar) = doubleQuote)
    (label : Text) :
    ¬ (sedValue (label ++ bytesLiteral value) ≠ [] ∧
      encodeUtf8 (sedValue (label ++ bytesLiteral value)) = value) := by
  rintro ⟨nonempty, same⟩
  have ends : (label ++ bytesLiteral value).getLast? = some doubleQuote := by
    rw [bytesLiteral, quoted, List.getLast?_append, List.getLast?_append,
      List.getLast?_singleton, Option.some_or, Option.some_or]
  have shown : doubleQuote ∈ sedValue (label ++ bytesLiteral value) :=
    (sedValue_ending ends (by decide)).resolve_left nonempty
  have inValue : (34 : UInt8) ∈ value := by
    rw [← same]
    exact List.mem_flatMap.mpr ⟨doubleQuote, shown, by decide +kernel⟩
  have unquoted : doubleQuote ∉ value.map byteChar := by
    intro member
    rw [reprQuote, if_neg fun both => both.2 member] at quoted
    exact absurd quoted (by decide)
  exact unquoted (List.mem_map.mpr ⟨34, inValue, by decide +kernel⟩)

/-- A plain value has no apostrophe. -/
theorem PlainValue.singleQuoted
    {value : Bytes}
    (plain : PlainValue value) :
    reprQuote (value.map byteChar) = singleQuote := by
  have absent : singleQuote ∉ value.map byteChar := by
    intro member
    obtain ⟨byte, inValue, isQuote⟩ := List.mem_map.mp member
    have isPlain := List.all_eq_true.mp plain.plain byte inValue
    simp [isPlainByte, isQuote] at isPlain
  rw [reprQuote, if_neg fun both => absent both.1]

/-- What `print_desc` writes behind the key. -/
def valuePiece (value : Bytes) : Text :=
  if value.length < 256 then
    " -> ".toList ++
      if (bytesLiteral value).head? = some singleQuote then
        bytesLiteral value
      else
        'b' :: bytesLiteral value
  else
    " -> (".toList ++ printUnsigned value.length ++ " bytes)".toList

theorem isVisible_valuePiece (value : Bytes) :
    (valuePiece value).all isVisible = true := by
  have literal := isVisible_bytesLiteral value
  rw [valuePiece]
  split
  · rw [List.all_append]
    split
    · rw [literal]
      decide +kernel
    · rw [List.all_cons, literal]
      decide +kernel
  · rw [List.all_append, List.all_append, isVisible_printUnsigned]
    decide +kernel

/-- Between apostrophes a value is cut out as it is printed. -/
theorem sedValue_quoted
    {value : Bytes}
    (short : value.length < 256)
    (quoted : reprQuote (value.map byteChar) = singleQuote)
    (label : Text) :
    sedValue (label ++ valuePiece value) = escapeText value := by
  have isLiteral :
      bytesLiteral value =
        [singleQuote] ++ (escapeText value ++ [singleQuote]) := by
    rw [bytesLiteral, quoted]
    rfl
  have isLine :
      label ++ valuePiece value =
        label ++ valueMark ++ escapeText value ++ [singleQuote] := by
    rw [valuePiece, if_pos short, if_pos (by rw [isLiteral]; rfl),
      isLiteral, valueMark]
    simp only [List.append_assoc]
  rw [isLine, sedValue_escapeText]

/-- What `sed` takes from the line of a fingerprint that is printed. -/
theorem sedValue_short
    {value : Bytes}
    (short : value.length < 256) :
    sedValue (fingerprintLabel ++ valuePiece value) ≠ [] ∧
        encodeUtf8 (sedValue (fingerprintLabel ++ valuePiece value)) =
          value ↔
      PlainValue value := by
  by_cases quoted : reprQuote (value.map byteChar) = singleQuote
  · rw [sedValue_quoted short quoted, encodeUtf8_escapeText_iff, ne_eq,
      escapeText_eq_nil_iff]
    exact ⟨fun kept => ⟨kept.1, short, kept.2⟩,
      fun plain => ⟨plain.nonempty, plain.plain⟩⟩
  · have doubleQuoted :
        reprQuote (value.map byteChar) = doubleQuote := by
      by_cases chosen :
          singleQuote ∈ value.map byteChar ∧
            doubleQuote ∉ value.map byteChar
      · rw [reprQuote, if_pos chosen]
      · exact (quoted (if_neg chosen)).elim
    have otherQuote : (bytesLiteral value).head? ≠ some singleQuote := by
      rw [bytesLiteral, doubleQuoted]
      exact ne_of_beq_false rfl
    have isLine :
        fingerprintLabel ++ valuePiece value =
          (fingerprintLabel ++ " -> b".toList) ++ bytesLiteral value := by
      rw [valuePiece, if_pos short, if_neg otherQuote, List.append_assoc]
      rfl
    rw [isLine]
    exact iff_of_false (sedValue_doubleQuoted doubleQuoted _)
      fun plain => quoted plain.singleQuoted

/-- A property with a visible key is one line that the shell keeps. -/
theorem property_line
    (sha1 : Bytes → Bytes)
    {key : Text}
    (visible : key.all isVisible = true)
    (value : Bytes) :
    (AvbDescriptor.property ⟨key, value⟩).printedLines sha1 =
        ["    Prop: ".toList ++ key ++ valuePiece value] ∧
      capture ("    Prop: ".toList ++ key ++ valuePiece value) =
        "    Prop: ".toList ++ key ++ valuePiece value := by
  have isPrinted :
      (AvbDescriptor.property ⟨key, value⟩).printDesc sha1 =
        ["    Prop: ".toList ++ key ++ valuePiece value] := by
    unfold AvbDescriptor.printDesc AvbPropertyDescriptor.printDesc valuePiece
    -- what the texts are does not matter here
    generalize "    Prop: ".toList = title
    generalize " -> ".toList = arrow
    generalize " -> (".toList = bracket
    by_cases short : value.length < 256
    · simp only [if_pos short, List.append_assoc]
    · simp only [if_neg short, List.append_assoc]
  have shown :
      ("    Prop: ".toList ++ key ++ valuePiece value).all isVisible =
        true := by
    rw [List.all_append, List.all_append, visible, isVisible_valuePiece]
    decide +kernel
  obtain ⟨single, kept⟩ := visible_line shown
  refine ⟨?_, kept⟩
  rw [AvbDescriptor.printedLines, isPrinted, List.flatMap_singleton, single]

/-- The line of a fingerprint: it is found, and gives a plain value only. -/
theorem fingerprint_line
    (sha1 : Bytes → Bytes)
    (value : Bytes) :
    ∃ line,
      (AvbDescriptor.property ⟨fingerprintKey, value⟩).printedLines sha1 =
          [line] ∧
        isFingerprintLine line = true ∧ capture line = line ∧
          (sedValue line ≠ [] ∧ encodeUtf8 (sedValue line) = value ↔
            PlainValue value) := by
  have visible : fingerprintKey.all isVisible = true := by
    decide +kernel
  obtain ⟨single, kept⟩ := property_line sha1 visible value
  refine ⟨fingerprintLabel ++ valuePiece value, single,
    isFingerprintLine_label _, kept, ?_⟩
  by_cases short : value.length < 256
  · exact sedValue_short short
  · rw [valuePiece, if_neg short, sedValue_length]
    exact iff_of_false (fun lost => lost.1 rfl)
      fun plain => short plain.short

/-! ## The line that is found -/

section Info

variable (sha1 : Bytes → Bytes)

/-- A line in front of the fingerprint that `grep` takes for it. -/
def strayLine (info : AvbImageInfo) : Option Text :=
  (frontLines sha1 info.header.releaseString
    (info.descriptors.takeWhile fun desc => desc.fingerprint?.isNone)).find?
      isFingerprintLine

variable {sha1}

theorem find?_quiet_append
    {quietLines : List Text}
    (quiet : ∀ line ∈ quietLines, Quiet line)
    (rest : List Text) :
    (quietLines ++ rest).find? isFingerprintLine =
      rest.find? isFingerprintLine := by
  have none : quietLines.find? isFingerprintLine = none := by
    rw [List.find?_eq_none]
    intro line member
    rw [(quiet line member).not_fingerprintLine]
    decide
  rw [List.find?_append, none, Option.none_or]

/-- A descriptor with a fingerprint is the property. -/
theorem eq_property_of_fingerprint?
    {desc : AvbDescriptor}
    {value : Bytes}
    (found : desc.fingerprint? = some value) :
    desc = .property ⟨fingerprintKey, value⟩ := by
  cases desc with
  | property desc =>
      obtain ⟨key, content⟩ := desc
      rw [AvbDescriptor.fingerprint?] at found
      split at found
      · rename_i isKey
        rw [Option.some.injEq] at found
        dsimp only at isKey found
        rw [isKey, found]
      · cases found
  | hashtree | hash | kernelCmdline | chainPartition | unknown =>
      cases found

/-- Without the property, only a stray line can be found. -/
theorem find?_infoImage_none
    {info : AvbImageInfo}
    {text : Text}
    (printed : infoImage sha1 info = some text)
    (absent : fingerprint? info.descriptors = none) :
    (lines text).find? isFingerprintLine = strayLine sha1 info := by
  obtain ⟨header, quiet, cut⟩ := lines_infoImage sha1 printed
  have all :
      info.descriptors.takeWhile (fun desc => desc.fingerprint?.isNone) =
        info.descriptors := by
    rw [List.takeWhile_eq_self_iff]
    intro desc member
    rw [List.findSome?_eq_none_iff.mp absent desc member]
    rfl
  rw [cut, List.append_assoc, List.append_assoc,
    find?_quiet_append (quiet_footerBlock info), find?_quiet_append quiet,
    strayLine, all, frontLines]
  by_cases empty : info.descriptors = []
  · have title : Quiet "    (none)".toList := by
      decide +kernel
    have noneLine : pieceLines "    (none)".toList = ["    (none)".toList] :=
      pieceLines_of_not_mem title.1
    have unmatched :
        ["    (none)".toList].find? isFingerprintLine = none := by
      rw [List.find?_cons_of_neg (by rw [title.not_fingerprintLine]; decide),
        List.find?_nil]
    rw [descriptorPieces, if_pos empty, empty, List.flatMap_singleton,
      noneLine, List.flatMap_nil,
      ← List.singleton_append (l := ["    (none)".toList]),
      ← List.append_assoc, List.find?_append, unmatched, Option.or_none]
  · rw [descriptorPieces, if_neg empty, List.flatMap_assoc]
    rfl

/-- With the property, its line is found behind the stray ones. -/
theorem find?_infoImage_some
    {info : AvbImageInfo}
    {text : Text}
    (printed : infoImage sha1 info = some text)
    {value : Bytes}
    (present : fingerprint? info.descriptors = some value) :
    ∃ line,
      capture line = line ∧
        (sedValue line ≠ [] ∧ encodeUtf8 (sedValue line) = value ↔
          PlainValue value) ∧
          (lines text).find? isFingerprintLine =
            (strayLine sha1 info).or (some line) := by
  obtain ⟨front, desc, behind, placed, found, before⟩ :=
    List.findSome?_eq_some_iff.mp present
  obtain ⟨header, quiet, cut⟩ := lines_infoImage_at sha1 printed placed
  rw [eq_property_of_fingerprint? found] at cut
  obtain ⟨line, isLine, matched, kept, exact⟩ := fingerprint_line sha1 value
  have taken :
      info.descriptors.takeWhile (fun desc => desc.fingerprint?.isNone) =
        front := by
    rw [placed, List.takeWhile_append_of_pos ?_,
      List.takeWhile_cons_of_neg (by simp [found]), List.append_nil]
    intro other member
    rw [before other member]
    rfl
  refine ⟨line, kept, exact, ?_⟩
  rw [cut, List.append_assoc, List.append_assoc,
    find?_quiet_append (quiet_footerBlock info), find?_quiet_append quiet,
    List.find?_append, strayLine, taken, isLine, List.singleton_append,
    List.find?_cons_of_pos matched]

end Info

/-! ## The round trip -/

section RoundTrip

variable (sha1 : Bytes → Bytes) (isBinary : Text → Bool)

/--
The fingerprint is kept.

A line in front of the property, or in place of it, is taken for it; what
`sed` makes of that line has to be the value, or nothing where there is no
property.  Without such a line the value has to be plain.
-/
def Kept (info : AvbImageInfo) (text : Text) : Prop :=
  match fingerprint? info.descriptors, strayLine sha1 info with
  | none, none =>
      True
  | none, some stray =>
      isBinary text = true ∨ sedValue (capture stray) = []
  | some value, none =>
      isBinary text = false ∧ PlainValue value
  | some value, some stray =>
      isBinary text = false ∧ sedValue (capture stray) ≠ [] ∧
        encodeUtf8 (sedValue (capture stray)) = value

variable {sha1 isBinary}

theorem sedValue_nil : sedValue [] = [] := rfl

/-- The captured value, by the line that is found -/
theorem propValue_of_find?
    {text : Text}
    {found : Option Text}
    (isFound : (lines text).find? isFingerprintLine = found) :
    propValue isBinary text =
      if isBinary text then
        []
      else
        match found with
        | some line => sedValue (capture line)
        | none => [] := by
  rw [propValue, propLine, isFound]
  split
  · exact sedValue_nil
  · cases found with
    | none =>
        exact sedValue_nil
    | some line =>
        rfl

/-- An absent fingerprint stays absent where nothing is captured. -/
theorem fingerprint?_eq_none_iff (propValue : Text) :
    (generatedProperties (propArguments propValue)).map fingerprint? =
        some none ↔
      propValue = [] := by
  rw [fingerprint?_generatedProperties]
  by_cases empty : propValue = []
  · simp [empty]
  · simp [empty]

theorem fingerprint?_eq_some_iff
    (propValue : Text)
    (value : Bytes) :
    (generatedProperties (propArguments propValue)).map fingerprint? =
        some (some value) ↔
      propValue ≠ [] ∧ encodeUtf8 propValue = value := by
  rw [fingerprint?_generatedProperties]
  by_cases empty : propValue = []
  · simp [empty]
  · simp [empty]

/-- The rebuilt vbmeta has the fingerprint of the stock one iff it is kept. -/
theorem fingerprint_roundTrip_iff
    {info : AvbImageInfo}
    {text : Text}
    (printed : infoImage sha1 info = some text) :
    (generatedProperties (propArguments (propValue isBinary text))).map
          fingerprint? =
        some (fingerprint? info.descriptors) ↔
      Kept sha1 isBinary info text := by
  rw [Kept]
  cases stock : fingerprint? info.descriptors with
  | none =>
      rw [fingerprint?_eq_none_iff,
        propValue_of_find? (find?_infoImage_none printed stock)]
      cases strayLine sha1 info with
      | none =>
          cases isBinary text <;> simp
      | some stray =>
          cases isBinary text <;> simp
  | some value =>
      obtain ⟨line, kept, exact, found⟩ := find?_infoImage_some printed stock
      rw [fingerprint?_eq_some_iff, propValue_of_find? found]
      cases strayLine sha1 info with
      | none =>
          rw [Option.none_or]
          dsimp only
          rw [kept]
          cases isBinary text
          · simpa using exact
          · simp
      | some stray =>
          cases isBinary text <;> simp

/-- Where no other line looks like the property, plain values are kept. -/
theorem kept_iff_of_unmatched
    {info : AvbImageInfo}
    (unmatched : strayLine sha1 info = none)
    (text : Text) :
    Kept sha1 isBinary info text ↔
      ∀ value ∈ fingerprint? info.descriptors,
        isBinary text = false ∧ PlainValue value := by
  rw [Kept, unmatched]
  cases fingerprint? info.descriptors with
  | none =>
      simp
  | some value =>
      simp

/--
Behind the line of another property the fingerprint is what `repr` shows of the
value of that property.
-/
theorem kept_iff_of_strayProperty
    {info : AvbImageInfo}
    {key line : Text}
    {value : Bytes}
    (visible : key.all isVisible = true)
    (short : value.length < 256)
    (quoted : reprQuote (value.map byteChar) = singleQuote)
    (isLine :
      (AvbDescriptor.property ⟨key, value⟩).printedLines sha1 = [line])
    (stray : strayLine sha1 info = some line)
    (text : Text) :
    Kept sha1 isBinary info text ↔
      match fingerprint? info.descriptors with
      | none => isBinary text = true ∨ value = []
      | some kept =>
          isBinary text = false ∧ value ≠ [] ∧
            encodeUtf8 (escapeText value) = kept := by
  obtain ⟨single, captured⟩ := property_line sha1 visible value
  obtain rfl := List.singleton_injective (single.symm.trans isLine)
  have cut := sedValue_quoted short quoted ("    Prop: ".toList ++ key)
  rw [Kept, stray]
  cases fingerprint? info.descriptors with
  | none =>
      dsimp only
      rw [captured, cut, escapeText_eq_nil_iff]
  | some kept =>
      dsimp only
      rw [captured, cut, ne_eq, escapeText_eq_nil_iff]

end RoundTrip

/-! ## Two images -/

/-- Texts of one buffer are searched for NUL characters whole. -/
def hasNul (text : Text) : Bool :=
  text.any (· = '\x00')

/-- `a/b:14` -/
def exampleFingerprint : Bytes :=
  [0x61, 0x2f, 0x62, 0x3a, 0x31, 0x34]

/-- A usual fingerprint is kept. -/
theorem fingerprint_roundTrip_iff_example :
    ∃ text,
      infoImage noKeys
            (exampleAvbInfo
              [.property ⟨fingerprintKey, exampleFingerprint⟩]) =
          some text ∧
        (generatedProperties (propArguments (propValue hasNul text))).map
            fingerprint? =
          some (some exampleFingerprint) := by
  have clean :
      ((infoImage noKeys
        (exampleAvbInfo
          [.property ⟨fingerprintKey, exampleFingerprint⟩])).map
            hasNul) = some false := by
    decide +kernel
  obtain ⟨text, printed, isClean⟩ := Option.map_eq_some_iff.mp clean
  have unmatched :
      strayLine noKeys
        (exampleAvbInfo
          [.property ⟨fingerprintKey, exampleFingerprint⟩]) = none := by
    decide +kernel
  have kept :
      Kept noKeys hasNul
        (exampleAvbInfo [.property ⟨fingerprintKey, exampleFingerprint⟩])
        text := by
    refine (kept_iff_of_unmatched unmatched text).mpr ?_
    intro value member
    have isValue : exampleFingerprint = value := Option.some.inj member
    exact ⟨isClean, isValue ▸
      ⟨by decide, by decide, by decide +kernel⟩⟩
  exact ⟨text, printed, (fingerprint_roundTrip_iff printed).mpr kept⟩

/-- A key that starts like the fingerprint's is taken for it. -/
theorem fingerprint_of_longer_key :
    ¬ ∀ (info : AvbImageInfo) (text : Text),
      infoImage noKeys info = some text →
        (generatedProperties (propArguments (propValue hasNul text))).map
            fingerprint? =
          some (fingerprint? info.descriptors) := by
  intro kept
  have read :
      (infoImage noKeys
        (exampleAvbInfo
          [.property ⟨fingerprintKey ++ "_id".toList, [0x37]⟩,
            .property ⟨fingerprintKey, exampleFingerprint⟩])).map
          (propValue hasNul) = some "7".toList := by
    decide +kernel
  obtain ⟨text, printed, isRead⟩ := Option.map_eq_some_iff.mp read
  have wanted := kept _ text printed
  rw [isRead] at wanted
  exact absurd wanted (by decide +kernel)

/-- An apostrophe in the value drops the property. -/
example :
    propArguments
      (sedValue (fingerprintLabel ++ valuePiece [0x69, 0x74, 0x27, 0x73])) =
        [] := by
  decide +kernel

end OverclockBuilder
