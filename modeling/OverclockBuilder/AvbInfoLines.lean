import OverclockBuilder.AvbInfo
import OverclockBuilder.DtTableScrape

namespace OverclockBuilder

open RadixText WordText BytePacking CNumber BashText LineText

/-!
# The lines of `info_image`

The script looks for three labels in the text of `info_image`.  The two blocks
of the header show none of them; the release string and the descriptors may.
-/

/-! ## Labels and values -/

/-- The labels a script looks for in the text. -/
def soughtLabels : List Text :=
  ["Partition Name:".toList, "Salt:".toList, "Prop:".toList]

/-- A single line that shows none of the labels. -/
def Quiet (line : Text) : Prop :=
  '\n' ∉ line ∧
    soughtLabels.all (fun label => !contains label line) = true

instance (line : Text) : Decidable (Quiet line) :=
  inferInstanceAs (Decidable (_ ∧ _))

/-- A text without colons and newlines. -/
def isValue (text : Text) : Bool :=
  text.all fun character => character ≠ ':' && character ≠ '\n'

theorem isValue_of_hexDigits
    {text : Text}
    (digits : ∀ digit ∈ text, digit ∈ hexDigits) :
    isValue text = true := by
  have plain :
      hexDigits.all (fun character =>
        character ≠ ':' && character ≠ '\n') = true := by
    decide
  rw [isValue, List.all_eq_true]
  intro digit member
  exact List.all_eq_true.mp plain digit (digits digit member)

theorem mem_printUnsigned
    {value : Nat}
    {digit : Char}
    (member : digit ∈ printUnsigned value) :
    digit ∈ hexDigits := by
  obtain ⟨index, small, rfl⟩ :=
    exists_digitChar_of_mem_toDigits (by decide) member
  exact mem_hexDigits_digitChar (by omega)

theorem isValue_printUnsigned (value : Nat) :
    isValue (printUnsigned value) = true :=
  isValue_of_hexDigits fun _ member => mem_printUnsigned member

theorem isValue_hexlify (data : Bytes) : isValue (hexlify data) = true :=
  isValue_of_hexDigits fun _ member => mem_hexlify member

/-- A value does not complete a pattern that ends in a colon. -/
theorem contains_append_value
    {pattern value : Text}
    (ends : pattern.getLast? = some ':')
    (isValue : isValue value = true)
    (label : Text) :
    contains pattern (label ++ value) = contains pattern label := by
  have noColon : ':' ∉ value := fun member => by
    simpa using List.all_eq_true.mp isValue _ member
  exact decide_eq_decide.mpr
    (infix_append_iff_of_not_mem ends noColon label)

/-- A value behind a quiet label is quiet. -/
theorem quiet_append
    {label value : Text}
    (quiet : Quiet label)
    (isValue : isValue value = true) :
    Quiet (label ++ value) := by
  have noNewline : '\n' ∉ value := fun member => by
    simpa using List.all_eq_true.mp isValue _ member
  have colons : ∀ sought ∈ soughtLabels, sought.getLast? = some ':' := by
    decide +kernel
  refine ⟨?_, ?_⟩
  · rw [List.mem_append]
    rintro (inLabel | inValue)
    · exact quiet.1 inLabel
    · exact noNewline inValue
  · rw [List.all_eq_true]
    intro sought member
    rw [contains_append_value (colons sought member) isValue]
    exact List.all_eq_true.mp quiet.2 sought member

theorem quiet_numberPiece
    {label : String}
    (quiet : Quiet label.toList)
    (number : Nat) :
    Quiet (numberPiece label number) :=
  quiet_append quiet (isValue_printUnsigned number)

theorem quiet_bytesPiece
    {label : String}
    (quiet : Quiet label.toList)
    (number : Nat) :
    Quiet (bytesPiece label number) :=
  quiet_append (quiet_numberPiece quiet number) (by decide +kernel)

theorem quiet_hexlify
    {label : String}
    (quiet : Quiet label.toList)
    (data : Bytes) :
    Quiet (label.toList ++ hexlify data) :=
  quiet_append quiet (isValue_hexlify data)

theorem quiet_name
    {label : String}
    (quiet : Quiet label.toList)
    (algorithm : HashName) :
    Quiet (label.toList ++ algorithm.name) :=
  quiet_append quiet algorithm.plain

/-! ## The header -/

section Header

variable (sha1 : Bytes → Bytes)

theorem quiet_footerPieces
    (version : Nat × Nat)
    (footer : AvbFooter)
    (imageSize : Nat) :
    ∀ piece ∈ footerPieces version footer imageSize, Quiet piece := by
  intro piece member
  simp only [footerPieces, List.mem_cons, List.not_mem_nil, or_false]
    at member
  rcases member with rfl | rfl | rfl | rfl | rfl | rfl
  · refine quiet_append (quiet_append (quiet_append ?_ ?_) ?_) ?_
    · decide +kernel
    · exact isValue_printUnsigned _
    · decide +kernel
    · exact isValue_printUnsigned _
  · exact quiet_bytesPiece (by decide +kernel) _
  · exact quiet_bytesPiece (by decide +kernel) _
  · exact quiet_numberPiece (by decide +kernel) _
  · exact quiet_bytesPiece (by decide +kernel) _
  · decide +kernel

theorem isValue_lookupAlgorithmByType
    {algorithmType : Nat}
    {algName : Text}
    (known : lookupAlgorithmByType algorithmType = some algName) :
    isValue algName = true := by
  have names :
      ∀ small < 9, (lookupAlgorithmByType small).all isValue = true := by
    decide +kernel
  rcases Nat.lt_or_ge algorithmType 9 with small | large
  · have shown := names algorithmType small
    rwa [known, Option.all_some] at shown
  · obtain ⟨further, rfl⟩ := Nat.exists_eq_add_of_le' large
    cases known

theorem quiet_headerPieces
    {info : AvbImageInfo}
    {algName : Text}
    (known :
      lookupAlgorithmByType info.header.algorithmType = some algName) :
    ∀ piece ∈ headerPieces sha1 info algName, Quiet piece := by
  have keyQuiet :
      ∀ piece ∈ (if info.keyBlob = [] then [] else
        ["Public key (sha1):        ".toList ++
          hexlify (sha1 info.keyBlob)]), Quiet piece := by
    intro piece member
    by_cases unsigned : info.keyBlob = []
    · rw [if_pos unsigned] at member
      cases member
    · rw [if_neg unsigned, List.mem_singleton] at member
      rw [member]
      exact quiet_hexlify (by decide +kernel) _
  intro piece member
  rw [headerPieces, List.mem_append, List.mem_append] at member
  rcases member with (sizes | key) | numbers
  · simp only [List.mem_cons, List.not_mem_nil, or_false] at sizes
    rcases sizes with rfl | rfl | rfl | rfl
    · refine quiet_append (quiet_append (quiet_append (quiet_append
        ?_ ?_) ?_) ?_) ?_
      · decide +kernel
      · exact isValue_printUnsigned _
      · decide +kernel
      · exact isValue_printUnsigned _
      · cases info.sparse <;> decide +kernel
    · exact quiet_bytesPiece (by decide +kernel) _
    · exact quiet_bytesPiece (by decide +kernel) _
    · exact quiet_bytesPiece (by decide +kernel) _
  · exact keyQuiet piece key
  · simp only [List.mem_cons, List.not_mem_nil, or_false] at numbers
    rcases numbers with rfl | rfl | rfl | rfl
    · exact quiet_append (by decide +kernel)
        (isValue_lookupAlgorithmByType known)
    · exact quiet_numberPiece (by decide +kernel) _
    · exact quiet_numberPiece (by decide +kernel) _
    · exact quiet_numberPiece (by decide +kernel) _

end Header

/-! ## The lines of the text -/

section Lines

variable (sha1 : Bytes → Bytes)

/-- The lines of one descriptor. -/
def AvbDescriptor.printedLines (desc : AvbDescriptor) : List Text :=
  (desc.printDesc sha1).flatMap pieceLines

/-- The block a footer adds, if there is one. -/
def AvbImageInfo.footerBlock (info : AvbImageInfo) : List Text :=
  match info.footer with
  | some (version, footer) => footerPieces version footer info.imageSize
  | none => []

theorem quiet_footerBlock (info : AvbImageInfo) :
    ∀ line ∈ info.footerBlock, Quiet line := by
  intro line member
  rw [AvbImageInfo.footerBlock] at member
  cases footer : info.footer with
  | none =>
      rw [footer] at member
      cases member
  | some footed =>
      rw [footer] at member
      exact quiet_footerPieces _ _ _ line member

/-- The text is the two blocks of the header, the release string and the
descriptors. -/
theorem lines_infoImage
    {info : AvbImageInfo}
    {text : Text}
    (printed : infoImage sha1 info = some text) :
    ∃ header,
      (∀ line ∈ header, Quiet line) ∧
        lines text =
          info.footerBlock ++ header ++
            pieceLines (releasePiece info.header.releaseString) ++
              "Descriptors:".toList ::
                (descriptorPieces sha1 info.descriptors).flatMap
                  pieceLines := by
  rw [infoImage, Option.map_eq_some_iff] at printed
  obtain ⟨pieces, isPieces, rfl⟩ := printed
  rw [infoPieces, Option.bind_eq_bind, Option.bind_eq_some_iff]
    at isPieces
  obtain ⟨algName, known, isPieces⟩ := isPieces
  rw [Option.some.injEq] at isPieces
  have quiet := quiet_headerPieces sha1 known
  refine ⟨headerPieces sha1 info algName, quiet, ?_⟩
  have front :
      (info.footerBlock ++ headerPieces sha1 info algName).flatMap
          pieceLines =
        info.footerBlock ++ headerPieces sha1 info algName := by
    refine flatMap_pieceLines fun line member => ?_
    rcases List.mem_append.mp member with inFooter | inHeader
    · exact (quiet_footerBlock info line inFooter).1
    · exact (quiet line inHeader).1
  have title : pieceLines "Descriptors:".toList = ["Descriptors:".toList] :=
    pieceLines_of_not_mem (by decide +kernel)
  have written :
      pieces =
        info.footerBlock ++ headerPieces sha1 info algName ++
          [releasePiece info.header.releaseString, "Descriptors:".toList] ++
            descriptorPieces sha1 info.descriptors := isPieces.symm
  rw [written, lines_writeLines, List.flatMap_append, List.flatMap_append,
    front, List.flatMap_cons, List.flatMap_singleton, title]
  simp

/-- The lines behind the header, up to some descriptor. -/
def frontLines
    (releaseString : Text)
    (front : List AvbDescriptor) :
    List Text :=
  pieceLines (releasePiece releaseString) ++
    "Descriptors:".toList ::
      front.flatMap (AvbDescriptor.printedLines sha1)

/-- The lines in front of a descriptor, and the rest. -/
theorem lines_infoImage_at
    {info : AvbImageInfo}
    {text : Text}
    (printed : infoImage sha1 info = some text)
    {front behind : List AvbDescriptor}
    {desc : AvbDescriptor}
    (placed : info.descriptors = front ++ desc :: behind) :
    ∃ header,
      (∀ line ∈ header, Quiet line) ∧
        lines text =
          info.footerBlock ++ header ++
            frontLines sha1 info.header.releaseString front ++
              (desc.printedLines sha1 ++
                behind.flatMap (AvbDescriptor.printedLines sha1)) := by
  obtain ⟨header, quiet, cut⟩ := lines_infoImage sha1 printed
  have some : info.descriptors ≠ [] := by
    rw [placed]
    exact List.append_ne_nil_of_right_ne_nil _ (List.cons_ne_nil _ _)
  have pieces :
      (descriptorPieces sha1 info.descriptors).flatMap pieceLines =
        front.flatMap (AvbDescriptor.printedLines sha1) ++
          (desc.printedLines sha1 ++
            behind.flatMap (AvbDescriptor.printedLines sha1)) := by
    rw [descriptorPieces, if_neg some, placed, List.flatMap_assoc]
    exact List.flatMap_append
  refine ⟨header, quiet, ?_⟩
  rw [cut, pieces, frontLines]
  simp only [List.append_assoc, List.cons_append]

end Lines

end OverclockBuilder
