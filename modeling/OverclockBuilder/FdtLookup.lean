import OverclockBuilder.FdtFocus
import OverclockBuilder.FdtWalk

namespace OverclockBuilder

open RadixText WordText BytePacking LabelTree

/-!
# Lookups agree with the tree

What `libfdt` finds by walking tokens is what a search of the tree finds.  A
focus keeps, for a place that was found, the bytes around it, so that an edit
of these bytes is an edit of the tree.
-/

namespace Fdt

/-! ## Walking through whole bodies -/

/--
What is left of a walk, from a token and a depth on: below the node it started
from, the walk only counts the nodes it enters and leaves.
-/
structure WalksBelow
    (fdt : Fdt)
    (resume : Nat → Int → α) : Prop where
  other :
    ∀ {position tag next},
      fdt.nextTag position = .ok (tag, next) →
        tag = fdtProp ∨ tag = fdtNop →
          ∀ depth, resume position depth = resume next depth
  endNode :
    ∀ {position next depth},
      fdt.nextTag position = .ok (fdtEndNode, next) →
        1 ≤ depth → resume position depth = resume next (depth - 1)
  beginNode :
    ∀ {position next depth},
      position % 4 = 0 →
        fdt.nextTag position = .ok (fdtBeginNode, next) →
          1 ≤ depth → resume position depth = resume next (depth + 1)

/-- Below the node it started from, a walk goes through a whole body. -/
theorem WalksBelow.skip
    {fdt : Fdt}
    {resume : Nat → Int → α}
    (walks : WalksBelow fdt resume)
    (sound : fdt.Sound)
    {strings : Bytes}
    {tokens : FdtTokens}
    (formed : tokens.WellFormed strings)
    {front back : Bytes}
    (aligned : front.length % 4 = 0)
    (split : fdt.block = front ++ (tokens.bytes ++ back))
    {depth : Int}
    (deep : 1 ≤ depth) :
    resume front.length depth =
      resume (front.length + tokens.bytes.length) (depth - 1) := by
  induction tokens generalizing front back depth with
  | endNode =>
      have walked := sound.nextTag_word aligned (.inr (.inl rfl)) split
      rw [walks.endNode walked deep, FdtTokens.bytes, length_bigEndian]
  | nop rest inductionHypothesis =>
      rw [FdtTokens.bytes, List.append_assoc] at split
      have walked := sound.nextTag_word aligned (.inr (.inr rfl)) split
      have later :=
        inductionHypothesis formed (by
            rw [List.length_append, length_bigEndian]
            omega)
          (split.trans (List.append_assoc _ _ _).symm) deep
      rw [List.length_append, length_bigEndian] at later
      rw [walks.other walked (.inr rfl), later, FdtTokens.bytes,
        List.length_append, length_bigEndian, Nat.add_assoc]
  | property nameOffset value padding rest inductionHypothesis =>
      obtain ⟨-, -, -, fills, restFormed⟩ := formed
      have whole := tagAlign_mod value.length
      rw [FdtTokens.bytes, List.append_assoc] at split
      have walked := sound.nextTag_propertyBytes aligned fills split
      have later :=
        inductionHypothesis restFormed (by
            rw [List.length_append, length_propertyBytes fills]
            omega)
          (split.trans (List.append_assoc _ _ _).symm) deep
      rw [List.length_append] at later
      rw [walks.other walked (.inl rfl), later, FdtTokens.bytes,
        List.length_append, Nat.add_assoc]
  | child name padding inside siblings insideHypothesis
      siblingsHypothesis =>
      obtain ⟨isName, fills, -, insideFormed, siblingsFormed⟩ := formed
      have headerWhole := tagAlign_mod (name.length + 1)
      have insideWhole := insideFormed.aligned
      rw [FdtTokens.bytes, List.append_assoc, List.append_assoc] at split
      have walked := sound.nextTag_nodeHeader aligned isName fills split
      have behindHeader := split.trans (List.append_assoc _ _ _).symm
      have first :=
        insideHypothesis insideFormed (by
            rw [List.length_append, length_nodeHeader fills]
            omega)
          behindHeader (show 1 ≤ depth + 1 by omega)
      have second :=
        siblingsHypothesis siblingsFormed (by
            simp only [List.length_append, length_nodeHeader fills]
            omega)
          (behindHeader.trans (List.append_assoc _ _ _).symm) deep
      simp only [List.length_append] at first second
      rw [walks.beginNode aligned walked deep, first, Int.add_sub_cancel,
        second, FdtTokens.bytes, List.length_append, List.length_append]
      simp only [Nat.add_assoc]

/-! ## Searching the children of a node -/

section Search

variable {fdt : Fdt}

/-- What is left of a search among subnodes at a token. -/
def subnodeResume
    (fdt : Fdt)
    (name : Text)
    (position : Nat)
    (depth : Int) :
    Except FdtError Nat :=
  match fdt.nextNodeLoop position depth with
  | (.ok next, deeper) =>
      fdt.subnodeLoop name next deeper
  | (.error error, deeper) =>
      if deeper < 0 then .error .notFound else .error error

/-- Tokens that are neither a node nor its end are passed over. -/
theorem subnodeResume_other
    (name : Text)
    {position tag next : Nat}
    (walked : fdt.nextTag position = .ok (tag, next))
    (other : tag = fdtProp ∨ tag = fdtNop)
    (depth : Int) :
    fdt.subnodeResume name position depth =
      fdt.subnodeResume name next depth := by
  have plain : tag ≠ fdtBeginNode ∧ tag ≠ fdtEnd ∧ tag ≠ fdtEndNode := by
    rcases other with rfl | rfl <;> decide
  rw [subnodeResume, nextNodeLoop_of_nextTag walked, if_neg plain.1,
    if_neg plain.2.1, if_neg plain.2.2]
  rfl

/-- The end of a node below the searched one leads back up. -/
theorem subnodeResume_endNode
    (name : Text)
    {position next : Nat}
    (walked : fdt.nextTag position = .ok (fdtEndNode, next))
    {depth : Int}
    (deep : 1 ≤ depth) :
    fdt.subnodeResume name position depth =
      fdt.subnodeResume name next (depth - 1) := by
  rw [subnodeResume, nextNodeLoop_of_nextTag walked, if_neg (by decide),
    if_neg (by decide), if_pos rfl, if_neg (by omega)]
  rfl

/-- The end of the searched node ends the search. -/
theorem subnodeResume_endNode_zero
    (name : Text)
    {position next : Nat}
    (walked : fdt.nextTag position = .ok (fdtEndNode, next)) :
    fdt.subnodeResume name position 0 = .error .notFound := by
  rw [subnodeResume, nextNodeLoop_of_nextTag walked, if_neg (by decide),
    if_neg (by decide), if_pos rfl, if_pos (by decide)]
  dsimp only
  rw [subnodeLoop, if_pos (by decide)]

theorem checkNodeOffset_of_nextTag
    {position next : Nat}
    (aligned : position % 4 = 0)
    (walked : fdt.nextTag position = .ok (fdtBeginNode, next)) :
    fdt.checkNodeOffset position = .ok next := by
  rw [checkNodeOffset, if_neg (by omega), walked]
  rfl

/-- A child that matches is found, and any other node is walked into. -/
theorem subnodeResume_beginNode
    (name : Text)
    {position next : Nat}
    (aligned : position % 4 = 0)
    (walked : fdt.nextTag position = .ok (fdtBeginNode, next))
    {depth : Int}
    (inside : 0 ≤ depth) :
    fdt.subnodeResume name position depth =
      if depth = 0 ∧ fdt.nodenameEq position name then
        .ok position
      else
        fdt.subnodeResume name next (depth + 1) := by
  have checked := checkNodeOffset_of_nextTag aligned walked
  rw [subnodeResume, nextNodeLoop_of_nextTag walked, if_pos rfl]
  dsimp only
  by_cases here : depth = 0 ∧ fdt.nodenameEq position name
  · rw [subnodeLoop, if_neg (by omega), if_pos ⟨by omega, here.2⟩,
      if_pos here]
  · have elsewhere : ¬(depth + 1 = 1 ∧ fdt.nodenameEq position name) := by
      rintro ⟨one, same⟩
      exact here ⟨by omega, same⟩
    rw [if_neg here, subnodeLoop_of_other (by omega) elsewhere, nextNode,
      checked]
    rfl

/-- The name of the node at an offset. -/
theorem Sound.getName
    (sound : fdt.Sound)
    {front back padding : Bytes}
    (aligned : front.length % 4 = 0)
    {name : Text}
    (isName : IsByteName name)
    (fills : Fills (stringBytes name) padding)
    (split : fdt.block = front ++ (nodeHeader name padding ++ back)) :
    fdt.getName front.length = some name := by
  have checked :=
    checkNodeOffset_of_nextTag aligned
      (sound.nextTag_nodeHeader aligned isName fills split)
  have behindTag :
      fdt.block =
        (front ++ bigEndian 4 fdtBeginNode) ++
          (stringBytes name ++ (padding ++ back)) := by
    rw [split]
    simp only [nodeHeader, List.append_assoc]
  obtain ⟨rest, found⟩ := drop_buffer_of_block behindTag
  rw [List.length_append, length_bigEndian] at found
  rw [Fdt.getName, sound.roProbe, checked]
  dsimp only
  rw [Nat.add_assoc, found, List.append_assoc,
    readString_stringBytes isName]

/-- `fdt_nodename_eq_` compares with the name of the node. -/
theorem Sound.nodenameEq
    (sound : fdt.Sound)
    {front back padding : Bytes}
    (aligned : front.length % 4 = 0)
    {name : Text}
    (isName : IsByteName name)
    (fills : Fills (stringBytes name) padding)
    (split : fdt.block = front ++ (nodeHeader name padding ++ back))
    (key : Text)
    (properties : List Property) :
    fdt.nodenameEq front.length key =
      OverclockBuilder.nodenameEq key ⟨name, properties⟩ := by
  rw [Fdt.nodenameEq, sound.getName aligned isName fills split]
  rfl

theorem subnodeWalk (name : Text) :
    WalksBelow fdt (fdt.subnodeResume name) where
  other := fun walked other depth =>
    subnodeResume_other name walked other depth
  endNode := fun walked deep => subnodeResume_endNode name walked deep
  beginNode := by
    intro position next depth aligned walked deep
    rw [subnodeResume_beginNode name aligned walked (by omega),
      if_neg (by omega)]

/-- No child of the searched node matches. -/
theorem Sound.subnodeResume_none
    (sound : fdt.Sound)
    {strings : Bytes}
    {key : Text}
    {tokens : FdtTokens}
    (formed : tokens.WellFormed strings)
    {front back : Bytes}
    (aligned : front.length % 4 = 0)
    (split : fdt.block = front ++ (tokens.bytes ++ back))
    (none :
      (tokens.children strings).findIdx?
          (fun child => OverclockBuilder.nodenameEq key child.label) =
        none) :
    fdt.subnodeResume key front.length 0 = .error .notFound := by
  induction tokens generalizing front back with
  | endNode =>
      exact subnodeResume_endNode_zero key
        (sound.nextTag_word aligned (.inr (.inl rfl)) split)
  | nop rest inductionHypothesis =>
      rw [FdtTokens.bytes, List.append_assoc] at split
      rw [subnodeResume_other key
        (sound.nextTag_word aligned (.inr (.inr rfl)) split) (.inr rfl)]
      have later :=
        inductionHypothesis formed (by
            rw [List.length_append, length_bigEndian]
            omega)
          (split.trans (List.append_assoc _ _ _).symm) none
      rwa [List.length_append, length_bigEndian] at later
  | property nameOffset value padding rest inductionHypothesis =>
      obtain ⟨-, -, -, fills, restFormed⟩ := formed
      have whole := tagAlign_mod value.length
      rw [FdtTokens.bytes, List.append_assoc] at split
      rw [subnodeResume_other key
        (sound.nextTag_propertyBytes aligned fills split) (.inl rfl)]
      have later :=
        inductionHypothesis restFormed (by
            rw [List.length_append, length_propertyBytes fills]
            omega)
          (split.trans (List.append_assoc _ _ _).symm) none
      rwa [List.length_append] at later
  | child name padding inside siblings insideHypothesis
      siblingsHypothesis =>
      obtain ⟨isName, fills, -, insideFormed, siblingsFormed⟩ := formed
      have headerWhole := tagAlign_mod (name.length + 1)
      have insideWhole := insideFormed.aligned
      rw [FdtTokens.bytes, List.append_assoc, List.append_assoc] at split
      have behindHeader := split.trans (List.append_assoc _ _ _).symm
      simp only [FdtTokens.children, List.findIdx?_cons,
        OrderedTree.label] at none
      split at none
      case isTrue =>
          cases none
      case isFalse other =>
          rw [Option.map_eq_none_iff] at none
          have below :=
            (subnodeWalk key).skip sound insideFormed (by
                rw [List.length_append, length_nodeHeader fills]
                omega)
              behindHeader (Int.le_refl 1)
          have later :=
            siblingsHypothesis siblingsFormed (by
                simp only [List.length_append, length_nodeHeader fills]
                omega)
              (behindHeader.trans (List.append_assoc _ _ _).symm) none
          rw [List.length_append] at below
          rw [List.length_append, List.length_append] at later
          rw [subnodeResume_beginNode key aligned
              (sound.nextTag_nodeHeader aligned isName fills split)
              (Int.le_refl 0),
            if_neg, Int.zero_add, below, Int.sub_self, later]
          rintro ⟨-, same⟩
          rw [sound.nodenameEq aligned isName fills split] at same
          exact other same

/-- The first child of the searched node that matches is found. -/
theorem Sound.subnodeResume_some
    (sound : fdt.Sound)
    {strings : Bytes}
    {key : Text}
    {tokens : FdtTokens}
    (formed : tokens.WellFormed strings)
    {front back : Bytes}
    (aligned : front.length % 4 = 0)
    (split : fdt.block = front ++ (tokens.bytes ++ back))
    {index : Nat}
    (found :
      (tokens.children strings).findIdx?
          (fun child => OverclockBuilder.nodenameEq key child.label) =
        some index) :
    ∃ before name padding inside behind,
      FdtTokens.ChildFocus strings tokens index before name padding inside
          behind ∧
        fdt.subnodeResume key front.length 0 =
          .ok (front.length + before.length) := by
  induction tokens generalizing front back index with
  | endNode =>
      cases found
  | nop rest inductionHypothesis =>
      rw [FdtTokens.bytes, List.append_assoc] at split
      rw [subnodeResume_other key
        (sound.nextTag_word aligned (.inr (.inr rfl)) split) (.inr rfl)]
      obtain ⟨before, name, padding, inside, behind, focus, later⟩ :=
        inductionHypothesis formed (by
            rw [List.length_append, length_bigEndian]
            omega)
          (split.trans (List.append_assoc _ _ _).symm) found
      refine ⟨_, name, padding, inside, behind, focus.nop, ?_⟩
      rw [List.length_append, length_bigEndian] at later
      rw [later, List.length_append, length_bigEndian, Nat.add_assoc]
  | property nameOffset value padding rest inductionHypothesis =>
      have whole := formed
      obtain ⟨-, -, -, fills, restFormed⟩ := formed
      have valueWhole := tagAlign_mod value.length
      rw [FdtTokens.bytes, List.append_assoc] at split
      rw [subnodeResume_other key
        (sound.nextTag_propertyBytes aligned fills split) (.inl rfl)]
      obtain ⟨before, name, padding, inside, behind, focus, later⟩ :=
        inductionHypothesis restFormed (by
            rw [List.length_append, length_propertyBytes fills]
            omega)
          (split.trans (List.append_assoc _ _ _).symm) found
      refine ⟨_, name, padding, inside, behind, focus.property whole, ?_⟩
      rw [List.length_append] at later
      rw [later, List.length_append, Nat.add_assoc]
  | child name padding inside siblings insideHypothesis
      siblingsHypothesis =>
      have whole := formed
      obtain ⟨isName, fills, -, insideFormed, siblingsFormed⟩ := formed
      have headerWhole := tagAlign_mod (name.length + 1)
      have insideWhole := insideFormed.aligned
      rw [FdtTokens.bytes, List.append_assoc, List.append_assoc] at split
      have behindHeader := split.trans (List.append_assoc _ _ _).symm
      rw [subnodeResume_beginNode key aligned
        (sound.nextTag_nodeHeader aligned isName fills split)
        (Int.le_refl 0),
        sound.nodenameEq aligned isName fills split key
          (inside.properties strings)]
      simp only [FdtTokens.children, List.findIdx?_cons,
        OrderedTree.label] at found
      split at found
      case isTrue same =>
          simp only [Option.some.injEq] at found
          subst found
          exact ⟨[], name, padding, inside, siblings.bytes, .here whole,
            if_pos ⟨rfl, same⟩⟩
      case isFalse other =>
          rw [Option.map_eq_some_iff] at found
          obtain ⟨later, found, rfl⟩ := found
          have below :=
            (subnodeWalk key).skip sound insideFormed (by
                rw [List.length_append, length_nodeHeader fills]
                omega)
              behindHeader (Int.le_refl 1)
          obtain ⟨before, childName, childPadding, childInside, behind,
            focus, reached⟩ :=
            siblingsHypothesis siblingsFormed (by
                simp only [List.length_append, length_nodeHeader fills]
                omega)
              (behindHeader.trans (List.append_assoc _ _ _).symm) found
          refine ⟨_, childName, childPadding, childInside, behind,
            focus.sibling whole, ?_⟩
          rw [List.length_append] at below
          rw [List.length_append, List.length_append] at reached
          rw [if_neg fun both => other both.2, Int.zero_add, below,
            Int.sub_self, reached]
          simp only [List.length_append, Nat.add_assoc]

end Search

/-! ## Properties of a node -/

section Properties

variable {fdt : Fdt}

/-- `fdt_get_string` finds what the strings block holds. -/
theorem Sound.getString
    (sound : fdt.Sound)
    {offset : Nat}
    {text : Text}
    (stored : OverclockBuilder.getString fdt.strings offset = some text) :
    fdt.getString offset = some text := by
  have size := sound.length_strings
  obtain ⟨-, -, -, small, -, -, inside⟩ := sound.accepted
  rw [OverclockBuilder.getString] at stored
  obtain ⟨isName, behind, split⟩ := readString_eq_some stored
  have within : offset < fdt.header.sizeDtStrings := by
    have long := congrArg List.length split
    rw [List.length_drop, List.length_append, length_stringBytes] at long
    omega
  have blockEnd :
      slice (offset + fdt.header.offDtStrings)
          (fdt.header.sizeDtStrings - offset) fdt.buffer =
        stringBytes text ++ behind := by
    rw [← split, Fdt.strings, slice, slice, List.drop_take, List.drop_drop,
      Nat.add_comm offset]
  rw [Fdt.getString, sound.roProbe]
  dsimp only
  rw [if_neg (by omega)]
  split
  · rw [if_neg (by omega), Nat.min_eq_right (by omega), blockEnd,
      readString_stringBytes isName]
  · have longer :
        fdt.header.totalsize - (offset + fdt.header.offDtStrings) =
          (fdt.header.sizeDtStrings - offset) +
            (fdt.header.totalsize -
              (fdt.header.offDtStrings + fdt.header.sizeDtStrings)) := by
      omega
    rw [slice] at blockEnd
    rw [longer, slice, List.take_add, blockEnd, List.append_assoc,
      readString_stringBytes isName]

/-- A word of the header of a property. -/
theorem Sound.wordAt
    {front behind back : Bytes}
    {index word : Nat}
    (small : word < 4294967296)
    (split : fdt.block = front ++ (behind ++ (bigEndian 4 word ++ back)))
    (place : behind.length = 4 * index) :
    fdt.wordAt front.length index = word := by
  obtain ⟨rest, found⟩ :=
    drop_buffer_of_block (split.trans (List.append_assoc _ _ _).symm)
  rw [List.length_append, place, ← Nat.add_assoc] at found
  rw [Fdt.wordAt, slice, found, List.append_assoc,
    List.take_left' (length_bigEndian 4 word), ofBigEndian_bigEndian,
    Nat.mod_eq_of_lt (by simpa using small)]

/-- What is left of a search among properties at a token. -/
def propertyResume (fdt : Fdt) (name : Text) (position : Nat) :
    Except FdtError Nat :=
  match fdt.nextprop position with
  | .error error =>
      .error error
  | .ok offset =>
      fdt.propertyLoop name offset

/-- The search for a property ends in front of the children. -/
theorem propertyResume_end
    (name : Text)
    {position tag next : Nat}
    (walked : fdt.nextTag position = .ok (tag, next))
    (ended : tag = fdtBeginNode ∨ tag = fdtEndNode) :
    fdt.propertyResume name position = .error .notFound := by
  have plain : tag ≠ fdtEnd ∧ tag ≠ fdtProp ∧ tag ≠ fdtNop := by
    rcases ended with rfl | rfl <;> decide
  rw [propertyResume, nextprop_of_nextTag walked, if_neg plain.1,
    if_neg plain.2.1, if_neg plain.2.2]

theorem propertyResume_nop
    (name : Text)
    {position next : Nat}
    (walked : fdt.nextTag position = .ok (fdtNop, next)) :
    fdt.propertyResume name position = fdt.propertyResume name next := by
  rw [propertyResume, nextprop_of_nextTag walked, if_neg (by decide),
    if_neg (by decide), if_pos rfl]
  rfl

/-- A property is the one searched for, or it is passed over. -/
theorem Sound.propertyResume_propertyBytes
    (sound : fdt.Sound)
    (name : Text)
    {front back value padding : Bytes}
    (aligned : front.length % 4 = 0)
    {nameOffset : Nat}
    (near : nameOffset < 4294967296)
    {stored : Text}
    (named :
      OverclockBuilder.getString fdt.strings nameOffset = some stored)
    (fills : Fills value padding)
    (split :
      fdt.block =
        front ++ (propertyBytes nameOffset value padding ++ back)) :
    fdt.propertyResume name front.length =
      if some stored = some name then
        .ok front.length
      else
        fdt.propertyResume name
          (front.length +
            (propertyBytes nameOffset value padding).length) := by
  have walked := sound.nextTag_propertyBytes aligned fills split
  have checked :
      fdt.checkPropOffset front.length =
        .ok (front.length +
          (propertyBytes nameOffset value padding).length) := by
    rw [checkPropOffset, if_neg (by omega), walked]
    rfl
  have nameWord : fdt.wordAt front.length 2 = nameOffset := by
    have behindLength :
        fdt.block =
          front ++ ((bigEndian 4 fdtProp ++ bigEndian 4 value.length) ++
            (bigEndian 4 nameOffset ++ (value ++ (padding ++ back)))) := by
      rw [split]
      simp only [propertyBytes, List.append_assoc]
    exact Sound.wordAt near behindLength (by simp)
  have here : fdt.nextprop front.length = .ok front.length := by
    rw [nextprop_of_nextTag walked, if_neg (by decide), if_pos rfl]
  rw [propertyResume, here]
  dsimp only
  rw [propertyLoop_of_checked checked, nameWord, sound.getString named]
  rfl

/-- The value of the property at an offset. -/
theorem Sound.propertyData
    (sound : fdt.Sound)
    {front back value padding : Bytes}
    {nameOffset : Nat}
    (fills : Fills value padding)
    (split :
      fdt.block =
        front ++ (propertyBytes nameOffset value padding ++ back)) :
    fdt.wordAt front.length 1 = value.length ∧
      fdt.propertyData front.length = value := by
  have long := sound.length_block
  obtain ⟨-, -, -, small, -, inside, -⟩ := sound.accepted
  rw [split] at long
  simp only [List.length_append, length_propertyBytes fills] at long
  have room := le_tagAlign value.length
  have lengthWord : fdt.wordAt front.length 1 = value.length := by
    have behindTag :
        fdt.block =
          front ++ (bigEndian 4 fdtProp ++ (bigEndian 4 value.length ++
            (bigEndian 4 nameOffset ++ (value ++ (padding ++ back))))) := by
      rw [split]
      simp only [propertyBytes, List.append_assoc]
    exact Sound.wordAt (by omega) behindTag (by simp)
  refine ⟨lengthWord, ?_⟩
  have behindWords :
      fdt.block =
        (front ++ (bigEndian 4 fdtProp ++ (bigEndian 4 value.length ++
          bigEndian 4 nameOffset))) ++ (value ++ (padding ++ back)) := by
    rw [split]
    simp only [propertyBytes, List.append_assoc]
  obtain ⟨rest, found⟩ := drop_buffer_of_block behindWords
  simp only [List.length_append, length_bigEndian, ← Nat.add_assoc]
    at found
  rw [Fdt.propertyData, lengthWord, slice, found, List.append_assoc,
    List.take_left]

/-- Among the tokens of a node, the first property of a name is found. -/
theorem Sound.propertyResume_tokens
    (sound : fdt.Sound)
    (key : Text)
    {tokens : FdtTokens}
    (formed : tokens.WellFormed fdt.strings)
    {front back : Bytes}
    (aligned : front.length % 4 = 0)
    (split : fdt.block = front ++ (tokens.bytes ++ back)) :
    ((tokens.properties fdt.strings).find?
          (fun property => property.name = key) =
        none ∧
      fdt.propertyResume key front.length = .error .notFound) ∨
    ∃ before nameOffset value padding behind,
      FdtTokens.PropertyFocus fdt.strings tokens key before nameOffset value
          padding behind ∧
        fdt.propertyResume key front.length =
          .ok (front.length + before.length) := by
  induction tokens generalizing front back with
  | endNode =>
      exact .inl ⟨rfl, propertyResume_end key
        (sound.nextTag_word aligned (.inr (.inl rfl)) split) (.inr rfl)⟩
  | nop rest inductionHypothesis =>
      rw [FdtTokens.bytes, List.append_assoc] at split
      rw [propertyResume_nop key
        (sound.nextTag_word aligned (.inr (.inr rfl)) split)]
      have later :=
        inductionHypothesis formed (by
            rw [List.length_append, length_bigEndian]
            omega)
          (split.trans (List.append_assoc _ _ _).symm)
      rw [List.length_append, length_bigEndian] at later
      rcases later with
        missing | ⟨before, nameOffset, value, padding, behind, focus, found⟩
      · exact .inl missing
      · refine .inr ⟨_, nameOffset, value, padding, behind, focus.nop, ?_⟩
        rw [found, List.length_append, length_bigEndian, Nat.add_assoc]
  | property nameOffset value padding rest inductionHypothesis =>
      have whole := formed
      obtain ⟨-, near, found, fills, restFormed⟩ := formed
      obtain ⟨name, named⟩ := Option.isSome_iff_exists.mp found
      have valueWhole := tagAlign_mod value.length
      rw [FdtTokens.bytes, List.append_assoc] at split
      rw [sound.propertyResume_propertyBytes key aligned near named fills
        split, ← named]
      by_cases same :
          OverclockBuilder.getString fdt.strings nameOffset = some key
      · exact .inr ⟨[], nameOffset, value, padding, rest.bytes,
          .here whole same, if_pos same⟩
      · rw [if_neg same]
        have later :=
          inductionHypothesis restFormed (by
              rw [List.length_append, length_propertyBytes fills]
              omega)
            (split.trans (List.append_assoc _ _ _).symm)
        rw [List.length_append] at later
        rcases later with
          ⟨missing, failed⟩ |
            ⟨before, laterOffset, laterValue, laterPadding, behind, focus,
              reached⟩
        · refine .inl ⟨?_, failed⟩
          simp only [FdtTokens.properties, named, Option.getD_some]
          rw [List.find?_cons_of_neg, missing]
          simpa [named] using same
        · refine .inr ⟨_, laterOffset, laterValue, laterPadding, behind,
            focus.behind whole same, ?_⟩
          rw [reached, List.length_append, Nat.add_assoc]
  | child name padding inside siblings insideHypothesis
      siblingsHypothesis =>
      obtain ⟨isName, fills, -⟩ := formed
      rw [FdtTokens.bytes, List.append_assoc, List.append_assoc] at split
      exact .inl ⟨rfl, propertyResume_end key
        (sound.nextTag_nodeHeader aligned isName fills split) (.inl rfl)⟩

end Properties

/-! ## Paths -/

section Paths

variable {fdt : Fdt} {strings : Bytes} {root : DeviceTree}

/-- A search among subnodes starts behind the header of the node. -/
theorem Sound.subnodeOffset
    (sound : fdt.Sound)
    {address : List Nat}
    {front : Bytes}
    {name : Text}
    {padding : Bytes}
    {inside : FdtTokens}
    {back : Bytes}
    (focus :
      NodeFocus strings fdt.block root address front name padding inside
        back)
    (key : Text) :
    fdt.subnodeOffset front.length key =
      fdt.subnodeResume key (front ++ nodeHeader name padding).length 0 := by
  have checked :=
    checkNodeOffset_of_nextTag focus.aligned
      (sound.nextTag_nodeHeader focus.aligned focus.isName focus.fills
        focus.bytes)
  rw [Fdt.subnodeOffset, sound.roProbe]
  dsimp only
  rw [subnodeLoop_of_other (Int.le_refl 0) (by simp), nextNode, checked,
    List.length_append]
  rfl

/-- A path is walked through the bytes as it is through the tree. -/
theorem Sound.pathLoop
    (sound : fdt.Sound)
    (keys : List Text)
    {address : List Nat}
    {front : Bytes}
    {name : Text}
    {padding : Bytes}
    {inside : FdtTokens}
    {back : Bytes}
    (focus :
      NodeFocus strings fdt.block root address front name padding inside
        back) :
    (OrderedTree.find OverclockBuilder.nodenameEq keys
          (FdtTokens.tree strings name inside) =
        none ∧
      fdt.pathLoop keys front.length = .error .notFound) ∨
    ∃ rest front' name' padding' inside' back',
      OrderedTree.find OverclockBuilder.nodenameEq keys
          (FdtTokens.tree strings name inside) =
        some rest ∧
      NodeFocus strings fdt.block root (address ++ rest) front' name'
        padding' inside' back' ∧
      fdt.pathLoop keys front.length = .ok front'.length := by
  induction keys generalizing address front name padding inside back with
  | nil =>
      refine .inr ⟨[], front, name, padding, inside, back, rfl, ?_, rfl⟩
      rwa [List.append_nil]
  | cons key keys inductionHypothesis =>
      have started := sound.subnodeOffset focus key
      rw [Fdt.pathLoop, started]
      simp only [FdtTokens.tree, OrderedTree.find]
      cases found :
          (inside.children strings).findIdx? fun child =>
            OverclockBuilder.nodenameEq key child.label with
      | none =>
          left
          rw [sound.subnodeResume_none focus.formed focus.aligned_inside
            focus.bytes_inside found]
          exact ⟨rfl, rfl⟩
      | some index =>
          obtain ⟨before, childName, childPadding, childInside, behind,
            below, reached⟩ :=
            sound.subnodeResume_some focus.formed focus.aligned_inside
              focus.bytes_inside found
          rw [← List.length_append] at reached
          rw [reached]
          simp only [Option.bind_some, below.atIndex]
          rcases inductionHypothesis (focus.child below) with
            ⟨missing, failed⟩ |
              ⟨rest, front', name', padding', inside', back', onward, there,
                walked⟩
          · left
            rw [missing]
            exact ⟨rfl, failed⟩
          · refine .inr ⟨index :: rest, front', name', padding', inside',
              back', ?_, ?_, walked⟩
            · rw [onward]
              rfl
            · rwa [List.append_assoc] at there

/-- `fdt_path_offset` finds the node that the tree has at a path. -/
theorem Sound.pathOffset
    (sound : fdt.Sound)
    (read : readStructure strings fdt.block = some root)
    (path : Text) :
    (OverclockBuilder.pathOffset path root = none ∧
      ∃ error, fdt.pathOffset path = .error error) ∨
    ∃ address front name padding inside back,
      OverclockBuilder.pathOffset path root = some address ∧
        NodeFocus strings fdt.block root address front name padding inside
            back ∧
          fdt.pathOffset path = .ok front.length := by
  obtain ⟨name, padding, inside, back, focus⟩ := NodeFocus.root read
  have isRoot : FdtTokens.tree strings name inside = root :=
    Option.some.inj focus.atAddress.symm
  rw [Fdt.pathOffset, sound.roProbe, OverclockBuilder.pathOffset]
  dsimp only
  by_cases absolute : path.head? = some '/'
  · rw [if_pos absolute, if_pos absolute]
    rcases sound.pathLoop (words (· == '/') path) focus with
      ⟨missing, failed⟩ |
        ⟨rest, front', name', padding', inside', back', found, there,
          walked⟩
    · rw [isRoot] at missing
      exact .inl ⟨missing, .notFound, failed⟩
    · rw [isRoot] at found
      exact .inr ⟨rest, front', name', padding', inside', back', found,
        there, walked⟩
  · rw [if_neg absolute, if_neg absolute]
    exact .inl ⟨rfl, .badPath, rfl⟩

/-- A search for a property starts behind the header of the node. -/
theorem Sound.getProperty
    (sound : fdt.Sound)
    {address : List Nat}
    {front : Bytes}
    {name : Text}
    {padding : Bytes}
    {inside : FdtTokens}
    {back : Bytes}
    (focus :
      NodeFocus strings fdt.block root address front name padding inside
        back)
    (key : Text) :
    fdt.getProperty front.length key =
      fdt.propertyResume key
        (front ++ nodeHeader name padding).length := by
  have checked :=
    checkNodeOffset_of_nextTag focus.aligned
      (sound.nextTag_nodeHeader focus.aligned focus.isName focus.fills
        focus.bytes)
  rw [Fdt.getProperty, firstPropertyOffset, checked, List.length_append]
  rfl

/-- `fdt_getprop` reads the value that the tree has. -/
theorem Sound.getprop
    (sound : fdt.Sound)
    {address : List Nat}
    {front : Bytes}
    {name : Text}
    {padding : Bytes}
    {inside : FdtTokens}
    {back : Bytes}
    (focus :
      NodeFocus fdt.strings fdt.block root address front name padding
        inside back)
    (key : Text) :
    (fdt.getprop front.length key).toOption =
      (OrderedTree.labelAt address root).bind
        (OverclockBuilder.getprop key) := by
  have label :
      OrderedTree.labelAt address root =
        some ⟨name, inside.properties fdt.strings⟩ := by
    rw [OrderedTree.labelAt, focus.atAddress]
    rfl
  rw [label, Option.bind_some, OverclockBuilder.getprop, Fdt.getprop,
    sound.getProperty focus]
  rcases sound.propertyResume_tokens key focus.formed focus.aligned_inside
      focus.bytes_inside with
    ⟨missing, failed⟩ |
      ⟨before, nameOffset, value, valuePadding, behind, property, found⟩
  · rw [missing, failed]
    rfl
  · have here :
        fdt.block =
          (front ++ nodeHeader name padding ++ before) ++
            (propertyBytes nameOffset value valuePadding ++
              (behind ++ back)) := by
      rw [focus.bytes, property.bytes]
      simp only [List.append_assoc]
    have data := (sound.propertyData property.fills here).2
    rw [List.length_append] at data
    rw [found, property.first]
    simp only [Except.map, data]
    rfl

end Paths

end Fdt

end OverclockBuilder
