import OverclockBuilder.FdtTokens

namespace OverclockBuilder

open RadixText WordText BytePacking LabelTree

/-!
# Places in a structure block

A focus names a node by the bytes around its tokens.  It says which node of the
tree stands there, and that other tokens in the same place are another node in
the same place of the tree.
-/

/-- A strings block in which every string of another one is found. -/
def Extends (strings longer : Bytes) : Prop :=
  ∀ offset text,
    getString strings offset = some text →
      getString longer offset = some text

theorem Extends.refl (strings : Bytes) : Extends strings strings :=
  fun _ _ found => found

/-- Strings behind a block hide none of its strings. -/
theorem extends_append (strings added : Bytes) :
    Extends strings (strings ++ added) := by
  intro offset text found
  rw [getString] at found
  obtain ⟨isName, rest, split⟩ := readString_eq_some found
  have inside : offset ≤ strings.length := by
    by_contra outside
    rw [List.drop_of_length_le (by omega)] at split
    have long := congrArg List.length split
    rw [List.length_append, length_stringBytes, List.length_nil] at long
    omega
  rw [getString, List.drop_append_of_le_length inside, split,
    List.append_assoc, readString_stringBytes isName]

namespace FdtTokens

section Extension

variable {strings longer : Bytes}

/-- Longer strings keep well-formed tokens what they are. -/
theorem WellFormed.extend
    (more : Extends strings longer)
    {tokens : FdtTokens}
    (formed : tokens.WellFormed strings) :
    tokens.WellFormed longer ∧
      tokens.properties longer = tokens.properties strings ∧
        tokens.children longer = tokens.children strings := by
  induction tokens with
  | endNode =>
      exact ⟨trivial, rfl, rfl⟩
  | nop rest inductionHypothesis =>
      exact inductionHypothesis formed
  | property nameOffset value padding rest inductionHypothesis =>
      obtain ⟨short, near, found, fills, restFormed⟩ := formed
      obtain ⟨name, found⟩ := Option.isSome_iff_exists.mp found
      have still := more nameOffset name found
      obtain ⟨formed, properties, children⟩ :=
        inductionHypothesis restFormed
      refine ⟨⟨short, near, by rw [still]; rfl, fills, formed⟩, ?_,
        children⟩
      simp only [FdtTokens.properties, properties, found, still]
  | child name padding inside siblings insideHypothesis
      siblingsHypothesis =>
      obtain ⟨isName, fills, early, insideFormed, siblingsFormed⟩ := formed
      obtain ⟨insideStill, insideProperties, insideChildren⟩ :=
        insideHypothesis insideFormed
      obtain ⟨siblingsStill, siblingsProperties, siblingsChildren⟩ :=
        siblingsHypothesis siblingsFormed
      refine ⟨⟨isName, fills, siblingsProperties.trans early, insideStill,
        siblingsStill⟩, rfl, ?_⟩
      simp only [FdtTokens.children, insideProperties, insideChildren,
        siblingsChildren]

end Extension

/-- A child of a node, with the bytes in front of it and behind it. -/
structure ChildFocus
    (strings : Bytes)
    (tokens : FdtTokens)
    (index : Nat)
    (front : Bytes)
    (name : Text)
    (padding : Bytes)
    (inside : FdtTokens)
    (back : Bytes) : Prop where
  bytes :
    tokens.bytes =
      front ++ (nodeHeader name padding ++ (inside.bytes ++ back))
  aligned : front.length % 4 = 0
  isName : IsByteName name
  fills : Fills (stringBytes name) padding
  formed : inside.WellFormed strings
  atIndex :
    (tokens.children strings)[index]? = some (tree strings name inside)
  replace :
    ∀ {longer : Bytes} {other : FdtTokens},
      Extends strings longer → other.WellFormed longer →
        ∃ changed : FdtTokens,
          changed.WellFormed longer ∧
            changed.bytes =
                front ++
                  (nodeHeader name padding ++ (other.bytes ++ back)) ∧
              changed.properties longer = tokens.properties strings ∧
                changed.children longer =
                  (tokens.children strings).set index
                    (tree longer name other)

namespace ChildFocus

variable {strings : Bytes} {tokens : FdtTokens} {index : Nat}
  {front : Bytes} {name : Text} {padding : Bytes} {inside : FdtTokens}
  {back : Bytes}

/-- The first child. -/
theorem here
    {siblings : FdtTokens}
    (formed : (child name padding inside siblings).WellFormed strings) :
    ChildFocus strings (child name padding inside siblings) 0 [] name padding
      inside siblings.bytes := by
  obtain ⟨isName, fills, early, insideFormed, siblingsFormed⟩ := formed
  refine ⟨rfl, rfl, isName, fills, insideFormed, rfl, ?_⟩
  intro longer other more otherFormed
  obtain ⟨still, properties, children⟩ := siblingsFormed.extend more
  refine ⟨child name padding other siblings,
    ⟨isName, fills, properties.trans early, otherFormed, still⟩, rfl, rfl,
    ?_⟩
  simp only [FdtTokens.children, children, List.set_cons_zero]
  rfl

/-- A child behind an `FDT_NOP`. -/
theorem nop (focus :
    ChildFocus strings tokens index front name padding inside back) :
    ChildFocus strings (FdtTokens.nop tokens) index
      (bigEndian 4 fdtNop ++ front) name padding inside back := by
  refine ⟨?_, ?_, focus.isName, focus.fills, focus.formed, focus.atIndex,
    ?_⟩
  · rw [FdtTokens.bytes, focus.bytes, List.append_assoc]
  · have aligned := focus.aligned
    rw [List.length_append, length_bigEndian]
    omega
  · intro longer other more otherFormed
    obtain ⟨changed, formed, bytes, properties, children⟩ :=
      focus.replace more otherFormed
    refine ⟨FdtTokens.nop changed, formed, ?_, properties, children⟩
    rw [FdtTokens.bytes, bytes, List.append_assoc]

/-- A child behind a property. -/
theorem property
    {nameOffset : Nat}
    {value valuePadding : Bytes}
    (formed :
      (FdtTokens.property nameOffset value valuePadding tokens).WellFormed
        strings)
    (focus :
      ChildFocus strings tokens index front name padding inside back) :
    ChildFocus strings
      (FdtTokens.property nameOffset value valuePadding tokens) index
      (propertyBytes nameOffset value valuePadding ++ front) name padding
      inside back := by
  obtain ⟨short, near, found, fills, -⟩ := formed
  refine ⟨?_, ?_, focus.isName, focus.fills, focus.formed, focus.atIndex,
    ?_⟩
  · rw [FdtTokens.bytes, focus.bytes, List.append_assoc]
  · have aligned := focus.aligned
    have whole := tagAlign_mod value.length
    rw [List.length_append, length_propertyBytes fills]
    omega
  · intro longer other more otherFormed
    obtain ⟨changed, changedFormed, bytes, properties, children⟩ :=
      focus.replace more otherFormed
    obtain ⟨stored, found⟩ := Option.isSome_iff_exists.mp found
    have still := more nameOffset stored found
    refine ⟨FdtTokens.property nameOffset value valuePadding changed,
      ⟨short, near, by rw [still]; rfl, fills, changedFormed⟩, ?_, ?_,
      children⟩
    · rw [FdtTokens.bytes, bytes, List.append_assoc]
    · simp only [FdtTokens.properties, properties, found, still]

/-- A child behind another one. -/
theorem sibling
    {first : Text}
    {firstPadding : Bytes}
    {firstInside : FdtTokens}
    (formed :
      (child first firstPadding firstInside tokens).WellFormed strings)
    (focus :
      ChildFocus strings tokens index front name padding inside back) :
    ChildFocus strings (child first firstPadding firstInside tokens)
      (index + 1)
      (nodeHeader first firstPadding ++ (firstInside.bytes ++ front)) name
      padding inside back := by
  obtain ⟨isName, fills, early, insideFormed, -⟩ := formed
  refine ⟨?_, ?_, focus.isName, focus.fills, focus.formed, focus.atIndex,
    ?_⟩
  · rw [FdtTokens.bytes, focus.bytes]
    simp only [List.append_assoc]
  · have aligned := focus.aligned
    have whole := tagAlign_mod (first.length + 1)
    have bodyAligned := insideFormed.aligned
    simp only [List.length_append, length_nodeHeader fills]
    omega
  · intro longer other more otherFormed
    obtain ⟨changed, changedFormed, bytes, properties, children⟩ :=
      focus.replace more otherFormed
    obtain ⟨still, insideProperties, insideChildren⟩ :=
      insideFormed.extend more
    refine ⟨child first firstPadding firstInside changed,
      ⟨isName, fills, properties.trans early, still, changedFormed⟩, ?_,
      rfl, ?_⟩
    · rw [FdtTokens.bytes, bytes]
      simp only [List.append_assoc]
    · simp only [FdtTokens.children, children, insideProperties,
        insideChildren, List.set_cons_succ]

end ChildFocus

/-- The first property of a name, with the bytes around its token. -/
structure PropertyFocus
    (strings : Bytes)
    (tokens : FdtTokens)
    (key : Text)
    (front : Bytes)
    (nameOffset : Nat)
    (value padding back : Bytes) : Prop where
  bytes :
    tokens.bytes =
      front ++ (propertyBytes nameOffset value padding ++ back)
  aligned : front.length % 4 = 0
  near : nameOffset < 4294967296
  short : value.length < 4294967296
  fills : Fills value padding
  named : getString strings nameOffset = some key
  first :
    (tokens.properties strings).find? (fun property => property.name = key) =
      some ⟨key, value⟩
  replace :
    ∀ {other otherPadding : Bytes},
      other.length < 4294967296 → Fills other otherPadding →
        ∃ changed : FdtTokens,
          changed.WellFormed strings ∧
            changed.bytes =
                front ++ (propertyBytes nameOffset other otherPadding ++
                  back) ∧
              changed.properties strings =
                  overwriteProperty key other (tokens.properties strings) ∧
                changed.children strings = tokens.children strings

namespace PropertyFocus

variable {strings : Bytes} {tokens : FdtTokens} {key : Text}
  {front : Bytes} {nameOffset : Nat} {value padding back : Bytes}

/-- The property in front. -/
theorem here
    (formed : (property nameOffset value padding tokens).WellFormed strings)
    (named : getString strings nameOffset = some key) :
    PropertyFocus strings (property nameOffset value padding tokens) key []
      nameOffset value padding tokens.bytes := by
  obtain ⟨short, near, found, fills, restFormed⟩ := formed
  refine ⟨rfl, rfl, near, short, fills, named, ?_, ?_⟩
  · simp [FdtTokens.properties, named]
  · intro other otherPadding otherShort otherFills
    refine ⟨property nameOffset other otherPadding tokens,
      ⟨otherShort, near, found, otherFills, restFormed⟩, rfl, ?_, rfl⟩
    simp [FdtTokens.properties, named, overwriteProperty]

/-- A property behind an `FDT_NOP`. -/
theorem nop (focus :
    PropertyFocus strings tokens key front nameOffset value padding back) :
    PropertyFocus strings (FdtTokens.nop tokens) key
      (bigEndian 4 fdtNop ++ front) nameOffset value padding back := by
  refine ⟨?_, ?_, focus.near, focus.short, focus.fills, focus.named,
    focus.first, ?_⟩
  · rw [FdtTokens.bytes, focus.bytes, List.append_assoc]
  · have aligned := focus.aligned
    rw [List.length_append, length_bigEndian]
    omega
  · intro other otherPadding otherShort otherFills
    obtain ⟨changed, formed, bytes, properties, children⟩ :=
      focus.replace otherShort otherFills
    refine ⟨FdtTokens.nop changed, formed, ?_, properties, children⟩
    rw [FdtTokens.bytes, bytes, List.append_assoc]

/-- A property behind one of another name. -/
theorem behind
    {firstOffset : Nat}
    {firstValue firstPadding : Bytes}
    (formed :
      (property firstOffset firstValue firstPadding tokens).WellFormed
        strings)
    (different : getString strings firstOffset ≠ some key)
    (focus :
      PropertyFocus strings tokens key front nameOffset value padding
        back) :
    PropertyFocus strings
      (property firstOffset firstValue firstPadding tokens) key
      (propertyBytes firstOffset firstValue firstPadding ++ front)
      nameOffset value padding back := by
  obtain ⟨short, near, found, fills, -⟩ := formed
  obtain ⟨firstName, named⟩ := Option.isSome_iff_exists.mp found
  have other : firstName ≠ key := by
    intro same
    exact different (same ▸ named)
  refine ⟨?_, ?_, focus.near, focus.short, focus.fills, focus.named, ?_,
    ?_⟩
  · rw [FdtTokens.bytes, focus.bytes, List.append_assoc]
  · have aligned := focus.aligned
    have whole := tagAlign_mod firstValue.length
    rw [List.length_append, length_propertyBytes fills]
    omega
  · simp only [FdtTokens.properties, named, Option.getD_some]
    rw [List.find?_cons_of_neg (by simpa using other)]
    exact focus.first
  · intro value' padding' valueShort valueFills
    obtain ⟨changed, changedFormed, bytes, properties, children⟩ :=
      focus.replace valueShort valueFills
    refine ⟨property firstOffset firstValue firstPadding changed,
      ⟨short, near, found, fills, changedFormed⟩, ?_, ?_, children⟩
    · rw [FdtTokens.bytes, bytes, List.append_assoc]
    · simp only [FdtTokens.properties, properties, named,
        Option.getD_some]
      rw [overwriteProperty, if_neg other]

end PropertyFocus

end FdtTokens

/-- A node of a structure block, at its address in the tree. -/
structure NodeFocus
    (strings block : Bytes)
    (root : DeviceTree)
    (address : List Nat)
    (front : Bytes)
    (name : Text)
    (padding : Bytes)
    (inside : FdtTokens)
    (back : Bytes) : Prop where
  bytes :
    block = front ++ (nodeHeader name padding ++ (inside.bytes ++ back))
  aligned : front.length % 4 = 0
  isName : IsByteName name
  fills : Fills (stringBytes name) padding
  formed : inside.WellFormed strings
  atAddress :
    OrderedTree.at? address root = some (FdtTokens.tree strings name inside)
  replace :
    ∀ {longer : Bytes} {other : FdtTokens},
      Extends strings longer → other.WellFormed longer →
        readStructure longer
            (front ++ (nodeHeader name padding ++ (other.bytes ++ back))) =
          some
            (OrderedTree.replaceAt (FdtTokens.tree longer name other) address
              root)

/-- The root of a block that reads as a tree. -/
theorem NodeFocus.root
    {strings block : Bytes}
    {root : DeviceTree}
    (read : readStructure strings block = some root) :
    ∃ name padding inside back,
      NodeFocus strings block root [] [] name padding inside back := by
  obtain ⟨name, padding, inside, trailing, isName, fills, formed, rfl, rfl⟩ :=
    readStructure_eq_some_iff.mp read
  refine ⟨name, padding, inside, bigEndian 4 fdtEnd ++ trailing, rfl, rfl,
    isName, fills, formed, rfl, ?_⟩
  intro longer other more otherFormed
  rw [readStructure_eq_some_iff]
  exact ⟨name, padding, other, trailing, isName, fills, otherFormed, rfl,
    rfl⟩

section Node

variable {strings block : Bytes} {root : DeviceTree} {address : List Nat}
  {front : Bytes} {name : Text} {padding : Bytes} {inside : FdtTokens}
  {back : Bytes}

/-- What stands behind the header of a node is aligned as well. -/
theorem NodeFocus.aligned_inside
    (focus :
      NodeFocus strings block root address front name padding inside back) :
    (front ++ nodeHeader name padding).length % 4 = 0 := by
  have aligned := focus.aligned
  have whole := tagAlign_mod (name.length + 1)
  rw [List.length_append, length_nodeHeader focus.fills]
  omega

theorem NodeFocus.bytes_inside
    (focus :
      NodeFocus strings block root address front name padding inside back) :
    block =
      (front ++ nodeHeader name padding) ++ (inside.bytes ++ back) :=
  focus.bytes.trans (List.append_assoc _ _ _).symm

/-- A child of a node in focus. -/
theorem NodeFocus.child
    (focus :
      NodeFocus strings block root address front name padding inside back)
    {index : Nat}
    {before : Bytes}
    {childName : Text}
    {childPadding : Bytes}
    {childInside : FdtTokens}
    {behind : Bytes}
    (below :
      FdtTokens.ChildFocus strings inside index before childName
        childPadding childInside behind) :
    NodeFocus strings block root (address ++ [index])
      (front ++ nodeHeader name padding ++ before) childName childPadding
      childInside (behind ++ back) := by
  refine ⟨?_, ?_, below.isName, below.fills, below.formed, ?_, ?_⟩
  · rw [focus.bytes, below.bytes]
    simp only [List.append_assoc]
  · have first := focus.aligned_inside
    have second := below.aligned
    rw [List.length_append]
    omega
  · rw [OrderedTree.at?_append_singleton, focus.atAddress, Option.bind_some]
    exact below.atIndex
  · intro longer other more otherFormed
    obtain ⟨changed, formed, bytes, properties, children⟩ :=
      below.replace more otherFormed
    have edited := focus.replace more formed
    rw [bytes, FdtTokens.tree, properties, children] at edited
    rw [OrderedTree.replaceAt_append_singleton focus.atAddress, ← edited]
    simp only [List.append_assoc]

end Node

end OverclockBuilder
