import OverclockBuilder.FdtLookup
import OverclockBuilder.FdtTools

namespace OverclockBuilder

open RadixText WordText BytePacking LabelTree

/-!
# fdtget on bytes

The tool as it walks a file.  On a file that holds a tree it prints what the
tree says.
-/

/-- `utilfdt_read`; a file without a whole header is left out. -/
def readFdt (blob : Bytes) : Option Fdt :=
  (readFdtHeader blob).map fun header => ⟨header, blob⟩

namespace Fdt

/-- The line `list_subnodes` prints for a node. -/
def subnodeLine (fdt : Fdt) (offset : Nat) : Text :=
  match fdt.getName offset with
  | none =>
      "/* NULL pointer error */".toList
  | some name =>
      if name = [] then ['/'] else name

/-- The loop of `list_subnodes`, and the error it ends with. -/
def subnodeLines (fdt : Fdt) (offset : Nat) : List Text × FdtError :=
  match walked : fdt.nextSubnode offset with
  | .error error =>
      ([fdt.subnodeLine offset], error)
  | .ok next =>
      have := nextSubnodeLoop_gt walked
      let (lines, error) := fdt.subnodeLines next
      (fdt.subnodeLine offset :: lines, error)
termination_by fdt.header.sizeDtStruct - offset

/-- The children from a token on, as `fdt_for_each_subnode` goes on. -/
def linesFrom (fdt : Fdt) : Except FdtError Nat → List Text × FdtError
  | .error error =>
      ([], error)
  | .ok offset =>
      fdt.subnodeLines offset

/-- `list_subnodes` -/
def listSubnodes (fdt : Fdt) (offset : Nat) : Option (List Text) :=
  let (lines, error) := fdt.linesFrom (fdt.firstSubnode offset)
  if error = .notFound then some lines else none

theorem subnodeLines_eq (fdt : Fdt) (offset : Nat) :
    fdt.subnodeLines offset =
      (fdt.subnodeLine offset ::
          (fdt.linesFrom (fdt.nextSubnode offset)).1,
        (fdt.linesFrom (fdt.nextSubnode offset)).2) := by
  rw [subnodeLines]
  split <;> rename_i walked <;> simp only [walked] <;> rfl

/-! ## Walking from child to child -/

section Children

variable {fdt : Fdt}

/-- What is left of a search for the next subnode at a token. -/
def nextSubnodeResume (fdt : Fdt) (position : Nat) (depth : Int) :
    Except FdtError Nat :=
  match fdt.nextNodeLoop position depth with
  | (.ok next, after) =>
      if after < 1 then
        .error .notFound
      else if 1 < after then
        fdt.nextSubnodeLoop next after
      else
        .ok next
  | (.error _, _) =>
      .error .notFound

/-- A walk enters at most one node before it stops. -/
theorem nextNodeLoop_depth_le
    {offset next : Nat}
    {depth after : Int}
    (walked : fdt.nextNodeLoop offset depth = (.ok next, after)) :
    after ≤ depth + 1 := by
  fun_induction nextNodeLoop fdt offset depth with
  | case1 =>
      cases walked
  | case2 =>
      cases walked
      omega
  | case3 =>
      cases walked
  | case4 =>
      cases walked
      omega
  | case5 offset depth behind inside here _ _ _ inductionHypothesis =>
      have later := inductionHypothesis walked
      omega
  | case6 offset depth tag behind here _ _ _ _ inductionHypothesis =>
      exact inductionHypothesis walked

theorem nextSubnodeResume_other
    {position tag next : Nat}
    (walked : fdt.nextTag position = .ok (tag, next))
    (other : tag = fdtProp ∨ tag = fdtNop)
    (depth : Int) :
    fdt.nextSubnodeResume position depth =
      fdt.nextSubnodeResume next depth := by
  have plain : tag ≠ fdtBeginNode ∧ tag ≠ fdtEnd ∧ tag ≠ fdtEndNode := by
    rcases other with rfl | rfl <;> decide
  rw [nextSubnodeResume, nextNodeLoop_of_nextTag walked, if_neg plain.1,
    if_neg plain.2.1, if_neg plain.2.2]
  rfl

/-- The search stands on the next child, or goes below it. -/
theorem nextSubnodeResume_beginNode
    {position next : Nat}
    (aligned : position % 4 = 0)
    (walked : fdt.nextTag position = .ok (fdtBeginNode, next))
    {depth : Int}
    (inside : 0 ≤ depth) :
    fdt.nextSubnodeResume position depth =
      if depth = 0 then
        .ok position
      else
        fdt.nextSubnodeResume next (depth + 1) := by
  have checked := checkNodeOffset_of_nextTag aligned walked
  rw [nextSubnodeResume, nextNodeLoop_of_nextTag walked, if_pos rfl]
  dsimp only
  rw [if_neg (by omega)]
  by_cases here : depth = 0
  · rw [if_neg (by omega), if_pos here]
  · rw [if_pos (by omega), if_neg here, nextSubnodeLoop]
    split <;> rename_i below <;> rw [nextNode, checked] at below <;>
      simp only [nextSubnodeResume, below]

theorem nextSubnodeResume_endNode
    {position next : Nat}
    (walked : fdt.nextTag position = .ok (fdtEndNode, next))
    (depth : Int) :
    fdt.nextSubnodeResume position depth =
      if depth < 1 then
        .error .notFound
      else
        fdt.nextSubnodeResume next (depth - 1) := by
  rw [nextSubnodeResume, nextNodeLoop_of_nextTag walked,
    if_neg (by decide), if_neg (by decide), if_pos rfl]
  by_cases above : depth < 1
  · rw [if_pos (by omega), if_pos above]
    dsimp only
    rw [if_pos (by omega)]
  · rw [if_neg (by omega), if_neg above]
    rfl

theorem nextSubnodeWalk : WalksBelow fdt fdt.nextSubnodeResume where
  other := nextSubnodeResume_other
  endNode := by
    intro position next depth walked deep
    rw [nextSubnodeResume_endNode walked, if_neg (by omega)]
  beginNode := by
    intro position next depth aligned walked deep
    rw [nextSubnodeResume_beginNode aligned walked (by omega),
      if_neg (by omega)]

/-- The children from some tokens on are listed one after the other. -/
theorem Sound.linesFrom_tokens
    (sound : fdt.Sound)
    {strings : Bytes}
    {tokens : FdtTokens}
    (formed : tokens.WellFormed strings)
    {front back : Bytes}
    (aligned : front.length % 4 = 0)
    (split : fdt.block = front ++ (tokens.bytes ++ back)) :
    fdt.linesFrom (fdt.nextSubnodeResume front.length 0) =
      ((tokens.children strings).map fun child => listedName child.label,
        .notFound) := by
  induction tokens generalizing front back with
  | endNode =>
      rw [nextSubnodeResume_endNode
        (sound.nextTag_word aligned (.inr (.inl rfl)) split),
        if_pos (by decide)]
      rfl
  | nop rest inductionHypothesis =>
      rw [FdtTokens.bytes, List.append_assoc] at split
      rw [nextSubnodeResume_other
        (sound.nextTag_word aligned (.inr (.inr rfl)) split) (.inr rfl)]
      have later :=
        inductionHypothesis formed (by
            rw [List.length_append, length_bigEndian]
            omega)
          (split.trans (List.append_assoc _ _ _).symm)
      rwa [List.length_append, length_bigEndian] at later
  | property nameOffset value padding rest inductionHypothesis =>
      obtain ⟨-, -, -, fills, restFormed⟩ := formed
      have whole := tagAlign_mod value.length
      rw [FdtTokens.bytes, List.append_assoc] at split
      rw [nextSubnodeResume_other
        (sound.nextTag_propertyBytes aligned fills split) (.inl rfl)]
      have later :=
        inductionHypothesis restFormed (by
            rw [List.length_append, length_propertyBytes fills]
            omega)
          (split.trans (List.append_assoc _ _ _).symm)
      rwa [List.length_append] at later
  | child name padding inside siblings insideHypothesis
      siblingsHypothesis =>
      obtain ⟨isName, fills, -, insideFormed, siblingsFormed⟩ := formed
      have headerWhole := tagAlign_mod (name.length + 1)
      have insideWhole := insideFormed.aligned
      rw [FdtTokens.bytes, List.append_assoc, List.append_assoc] at split
      have behindHeader := split.trans (List.append_assoc _ _ _).symm
      have walked := sound.nextTag_nodeHeader aligned isName fills split
      have line : fdt.subnodeLine front.length =
          listedName ⟨name, inside.properties strings⟩ := by
        rw [subnodeLine, sound.getName aligned isName fills split]
        rfl
      have below :=
        nextSubnodeWalk.skip sound insideFormed (by
            rw [List.length_append, length_nodeHeader fills]
            omega)
          behindHeader (Int.le_refl 1)
      have later :=
        siblingsHypothesis siblingsFormed (by
            simp only [List.length_append, length_nodeHeader fills]
            omega)
          (behindHeader.trans (List.append_assoc _ _ _).symm)
      rw [List.length_append] at below
      rw [List.length_append, List.length_append] at later
      have next :
          fdt.nextSubnode front.length =
            fdt.nextSubnodeResume
              (front.length + (nodeHeader name padding).length +
                inside.bytes.length) 0 := by
        have checked := checkNodeOffset_of_nextTag aligned walked
        rw [Int.sub_self] at below
        rw [← below, nextSubnode, nextSubnodeLoop]
        split <;> rename_i onward <;> rw [nextNode, checked] at onward <;>
          simp only [nextSubnodeResume, onward]
      rw [nextSubnodeResume_beginNode aligned walked (Int.le_refl 0),
        if_pos rfl, linesFrom, subnodeLines_eq, next, later, line]
      rfl

/-- `list_subnodes` prints the children that the tree has. -/
theorem Sound.listSubnodes
    (sound : fdt.Sound)
    {strings : Bytes}
    {root : DeviceTree}
    {address : List Nat}
    {front : Bytes}
    {name : Text}
    {padding : Bytes}
    {inside : FdtTokens}
    {back : Bytes}
    (focus :
      NodeFocus strings fdt.block root address front name padding inside
        back) :
    fdt.listSubnodes front.length =
      some ((inside.children strings).map fun child =>
        listedName child.label) := by
  have checked :=
    checkNodeOffset_of_nextTag focus.aligned
      (sound.nextTag_nodeHeader focus.aligned focus.isName focus.fills
        focus.bytes)
  have lines :=
    sound.linesFrom_tokens focus.formed focus.aligned_inside
      focus.bytes_inside
  rw [List.length_append] at lines
  have first :
      fdt.firstSubnode front.length =
        fdt.nextSubnodeResume
          (front.length + (nodeHeader name padding).length) 0 := by
    rw [firstSubnode, nextNode, checked, nextSubnodeResume]
    dsimp only
    rcases walked :
        fdt.nextNodeLoop
          (front.length + (nodeHeader name padding).length) 0 with
      ⟨outcome, depth⟩
    cases outcome with
    | error =>
        rfl
    | ok next =>
        have shallow := nextNodeLoop_depth_le walked
        dsimp only
        by_cases one : depth = 1
        · rw [if_neg (by omega), if_neg (by omega), if_neg (by omega)]
        · rw [if_pos one, if_pos (by omega)]
  rw [Fdt.listSubnodes, first, lines]
  rfl

end Children

end Fdt

/-! ## The tool -/

/-- `fdtget -t FORMAT file PATH PROPERTY` -/
def fdtgetFile
    (format : Format)
    (path property : Text)
    (blob : Bytes) :
    Option Text :=
  (readFdt blob).bind fun fdt =>
    (fdt.pathOffset path).toOption.bind fun node =>
      (fdt.getprop node property).toOption.map (showData format)

/-- `fdtget -l file PATH` -/
def fdtgetListFile (path : Text) (blob : Bytes) : Option (List Text) :=
  (readFdt blob).bind fun fdt =>
    (fdt.pathOffset path).toOption.bind fdt.listSubnodes

/-- A file that holds a tree is sound in memory. -/
theorem readBlob_eq_some
    {blob : Bytes}
    {tree : DeviceTree}
    (holds : readBlob blob = some tree) :
    ∃ fdt : Fdt,
      readFdt blob = some fdt ∧ fdt.buffer = blob ∧ fdt.Sound ∧
        readStructure fdt.strings fdt.block = some tree := by
  simp only [readBlob, Option.bind_eq_bind, Option.bind_eq_some_iff]
    at holds
  obtain ⟨header, found, read⟩ := holds
  split at read
  case isTrue accepted =>
      refine ⟨⟨header, blob⟩, ?_, rfl, ⟨accepted⟩, read⟩
      rw [readFdt, found, Option.map_some]
  case isFalse =>
      cases read

/-- On a file that holds a tree, `fdtget` prints the value in the tree. -/
theorem fdtgetFile_of_readBlob
    {blob : Bytes}
    {tree : DeviceTree}
    (holds : readBlob blob = some tree)
    (format : Format)
    (path property : Text) :
    fdtgetFile format path property blob =
      fdtget format path property tree := by
  obtain ⟨fdt, inMemory, -, sound, read⟩ := readBlob_eq_some holds
  rw [fdtgetFile, inMemory, Option.bind_some, fdtget, propertyAt]
  rcases sound.pathOffset read path with
    ⟨missing, error, failed⟩ |
      ⟨address, front, name, padding, inside, back, found, focus, walked⟩
  · rw [missing, failed]
    rfl
  · rw [found, walked, Option.bind_some, ← sound.getprop focus property]
    rfl

/-- On a file that holds a tree, `fdtget -l` prints the children there. -/
theorem fdtgetListFile_of_readBlob
    {blob : Bytes}
    {tree : DeviceTree}
    (holds : readBlob blob = some tree)
    (path : Text) :
    fdtgetListFile path blob = fdtgetList path tree := by
  obtain ⟨fdt, inMemory, -, sound, read⟩ := readBlob_eq_some holds
  rw [fdtgetListFile, inMemory, Option.bind_some, fdtgetList]
  rcases sound.pathOffset read path with
    ⟨missing, error, failed⟩ |
      ⟨address, front, name, padding, inside, back, found, focus, walked⟩
  · rw [missing, failed]
    rfl
  · rw [found, walked, Option.bind_some, focus.atAddress]
    exact sound.listSubnodes focus

/--
Walking the bytes from the root prints what the tree has, and fails where it
does.
-/
theorem fdtget_walks_tree
    {blob : Bytes}
    {tree : DeviceTree}
    (holds : readBlob blob = some tree) :
    ∀ path,
      IsAbsolute path →
        (∀ format property,
          IsOperand property →
            fdtgetFile format path property blob =
              fdtget format path property tree) ∧
          fdtgetListFile path blob = fdtgetList path tree := by
  intro path _
  refine ⟨?_, fdtgetListFile_of_readBlob holds path⟩
  intro format property _
  exact fdtgetFile_of_readBlob holds format path property

theorem fdtget_walks_tree_example :
    let tree : DeviceTree :=
      .node ⟨[], []⟩ [.node ⟨['a'], [⟨['b'], [0, 0, 0, 7]⟩]⟩ []]
    fdtgetFile .u "/a".toList ['b']
        (writeBlob (stringBytes ['b']) (fun _ => 0) tree) =
      some ['7'] := by
  intro tree
  have holds :
      readBlob (writeBlob (stringBytes ['b']) (fun _ => 0) tree) =
        some tree :=
    readBlob_writeBlob (by decide +kernel) (by decide +kernel)
  rw [(fdtget_walks_tree holds "/a".toList (by decide)).1 .u ['b']
    (by decide)]
  decide +kernel

end OverclockBuilder
