import OverclockBuilder.BytePacking
import OverclockBuilder.LabelTree
import OverclockBuilder.WordText

namespace OverclockBuilder

open RadixText WordText BytePacking LabelTree

/-!
# Flattened device trees

A well-formed blob is a tree of named nodes with ordered properties.  Lookups
follow `libfdt`: the first child that matches a path component, with or without
its unit address, and the first property of a name.
-/

/-- A property of a node. -/
structure Property where
  name : Text
  value : Bytes
  deriving Repr, DecidableEq

/-- The name and the properties of a node, in structure-block order. -/
structure FdtNode where
  name : Text
  properties : List Property
  deriving Repr, DecidableEq

/-- A device tree blob. -/
abbrev DeviceTree := OrderedTree FdtNode

/-- `fdt_nodename_eq_` -/
def nodenameEq (name : Text) (node : FdtNode) : Bool :=
  name.isPrefixOf node.name &&
    match node.name.drop name.length with
    | [] => true
    | next :: _ => !name.contains '@' && next == '@'

/--
A path from the root, as all paths of the script are.  Any other path starts
with an alias, which `fdt_path_offset` looks up in `/aliases`.
-/
def IsAbsolute (path : Text) : Prop :=
  path.head? = some '/'

instance (path : Text) : Decidable (IsAbsolute path) :=
  inferInstanceAs (Decidable (_ = _))

/--
`fdt_path_offset` of an absolute path, with the address in place of the offset.
Aliases are left out: any other path leads nowhere here.
-/
def pathOffset (path : Text) (tree : DeviceTree) : Option (List Nat) :=
  if path.head? = some '/' then
    OrderedTree.find nodenameEq (words (· == '/') path) tree
  else
    none

/-- `fdt_getprop` -/
def getprop (name : Text) (node : FdtNode) : Option Bytes :=
  (node.properties.find? fun property => property.name = name).map
    Property.value

/-- Resize and overwrite the first property of a name. -/
def overwriteProperty (name : Text) (value : Bytes) :
    List Property → List Property
  | [] =>
      []
  | property :: rest =>
      if property.name = name then
        ⟨name, value⟩ :: rest
      else
        property :: overwriteProperty name value rest

/-- `fdt_setprop`: a new property goes in front of the others. -/
def setprop (name : Text) (value : Bytes) (node : FdtNode) : FdtNode :=
  { node with
    properties :=
      if node.properties.any fun property => property.name = name then
        overwriteProperty name value node.properties
      else
        ⟨name, value⟩ :: node.properties }

/-- The property of a name in the node at a path. -/
def propertyAt (path name : Text) (tree : DeviceTree) : Option Bytes :=
  (pathOffset path tree).bind fun address =>
    (OrderedTree.labelAt address tree).bind (getprop name)

/-! ## Overwriting -/

section Overwrite

variable (name : Text) (value : Bytes)

@[simp] theorem setprop_name (node : FdtNode) :
    (setprop name value node).name = node.name := rfl

/-- The value written is the value read. -/
@[simp] theorem getprop_setprop_self (node : FdtNode) :
    getprop name (setprop name value node) = some value := by
  have overwritten (properties : List Property)
      (present : properties.any fun property => property.name = name) :
      ((overwriteProperty name value properties).find?
          fun property => property.name = name).map Property.value =
        some value := by
    induction properties with
    | nil =>
        simp at present
    | cons property rest inductionHypothesis =>
        by_cases same : property.name = name
        · simp [overwriteProperty, same]
        · have restPresent :
              rest.any fun property => property.name = name := by
            simpa [same] using present
          rw [overwriteProperty, if_neg same,
            List.find?_cons_of_neg (by simpa using same)]
          exact inductionHypothesis restPresent
  unfold getprop setprop
  split
  · rename_i present
    exact overwritten node.properties present
  · simp

/-- Writing one property leaves the others readable. -/
theorem getprop_setprop_of_ne
    {other : Text}
    (different : other ≠ name)
    (node : FdtNode) :
    getprop other (setprop name value node) = getprop other node := by
  have overwritten (properties : List Property) :
      (overwriteProperty name value properties).find?
          (fun property => property.name = other) =
        properties.find? fun property => property.name = other := by
    induction properties with
    | nil =>
        rfl
    | cons property rest inductionHypothesis =>
        by_cases same : property.name = name
        · simp [overwriteProperty, same, Ne.symm different]
        · rw [overwriteProperty, if_neg same, List.find?_cons,
            List.find?_cons, inductionHypothesis]
  unfold getprop setprop
  split
  · simp only [overwritten]
  · simp [Ne.symm different]

/-- Writing the value that is there changes nothing. -/
theorem setprop_eq_self
    {node : FdtNode}
    (current : getprop name node = some value) :
    setprop name value node = node := by
  have overwritten (properties : List Property)
      (found :
        (properties.find? fun property => property.name = name).map
            Property.value =
          some value) :
      overwriteProperty name value properties = properties := by
    induction properties with
    | nil =>
        rfl
    | cons property rest inductionHypothesis =>
        by_cases same : property.name = name
        · simp only [List.find?_cons, same, decide_true,
            Option.map_some, Option.some.injEq] at found
          rw [overwriteProperty, if_pos same, ← same, ← found]
        · rw [List.find?_cons_of_neg (by simpa using same)] at found
          rw [overwriteProperty, if_neg same, inductionHypothesis found]
  have present :
      node.properties.any fun property => property.name = name := by
    unfold getprop at current
    cases found :
        node.properties.find? fun property => property.name = name with
    | none =>
        rw [found] at current
        cases current
    | some property =>
        have named := List.find?_some found
        rw [List.any_eq_true]
        exact ⟨property, List.mem_of_find?_eq_some found, named⟩
  unfold setprop
  rw [if_pos present, overwritten node.properties current]

end Overwrite

/-! ## Frames -/

/--
Two nodes that differ at most in the values of some properties: the node name
and the names and order of the properties agree, and a property that differs
is the first one of an allowed name.
-/
structure ChangesOnly
    (allowed : List Text)
    (before after : FdtNode) : Prop where
  name : after.name = before.name
  names :
    after.properties.map Property.name =
      before.properties.map Property.name
  others :
    ∀ index property,
      before.properties[index]? = some property →
        after.properties[index]? ≠ some property →
          property.name ∈ allowed ∧
            (before.properties.map Property.name).idxOf property.name =
              index

theorem ChangesOnly.refl (allowed : List Text) (node : FdtNode) :
    ChangesOnly allowed node node :=
  ⟨rfl, rfl, fun _ _ here changed => (changed here).elim⟩

theorem ChangesOnly.trans
    {allowed : List Text}
    {first second third : FdtNode}
    (earlier : ChangesOnly allowed first second)
    (later : ChangesOnly allowed second third) :
    ChangesOnly allowed first third := by
  refine ⟨later.name.trans earlier.name,
    later.names.trans earlier.names, ?_⟩
  intro index property here changed
  by_cases kept : second.properties[index]? = some property
  · rw [← earlier.names]
    exact later.others index property kept changed
  · exact earlier.others index property here kept

/-- Setting a property that exists changes at most that property. -/
theorem setprop_changesOnly
    {allowed : List Text}
    {name : Text}
    (member : name ∈ allowed)
    (value : Bytes)
    {node : FdtNode}
    (present : (getprop name node).isSome) :
    ChangesOnly allowed node (setprop name value node) := by
  have found : node.properties.any fun property => property.name = name := by
    simpa [getprop, List.any_eq_true] using present
  have names (properties : List Property) :
      (overwriteProperty name value properties).map Property.name =
        properties.map Property.name := by
    induction properties with
    | nil =>
        rfl
    | cons property rest inductionHypothesis =>
        by_cases same : property.name = name
        · simp [overwriteProperty, same]
        · simp [overwriteProperty, same, inductionHypothesis]
  have others (properties : List Property) (index : Nat)
      (property : Property)
      (here : properties[index]? = some property)
      (changed :
        (overwriteProperty name value properties)[index]? ≠
          some property) :
      property.name = name ∧
        (properties.map Property.name).idxOf property.name = index := by
    induction properties generalizing index with
    | nil =>
        simp at here
    | cons head rest inductionHypothesis =>
        by_cases same : head.name = name
        · rw [overwriteProperty, if_pos same] at changed
          cases index with
          | zero =>
              simp only [List.getElem?_cons_zero, Option.some.injEq] at here
              subst here
              exact ⟨same, by simp⟩
          | succ index =>
              exact (changed here).elim
        · rw [overwriteProperty, if_neg same] at changed
          cases index with
          | zero =>
              exact (changed here).elim
          | succ index =>
              obtain ⟨isName, first⟩ :=
                inductionHypothesis index here changed
              refine ⟨isName, ?_⟩
              rw [List.map_cons, List.idxOf_cons_ne _ (by
                rw [isName]
                exact same), first]
  refine ⟨rfl, ?_, ?_⟩
  · simp only [setprop, found, ↓reduceIte]
    exact names node.properties
  · intro index property here changed
    simp only [setprop, found, ↓reduceIte] at changed
    obtain ⟨isName, first⟩ :=
      others node.properties index property here changed
    exact ⟨isName ▸ member, first⟩

/-- Node names, and so every path, are blind to properties. -/
theorem pathOffset_modifyAt_setprop
    (path name : Text)
    (value : Bytes)
    (address : List Nat)
    (tree : DeviceTree) :
    pathOffset path (OrderedTree.modifyAt (setprop name value) address tree) =
      pathOffset path tree := by
  have blind (key : Text) (node : FdtNode) :
      nodenameEq key (setprop name value node) = nodenameEq key node :=
    rfl
  unfold pathOffset
  rw [OrderedTree.find_modifyAt blind]

/-- A path that is found leads to a node. -/
theorem labelAt_of_pathOffset
    {path : Text}
    {tree : DeviceTree}
    {address : List Nat}
    (found : pathOffset path tree = some address) :
    ∃ node, OrderedTree.labelAt address tree = some node := by
  unfold pathOffset at found
  split at found
  · exact OrderedTree.labelAt_of_find found
  · cases found

end OverclockBuilder
