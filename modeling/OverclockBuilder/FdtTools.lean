import OverclockBuilder.CNumber
import OverclockBuilder.DeviceTree

namespace OverclockBuilder

open RadixText WordText BytePacking CNumber BashText LabelTree

/-!
# fdtget and fdtput

The two command-line tools as the script calls them: `fdtget` with one node and
one property, `fdtget -l`, and `fdtput` with one node, one property and any
number of values.  Only the two formats of the script are modelled.
-/

/-- The `-t` formats of the script. -/
inductive Format where
  /-- `-t x` -/
  | x
  /-- `-t u` -/
  | u
  deriving Repr, DecidableEq

/-- A word that `getopt` does not take for an option. -/
def IsOperand (word : Text) : Prop :=
  word.head? ≠ some '-'

instance (word : Text) : Decidable (IsOperand word) :=
  inferInstanceAs (Decidable (_ ≠ _))

/-! ## fdtget -/

/-- The cells `show_cell_list` prints: four bytes each, or else single bytes. -/
def cells (value : Bytes) : List Nat :=
  if value.length % 4 = 0 then
    unpackWords value
  else
    value.map UInt8.toNat

/-- `printf` of one cell -/
def Format.print : Format → Nat → Text
  | .x => printHex
  | .u => printUnsigned

/-- The line `show_data` prints, without its newline. -/
def showData (format : Format) (value : Bytes) : Text :=
  [' '].intercalate ((cells value).map format.print)

/-- `fdtget -t FORMAT blob PATH PROPERTY` -/
def fdtget
    (format : Format)
    (path property : Text)
    (tree : DeviceTree) :
    Option Text :=
  (propertyAt path property tree).map (showData format)

/-- The name `list_subnodes` prints; a nameless node is shown as the root. -/
def listedName (node : FdtNode) : Text :=
  if node.name = [] then ['/'] else node.name

/-- `fdtget -l blob PATH`, one `puts` for each child -/
def fdtgetList (path : Text) (tree : DeviceTree) : Option (List Text) :=
  (pathOffset path tree).bind fun address =>
    (OrderedTree.at? address tree).map fun node =>
      node.children.map fun child => listedName child.label

/-- `awk '{print $field}'` on one line -/
def awkField (field : Nat) (line : Text) : Text :=
  (words isIfsBlank line).getD (field - 1) []

/-! ## Cells and fields -/

/-- Whole cells are printed as cells. -/
theorem cells_packWords (values : List Nat) :
    cells (packWords values) = values.map (· % 4294967296) := by
  rw [cells, length_packWords, if_pos (Nat.mul_mod_right 4 _),
    unpackWords_packWords]

/-- A value of whole cells is its cells. -/
theorem packWords_cells
    {value : Bytes}
    (whole : value.length % 4 = 0) :
    packWords (cells value) = value ∧
      value.length = 4 * (cells value).length ∧
        ∀ cell ∈ cells value, cell < 4294967296 := by
  rw [cells, if_pos whole]
  refine ⟨packWords_unpackWords whole, ?_, ?_⟩
  · rw [length_unpackWords]
    omega
  · intro cell member
    exact lt_of_mem_unpackWords member

theorem Format.print_solid (format : Format) (value : Nat) :
    Solid isIfsBlank (format.print value) := by
  have solid (base : Nat) (atLeastTwo : 1 < base) (bound : base ≤ 16) :
      Solid isIfsBlank (Nat.toDigits base value) := by
    refine ⟨Nat.toDigits_ne_nil, ?_⟩
    intro digit member
    have alphanumeric := (mem_toDigits atLeastTwo bound member).1
    cases blank : isIfsBlank digit with
    | false =>
        rfl
    | true =>
        simp only [isIfsBlank, Bool.or_eq_true, decide_eq_true_eq]
          at blank
        rcases blank with (rfl | rfl) | rfl <;>
          exact absurd alphanumeric (by decide)
  cases format with
  | x =>
      exact solid 16 (by decide) (by decide)
  | u =>
      exact solid 10 (by decide) (by decide)

/-- Cutting a printed line gives the printed cells back. -/
theorem words_showData (format : Format) (value : Bytes) :
    words isIfsBlank (showData format value) =
      (cells value).map format.print := by
  apply words_intercalate_of_solid (by decide)
  intro text member
  obtain ⟨cell, -, rfl⟩ := List.mem_map.mp member
  exact format.print_solid cell

/-! ## fdtput -/

/-- The base `encode_value` parses a format in. -/
def Format.base : Format → Nat
  | .x => 16
  | .u => 0

/-- The bytes of one argument: `int ival = strtoul(..)` keeps 32 bits. -/
def encodeCell (format : Format) (argument : Text) : Option Bytes :=
  (strtoul format.base argument).map (bigEndian 4)

/-- `encode_value` -/
def encodeValue (format : Format) (arguments : List Text) : Option Bytes :=
  (arguments.mapM (encodeCell format)).map List.flatten

/-- One call of `fdtput`. -/
structure FdtputCall where
  format : Format
  path : Text
  property : Text
  arguments : List Text
  deriving Repr, DecidableEq

/-- `fdtput -t FORMAT blob PATH PROPERTY VALUE...`; failing writes nothing. -/
def FdtputCall.run
    (call : FdtputCall)
    (tree : DeviceTree) :
    Option DeviceTree :=
  (encodeValue call.format call.arguments).bind fun value =>
    (pathOffset call.path tree).map fun address =>
      OrderedTree.modifyAt (setprop call.property value) address tree

/-- What a successful `fdtput` did. -/
theorem FdtputCall.run_eq_some
    {call : FdtputCall}
    {tree after : DeviceTree}
    (written : call.run tree = some after) :
    ∃ value address,
      encodeValue call.format call.arguments = some value ∧
        pathOffset call.path tree = some address ∧
          after =
            OrderedTree.modifyAt (setprop call.property value) address
              tree := by
  simp only [run, Option.bind_eq_some_iff, Option.map_eq_some_iff]
    at written
  obtain ⟨value, encoded, address, found, same⟩ := written
  exact ⟨value, address, encoded, found, same.symm⟩

/-- `fdtput` never moves a node. -/
theorem FdtputCall.pathOffset_run
    {call : FdtputCall}
    {tree after : DeviceTree}
    (written : call.run tree = some after)
    (path : Text) :
    pathOffset path after = pathOffset path tree := by
  obtain ⟨value, address, -, -, rfl⟩ := call.run_eq_some written
  exact pathOffset_modifyAt_setprop path call.property value address tree

/-- `fdtput` makes its value the property it names. -/
theorem FdtputCall.propertyAt_run_self
    {call : FdtputCall}
    {tree after : DeviceTree}
    (written : call.run tree = some after) :
    propertyAt call.path call.property after =
      encodeValue call.format call.arguments := by
  have moved := call.pathOffset_run written call.path
  obtain ⟨value, address, encoded, found, rfl⟩ := call.run_eq_some written
  obtain ⟨node, atAddress⟩ := labelAt_of_pathOffset found
  rw [propertyAt, moved, found, encoded, Option.bind_some,
    OrderedTree.labelAt_modifyAt_self, atAddress]
  simp

/-- `fdtput` leaves every other property of every path alone. -/
theorem FdtputCall.propertyAt_run_of_ne
    {call : FdtputCall}
    {tree after : DeviceTree}
    (written : call.run tree = some after)
    {path property : Text}
    (different :
      pathOffset path tree ≠ pathOffset call.path tree ∨
        property ≠ call.property) :
    propertyAt path property after = propertyAt path property tree := by
  have moved := call.pathOffset_run written path
  obtain ⟨value, address, -, found, rfl⟩ := call.run_eq_some written
  rw [propertyAt, propertyAt, moved]
  cases reached : pathOffset path tree with
  | none =>
      rfl
  | some other =>
      simp only [Option.bind_some]
      by_cases same : address = other
      · subst same
        have otherProperty : property ≠ call.property := by
          rcases different with elsewhere | otherProperty
          · exact (elsewhere (reached.trans found.symm)).elim
          · exact otherProperty
        rw [OrderedTree.labelAt_modifyAt_self]
        cases OrderedTree.labelAt address tree with
        | none =>
            rfl
        | some node =>
            exact getprop_setprop_of_ne call.property value otherProperty node
      · rw [OrderedTree.labelAt_modifyAt_of_ne _ same]

/-- Repeating an `fdtput` whose value is in place changes nothing. -/
theorem FdtputCall.run_eq_self
    {call : FdtputCall}
    {tree : DeviceTree}
    (current :
      propertyAt call.path call.property tree =
        encodeValue call.format call.arguments)
    {value : Bytes}
    (encoded : encodeValue call.format call.arguments = some value) :
    call.run tree = some tree := by
  rw [encoded, propertyAt, Option.bind_eq_some_iff] at current
  obtain ⟨address, found, inPlace⟩ := current
  rw [Option.bind_eq_some_iff] at inPlace
  obtain ⟨node, atAddress, holds⟩ := inPlace
  rw [run, encoded, found]
  simp only [Option.bind_some, Option.map_some, Option.some.injEq]
  apply OrderedTree.modifyAt_eq_self
  intro label atLabel
  rw [atAddress, Option.some.injEq] at atLabel
  subst atLabel
  exact setprop_eq_self call.property value holds

/-- The node at an address after an `fdtput` on an existing property. -/
theorem FdtputCall.labelAt_run
    {call : FdtputCall}
    {tree after : DeviceTree}
    (written : call.run tree = some after)
    (present : (propertyAt call.path call.property tree).isSome)
    {allowed : List Text}
    (member : call.property ∈ allowed)
    {address : List Nat}
    {node : FdtNode}
    (before : OrderedTree.labelAt address tree = some node) :
    ∃ changed,
      OrderedTree.labelAt address after = some changed ∧
        ChangesOnly allowed node changed := by
  obtain ⟨value, target, -, found, rfl⟩ := call.run_eq_some written
  by_cases same : target = address
  · subst same
    refine ⟨setprop call.property value node, ?_, ?_⟩
    · rw [OrderedTree.labelAt_modifyAt_self, before, Option.map_some]
    · apply setprop_changesOnly member
      rw [propertyAt, found, Option.bind_some, before] at present
      exact present
  · refine ⟨node, ?_, ChangesOnly.refl allowed node⟩
    rw [OrderedTree.labelAt_modifyAt_of_ne _ same, before]

/-- Away from its path, `fdtput` changes no node. -/
theorem FdtputCall.labelAt_run_of_ne
    {call : FdtputCall}
    {tree after : DeviceTree}
    (written : call.run tree = some after)
    {address : List Nat}
    (away : pathOffset call.path tree ≠ some address) :
    OrderedTree.labelAt address after =
      OrderedTree.labelAt address tree := by
  obtain ⟨value, target, -, found, rfl⟩ := call.run_eq_some written
  refine OrderedTree.labelAt_modifyAt_of_ne _ ?_ tree
  rintro rfl
  exact away found

end OverclockBuilder
