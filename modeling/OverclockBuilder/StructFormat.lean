import OverclockBuilder.BytePacking

namespace StructFormat

open BytePacking

/-!
# Packed records

The `struct` module of Python with formats in network order: unsigned numbers,
byte strings of a fixed width, and padding.  Reading a packed record gives its
items back, with byte strings cut or filled up to their width.
-/

/-- One entry of a format. -/
inductive Field where
  /-- `L` and `Q` -/
  | unsigned (width : Nat)
  /-- `s` -/
  | string (width : Nat)
  /-- `x` -/
  | padding (width : Nat)
  deriving Repr, DecidableEq

/-- One value of a record. -/
inductive Item where
  | number (value : Nat)
  | string (value : Bytes)
  deriving Repr, DecidableEq

def Field.width : Field → Nat
  | .unsigned width => width
  | .string width => width
  | .padding width => width

/-- `struct.calcsize` -/
def calcsize (fields : List Field) : Nat :=
  (fields.map Field.width).sum

/-- A byte string of a fixed width. -/
def fitString (width : Nat) (value : Bytes) : Bytes :=
  value.take width ++ List.replicate (width - value.length) 0

@[simp] theorem length_fitString (width : Nat) (value : Bytes) :
    (fitString width value).length = width := by
  rw [fitString, List.length_append, List.length_take,
    List.length_replicate]
  omega

/-- `struct.pack`; numbers out of range are an error. -/
def pack : List Field → List Item → Option Bytes
  | [], [] =>
      some []
  | .unsigned width :: fields, .number value :: items =>
      if value < 256 ^ width then
        (pack fields items).map (bigEndian width value ++ ·)
      else
        none
  | .string width :: fields, .string value :: items =>
      (pack fields items).map (fitString width value ++ ·)
  | .padding width :: fields, items =>
      (pack fields items).map (List.replicate width 0 ++ ·)
  | _, _ =>
      none

/-- `struct.unpack`; the data have to be as long as the format says. -/
def unpack : List Field → Bytes → Option (List Item)
  | [], data =>
      if data = [] then some [] else none
  | .unsigned width :: fields, data =>
      if data.length < width then
        none
      else
        (unpack fields (data.drop width)).map
          (.number (ofBigEndian (data.take width)) :: ·)
  | .string width :: fields, data =>
      if data.length < width then
        none
      else
        (unpack fields (data.drop width)).map
          (.string (data.take width) :: ·)
  | .padding width :: fields, data =>
      if data.length < width then
        none
      else
        unpack fields (data.drop width)

/-- The items as they are read back. -/
def fit : List Field → List Item → List Item
  | .string width :: fields, .string value :: items =>
      .string (fitString width value) :: fit fields items
  | .unsigned _ :: fields, item :: items =>
      item :: fit fields items
  | .padding _ :: fields, items =>
      fit fields items
  | _, items =>
      items

section Steps

variable {fields : List Field} {front data : Bytes} {width : Nat}

/-- A number in front of a record that can be read -/
theorem unpack_unsigned
    {value : Nat}
    (small : value < 256 ^ width)
    {items : List Item}
    (behind : unpack fields data = some items) :
    unpack (.unsigned width :: fields) (bigEndian width value ++ data) =
      some (.number value :: items) := by
  have length := length_bigEndian width value
  rw [unpack, if_neg (by rw [List.length_append]; omega),
    List.drop_left' length, List.take_left' length, behind,
    ofBigEndian_bigEndian, Nat.mod_eq_of_lt small, Option.map_some]

theorem unpack_string
    (length : front.length = width)
    {items : List Item}
    (behind : unpack fields data = some items) :
    unpack (.string width :: fields) (front ++ data) =
      some (.string front :: items) := by
  rw [unpack, if_neg (by rw [List.length_append]; omega),
    List.drop_left' length, List.take_left' length, behind,
    Option.map_some]

theorem unpack_padding
    (length : front.length = width)
    {items : List Item}
    (behind : unpack fields data = some items) :
    unpack (.padding width :: fields) (front ++ data) = some items := by
  rw [unpack, if_neg (by rw [List.length_append]; omega),
    List.drop_left' length, behind]

end Steps

/-- A packed record is read back. -/
theorem unpack_pack
    {fields : List Field}
    {items : List Item}
    {data : Bytes}
    (packed : pack fields items = some data) :
    unpack fields data = some (fit fields items) ∧
      data.length = calcsize fields := by
  induction fields generalizing items data with
  | nil =>
      cases items with
      | nil =>
          rw [pack, Option.some.injEq] at packed
          rw [← packed]
          exact ⟨rfl, rfl⟩
      | cons item items =>
          cases packed
  | cons field fields inductionHypothesis =>
      cases field with
      | padding width =>
          rw [pack, Option.map_eq_some_iff] at packed
          obtain ⟨behind, packed, rfl⟩ := packed
          obtain ⟨read, length⟩ := inductionHypothesis packed
          refine ⟨unpack_padding (by simp) read, ?_⟩
          rw [List.length_append, length]
          simp [calcsize, Field.width]
      | unsigned width =>
          cases items with
          | nil =>
              cases packed
          | cons item items =>
              cases item with
              | string value =>
                  cases packed
              | number value =>
                  rw [pack] at packed
                  split at packed
                  · rename_i small
                    rw [Option.map_eq_some_iff] at packed
                    obtain ⟨behind, packed, rfl⟩ := packed
                    obtain ⟨read, length⟩ := inductionHypothesis packed
                    refine ⟨unpack_unsigned small read, ?_⟩
                    rw [List.length_append, length]
                    simp [calcsize, Field.width]
                  · cases packed
      | string width =>
          cases items with
          | nil =>
              cases packed
          | cons item items =>
              cases item with
              | number value =>
                  cases packed
              | string value =>
                  rw [pack, Option.map_eq_some_iff] at packed
                  obtain ⟨behind, packed, rfl⟩ := packed
                  obtain ⟨read, length⟩ := inductionHypothesis packed
                  refine ⟨unpack_string (by simp) read, ?_⟩
                  rw [List.length_append, length]
                  simp [calcsize, Field.width]

end StructFormat
