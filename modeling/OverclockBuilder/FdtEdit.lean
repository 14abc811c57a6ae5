import OverclockBuilder.ByteMemory
import OverclockBuilder.FdtGet

namespace OverclockBuilder

open RadixText WordText BytePacking ByteMemory LabelTree

/-!
# Editing a blob in memory

The write path of `fdtput`: splices of the structure block, a strings block
that grows at its end, and the growth of the buffer when it is full.  Offsets
in the buffer count from the start of the blob.  Total sizes stay below
`INT_MAX`, so no sum of offsets wraps around.
-/

namespace Fdt

/-! ## Header and buffer -/

/-- `fdt_blocks_misordered_` -/
def Misordered (fdt : Fdt) (memRsvSize structSize : Nat) : Prop :=
  fdt.header.offMemRsvmap < 40 ∨
    fdt.header.offDtStruct < fdt.header.offMemRsvmap + memRsvSize ∨
      fdt.header.offDtStrings < fdt.header.offDtStruct + structSize ∨
        fdt.header.totalsize <
          fdt.header.offDtStrings + fdt.header.sizeDtStrings

instance (fdt : Fdt) (memRsvSize structSize : Nat) :
    Decidable (fdt.Misordered memRsvSize structSize) :=
  inferInstanceAs (Decidable (_ ∨ _))

/-- `fdt_downgrade_version` -/
def downgradeVersion (fdt : Fdt) : Fdt :=
  if 17 < fdt.header.version then
    { fdt with header := { fdt.header with version := 17 } }
  else
    fdt

/-- `fdt_rw_probe_` -/
def rwProbe (fdt : Fdt) : Except FdtError Fdt :=
  match fdt.roProbe with
  | .error error =>
      .error error
  | .ok _ =>
      if fdt.header.version < 17 then
        .error .badVersion
      else if fdt.Misordered 16 fdt.header.sizeDtStruct then
        .error .badLayout
      else
        .ok fdt.downgradeVersion

/-- `fdt_data_size_` -/
def dataSize (fdt : Fdt) : Nat :=
  fdt.header.offDtStrings + fdt.header.sizeDtStrings

/-- Bytes written to a place of the buffer. -/
def store (fdt : Fdt) (place : Nat) (content : Bytes) : Fdt :=
  { fdt with buffer := overwrite place content fdt.buffer }

@[simp] theorem header_store (fdt : Fdt) (place : Nat) (content : Bytes) :
    (fdt.store place content).header = fdt.header := rfl

/-- `fdt_splice_` -/
def splice (fdt : Fdt) (point oldlen newlen : Nat) : Except FdtError Fdt :=
  if fdt.dataSize < point + oldlen then
    .error .badOffset
  else if fdt.dataSize + newlen < oldlen then
    .error .badOffset
  else if fdt.header.totalsize < fdt.dataSize - oldlen + newlen then
    .error .noSpace
  else
    .ok
      { fdt with
        buffer :=
          memmove (point + newlen) (point + oldlen)
            (fdt.dataSize - (point + oldlen)) fdt.buffer }

/-- `fdt_splice_struct_` -/
def spliceStruct (fdt : Fdt) (point oldlen newlen : Nat) :
    Except FdtError Fdt :=
  (fdt.splice point oldlen newlen).map fun spliced =>
    { spliced with
      header :=
        { spliced.header with
          sizeDtStruct := spliced.header.sizeDtStruct + newlen - oldlen
          offDtStrings := spliced.header.offDtStrings + newlen - oldlen } }

/-- `fdt_splice_string_` -/
def spliceString (fdt : Fdt) (newlen : Nat) : Except FdtError Fdt :=
  (fdt.splice fdt.dataSize 0 newlen).map fun spliced =>
    { spliced with
      header :=
        { spliced.header with
          sizeDtStrings := spliced.header.sizeDtStrings + newlen } }

/-- `fdt_del_last_string_` -/
def delLastString (fdt : Fdt) (name : Text) : Fdt :=
  { fdt with
    header :=
      { fdt.header with
        sizeDtStrings := fdt.header.sizeDtStrings - (name.length + 1) } }

end Fdt

/-- The size field of a memory reservation. -/
def reservedSize (offset index : Nat) (bytes : Bytes) : Nat :=
  ofBigEndian (slice (offset + 16 * index + 8) 8 bytes)

/-- `fdt_find_string_len_`: a string may be the end of a longer one. -/
def findString (strtab : Bytes) (name : Text) : Option Nat :=
  (List.range (strtab.length - name.length)).find? fun place =>
    slice place (name.length + 1) strtab = stringBytes name

namespace Fdt

/-- `fdt_find_add_string_`: the offset, and whether it was allocated. -/
def findAddString (fdt : Fdt) (name : Text) :
    Except FdtError (Fdt × Nat × Bool) :=
  match findString fdt.strings name with
  | some place =>
      .ok (fdt, place, false)
  | none =>
      (fdt.spliceString (name.length + 1)).map fun spliced =>
        (spliced.store fdt.dataSize (stringBytes name),
          fdt.header.sizeDtStrings, true)

/-! ## Properties -/

/-- `fdt_resize_property_`: the blob and the offset of the property. -/
def resizeProperty (fdt : Fdt) (node : Nat) (name : Text) (length : Nat) :
    Except FdtError (Fdt × Nat) :=
  match fdt.getProperty node name with
  | .error error =>
      .error error
  | .ok property =>
      let place := fdt.header.offDtStruct + property
      (fdt.spliceStruct (place + 12) (tagAlign (fdt.wordAt property 1))
          (tagAlign length)).map fun spliced =>
        (spliced.store (place + 4) (bigEndian 4 length), property)

/-- `fdt_add_property_`; an error comes with the blob it leaves behind. -/
def addProperty (fdt : Fdt) (node : Nat) (name : Text) (length : Nat) :
    Except (FdtError × Fdt) (Fdt × Nat) :=
  match fdt.checkNodeOffset node with
  | .error error =>
      .error (error, fdt)
  | .ok next =>
      match fdt.findAddString name with
      | .error error =>
          .error (error, fdt)
      | .ok (named, nameOffset, allocated) =>
          let place := named.header.offDtStruct + next
          match named.spliceStruct place 0 (12 + tagAlign length) with
          | .error error =>
              -- the string is given up when the property does not fit
              .error
                (error, if allocated then named.delLastString name else named)
          | .ok spliced =>
              .ok
                (((spliced.store place (bigEndian 4 fdtProp)).store
                    (place + 8) (bigEndian 4 nameOffset)).store
                    (place + 4) (bigEndian 4 length),
                  next)

/-- `fdt_setprop_placeholder` -/
def setpropPlaceholder
    (fdt : Fdt)
    (node : Nat)
    (name : Text)
    (length : Nat) :
    Except (FdtError × Fdt) (Fdt × Nat) :=
  match fdt.rwProbe with
  | .error error =>
      .error (error, fdt)
  | .ok probed =>
      match probed.resizeProperty node name length with
      | .ok resized =>
          .ok resized
      | .error .notFound =>
          probed.addProperty node name length
      | .error error =>
          .error (error, probed)

/-- `fdt_setprop` -/
def setprop (fdt : Fdt) (node : Nat) (name : Text) (value : Bytes) :
    Except (FdtError × Fdt) Fdt :=
  (fdt.setpropPlaceholder node name value.length).map fun placed =>
    placed.1.store (placed.1.header.offDtStruct + placed.2 + 12) value

/-! ## The memory reservations -/

/-- The loop of `fdt_num_mem_rsv`; fuel bounds the entries that have room. -/
def memRsvLoop (fdt : Fdt) : Nat → Nat → Except FdtError Nat
  | 0, _ =>
      .error .truncated
  | fuel + 1, index =>
      if fdt.header.totalsize < fdt.header.offMemRsvmap + 16 * index + 16 then
        .error .truncated
      else if reservedSize fdt.header.offMemRsvmap index fdt.buffer = 0 then
        .ok index
      else
        fdt.memRsvLoop fuel (index + 1)

/-- `fdt_num_mem_rsv` -/
def numMemRsv (fdt : Fdt) : Except FdtError Nat :=
  match fdt.roProbe with
  | .error error =>
      .error error
  | .ok _ =>
      fdt.memRsvLoop (fdt.header.totalsize / 16 + 1) 0

/-! ## Growing and packing -/

/-- `xrealloc`; what the new bytes hold is not specified. -/
def grow (fresh : Nat → UInt8) (size : Nat) (buffer : Bytes) : Bytes :=
  (buffer ++ (List.range size).map fresh).take size

/--
`fdt_open_into` a buffer of another size at the same place; an error is
ignored by `realloc_fdt` and leaves the blob as it was.

Blobs before version 17 are refused by every caller first, and the reordering
of blocks that overlap their memory reservations is left out.
-/
def openInto (fdt : Fdt) (size : Nat) : Fdt :=
  match fdt.numMemRsv with
  | .error _ =>
      fdt
  | .ok count =>
      if fdt.header.version < 17 ∨
          fdt.Misordered (16 * (count + 1)) fdt.header.sizeDtStruct ∨
            size < fdt.header.totalsize then
        fdt
      else
        { fdt with
          header := { fdt.header with version := 17, totalsize := size } }

/-- `realloc_fdt` -/
def reallocFdt (fresh : Nat → UInt8) (fdt : Fdt) (delta : Nat) : Fdt :=
  let size := fdt.header.totalsize + delta
  { fdt with buffer := grow fresh size fdt.buffer }.openInto size

/-- `realloc_property`: `delta` is what the property lacks at most. -/
def reallocProperty
    (fresh : Nat → UInt8)
    (fdt : Fdt)
    (node : Nat)
    (name : Text)
    (newlen : Nat) :
    Fdt :=
  match fdt.getProperty node name with
  | .error _ =>
      fdt.reallocFdt fresh (12 + name.length + 1 + tagAlign newlen)
  | .ok property =>
      let oldlen := fdt.wordAt property 1
      fdt.reallocFdt fresh
        (if oldlen < newlen then tagAlign newlen - tagAlign oldlen else 0)

/-- `store_key_value` -/
def storeKeyValue
    (fresh : Nat → UInt8)
    (fdt : Fdt)
    (path property : Text)
    (value : Bytes) :
    Option Fdt :=
  match fdt.pathOffset path with
  | .error _ =>
      none
  | .ok node =>
      match fdt.setprop node property value with
      | .ok written =>
          some written
      | .error (.noSpace, left) =>
          ((left.reallocProperty fresh node property value.length).setprop
            node property value).toOption
      | .error _ =>
          none

/-- `fdt_packblocks_` inside one buffer -/
def packblocks
    (fdt : Fdt)
    (memRsvSize structSize stringsSize : Nat) :
    Fdt :=
  let structOff := 40 + memRsvSize
  let stringsOff := structOff + structSize
  { header :=
      { fdt.header with
        offMemRsvmap := 40
        offDtStruct := structOff
        sizeDtStruct := structSize
        offDtStrings := stringsOff
        sizeDtStrings := fdt.header.sizeDtStrings }
    buffer :=
      memmove stringsOff fdt.header.offDtStrings stringsSize
        (memmove structOff fdt.header.offDtStruct structSize
          (memmove 40 fdt.header.offMemRsvmap memRsvSize fdt.buffer)) }

/-- `fdt_pack`; the caller ignores an error. -/
def pack (fdt : Fdt) : Fdt :=
  match fdt.rwProbe with
  | .error _ =>
      fdt
  | .ok probed =>
      match probed.numMemRsv with
      | .error _ =>
          probed
      | .ok count =>
          let packed :=
            probed.packblocks (16 * (count + 1)) probed.header.sizeDtStruct
              probed.header.sizeDtStrings
          { packed with
            header := { packed.header with totalsize := packed.dataSize } }

end Fdt

/-- The header fields in file order. -/
def FdtHeader.words (header : FdtHeader) : List Nat :=
  [header.magic, header.totalsize, header.offDtStruct, header.offDtStrings,
    header.offMemRsvmap, header.version, header.lastCompVersion,
    header.bootCpuidPhys, header.sizeDtStrings, header.sizeDtStruct]

/-- What `utilfdt_write` writes. -/
def Fdt.file (fdt : Fdt) : Bytes :=
  (packWords fdt.header.words ++ fdt.buffer.drop 40).take
    fdt.header.totalsize

/-- `fdtput -t FORMAT file PATH PROPERTY VALUE...` on the bytes of a file. -/
def fdtputFile
    (fresh : Nat → UInt8)
    (call : FdtputCall)
    (blob : Bytes) :
    Option Bytes :=
  (readFdt blob).bind fun fdt =>
    (encodeValue call.format call.arguments).bind fun value =>
      (fdt.storeKeyValue fresh call.path call.property value).map
        fun written => written.pack.file

end OverclockBuilder
