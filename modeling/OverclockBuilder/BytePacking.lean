import Mathlib.Data.List.Basic
import Mathlib.Tactic.Ring

namespace BytePacking

/-!
# Numbers as bytes

Fixed-width integers in either byte order.  Packing keeps the low bytes of a
number, as a C store does, and unpacking inverts it on that many bytes.
-/

/-- A finite sequence of bytes. -/
abbrev Bytes := List UInt8

/-- The lowest `width` bytes of a number, lowest first. -/
def littleEndian : Nat → Nat → Bytes
  | 0, _ =>
      []
  | width + 1, value =>
      UInt8.ofNat value :: littleEndian width (value / 256)

/-- The number of a byte sequence, lowest byte first. -/
def ofLittleEndian : Bytes → Nat
  | [] => 0
  | byte :: rest => byte.toNat + 256 * ofLittleEndian rest

/-- The lowest `width` bytes of a number, highest first. -/
def bigEndian (width value : Nat) : Bytes :=
  (littleEndian width value).reverse

/-- The number of a byte sequence, highest byte first. -/
def ofBigEndian (bytes : Bytes) : Nat :=
  ofLittleEndian bytes.reverse

@[simp] theorem length_littleEndian (width value : Nat) :
    (littleEndian width value).length = width := by
  induction width generalizing value with
  | zero =>
      rfl
  | succ width inductionHypothesis =>
      simp [littleEndian, inductionHypothesis]

@[simp] theorem length_bigEndian (width value : Nat) :
    (bigEndian width value).length = width := by
  simp [bigEndian]

/-- Unpacking what was packed keeps the number modulo its width. -/
theorem ofLittleEndian_littleEndian (width value : Nat) :
    ofLittleEndian (littleEndian width value) = value % 256 ^ width := by
  induction width generalizing value with
  | zero =>
      simp [littleEndian, ofLittleEndian, Nat.mod_one]
  | succ width inductionHypothesis =>
      rw [littleEndian, ofLittleEndian, inductionHypothesis,
        Nat.pow_succ', Nat.mod_mul]
      rfl

theorem ofBigEndian_bigEndian (width value : Nat) :
    ofBigEndian (bigEndian width value) = value % 256 ^ width := by
  rw [ofBigEndian, bigEndian, List.reverse_reverse,
    ofLittleEndian_littleEndian]

theorem ofLittleEndian_append (first second : Bytes) :
    ofLittleEndian (first ++ second) =
      ofLittleEndian first +
        256 ^ first.length * ofLittleEndian second := by
  induction first with
  | nil =>
      simp [ofLittleEndian]
  | cons byte rest inductionHypothesis =>
      rw [List.cons_append, ofLittleEndian, ofLittleEndian,
        inductionHypothesis, List.length_cons, Nat.pow_succ]
      ring

/-- The first bytes are the high ones. -/
theorem ofBigEndian_append (first second : Bytes) :
    ofBigEndian (first ++ second) =
      ofBigEndian first * 256 ^ second.length + ofBigEndian second := by
  rw [ofBigEndian, List.reverse_append, ofLittleEndian_append,
    List.length_reverse, ofBigEndian, ofBigEndian]
  ring

theorem ofLittleEndian_lt (bytes : Bytes) :
    ofLittleEndian bytes < 256 ^ bytes.length := by
  induction bytes with
  | nil =>
      decide
  | cons byte rest inductionHypothesis =>
      have small := byte.toNat_lt
      rw [ofLittleEndian, List.length_cons, Nat.pow_succ]
      omega

theorem ofBigEndian_lt (bytes : Bytes) :
    ofBigEndian bytes < 256 ^ bytes.length := by
  have bound := ofLittleEndian_lt bytes.reverse
  rwa [List.length_reverse] at bound

/-- Packing what was unpacked gives the bytes back. -/
theorem littleEndian_ofLittleEndian (bytes : Bytes) :
    littleEndian bytes.length (ofLittleEndian bytes) = bytes := by
  induction bytes with
  | nil =>
      rfl
  | cons byte rest inductionHypothesis =>
      have small := byte.toNat_lt
      have quotient :
          (byte.toNat + 256 * ofLittleEndian rest) / 256 =
            ofLittleEndian rest := by
        omega
      have remainder :
          UInt8.ofNat (byte.toNat + 256 * ofLittleEndian rest) = byte := by
        apply UInt8.toNat.inj
        simp
      rw [ofLittleEndian, List.length_cons, littleEndian, quotient,
        remainder, inductionHypothesis]

theorem bigEndian_ofBigEndian (bytes : Bytes) :
    bigEndian bytes.length (ofBigEndian bytes) = bytes := by
  have unpacked := littleEndian_ofLittleEndian bytes.reverse
  rw [List.length_reverse] at unpacked
  rw [bigEndian, ofBigEndian, unpacked, List.reverse_reverse]

/-! ## Slices -/

/-- The bytes a reader takes behind an offset. -/
def slice (offset width : Nat) (bytes : Bytes) : Bytes :=
  (bytes.drop offset).take width

/-- A field behind a front of known length is read back. -/
theorem slice_middle
    {front field : Bytes}
    {offset width : Nat}
    (atOffset : front.length = offset)
    (wide : field.length = width)
    (back : Bytes) :
    slice offset width (front ++ (field ++ back)) = field := by
  rw [slice, List.drop_left' atOffset, List.take_left' wide]

/-- A slice sees nothing behind its end. -/
theorem slice_take
    {offset width bound : Nat}
    (inside : offset + width ≤ bound)
    (bytes : Bytes) :
    slice offset width (bytes.take bound) = slice offset width bytes := by
  rw [slice, slice, List.drop_take, List.take_take, Nat.min_eq_left]
  omega

/-- A slice is cut into the slices of its parts. -/
theorem slice_add (offset first second : Nat) (bytes : Bytes) :
    slice offset (first + second) bytes =
      slice offset first bytes ++ slice (offset + first) second bytes := by
  rw [slice, slice, slice, List.take_add, List.drop_drop]

/-- A slice inside a piece that is itself a slice. -/
theorem slice_slice
    {offset width start inner : Nat}
    (inside : start + inner ≤ width)
    (bytes : Bytes) :
    slice start inner (slice offset width bytes) =
      slice (offset + start) inner bytes := by
  rw [slice, slice, slice, List.drop_take, List.take_take, List.drop_drop,
    Nat.min_eq_left (by omega)]

/-- Files with a common front have its slices in common. -/
theorem slice_congr
    {first second : Bytes}
    {bound : Nat}
    (agree : first.take bound = second.take bound)
    {offset width : Nat}
    (inside : offset + width ≤ bound) :
    slice offset width first = slice offset width second := by
  rw [← slice_take inside first, agree, slice_take inside]

/-- A value cannot complete a pattern whose last element it lacks. -/
theorem infix_append_iff_of_not_mem
    {α : Type u}
    {pattern value : List α}
    {last : α}
    (ends : pattern.getLast? = some last)
    (absent : last ∉ value)
    (label : List α) :
    pattern <:+: label ++ value ↔ pattern <:+: label := by
  refine ⟨?_, fun inLabel =>
    inLabel.trans (List.prefix_append label value).isInfix⟩
  rintro ⟨front, back, same⟩
  rw [List.append_eq_append_iff] at same
  rcases same with ⟨inside, isLabel, -⟩ | ⟨inside, reaches, isValue⟩
  · exact ⟨front, inside, isLabel.symm⟩
  · cases inside with
    | nil =>
        exact ⟨front, [], by simpa using reaches⟩
    | cons head rest =>
        -- the match ends behind the label
        have endings := congrArg List.getLast? reaches
        rw [List.getLast?_append, ends, Option.some_or,
          List.getLast?_append, List.getLast?_cons, Option.some_or,
          ← List.getLast?_cons] at endings
        have member := List.mem_of_getLast? endings.symm
        exact (absent (isValue ▸ List.mem_append_left back member)).elim

/-! ## 32-bit words -/

/-- `struct.pack('>nI')` -/
def packWords (words : List Nat) : Bytes :=
  words.flatMap (bigEndian 4)

/-- The big-endian words of a byte sequence; a remainder is left out. -/
def unpackWords : Bytes → List Nat
  | first :: second :: third :: fourth :: rest =>
      ofBigEndian [first, second, third, fourth] :: unpackWords rest
  | _ => []

@[simp] theorem length_packWords (words : List Nat) :
    (packWords words).length = 4 * words.length := by
  induction words with
  | nil =>
      rfl
  | cons word rest inductionHypothesis =>
      rw [packWords] at inductionHypothesis
      rw [packWords, List.flatMap_cons, List.length_append,
        length_bigEndian, inductionHypothesis, List.length_cons]
      omega

theorem packWords_append (first second : List Nat) :
    packWords (first ++ second) = packWords first ++ packWords second :=
  List.flatMap_append

/-- Four packed bytes are one word. -/
theorem unpackWords_bigEndian_append (word : Nat) (rest : Bytes) :
    unpackWords (bigEndian 4 word ++ rest) =
      word % 4294967296 :: unpackWords rest := by
  have packed := ofBigEndian_bigEndian 4 word
  have size := length_bigEndian 4 word
  rcases bytes : bigEndian 4 word with
    _ | ⟨first, _ | ⟨second, _ | ⟨third, _ | ⟨fourth, _ | ⟨_, _⟩⟩⟩⟩⟩ <;>
    rw [bytes] at size <;>
    simp at size
  rw [bytes] at packed
  simp only [List.cons_append, List.nil_append, unpackWords, packed]
  norm_num

/-- Words survive packing modulo their width. -/
theorem unpackWords_packWords_append (words : List Nat) (rest : Bytes) :
    unpackWords (packWords words ++ rest) =
      words.map (· % 4294967296) ++ unpackWords rest := by
  induction words with
  | nil =>
      rfl
  | cons word words inductionHypothesis =>
      rw [packWords] at inductionHypothesis
      rw [packWords, List.flatMap_cons, List.append_assoc,
        unpackWords_bigEndian_append, inductionHypothesis]
      rfl

theorem unpackWords_packWords (words : List Nat) :
    unpackWords (packWords words) = words.map (· % 4294967296) := by
  have appended := unpackWords_packWords_append words []
  rw [List.append_nil] at appended
  rw [appended, unpackWords, List.append_nil]
  simp

/-- Words that fit survive packing. -/
theorem unpackWords_of_bounded
    {words : List Nat}
    (bounded : ∀ word ∈ words, word < 4294967296) :
    unpackWords (packWords words) = words := by
  rw [unpackWords_packWords]
  calc
    words.map (· % 4294967296) = words.map id :=
      List.map_congr_left fun word member =>
        Nat.mod_eq_of_lt (bounded word member)
    _ = words := List.map_id words

theorem length_unpackWords (bytes : Bytes) :
    (unpackWords bytes).length = bytes.length / 4 := by
  fun_induction unpackWords bytes with
  | case1 first second third fourth rest inductionHypothesis =>
      simp only [List.length_cons, inductionHypothesis]
      omega
  | case2 bytes short =>
      rcases bytes with
        _ | ⟨first, _ | ⟨second, _ | ⟨third, _ | ⟨fourth, rest⟩⟩⟩⟩
      · simp
      · simp
      · simp
      · simp
      · exact (short first second third fourth rest rfl).elim

/-- Unpacked words fit in 32 bits. -/
theorem lt_of_mem_unpackWords
    {bytes : Bytes}
    {word : Nat}
    (member : word ∈ unpackWords bytes) :
    word < 4294967296 := by
  fun_induction unpackWords bytes with
  | case1 first second third fourth rest inductionHypothesis =>
      rcases List.mem_cons.mp member with rfl | inRest
      · simpa using ofBigEndian_lt [first, second, third, fourth]
      · exact inductionHypothesis inRest
  | case2 bytes short =>
      cases member

/-- A whole number of words is its words. -/
theorem packWords_unpackWords
    {bytes : Bytes}
    (whole : bytes.length % 4 = 0) :
    packWords (unpackWords bytes) = bytes := by
  fun_induction unpackWords bytes with
  | case1 first second third fourth rest inductionHypothesis =>
      simp only [List.length_cons] at whole
      have unpacked := inductionHypothesis (by omega)
      have packed := bigEndian_ofBigEndian [first, second, third, fourth]
      rw [show [first, second, third, fourth].length = 4 from rfl]
        at packed
      rw [packWords] at unpacked
      rw [packWords, List.flatMap_cons, unpacked, packed]
      rfl
  | case2 bytes short =>
      rcases bytes with
        _ | ⟨first, _ | ⟨second, _ | ⟨third, _ | ⟨fourth, rest⟩⟩⟩⟩
      · rfl
      · simp at whole
      · simp at whole
      · simp at whole
      · exact (short first second third fourth rest rfl).elim

end BytePacking
