import Mathlib.Data.List.TakeWhile
import OverclockBuilder.FdtBlob

namespace OverclockBuilder

open RadixText WordText BytePacking LabelTree

/-!
# Tokens of a structure block

The concrete syntax behind a tree: the tokens of a structure block with the
padding and the `FDT_NOP`s that a reader passes over.  A block reads as a tree
exactly when it is printed from tokens of that tree.
-/

/-- Padding that fills up its content to the next token. -/
def Fills (content padding : Bytes) : Prop :=
  (content ++ padding).length = tagAlign content.length

instance (content padding : Bytes) : Decidable (Fills content padding) :=
  inferInstanceAs (Decidable (_ = _))

/-- The token of a property. -/
def propertyBytes (nameOffset : Nat) (value padding : Bytes) : Bytes :=
  bigEndian 4 fdtProp ++
    (bigEndian 4 value.length ++
      (bigEndian 4 nameOffset ++ (value ++ padding)))

/-- The `FDT_BEGIN_NODE` token and the name of a node. -/
def nodeHeader (name : Text) (padding : Bytes) : Bytes :=
  bigEndian 4 fdtBeginNode ++ (stringBytes name ++ padding)

/-- The tokens behind a node name, up to its `FDT_END_NODE`. -/
inductive FdtTokens where
  | endNode
  | nop (rest : FdtTokens)
  | property (nameOffset : Nat) (value padding : Bytes) (rest : FdtTokens)
  | child (name : Text) (padding : Bytes) (inside siblings : FdtTokens)
  deriving Repr, DecidableEq

namespace FdtTokens

/-- The bytes of some tokens. -/
def bytes : FdtTokens → Bytes
  | endNode =>
      bigEndian 4 fdtEndNode
  | nop rest =>
      bigEndian 4 fdtNop ++ rest.bytes
  | property nameOffset value padding rest =>
      propertyBytes nameOffset value padding ++ rest.bytes
  | child name padding inside siblings =>
      nodeHeader name padding ++ (inside.bytes ++ siblings.bytes)

/-- The properties of the node, in structure-block order. -/
def properties (strings : Bytes) : FdtTokens → List Property
  | endNode =>
      []
  | nop rest =>
      rest.properties strings
  | property nameOffset value _ rest =>
      ⟨(getString strings nameOffset).getD [], value⟩ ::
        rest.properties strings
  | child _ _ _ _ =>
      []

/-- The children of the node. -/
def children (strings : Bytes) : FdtTokens → List DeviceTree
  | endNode =>
      []
  | nop rest =>
      rest.children strings
  | property _ _ _ rest =>
      rest.children strings
  | child name _ inside siblings =>
      .node ⟨name, inside.properties strings⟩ (inside.children strings) ::
        siblings.children strings

/--
Tokens that `libfdt` walks to their end: every word fits, every property name
is in the strings block, and properties stand in front of the children.
-/
def WellFormed (strings : Bytes) : FdtTokens → Prop
  | endNode =>
      True
  | nop rest =>
      rest.WellFormed strings
  | property nameOffset value padding rest =>
      value.length < 4294967296 ∧ nameOffset < 4294967296 ∧
        (getString strings nameOffset).isSome ∧ Fills value padding ∧
          rest.WellFormed strings
  | child name padding inside siblings =>
      IsByteName name ∧ Fills (stringBytes name) padding ∧
        siblings.properties strings = [] ∧
          inside.WellFormed strings ∧ siblings.WellFormed strings

/-- The tree of a node with some tokens. -/
def tree (strings : Bytes) (name : Text) (inside : FdtTokens) : DeviceTree :=
  .node ⟨name, inside.properties strings⟩ (inside.children strings)

@[simp] theorem label_tree
    (strings : Bytes)
    (name : Text)
    (inside : FdtTokens) :
    (tree strings name inside).label =
      ⟨name, inside.properties strings⟩ := rfl

@[simp] theorem children_tree
    (strings : Bytes)
    (name : Text)
    (inside : FdtTokens) :
    (tree strings name inside).children = inside.children strings := rfl

/-- Every body ends in a token of its own. -/
theorem four_le_length_bytes (tokens : FdtTokens) :
    4 ≤ tokens.bytes.length := by
  induction tokens with
  | endNode =>
      simp [bytes]
  | nop rest inductionHypothesis =>
      simp only [bytes, List.length_append]
      omega
  | property nameOffset value padding rest inductionHypothesis =>
      simp only [bytes, List.length_append]
      omega
  | child name padding inside siblings insideHypothesis siblingsHypothesis =>
      simp only [bytes, List.length_append]
      omega

end FdtTokens

/-! ## Lengths -/

theorem length_propertyBytes
    {nameOffset : Nat}
    {value padding : Bytes}
    (fills : Fills value padding) :
    (propertyBytes nameOffset value padding).length =
      12 + tagAlign value.length := by
  rw [Fills, List.length_append] at fills
  simp only [propertyBytes, List.length_append, length_bigEndian]
  omega

theorem length_nodeHeader
    {name : Text}
    {padding : Bytes}
    (fills : Fills (stringBytes name) padding) :
    (nodeHeader name padding).length = 4 + tagAlign (name.length + 1) := by
  rw [Fills, List.length_append, length_stringBytes] at fills
  simp only [nodeHeader, List.length_append, length_bigEndian,
    length_stringBytes]
  omega

/-- What is rounded up to tokens is whole tokens. -/
theorem tagAlign_mod (offset : Nat) : tagAlign offset % 4 = 0 := by
  rw [tagAlign]
  omega

theorem le_tagAlign (offset : Nat) : offset ≤ tagAlign offset := by
  rw [tagAlign]
  omega

/-- Whole tokens do not change the alignment behind them. -/
theorem tagAlign_add {front : Nat} (aligned : front % 4 = 0) (offset : Nat) :
    tagAlign (front + offset) = front + tagAlign offset := by
  rw [tagAlign, tagAlign]
  omega

namespace FdtTokens

/-- Well-formed tokens take up whole words. -/
theorem WellFormed.aligned
    {strings : Bytes}
    {tokens : FdtTokens}
    (wellFormed : tokens.WellFormed strings) :
    tokens.bytes.length % 4 = 0 := by
  induction tokens with
  | endNode =>
      simp [bytes]
  | nop rest inductionHypothesis =>
      have behind := inductionHypothesis wellFormed
      simp only [bytes, List.length_append, length_bigEndian]
      omega
  | property nameOffset value padding rest inductionHypothesis =>
      obtain ⟨-, -, -, fills, restFormed⟩ := wellFormed
      have behind := inductionHypothesis restFormed
      have whole := tagAlign_mod value.length
      simp only [bytes, List.length_append, length_propertyBytes fills]
      omega
  | child name padding inside siblings insideHypothesis
      siblingsHypothesis =>
      obtain ⟨-, fills, -, insideFormed, siblingsFormed⟩ := wellFormed
      have whole := tagAlign_mod (name.length + 1)
      have first := insideHypothesis insideFormed
      have second := siblingsHypothesis siblingsFormed
      simp only [bytes, List.length_append, length_nodeHeader fills]
      omega

end FdtTokens

/-! ## Reading printed tokens -/

/-- A filled-up string is read with its padding. -/
theorem readName_stringBytes
    {name : Text}
    {padding : Bytes}
    (isName : IsByteName name)
    (fills : Fills (stringBytes name) padding)
    (rest : Bytes) :
    readName (stringBytes name ++ (padding ++ rest)) =
      some (name, rest) := by
  rw [Fills, length_stringBytes] at fills
  rw [readName, readString_stringBytes isName]
  simp only [Option.bind_eq_bind, Option.bind_some, Option.some.injEq,
    Prod.mk.injEq, true_and]
  rw [← List.append_assoc]
  exact List.drop_left' fills

/-- The token of a property is read with its padding. -/
theorem readProperty_propertyBytes
    {strings value padding : Bytes}
    {nameOffset : Nat}
    (short : value.length < 4294967296)
    (near : nameOffset < 4294967296)
    {name : Text}
    (found : getString strings nameOffset = some name)
    (fills : Fills value padding)
    (rest : Bytes) :
    readProperty strings
        (bigEndian 4 value.length ++
          (bigEndian 4 nameOffset ++ (value ++ (padding ++ rest)))) =
      some (⟨name, value⟩, rest) := by
  have room : value.length ≤ (value ++ (padding ++ rest)).length := by
    simp
  have behind :
      (value ++ (padding ++ rest)).drop (tagAlign value.length) = rest := by
    rw [← List.append_assoc]
    exact List.drop_left' fills
  rw [readProperty, readWord_bigEndian short]
  simp only [Option.bind_eq_bind, Option.bind_some,
    readWord_bigEndian near, found]
  rw [if_pos room, List.take_left, behind]

/-- Printed tokens are read up to their end. -/
theorem readBody_bytes
    {strings : Bytes}
    {tokens : FdtTokens}
    (wellFormed : tokens.WellFormed strings)
    {fuel : Nat}
    (enough : tokens.bytes.length ≤ fuel)
    (after : Bytes) :
    readBody strings fuel (tokens.bytes ++ after) =
      some ((tokens.properties strings, tokens.children strings),
        after) := by
  have some := tokens.four_le_length_bytes
  obtain ⟨less, rfl⟩ := Nat.exists_eq_add_of_le' (show 1 ≤ fuel by omega)
  clear some
  induction tokens generalizing less after with
  | endNode =>
      rw [FdtTokens.bytes, readBody, readWord_bigEndian (by decide)]
      simp only [Option.bind_eq_bind, Option.bind_some]
      rw [if_neg (by decide), if_pos trivial]
      rfl
  | nop rest inductionHypothesis =>
      have restLong := rest.four_le_length_bytes
      simp only [FdtTokens.bytes, List.length_append, length_bigEndian]
        at enough
      obtain ⟨fewer, rfl⟩ :=
        Nat.exists_eq_add_of_le' (show 1 ≤ less by omega)
      rw [FdtTokens.bytes, List.append_assoc, readBody,
        readWord_bigEndian (by decide)]
      simp only [Option.bind_eq_bind, Option.bind_some]
      rw [if_neg (by decide), if_neg (by decide), if_neg (by decide),
        if_pos trivial, inductionHypothesis wellFormed _ _ (by omega)]
      rfl
  | property nameOffset value padding rest inductionHypothesis =>
      obtain ⟨short, near, found, fills, restFormed⟩ := wellFormed
      obtain ⟨name, found⟩ := Option.isSome_iff_exists.mp found
      have restLong := rest.four_le_length_bytes
      simp only [FdtTokens.bytes, List.length_append,
        length_propertyBytes fills] at enough
      obtain ⟨fewer, rfl⟩ :=
        Nat.exists_eq_add_of_le' (show 1 ≤ less by omega)
      rw [FdtTokens.bytes, propertyBytes]
      simp only [List.append_assoc]
      rw [readBody, readWord_bigEndian (by decide)]
      simp only [Option.bind_eq_bind, Option.bind_some]
      rw [if_neg (by decide), if_neg (by decide), if_pos trivial,
        readProperty_propertyBytes short near found fills]
      simp only [Option.bind_some,
        inductionHypothesis restFormed after fewer (by omega),
        FdtTokens.properties, FdtTokens.children, found,
        Option.getD_some]
  | child name padding inside siblings insideHypothesis
      siblingsHypothesis =>
      obtain ⟨isName, fills, early, insideFormed, siblingsFormed⟩ :=
        wellFormed
      have insideLong := inside.four_le_length_bytes
      have siblingsLong := siblings.four_le_length_bytes
      simp only [FdtTokens.bytes, List.length_append,
        length_nodeHeader fills] at enough
      obtain ⟨fewer, rfl⟩ :=
        Nat.exists_eq_add_of_le' (show 1 ≤ less by omega)
      rw [FdtTokens.bytes, nodeHeader]
      simp only [List.append_assoc]
      rw [readBody, readWord_bigEndian (by decide)]
      simp only [Option.bind_eq_bind, Option.bind_some]
      rw [if_pos trivial, readName_stringBytes isName fills]
      simp only [Option.bind_some,
        insideHypothesis insideFormed _ fewer (by omega),
        siblingsHypothesis siblingsFormed _ fewer (by omega), early]
      rfl

/-! ## What was read was printed -/

/-- A word that is read is the front of its bytes. -/
theorem readWord_eq_some
    {input rest : Bytes}
    {word : Nat}
    (read : readWord input = some (word, rest)) :
    input = bigEndian 4 word ++ rest ∧ word < 4294967296 := by
  unfold readWord at read
  split at read
  case isTrue long =>
      simp only [Option.some.injEq, Prod.mk.injEq] at read
      obtain ⟨rfl, rfl⟩ := read
      have four : (input.take 4).length = 4 := by
        rw [List.length_take]
        omega
      have bound := ofBigEndian_lt (input.take 4)
      have packed := bigEndian_ofBigEndian (input.take 4)
      rw [four] at bound packed
      exact ⟨by rw [packed, List.take_append_drop], bound⟩
  case isFalse =>
      cases read

/-- A string that is read stands in front with its NUL. -/
theorem readString_eq_some
    {input : Bytes}
    {text : Text}
    (read : readString input = some text) :
    IsByteName text ∧ ∃ rest, input = stringBytes text ++ rest := by
  unfold readString at read
  dsimp only at read
  split at read
  case isTrue shorter =>
      simp only [Option.some.injEq] at read
      have nonzero :
          ∀ byte ∈ input.takeWhile (· ≠ 0), byte ≠ 0 := by
        intro byte member
        simpa using List.mem_takeWhile_imp member
      have bytesBack :
          text.map charByte = input.takeWhile (· ≠ 0) := by
        rw [← read, List.map_map]
        calc
          (input.takeWhile (· ≠ 0)).map (charByte ∘ byteChar) =
              (input.takeWhile (· ≠ 0)).map id :=
            List.map_congr_left fun byte _ => charByte_byteChar byte
          _ = input.takeWhile (· ≠ 0) := List.map_id _
      refine ⟨?_, ?_⟩
      · intro character member
        rw [← read] at member
        obtain ⟨byte, inFront, rfl⟩ := List.mem_map.mp member
        refine ⟨?_, ?_⟩
        · rw [toNat_byteChar]
          exact byte.toNat_lt
        · intro nul
          apply nonzero byte inFront
          rw [← charByte_byteChar byte, nul]
          rfl
      · cases behind : input.dropWhile (· ≠ 0) with
        | nil =>
            have whole := List.takeWhile_append_dropWhile
              (p := (· ≠ 0)) (l := input)
            rw [behind, List.append_nil] at whole
            rw [whole] at shorter
            exact (Nat.lt_irrefl _ shorter).elim
        | cons nul rest =>
            have isNul : nul = 0 := by
              have first := List.head?_dropWhile_not (· ≠ 0) input
              rw [behind] at first
              simpa using first
            refine ⟨rest, ?_⟩
            rw [stringBytes, bytesBack, List.append_assoc,
              List.singleton_append]
            rw [isNul] at behind
            rw [← behind, List.takeWhile_append_dropWhile]
  case isFalse =>
      cases read

/-- Content that leaves bytes behind its padding is filled up. -/
theorem exists_padding
    {content behind rest : Bytes}
    (padded : (content ++ behind).drop (tagAlign content.length) = rest)
    (some : rest ≠ []) :
    ∃ padding, Fills content padding ∧ behind = padding ++ rest := by
  have inside := le_tagAlign content.length
  have dropped :
      behind.drop (tagAlign content.length - content.length) = rest := by
    rw [← padded, List.drop_append, List.drop_of_length_le inside,
      List.nil_append]
  have long : tagAlign content.length - content.length ≤ behind.length := by
    by_contra short
    rw [List.drop_of_length_le (by omega)] at dropped
    exact some dropped.symm
  refine ⟨behind.take (tagAlign content.length - content.length), ?_, ?_⟩
  · rw [Fills, List.length_append, List.length_take]
    omega
  · rw [← dropped, List.take_append_drop]

/-- A name that leaves bytes behind is filled up. -/
theorem readName_eq_some
    {input rest : Bytes}
    {name : Text}
    (read : readName input = some (name, rest))
    (more : rest ≠ []) :
    ∃ padding,
      IsByteName name ∧ Fills (stringBytes name) padding ∧
        input = stringBytes name ++ (padding ++ rest) := by
  simp only [readName, Option.bind_eq_bind, Option.bind_eq_some_iff,
    Option.some.injEq, Prod.mk.injEq] at read
  obtain ⟨_, found, rfl, padded⟩ := read
  obtain ⟨isName, behind, rfl⟩ := readString_eq_some found
  rw [← length_stringBytes] at padded
  obtain ⟨padding, fills, rfl⟩ := exists_padding padded more
  exact ⟨padding, isName, fills, rfl⟩

/-- A property that leaves bytes behind is a filled-up token. -/
theorem readProperty_eq_some
    {strings input rest : Bytes}
    {property : Property}
    (read : readProperty strings input = some (property, rest))
    (more : rest ≠ []) :
    ∃ nameOffset padding,
      property.value.length < 4294967296 ∧ nameOffset < 4294967296 ∧
        getString strings nameOffset = some property.name ∧
          Fills property.value padding ∧
            bigEndian 4 fdtProp ++ input =
              propertyBytes nameOffset property.value padding ++ rest := by
  simp only [readProperty, Option.bind_eq_bind,
    Option.bind_eq_some_iff] at read
  obtain ⟨⟨length, behindLength⟩, lengthRead, ⟨nameOffset, data⟩,
    offsetRead, name, found, inside⟩ := read
  split at inside
  case isTrue room =>
      simp only [Option.some.injEq, Prod.mk.injEq] at inside
      obtain ⟨rfl, padded⟩ := inside
      dsimp only at room
      obtain ⟨rfl, short⟩ := readWord_eq_some lengthRead
      obtain ⟨rfl, near⟩ := readWord_eq_some offsetRead
      have taken : (data.take length).length = length := by
        rw [List.length_take]
        omega
      have whole :
          (data.take length ++ data.drop length).drop
              (tagAlign (data.take length).length) =
            rest := by
        rw [List.take_append_drop, taken]
        exact padded
      obtain ⟨padding, fills, behind⟩ := exists_padding whole more
      refine ⟨nameOffset, padding, ?_, near, found, fills, ?_⟩
      · dsimp only
        omega
      · simp only [propertyBytes, List.append_assoc, ← behind,
          List.take_append_drop, taken]
  case isFalse =>
      cases inside

/-- A body that is read is printed from its tokens. -/
theorem readBody_eq_some
    {strings : Bytes}
    {fuel : Nat}
    {input after : Bytes}
    {properties : List Property}
    {children : List DeviceTree}
    (read :
      readBody strings fuel input = some ((properties, children), after)) :
    ∃ tokens : FdtTokens,
      tokens.WellFormed strings ∧ input = tokens.bytes ++ after ∧
        tokens.properties strings = properties ∧
          tokens.children strings = children := by
  have nonempty {tokens : FdtTokens} {behind : Bytes} :
      tokens.bytes ++ behind ≠ [] := by
    intro empty
    have long := tokens.four_le_length_bytes
    rw [(List.append_eq_nil_iff.mp empty).1] at long
    exact absurd long (by decide)
  induction fuel generalizing input after properties children with
  | zero =>
      cases read
  | succ fuel inductionHypothesis =>
      simp only [readBody, Option.bind_eq_bind,
        Option.bind_eq_some_iff] at read
      obtain ⟨⟨token, rest⟩, tokenRead, branch⟩ := read
      obtain ⟨rfl, -⟩ := readWord_eq_some tokenRead
      dsimp only at branch
      split at branch
      case isTrue isBegin =>
          subst isBegin
          simp only [Option.bind_eq_some_iff] at branch
          obtain ⟨⟨name, inside⟩, nameRead, ⟨⟨inner, below⟩, behind⟩,
            bodyRead, ⟨⟨late, siblings⟩, last⟩, laterRead, rest⟩ := branch
          obtain ⟨tokens, formed, rfl, rfl, rfl⟩ :=
            inductionHypothesis bodyRead
          obtain ⟨later, laterFormed, rfl, early, rfl⟩ :=
            inductionHypothesis laterRead
          obtain ⟨padding, isName, fills, rfl⟩ :=
            readName_eq_some nameRead nonempty
          split at rest
          case isTrue noneLate =>
              simp only [Option.some.injEq, Prod.mk.injEq] at rest
              obtain ⟨⟨rfl, rfl⟩, rfl⟩ := rest
              refine ⟨.child name padding tokens later,
                ⟨isName, fills, early.trans noneLate, formed, laterFormed⟩,
                ?_, rfl, rfl⟩
              simp only [FdtTokens.bytes, nodeHeader, List.append_assoc]
          case isFalse =>
              cases rest
      case isFalse =>
        split at branch
        case isTrue isEnd =>
            subst isEnd
            simp only [Option.some.injEq, Prod.mk.injEq] at branch
            obtain ⟨⟨rfl, rfl⟩, rfl⟩ := branch
            exact ⟨.endNode, trivial, rfl, rfl, rfl⟩
        case isFalse =>
          split at branch
          case isTrue isProp =>
              subst isProp
              simp only [Option.bind_eq_some_iff, Option.some.injEq,
                Prod.mk.injEq] at branch
              obtain ⟨⟨property, behind⟩, propertyRead,
                ⟨⟨others, below⟩, last⟩, bodyRead, ⟨rfl, rfl⟩, rfl⟩ :=
                branch
              obtain ⟨tokens, formed, rfl, rfl, rfl⟩ :=
                inductionHypothesis bodyRead
              obtain ⟨nameOffset, padding, short, near, found, fills,
                token⟩ := readProperty_eq_some propertyRead nonempty
              refine ⟨.property nameOffset property.value padding tokens,
                ⟨short, near, by rw [found]; rfl, fills, formed⟩, ?_, ?_,
                rfl⟩
              · rw [token]
                simp only [FdtTokens.bytes, List.append_assoc]
              · simp only [FdtTokens.properties, found, Option.getD_some]
          case isFalse =>
            split at branch
            case isTrue isNop =>
                subst isNop
                obtain ⟨tokens, formed, rfl, rfl, rfl⟩ :=
                  inductionHypothesis branch
                refine ⟨.nop tokens, formed, ?_, rfl, rfl⟩
                simp only [FdtTokens.bytes, List.append_assoc]
            case isFalse =>
                cases branch

/--
A structure block reads as a tree exactly when it is the header and the
tokens of a root node, and an `FDT_END`.
-/
theorem readStructure_eq_some_iff
    {strings block : Bytes}
    {tree : DeviceTree} :
    readStructure strings block = some tree ↔
      ∃ name padding inside trailing,
        IsByteName name ∧ Fills (stringBytes name) padding ∧
          inside.WellFormed strings ∧
            block =
                nodeHeader name padding ++
                  (inside.bytes ++ (bigEndian 4 fdtEnd ++ trailing)) ∧
              tree = FdtTokens.tree strings name inside := by
  constructor
  · intro read
    simp only [readStructure, Option.bind_eq_bind,
      Option.bind_eq_some_iff] at read
    obtain ⟨⟨token, rest⟩, tokenRead, ⟨name, inside⟩, nameRead,
      ⟨⟨properties, children⟩, behind⟩, bodyRead, ⟨last, trailing⟩,
      lastRead, whole⟩ := read
    obtain ⟨tokens, formed, rfl, rfl, rfl⟩ := readBody_eq_some bodyRead
    obtain ⟨rfl, -⟩ := readWord_eq_some tokenRead
    obtain ⟨rfl, -⟩ := readWord_eq_some lastRead
    split at whole
    case isTrue kinds =>
        obtain ⟨rfl, rfl⟩ := kinds
        obtain ⟨padding, isName, fills, rfl⟩ :=
          readName_eq_some nameRead (by
            intro empty
            have long := tokens.four_le_length_bytes
            rw [(List.append_eq_nil_iff.mp empty).1] at long
            exact absurd long (by decide))
        simp only [Option.some.injEq] at whole
        refine ⟨name, padding, tokens, trailing, isName, fills, formed, ?_,
          whole.symm⟩
        simp only [nodeHeader, List.append_assoc]
    case isFalse =>
        cases whole
  · rintro ⟨name, padding, inside, trailing, isName, fills, formed, rfl, rfl⟩
    rw [nodeHeader]
    simp only [List.append_assoc]
    rw [readStructure, readWord_bigEndian (by decide)]
    simp only [Option.bind_eq_bind, Option.bind_some,
      readName_stringBytes isName fills]
    rw [readBody_bytes formed (by simp only [List.length_append]; omega)]
    simp only [Option.bind_some,
      readWord_bigEndian (show fdtEnd < 4294967296 by decide)]
    rw [if_pos ⟨trivial, trivial⟩]
    rfl

end OverclockBuilder
