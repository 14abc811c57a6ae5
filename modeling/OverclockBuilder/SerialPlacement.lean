import OverclockBuilder.BytePacking
import Mathlib.Data.Option.Basic

namespace SerialPlacement

open BytePacking

/-!
# Blobs placed one behind the other

A store that appends blobs at aligned offsets and keeps a row for each item it
was given.  An item is given the room of the first item with its key, when the
two also have the same form, and room of its own otherwise.
-/

variable {α : Type u} {κ : Type v} {φ : Type w}

/-- How items are told apart, and what is stored for them. -/
structure Policy (α : Type u) (κ : Type v) (φ : Type w) where
  /-- The first offset from a given one on at which a blob may start. -/
  align : Nat → Nat
  key : α → κ
  form : α → φ
  content : α → Option Bytes
  le_align : ∀ offset, offset ≤ align offset
  content_congr :
    ∀ first second,
      key first = key second →
        form first = form second → content first = content second

/-- An item with the room its blob takes. -/
structure Slot (α : Type u) where
  item : α
  offset : Nat
  size : Nat
  deriving Repr, DecidableEq

/-- The blobs behind some offset, and the rows that point into them. -/
structure Store (α : Type u) where
  blobs : Bytes
  slots : List (Slot α)
  deriving Repr, DecidableEq

/-- Two rows share their room, or their rooms are apart. -/
def Slot.Separate (first second : Slot α) : Prop :=
  first.offset = second.offset ∧ first.size = second.size ∨
    first.offset + first.size ≤ second.offset ∨
      second.offset + second.size ≤ first.offset

/-- The first row for a key -/
def findKey [DecidableEq κ]
    (policy : Policy α κ φ)
    (slots : List (Slot α))
    (item : α) :
    Option (Slot α) :=
  slots.find? fun slot => policy.key slot.item = policy.key item

/-- A blob at the next allowed offset -/
def append
    (policy : Policy α κ φ)
    (base : Nat)
    (store : Store α)
    (item : α)
    (content : Bytes) :
    Store α where
  blobs :=
    store.blobs ++
      List.replicate
        (policy.align (base + store.blobs.length) -
          (base + store.blobs.length)) 0 ++
        content
  slots :=
    store.slots ++
      [⟨item, policy.align (base + store.blobs.length), content.length⟩]

/-- A row is right about the blob it points to. -/
structure Holds
    (policy : Policy α κ φ)
    (base : Nat)
    (blobs : Bytes)
    (slot : Slot α) : Prop where
  aligned : ∃ offset, slot.offset = policy.align offset
  start : base ≤ slot.offset
  bounded : slot.offset + slot.size ≤ base + blobs.length
  content :
    policy.content slot.item =
      some (slice (slot.offset - base) slot.size blobs)

section Rooms

variable
  {policy : Policy α κ φ}
  {base : Nat}
  {store : Store α}
  {item : α}

/-- Bytes behind the blobs leave every row right. -/
theorem Holds.append
    {blobs : Bytes}
    {slot : Slot α}
    (holds : Holds policy base blobs slot)
    (behind : Bytes) :
    Holds policy base (blobs ++ behind) slot where
  aligned := holds.aligned
  start := holds.start
  bounded := by
    have bounded := holds.bounded
    rw [List.length_append]
    omega
  content := by
    have inside : slot.offset - base + slot.size ≤ blobs.length := by
      have start := holds.start
      have bounded := holds.bounded
      omega
    rw [holds.content, slice, slice, List.drop_append_of_le_length (by omega),
      List.take_append_of_le_length (by rw [List.length_drop]; omega)]

theorem holds_append
    {content : Bytes}
    (stored : policy.content item = some content) :
    Holds policy base (append policy base store item content).blobs
      ⟨item, policy.align (base + store.blobs.length), content.length⟩ := by
  have room := policy.le_align (base + store.blobs.length)
  constructor
  · exact ⟨_, rfl⟩
  · exact Nat.le_trans (Nat.le_add_right base _) room
  · simp only [append, List.length_append, List.length_replicate]
    omega
  · have front :
        (store.blobs ++
            List.replicate
              (policy.align (base + store.blobs.length) -
                (base + store.blobs.length)) (0 : UInt8)).length =
          policy.align (base + store.blobs.length) - base := by
      rw [List.length_append, List.length_replicate]
      omega
    have middle := slice_middle front (rfl : content.length = _) []
    rw [List.append_nil] at middle
    rw [stored, append, middle]

end Rooms

section Placing

variable [DecidableEq κ] [DecidableEq φ]

/-- The row whose room an item is given. -/
def shared
    (policy : Policy α κ φ)
    (slots : List (Slot α))
    (item : α) :
    Option (Slot α) :=
  (findKey policy slots item).filter fun slot =>
    policy.form slot.item = policy.form item

/-- One item is given room. -/
def place
    (policy : Policy α κ φ)
    (base : Nat)
    (store : Store α)
    (item : α) :
    Option (Store α) :=
  match shared policy store.slots item with
  | some slot =>
      some { store with
        slots := store.slots ++ [⟨item, slot.offset, slot.size⟩] }
  | none =>
      (policy.content item).map (append policy base store item)

/-- Items are given room in order. -/
def placeAll
    (policy : Policy α κ φ)
    (base : Nat)
    (store : Store α)
    (items : List α) :
    Option (Store α) :=
  items.foldlM (place policy base) store

/-- What every store built by placing items satisfies. -/
structure Sound
    (policy : Policy α κ φ)
    (base : Nat)
    (store : Store α) : Prop where
  holds : ∀ slot ∈ store.slots, Holds policy base store.blobs slot
  separate :
    ∀ first ∈ store.slots, ∀ second ∈ store.slots, first.Separate second
  sharing :
    ∀ slot ∈ store.slots, ∀ first ∈ shared policy store.slots slot.item,
      slot.offset = first.offset ∧ slot.size = first.size

variable
  {policy : Policy α κ φ}
  {base : Nat}
  {store final : Store α}
  {item : α}

/-! ## Finding a row to share -/

theorem Slot.Separate.symm
    {first second : Slot α}
    (separate : first.Separate second) :
    second.Separate first := by
  rcases separate with same | before | behind
  · exact .inl ⟨same.1.symm, same.2.symm⟩
  · exact .inr (.inr before)
  · exact .inr (.inl behind)

theorem shared_eq_some
    {slots : List (Slot α)}
    {slot : Slot α}
    (found : shared policy slots item = some slot) :
    slot ∈ slots ∧ policy.key slot.item = policy.key item ∧
      policy.form slot.item = policy.form item := by
  obtain ⟨first, sameForm⟩ := Option.filter_eq_some_iff.mp found
  exact ⟨List.mem_of_find?_eq_some first,
    by simpa using List.find?_some first, by simpa using sameForm⟩

/-- A row behind the first one for its key changes nothing. -/
theorem shared_append
    {slots : List (Slot α)}
    {slot : Slot α}
    (member : slot ∈ slots)
    (last : Slot α) :
    shared policy (slots ++ [last]) slot.item =
      shared policy slots slot.item := by
  have found : (findKey policy slots slot.item).isSome := by
    rw [findKey, List.find?_isSome]
    exact ⟨slot, member, by simp⟩
  obtain ⟨first, isFirst⟩ := Option.isSome_iff_exists.mp found
  rw [findKey] at isFirst
  rw [shared, shared, findKey, findKey, List.find?_append, isFirst,
    Option.some_or]

/-- An item whose key is new is the first row for it. -/
theorem shared_append_self
    {slots : List (Slot α)}
    {last first : Slot α}
    (found : shared policy (slots ++ [last]) last.item = some first) :
    shared policy slots last.item = some first ∨
      shared policy slots last.item = none ∧ first = last := by
  rw [shared, findKey, List.find?_append] at found
  cases isFirst :
      slots.find? fun slot => policy.key slot.item = policy.key last.item with
  | some earlier =>
      rw [isFirst, Option.some_or] at found
      exact .inl (by rw [shared, findKey, isFirst, found])
  | none =>
      rw [isFirst, Option.none_or, List.find?_cons_of_pos (by simp)] at found
      obtain ⟨same, -⟩ := Option.filter_eq_some_iff.mp found
      exact .inr ⟨by rw [shared, findKey, isFirst]; rfl,
        (Option.some.inj same).symm⟩

/-! ## One item -/

/-- A new row keeps the rows apart when it is apart from each of them. -/
theorem separate_append
    {slots : List (Slot α)}
    (separate : ∀ first ∈ slots, ∀ second ∈ slots, first.Separate second)
    {last : Slot α}
    (apart : ∀ slot ∈ slots, slot.Separate last) :
    ∀ first ∈ slots ++ [last], ∀ second ∈ slots ++ [last],
      first.Separate second := by
  intro first inFirst second inSecond
  rcases List.mem_append.mp inFirst with inFirst | isLast
  · rcases List.mem_append.mp inSecond with inSecond | isLast
    · exact separate first inFirst second inSecond
    · rw [List.mem_singleton.mp isLast]
      exact apart first inFirst
  · rw [List.mem_singleton.mp isLast]
    rcases List.mem_append.mp inSecond with inSecond | isLast
    · exact (apart second inSecond).symm
    · rw [List.mem_singleton.mp isLast]
      exact .inl ⟨rfl, rfl⟩

/-- A new row keeps the sharing when it has the room of the row it shares. -/
theorem sharing_append
    {slots : List (Slot α)}
    (sharing :
      ∀ slot ∈ slots, ∀ first ∈ shared policy slots slot.item,
        slot.offset = first.offset ∧ slot.size = first.size)
    {last : Slot α}
    (follows :
      ∀ first ∈ shared policy slots last.item,
        last.offset = first.offset ∧ last.size = first.size) :
    ∀ slot ∈ slots ++ [last],
      ∀ first ∈ shared policy (slots ++ [last]) slot.item,
        slot.offset = first.offset ∧ slot.size = first.size := by
  intro slot member first found
  rcases List.mem_append.mp member with member | isLast
  · rw [shared_append member] at found
    exact sharing slot member first found
  · rw [List.mem_singleton.mp isLast] at found ⊢
    rcases shared_append_self found with earlier | ⟨-, rfl⟩
    · exact follows first earlier
    · exact ⟨rfl, rfl⟩

/-- Placing an item keeps the store sound. -/
theorem place_sound
    (sound : Sound policy base store)
    (placed : place policy base store item = some final) :
    Sound policy base final := by
  unfold place at placed
  cases found : shared policy store.slots item with
  | some slot =>
      rw [found, Option.some.injEq] at placed
      subst placed
      obtain ⟨member, sameKey, sameForm⟩ := shared_eq_some found
      have slotHolds := sound.holds slot member
      constructor
      · intro other inSlots
        rcases List.mem_append.mp inSlots with inSlots | isLast
        · exact sound.holds other inSlots
        · rw [List.mem_singleton.mp isLast]
          exact {
            aligned := slotHolds.aligned
            start := slotHolds.start
            bounded := slotHolds.bounded
            content := by
              rw [← slotHolds.content]
              exact policy.content_congr item slot.item sameKey.symm
                sameForm.symm }
      · exact separate_append sound.separate fun other inSlots =>
          sound.separate other inSlots slot member
      · refine sharing_append sound.sharing ?_
        intro first isFirst
        rw [found, Option.mem_some_iff] at isFirst
        rw [← isFirst]
        exact ⟨rfl, rfl⟩
  | none =>
      rw [found, Option.map_eq_some_iff] at placed
      obtain ⟨content, stored, rfl⟩ := placed
      constructor
      · intro other inSlots
        rcases List.mem_append.mp inSlots with inSlots | isLast
        · rw [append, List.append_assoc]
          exact (sound.holds other inSlots).append _
        · rw [List.mem_singleton.mp isLast]
          exact holds_append stored
      · refine separate_append sound.separate ?_
        intro other inSlots
        have bounded := (sound.holds other inSlots).bounded
        have room := policy.le_align (base + store.blobs.length)
        exact .inr (.inl (Nat.le_trans bounded room))
      · refine sharing_append sound.sharing ?_
        intro first isFirst
        rw [found] at isFirst
        cases isFirst

theorem place_items (placed : place policy base store item = some final) :
    final.slots.map Slot.item = store.slots.map Slot.item ++ [item] := by
  unfold place at placed
  split at placed
  · rw [Option.some.injEq] at placed
    rw [← placed, List.map_append]
    rfl
  · obtain ⟨content, -, rfl⟩ := Option.map_eq_some_iff.mp placed
    rw [append, List.map_append]
    rfl

/-! ## A run -/

/-- Placing items keeps the store sound. -/
theorem placeAll_sound
    {items : List α}
    (sound : Sound policy base store)
    (placed : placeAll policy base store items = some final) :
    Sound policy base final := by
  induction items generalizing store with
  | nil =>
      rw [placeAll, List.foldlM_nil, Option.pure_def, Option.some.injEq]
        at placed
      rwa [← placed]
  | cons item rest inductionHypothesis =>
      rw [placeAll, List.foldlM_cons, Option.bind_eq_bind,
        Option.bind_eq_some_iff] at placed
      obtain ⟨next, first, others⟩ := placed
      exact inductionHypothesis (place_sound sound first) others

/-- A store has a row for each item, in order. -/
theorem placeAll_items
    {items : List α}
    (placed : placeAll policy base store items = some final) :
    final.slots.map Slot.item = store.slots.map Slot.item ++ items := by
  induction items generalizing store with
  | nil =>
      rw [placeAll, List.foldlM_nil, Option.pure_def, Option.some.injEq]
        at placed
      rw [← placed, List.append_nil]
  | cons item rest inductionHypothesis =>
      rw [placeAll, List.foldlM_cons, Option.bind_eq_bind,
        Option.bind_eq_some_iff] at placed
      obtain ⟨next, first, others⟩ := placed
      rw [inductionHypothesis others, place_items first, List.append_assoc]
      rfl

theorem sound_empty : Sound policy base ⟨[], []⟩ := by
  constructor <;> simp

end Placing

end SerialPlacement
