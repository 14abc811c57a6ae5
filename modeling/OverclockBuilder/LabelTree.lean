import Mathlib.Data.List.Basic

namespace LabelTree

/-!
# Labelled trees under index paths

A node is addressed by the indices of the children on the way to it, so equal
labels at different places stay apart.  Relabelling one address leaves every
other address alone, and a search that looks only at what relabelling keeps
finds the same address before and after it.
-/

universe u v

/-- A tree with a label at every node and ordered children. -/
inductive OrderedTree (α : Type u) where
  | node : α → List (OrderedTree α) → OrderedTree α

variable {α : Type u} {κ : Type v}

namespace OrderedTree

/-- The label of the root. -/
def label : OrderedTree α → α
  | node label _ => label

/-- The children of the root, in order. -/
def children : OrderedTree α → List (OrderedTree α)
  | node _ children => children

mutual

/-- The labels of a tree, parents first. -/
def labels : OrderedTree α → List α
  | node label children =>
      label :: forestLabels children

/-- The labels of some trees, one tree after the other. -/
def forestLabels : List (OrderedTree α) → List α
  | [] =>
      []
  | tree :: rest =>
      labels tree ++ forestLabels rest

end

/-- The node at an address. -/
def at? : List Nat → OrderedTree α → Option (OrderedTree α)
  | [], tree =>
      some tree
  | index :: path, node _ children =>
      children[index]?.bind (at? path)

/-- The label at an address. -/
def labelAt (path : List Nat) (tree : OrderedTree α) : Option α :=
  (at? path tree).map label

/-- Relabel the node at an address. -/
def modifyAt (change : α → α) : List Nat → OrderedTree α → OrderedTree α
  | [], node label children =>
      node (change label) children
  | index :: path, node label children =>
      node label (children.modify index (modifyAt change path))

@[simp] theorem labelAt_nil (tree : OrderedTree α) :
    labelAt [] tree = some tree.label := rfl

@[simp] theorem labelAt_cons
    (index : Nat)
    (path : List Nat)
    (label : α)
    (children : List (OrderedTree α)) :
    labelAt (index :: path) (node label children) =
      children[index]?.bind (labelAt path) := by
  rw [labelAt, at?, Option.map_bind]
  rfl

/-- The address itself carries the changed label. -/
theorem labelAt_modifyAt_self
    (change : α → α)
    (path : List Nat)
    (tree : OrderedTree α) :
    labelAt path (modifyAt change path tree) =
      (labelAt path tree).map change := by
  induction path generalizing tree with
  | nil =>
      cases tree
      rfl
  | cons index path inductionHypothesis =>
      cases tree with
      | node label children =>
          simp only [modifyAt, labelAt_cons, List.getElem?_modify,
            ↓reduceIte]
          cases children[index]? with
          | none =>
              rfl
          | some child =>
              exact inductionHypothesis child

/-- Every other address keeps its label. -/
theorem labelAt_modifyAt_of_ne
    (change : α → α)
    {changed path : List Nat}
    (different : changed ≠ path)
    (tree : OrderedTree α) :
    labelAt path (modifyAt change changed tree) = labelAt path tree := by
  induction changed generalizing path tree with
  | nil =>
      cases tree with
      | node label children =>
          cases path with
          | nil =>
              exact (different rfl).elim
          | cons index path =>
              simp [modifyAt]
  | cons index changed inductionHypothesis =>
      cases tree with
      | node label children =>
          cases path with
          | nil =>
              rfl
          | cons other path =>
              simp only [modifyAt, labelAt_cons, List.getElem?_modify]
              by_cases same : index = other
              · subst same
                have deeper : changed ≠ path := by
                  intro equal
                  exact different (by rw [equal])
                simp only [↓reduceIte]
                cases children[index]? with
                | none =>
                    rfl
                | some child =>
                    exact inductionHypothesis deeper child
              · simp [same]

/-- A change that does nothing at its address does nothing. -/
theorem modifyAt_eq_self
    {change : α → α}
    {path : List Nat}
    {tree : OrderedTree α}
    (fixed : ∀ label, labelAt path tree = some label → change label = label) :
    modifyAt change path tree = tree := by
  induction path generalizing tree with
  | nil =>
      cases tree with
      | node label children =>
          simp only [modifyAt, fixed label rfl]
  | cons index path inductionHypothesis =>
      cases tree with
      | node label children =>
          simp only [modifyAt]
          congr 1
          apply List.ext_getElem?
          intro other
          rw [List.getElem?_modify]
          by_cases same : index = other
          · subst same
            simp only [↓reduceIte]
            cases found : children[index]? with
            | none =>
                rfl
            | some child =>
                have unchanged : modifyAt change path child = child := by
                  apply inductionHypothesis
                  intro childLabel atChild
                  apply fixed
                  rw [labelAt_cons, found]
                  exact atChild
                simp [unchanged]
          · simp [same]

/-- Relabelling keeps what it does not look at in the root. -/
theorem observe_label_modifyAt
    {β : Type v}
    {observe : α → β}
    {change : α → α}
    (blind : ∀ label, observe (change label) = observe label)
    (changed : List Nat)
    (tree : OrderedTree α) :
    observe (modifyAt change changed tree).label = observe tree.label := by
  cases tree with
  | node label children =>
      cases changed with
      | nil =>
          exact blind label
      | cons index changed =>
          rfl

/-- Relabelling keeps what it does not look at, child by child. -/
theorem children_at?_modifyAt
    {β : Type v}
    {observe : α → β}
    {change : α → α}
    (blind : ∀ label, observe (change label) = observe label)
    (address changed : List Nat)
    (tree : OrderedTree α) :
    (at? address (modifyAt change changed tree)).map
        (fun found => found.children.map fun child => observe child.label) =
      (at? address tree).map
        fun found => found.children.map fun child => observe child.label := by
  induction address generalizing changed tree with
  | nil =>
      cases tree with
      | node label children =>
          cases changed with
          | nil =>
              rfl
          | cons index changed =>
              simp only [at?, modifyAt, OrderedTree.children,
                Option.map_some, Option.some.injEq]
              apply List.ext_getElem?
              intro position
              simp only [List.getElem?_map, List.getElem?_modify]
              by_cases same : index = position
              · subst same
                cases children[index]? with
                | none =>
                    rfl
                | some child =>
                    simp [observe_label_modifyAt blind]
              · simp [same]
  | cons index address inductionHypothesis =>
      cases tree with
      | node label children =>
          cases changed with
          | nil =>
              rfl
          | cons position changed =>
              simp only [at?, modifyAt, List.getElem?_modify]
              by_cases same : position = index
              · subst same
                cases children[position]? with
                | none =>
                    rfl
                | some child =>
                    simpa using inductionHypothesis changed child
              · simp [same]

/-! ## Searching by labels -/

/-- Follow the first child that matches each key. -/
def find (selects : κ → α → Bool) : List κ → OrderedTree α → Option (List Nat)
  | [], _ =>
      some []
  | key :: keys, node _ children =>
      (children.findIdx? fun child => selects key child.label).bind
        fun index =>
          children[index]?.bind fun child =>
            (find selects keys child).map (index :: ·)

/-- A found address carries a label. -/
theorem labelAt_of_find
    {selects : κ → α → Bool}
    {keys : List κ}
    {tree : OrderedTree α}
    {path : List Nat}
    (found : find selects keys tree = some path) :
    ∃ label, labelAt path tree = some label := by
  induction keys generalizing tree path with
  | nil =>
      cases found
      exact ⟨tree.label, rfl⟩
  | cons key keys inductionHypothesis =>
      cases tree with
      | node label children =>
          simp only [find, Option.bind_eq_some_iff,
            Option.map_eq_some_iff] at found
          obtain ⟨index, -, child, atIndex, rest, below, rfl⟩ := found
          obtain ⟨childLabel, atChild⟩ := inductionHypothesis below
          refine ⟨childLabel, ?_⟩
          rw [labelAt_cons, atIndex]
          exact atChild

/-- Relabelling does not move what a search finds. -/
theorem find_modifyAt
    {selects : κ → α → Bool}
    {change : α → α}
    (blind : ∀ key label, selects key (change label) = selects key label)
    (keys : List κ)
    (changed : List Nat)
    (tree : OrderedTree α) :
    find selects keys (modifyAt change changed tree) =
      find selects keys tree := by
  induction keys generalizing changed tree with
  | nil =>
      rfl
  | cons key keys inductionHypothesis =>
      cases tree with
      | node label children =>
          cases changed with
          | nil =>
              rfl
          | cons index changed =>
              have rootSame (child : OrderedTree α) :
                  selects key (modifyAt change changed child).label =
                    selects key child.label :=
                observe_label_modifyAt (blind key) changed child
              have firstSame :
                  (children.modify index (modifyAt change changed)).findIdx?
                      (fun child => selects key child.label) =
                    children.findIdx? fun child => selects key child.label := by
                induction children generalizing index with
                | nil =>
                    simp
                | cons child rest restHypothesis =>
                    cases index with
                    | zero =>
                        simp [List.findIdx?_cons, rootSame]
                    | succ index =>
                        simp [List.findIdx?_cons, restHypothesis]
              simp only [modifyAt, find, firstSame]
              congr 1
              funext first
              rw [List.getElem?_modify]
              by_cases same : index = first
              · subst same
                simp only [↓reduceIte]
                cases children[index]? with
                | none =>
                    rfl
                | some child =>
                    simp [inductionHypothesis]
              · simp [same]

/-- Keys that select no common label lead to different addresses. -/
theorem find_ne
    {selects : κ → α → Bool}
    {first second : κ}
    {firstKeys secondKeys : List κ}
    {tree : OrderedTree α}
    {firstPath secondPath : List Nat}
    (disjoint :
      ∀ label, selects first label = true → selects second label = false)
    (firstFound : find selects (first :: firstKeys) tree = some firstPath)
    (secondFound : find selects (second :: secondKeys) tree = some secondPath) :
    firstPath ≠ secondPath := by
  cases tree with
  | node label children =>
      simp only [find, Option.bind_eq_some_iff, Option.map_eq_some_iff]
        at firstFound secondFound
      obtain ⟨firstIndex, firstAt, firstChild, firstHere, _, _, rfl⟩ :=
        firstFound
      obtain ⟨secondIndex, secondAt, secondChild, secondHere, _, _, rfl⟩ :=
        secondFound
      intro same
      obtain ⟨rfl, -⟩ := List.cons.inj same
      rw [List.findIdx?_eq_some_iff_getElem] at firstAt secondAt
      obtain ⟨_, firstSelected, -⟩ := firstAt
      obtain ⟨_, secondSelected, -⟩ := secondAt
      rw [disjoint _ firstSelected] at secondSelected
      cases secondSelected

/-! ## Replacing subtrees -/

/-- Put a subtree in the place of the node at an address. -/
def replaceAt (subtree : OrderedTree α) :
    List Nat → OrderedTree α → OrderedTree α
  | [], _ =>
      subtree
  | index :: path, node label children =>
      node label (children.modify index (replaceAt subtree path))

/-- A child of the node at an address. -/
theorem at?_append_singleton
    (path : List Nat)
    (index : Nat)
    (tree : OrderedTree α) :
    at? (path ++ [index]) tree =
      (at? path tree).bind fun found => found.children[index]? := by
  induction path generalizing tree with
  | nil =>
      cases tree with
      | node label children =>
          cases found : children[index]? with
          | none =>
              simp [at?, OrderedTree.children, found]
          | some child =>
              cases child
              simp [at?, OrderedTree.children, found]
  | cons first path inductionHypothesis =>
      cases tree with
      | node label children =>
          simp only [List.cons_append, at?]
          cases children[first]? with
          | none =>
              rfl
          | some child =>
              simp [inductionHypothesis]

/-- Replacing a child is replacing its parent. -/
theorem replaceAt_append_singleton
    {path : List Nat}
    {tree : OrderedTree α}
    {label : α}
    {children : List (OrderedTree α)}
    (parent : at? path tree = some (node label children))
    (index : Nat)
    (subtree : OrderedTree α) :
    replaceAt subtree (path ++ [index]) tree =
      replaceAt (node label (children.set index subtree)) path tree := by
  induction path generalizing tree with
  | nil =>
      simp only [at?, Option.some.injEq] at parent
      subst parent
      simp only [List.nil_append, replaceAt, node.injEq, true_and]
      apply List.ext_getElem?
      intro position
      rw [List.getElem?_modify, List.getElem?_set]
      by_cases same : index = position
      · subst same
        simp only [↓reduceIte]
        cases found : children[index]? with
        | none =>
            have outside := List.getElem?_eq_none_iff.mp found
            rw [if_neg (by omega)]
            rfl
        | some child =>
            have inside := (List.getElem?_eq_some_iff.mp found).1
            rw [if_pos inside]
            cases child
            rfl
      · simp [same]
  | cons first path inductionHypothesis =>
      cases tree with
      | node rootLabel siblings =>
          simp only [at?, Option.bind_eq_some_iff] at parent
          obtain ⟨child, atFirst, below⟩ := parent
          simp only [List.cons_append, replaceAt, node.injEq, true_and]
          apply List.ext_getElem?
          intro position
          rw [List.getElem?_modify, List.getElem?_modify]
          by_cases same : first = position
          · subst same
            rw [atFirst]
            simp [inductionHypothesis below]
          · simp [same]

/-- Relabelling is replacing by the relabelled node. -/
theorem modifyAt_eq_replaceAt
    (change : α → α)
    {path : List Nat}
    {tree : OrderedTree α}
    {label : α}
    {children : List (OrderedTree α)}
    (here : at? path tree = some (node label children)) :
    modifyAt change path tree =
      replaceAt (node (change label) children) path tree := by
  induction path generalizing tree with
  | nil =>
      simp only [at?, Option.some.injEq] at here
      subst here
      rfl
  | cons index path inductionHypothesis =>
      cases tree with
      | node rootLabel siblings =>
          simp only [at?, Option.bind_eq_some_iff] at here
          obtain ⟨child, atIndex, below⟩ := here
          simp only [modifyAt, replaceAt, node.injEq, true_and]
          apply List.ext_getElem?
          intro position
          rw [List.getElem?_modify, List.getElem?_modify]
          by_cases same : index = position
          · subst same
            rw [atIndex]
            simp [inductionHypothesis below]
          · simp [same]

end OrderedTree

end LabelTree
