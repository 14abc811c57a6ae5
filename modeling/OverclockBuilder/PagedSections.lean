import OverclockBuilder.BytePacking

namespace PagedSections

open BytePacking

/-!
# Files of padded sections

A file of sections that start at whole pages: where its sections are found, and
how it grows.
-/

/-- The pages that some bytes take. -/
def pages (page size : Nat) : Nat :=
  (size + page - 1) / page

/-- A section and its zeros up to the next page. -/
def pad (page : Nat) (content : Bytes) : Bytes :=
  content ++
    List.replicate (page * pages page content.length - content.length) 0

/-- The sections one after the other. -/
def file (page : Nat) (sections : List Bytes) : Bytes :=
  sections.flatMap (pad page)

/-- The pages that some sections take. -/
def pagesOf (page : Nat) (sections : List Bytes) : Nat :=
  (sections.map fun content => pages page content.length).sum

theorem le_mul_pages
    {page : Nat}
    (positive : 0 < page)
    (size : Nat) :
    size ≤ page * pages page size := by
  have whole := Nat.div_add_mod (size + page - 1) page
  have small := Nat.mod_lt (size + page - 1) positive
  rw [pages]
  omega

@[simp] theorem pages_zero
    {page : Nat}
    (positive : 0 < page) :
    pages page 0 = 0 := by
  rw [pages, Nat.zero_add]
  exact Nat.div_eq_of_lt (by omega)

/-- A padded section is whole pages. -/
theorem length_pad
    {page : Nat}
    (positive : 0 < page)
    (content : Bytes) :
    (pad page content).length = page * pages page content.length := by
  have enough := le_mul_pages positive content.length
  rw [pad, List.length_append, List.length_replicate]
  omega

/-- An empty section takes no room. -/
@[simp] theorem pad_nil
    {page : Nat}
    (positive : 0 < page) :
    pad page [] = [] := by
  rw [← List.length_eq_zero_iff, length_pad positive, List.length_nil,
    pages_zero positive, Nat.mul_zero]

theorem length_file
    {page : Nat}
    (positive : 0 < page)
    (sections : List Bytes) :
    (file page sections).length = page * pagesOf page sections := by
  induction sections with
  | nil =>
      rfl
  | cons content rest inductionHypothesis =>
      rw [file] at inductionHypothesis
      rw [file, List.flatMap_cons, List.length_append, length_pad positive,
        inductionHypothesis, ← Nat.mul_add]
      rfl

theorem file_append (page : Nat) (front back : List Bytes) :
    file page (front ++ back) = file page front ++ file page back :=
  List.flatMap_append

/-- A section is found behind the pages in front of it, whatever follows. -/
theorem drop_file
    {page : Nat}
    (positive : 0 < page)
    (front : List Bytes)
    (content : Bytes)
    (back : List Bytes)
    (tail : Bytes) :
    ∃ rest,
      (file page (front ++ content :: back) ++ tail).drop
          (page * pagesOf page front) =
        content ++ rest := by
  refine ⟨List.replicate
    (page * pages page content.length - content.length) 0 ++
      (file page back ++ tail), ?_⟩
  rw [file_append, List.append_assoc,
    List.drop_left' (length_file positive front), file, List.flatMap_cons,
    pad]
  simp only [file, List.append_assoc]

/-- Whole pages in front do not change how much a section takes. -/
theorem pages_mul_add
    {page : Nat}
    (positive : 0 < page)
    (count size : Nat) :
    pages page (page * count + size) = count + pages page size := by
  rw [pages, pages, Nat.add_assoc, Nat.add_sub_assoc (by omega),
    Nat.mul_add_div positive, Nat.add_sub_assoc (by omega)]

/-- A file of whole pages is padded by padding what is appended to it. -/
theorem pad_file_append
    {page : Nat}
    (positive : 0 < page)
    (front : List Bytes)
    (content : Bytes) :
    pad page (file page front ++ content) =
      file page (front ++ [content]) := by
  have gap :
      page * (pagesOf page front + pages page content.length) -
          (page * pagesOf page front + content.length) =
        page * pages page content.length - content.length := by
    rw [Nat.mul_add]
    omega
  rw [pad, List.length_append, length_file positive,
    pages_mul_add positive, gap, file_append, List.append_assoc]
  simp only [file, pad, List.flatMap_cons, List.flatMap_nil,
    List.append_nil]

end PagedSections
