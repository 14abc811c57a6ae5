import OverclockBuilder.RadixText

namespace WordText

open RadixText

/-!
# Words of a line

Shells and `awk` cut a line into the maximal runs of characters that are not
separators.  The laws below say how cutting meets joining: a separator between
two texts keeps their words apart, and a text without separators is one word.
-/

variable {separator : Char → Bool}

/-- A finished word, unless it is empty. -/
def flush : Text → List Text
  | [] => []
  | word => [word]

/-- The words of a text behind the start of an unfinished word. -/
def wordsFrom (separator : Char → Bool) : Text → Text → List Text
  | word, [] =>
      flush word
  | word, character :: rest =>
      if separator character then
        flush word ++ wordsFrom separator [] rest
      else
        wordsFrom separator (word ++ [character]) rest

/-- The words of a text. -/
def words (separator : Char → Bool) (text : Text) : List Text :=
  wordsFrom separator [] text

/-- A text that is a single word. -/
def Solid (separator : Char → Bool) (text : Text) : Prop :=
  text ≠ [] ∧ ∀ character ∈ text, separator character = false

instance (text : Text) : Decidable (Solid separator text) :=
  decidable_of_iff
    (text ≠ [] ∧ text.all (fun character => !separator character) = true)
    (by simp [Solid])

@[simp] theorem words_nil : words separator [] = [] := rfl

theorem wordsFrom_append_separator
    {character : Char}
    (cuts : separator character = true)
    (word first second : Text) :
    wordsFrom separator word (first ++ character :: second) =
      wordsFrom separator word first ++ words separator second := by
  induction first generalizing word with
  | nil =>
      simp [wordsFrom, cuts, words]
  | cons head rest inductionHypothesis =>
      simp only [List.cons_append, wordsFrom]
      split
      · rw [inductionHypothesis, List.append_assoc]
      · exact inductionHypothesis _

/-- Words on both sides of a separator stay apart. -/
theorem words_append_separator
    {character : Char}
    (cuts : separator character = true)
    (first second : Text) :
    words separator (first ++ character :: second) =
      words separator first ++ words separator second :=
  wordsFrom_append_separator cuts [] first second

/-- A text that ends in a separator is cut behind it. -/
theorem words_append_of_getLast?
    {label : Text}
    {last : Char}
    (ends : label.getLast? = some last)
    (cuts : separator last = true)
    (text : Text) :
    words separator (label ++ text) =
      words separator label ++ words separator text := by
  obtain ⟨front, rfl⟩ := List.getLast?_eq_some_iff.mp ends
  have label :
      words separator (front ++ [last]) = words separator front := by
    rw [words_append_separator cuts, words_nil, List.append_nil]
  rw [label, List.append_assoc, List.singleton_append,
    words_append_separator cuts]

theorem wordsFrom_of_forall
    {text : Text}
    (unseparated : ∀ character ∈ text, separator character = false)
    (word : Text) :
    wordsFrom separator word text = flush (word ++ text) := by
  induction text generalizing word with
  | nil =>
      simp [wordsFrom]
  | cons head rest inductionHypothesis =>
      have solidHead := unseparated head List.mem_cons_self
      rw [wordsFrom, if_neg (by simp [solidHead]),
        inductionHypothesis fun character member =>
          unseparated character (List.mem_cons_of_mem head member)]
      simp

/-- A text without separators is its own word. -/
theorem words_of_solid
    {text : Text}
    (solid : Solid separator text) :
    words separator text = [text] := by
  rw [words, wordsFrom_of_forall solid.2, List.nil_append]
  cases text with
  | nil =>
      exact (solid.1 rfl).elim
  | cons head rest =>
      rfl

theorem solid_of_mem_wordsFrom
    {word text cut : Text}
    (unseparated : ∀ character ∈ word, separator character = false)
    (member : cut ∈ wordsFrom separator word text) :
    Solid separator cut := by
  have flushed
      {word : Text}
      (unseparated : ∀ character ∈ word, separator character = false)
      (member : cut ∈ flush word) :
      Solid separator cut := by
    cases word with
    | nil =>
        cases member
    | cons head rest =>
        rw [flush, List.mem_singleton] at member
        · rw [member]
          exact ⟨List.cons_ne_nil head rest, unseparated⟩
        · exact List.cons_ne_nil head rest
  induction text generalizing word with
  | nil =>
      exact flushed unseparated member
  | cons head rest inductionHypothesis =>
      rw [wordsFrom] at member
      split at member
      · rcases List.mem_append.mp member with first | later
        · exact flushed unseparated first
        · exact inductionHypothesis (by simp) later
      · rename_i solidHead
        refine inductionHypothesis ?_ member
        intro character inside
        rcases List.mem_append.mp inside with early | last
        · exact unseparated character early
        · rw [List.mem_singleton] at last
          simpa [last] using solidHead

/-- Every word is solid. -/
theorem solid_of_mem_words
    {text cut : Text}
    (member : cut ∈ words separator text) :
    Solid separator cut :=
  solid_of_mem_wordsFrom (by simp) member

/-- Joining with a separator joins the words. -/
theorem words_intercalate
    {character : Char}
    (cuts : separator character = true)
    (texts : List Text) :
    words separator ([character].intercalate texts) =
      texts.flatMap (words separator) := by
  induction texts with
  | nil =>
      rfl
  | cons text rest inductionHypothesis =>
      cases rest with
      | nil =>
          simp
      | cons next rest =>
          rw [List.flatMap_cons, ← inductionHypothesis,
            ← words_append_separator cuts]
          simp [List.intercalate]

/-- Joining single words and cutting again gives the words back. -/
theorem words_intercalate_of_solid
    {character : Char}
    (cuts : separator character = true)
    {texts : List Text}
    (solid : ∀ text ∈ texts, Solid separator text) :
    words separator ([character].intercalate texts) = texts := by
  rw [words_intercalate cuts]
  induction texts with
  | nil =>
      rfl
  | cons text rest inductionHypothesis =>
      rw [List.flatMap_cons, words_of_solid (solid text List.mem_cons_self),
        inductionHypothesis fun other member =>
          solid other (List.mem_cons_of_mem text member)]
      rfl

end WordText
