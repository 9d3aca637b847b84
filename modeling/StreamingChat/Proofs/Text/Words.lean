import Mathlib.Data.List.Basic
import Mathlib.Data.List.TakeWhile
import StreamingChat.Text.Blank

/-!
# Blanks at the ends of a text and between its words

What trimming leaves and where words are cut, without the functions that do it.  A tidy text has no
blank at either end; a text trims to the one tidy text that is left between two runs of blanks.  The
words of a text are the runs of other characters, each as long as possible.  Both descriptions hold
of one result only, so that they and the functions determine each other.
-/

namespace StreamingChat.Text

variable {text before after word : List Char} {c : Char} {words : List (List Char)}

def AllBlank (text : List Char) : Prop :=
  ∀ c ∈ text, isBlank c = true

def NoBlank (text : List Char) : Prop :=
  ∀ c ∈ text, isBlank c = false

instance (text : List Char) : Decidable (AllBlank text) :=
  decidable_of_iff (text.all isBlank = true) List.all_eq_true

/-- There is no blank at either end. -/
structure Tidy (text : List Char) : Prop where
  head : ∀ c ∈ text.head?, isBlank c = false
  last : ∀ c ∈ text.getLast?, isBlank c = false

/-- A text is tidy between two runs of blanks. -/
def TrimsTo (text inner : List Char) : Prop :=
  Tidy inner ∧ ∃ before after, AllBlank before ∧ AllBlank after ∧ text = before ++ inner ++ after

/-! ## Trimming -/

theorem AllBlank.reverse (blank : AllBlank text) : AllBlank text.reverse := by
  intro c member
  exact blank c (List.mem_reverse.mp member)

theorem Tidy.reverse (tidy : Tidy text) : Tidy text.reverse := by
  constructor
  · rw [List.head?_reverse]
    exact tidy.last
  · rw [List.getLast?_reverse]
    exact tidy.head

theorem trimStart_append (blank : AllBlank before) (text : List Char) :
    trimStart (before ++ text) = trimStart text :=
  List.dropWhile_append_of_pos blank

theorem trimEnd_eq (text : List Char) : trimEnd text = (trimStart text.reverse).reverse := rfl

theorem trimEnd_append (blank : AllBlank after) (text : List Char) :
    trimEnd (text ++ after) = trimEnd text := by
  rw [trimEnd_eq, List.reverse_append, trimStart_append blank.reverse, trimEnd_eq]

theorem trimStart_of_head (head : ∀ c ∈ text.head?, isBlank c = false) : trimStart text = text := by
  cases text with
  | nil => rfl
  | cons c rest => exact List.dropWhile_cons_of_neg (Bool.eq_false_iff.mp (head c rfl))

theorem Tidy.trimStart_eq (tidy : Tidy text) : trimStart text = text :=
  trimStart_of_head tidy.head

theorem Tidy.trimEnd_eq (tidy : Tidy text) : trimEnd text = text := by
  rw [Text.trimEnd_eq, tidy.reverse.trimStart_eq, List.reverse_reverse]

/-- What is cut off at the front are blanks, and no blank is left there. -/
theorem exists_trimStart (text : List Char) :
    ∃ before, AllBlank before ∧ text = before ++ trimStart text := by
  refine ⟨text.takeWhile isBlank, ?_, List.takeWhile_append_dropWhile.symm⟩
  intro c member
  exact List.mem_takeWhile_imp member

theorem head_trimStart (text : List Char) : ∀ c ∈ (trimStart text).head?, isBlank c = false := by
  intro c first
  obtain ⟨rest, shape⟩ := List.head?_eq_some_iff.mp first
  exact isBlank_head_trimStart shape

/-- Trimming an end leaves the front as it is, or nothing at all. -/
theorem head_trimEnd (head : ∀ c ∈ text.head?, isBlank c = false) :
    ∀ c ∈ (trimEnd text).head?, isBlank c = false := by
  obtain ⟨after, -, shape⟩ := exists_trimStart text.reverse
  have front : text = trimEnd text ++ after.reverse := by
    rw [trimEnd_eq, ← List.reverse_append, ← shape, List.reverse_reverse]
  intro c first
  apply head c
  rw [front, List.head?_append, first]
  rfl

theorem trimsTo_trimChars (text : List Char) : TrimsTo text (trimChars text) := by
  obtain ⟨before, blank_before, front⟩ := exists_trimStart text
  obtain ⟨after, blank_after, back⟩ := exists_trimStart (trimStart text).reverse
  refine ⟨⟨head_trimEnd (head_trimStart text), ?_⟩, before, after.reverse, blank_before,
    blank_after.reverse, ?_⟩
  · rw [trimChars, trimEnd_eq, List.getLast?_reverse]
    exact head_trimStart _
  · rw [trimChars, trimEnd_eq, List.append_assoc, ← List.reverse_append, ← back,
      List.reverse_reverse]
    exact front

/-- Blanks around a text make no difference to what it trims to. -/
theorem trimChars_append (blank_before : AllBlank before) (blank_after : AllBlank after)
    (text : List Char) : trimChars (before ++ text ++ after) = trimChars text := by
  rw [List.append_assoc, trimChars, trimStart_append blank_before, trimChars]
  cases kept : trimStart text with
  | nil =>
      obtain ⟨blanks, all_blank, shape⟩ := exists_trimStart text
      rw [kept, List.append_nil] at shape
      rw [shape, trimStart_append all_blank]
      have nothing := trimStart_append blank_after []
      rw [List.append_nil] at nothing
      rw [nothing]
      rfl
  | cons c rest =>
      have whole : trimStart (text ++ after) = trimStart text ++ after := by
        unfold trimStart at kept ⊢
        rw [List.dropWhile_append, kept]
        rfl
      rw [whole, trimEnd_append blank_after, kept]

theorem Tidy.trimChars_eq (tidy : Tidy text) : trimChars text = text := by
  rw [trimChars, tidy.trimStart_eq, tidy.trimEnd_eq]

/-- A text is tidy if characters other than blanks begin and end it, whatever is between them. -/
theorem tidy_append (first : NoBlank before) (some_first : before ≠ []) (last : NoBlank after)
    (some_last : after ≠ []) (text : List Char) : Tidy (before ++ text ++ after) := by
  constructor
  · intro c head
    rw [List.append_assoc, List.head?_append_of_ne_nil _ some_first] at head
    exact first c (List.mem_of_mem_head? head)
  · intro c end_
    rw [List.getLast?_append_of_ne_nil _ some_last] at end_
    exact last c (List.mem_of_mem_getLast? end_)

/-- A text trims to one text only. -/
theorem trimChars_eq_iff {inner : List Char} : trimChars text = inner ↔ TrimsTo text inner := by
  constructor
  · rintro rfl
    exact trimsTo_trimChars text
  · rintro ⟨tidy, before, after, blank_before, blank_after, rfl⟩
    rw [trimChars_append blank_before blank_after, tidy.trimChars_eq]

theorem trimChars_eq_nil_iff : trimChars text = [] ↔ AllBlank text := by
  rw [trimChars_eq_iff]
  constructor
  · rintro ⟨-, before, after, blank_before, blank_after, rfl⟩
    rw [List.append_nil]
    exact List.forall_mem_append.mpr ⟨blank_before, blank_after⟩
  · intro blank
    exact ⟨⟨nofun, nofun⟩, text, [], blank, nofun, by rw [List.append_nil, List.append_nil]⟩

theorem tidy_trim (text : String) : Tidy (trim text).toList := by
  rw [trim, String.toList_ofList]
  exact (trimsTo_trimChars _).1

theorem trim_of_tidy {text : String} (tidy : Tidy text.toList) : trim text = text := by
  rw [trim, tidy.trimChars_eq, String.ofList_toList]

/-! ## Words -/

/-- The words of a text.  A word is not empty and ends where the text does or at a blank. -/
inductive Worded : List Char → List (List Char) → Prop where
  | none {blanks : List Char} (blank : AllBlank blanks) : Worded blanks []
  | more {before word rest : List Char} {words : List (List Char)} (blank : AllBlank before)
      (nonempty : word ≠ []) (whole : NoBlank word) (ends : ∀ c ∈ rest.head?, isBlank c = true)
      (later : Worded rest words) : Worded (before ++ word ++ rest) (word :: words)

namespace Worded

theorem blank (blank : isBlank c = true) (worded : Worded text words) :
    Worded (c :: text) words := by
  cases worded with
  | none all => exact .none (List.forall_mem_cons.mpr ⟨blank, all⟩)
  | more all nonempty whole ends later =>
      exact .more (List.forall_mem_cons.mpr ⟨blank, all⟩) nonempty whole ends later

theorem first {rest : List Char} (nonempty : word ≠ []) (whole : NoBlank word)
    (ends : ∀ c ∈ rest.head?, isBlank c = true) (later : Worded rest words) :
    Worded (word ++ rest) (word :: words) :=
  @more [] word rest words (List.forall_mem_nil _) nonempty whole ends later

end Worded

theorem endWord_reverse (nonempty : word ≠ []) (later : List (List Char)) :
    endWord word.reverse later = word :: later := by
  unfold endWord
  rw [List.isEmpty_reverse, List.isEmpty_eq_false_iff.mpr nonempty, List.reverse_reverse]
  rfl

/-- What has been read of a word is its beginning. -/
theorem worded_wordsAfter (whole : NoBlank before) (text : List Char) :
    Worded (before ++ text) (wordsAfter before.reverse text) := by
  induction text generalizing before with
  | nil =>
      cases before with
      | nil => exact .none (List.forall_mem_nil _)
      | cons c rest =>
          rw [wordsAfter, endWord_reverse (List.cons_ne_nil c rest)]
          exact .first (List.cons_ne_nil c rest) whole nofun (.none (List.forall_mem_nil _))
  | cons c rest ih =>
      cases blank : isBlank c with
      | true =>
          have later : Worded (c :: rest) (wordsAfter [] rest) :=
            Worded.blank blank (@ih [] (List.forall_mem_nil _))
          rw [wordsAfter, if_pos blank]
          cases before with
          | nil => exact later
          | cons first more =>
              rw [endWord_reverse (List.cons_ne_nil first more)]
              refine .first (List.cons_ne_nil first more) whole ?_ later
              intro d next
              exact Option.some.inj next ▸ blank
      | false =>
          have longer : NoBlank (before ++ [c]) := by
            intro d member
            rcases List.mem_append.mp member with old | new
            · exact whole d old
            · exact List.mem_singleton.mp new ▸ blank
          have later := ih longer
          rw [List.reverse_append, List.append_assoc] at later
          rw [wordsAfter, if_neg (Bool.eq_false_iff.mp blank)]
          exact later

theorem wordsAfter_blanks (blank : AllBlank before) (text : List Char) :
    wordsAfter [] (before ++ text) = wordsAfter [] text := by
  induction before with
  | nil => rfl
  | cons c rest ih =>
      obtain ⟨first, others⟩ := List.forall_mem_cons.mp blank
      rw [List.cons_append, wordsAfter, if_pos first]
      exact ih others

theorem wordsAfter_word (whole : NoBlank word) (current text : List Char) :
    wordsAfter current (word ++ text) = wordsAfter (word.reverse ++ current) text := by
  induction word generalizing current with
  | nil => rfl
  | cons c rest ih =>
      obtain ⟨first, others⟩ := List.forall_mem_cons.mp whole
      rw [List.cons_append, wordsAfter, if_neg (Bool.eq_false_iff.mp first), ih others,
        List.reverse_cons, List.append_assoc]
      rfl

/-- A word that ends here is the first one, before those of the rest. -/
theorem wordsAfter_ends (nonempty : word ≠ []) (ends : ∀ c ∈ text.head?, isBlank c = true) :
    wordsAfter word.reverse text = word :: wordsAfter [] text := by
  cases text with
  | nil => exact endWord_reverse nonempty []
  | cons c rest =>
      have blank : isBlank c = true := ends c rfl
      rw [wordsAfter, if_pos blank, endWord_reverse nonempty, wordsAfter, if_pos blank]
      rfl

theorem Worded.wordChars_eq (worded : Worded text words) : wordChars text = words := by
  induction worded with
  | none blank =>
      have nothing := wordsAfter_blanks blank []
      rw [List.append_nil] at nothing
      exact nothing
  | more blank nonempty whole ends later ih =>
      rw [wordChars, List.append_assoc, wordsAfter_blanks blank, wordsAfter_word whole,
        List.append_nil, wordsAfter_ends nonempty ends]
      exact congrArg _ ih

/-- A text has its words only. -/
theorem wordChars_eq_iff : wordChars text = words ↔ Worded text words := by
  constructor
  · rintro rfl
    exact @worded_wordsAfter [] (List.forall_mem_nil _) text
  · exact Worded.wordChars_eq

end StreamingChat.Text
