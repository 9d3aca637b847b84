/-!
White space in the sense of the Unicode property White_Space, and the cuts made at it: trimming
both ends of a text and splitting a text into words.
-/

namespace StreamingChat.Text

/-- The characters of the Unicode property White_Space. -/
def isBlank (c : Char) : Bool :=
  let n := c.toNat
  (0x09 ≤ n && n ≤ 0x0D) || n == 0x20 || n == 0x85 || n == 0xA0 || n == 0x1680 ||
    (0x2000 ≤ n && n ≤ 0x200A) || n == 0x2028 || n == 0x2029 || n == 0x202F ||
    n == 0x205F || n == 0x3000

def trimStart (text : List Char) : List Char :=
  text.dropWhile isBlank

def trimEnd (text : List Char) : List Char :=
  (text.reverse.dropWhile isBlank).reverse

/-- Drops the blanks at both ends. -/
def trimChars (text : List Char) : List Char :=
  trimEnd (trimStart text)

/-- Drops the blanks at both ends. -/
def trim (text : String) : String :=
  String.ofList (trimChars text.toList)

/-- Ends the word read so far, kept newest first; an empty one is no word. -/
def endWord (current : List Char) (later : List (List Char)) : List (List Char) :=
  if current.isEmpty then later else current.reverse :: later

/-- The words of a text that follows the characters of an unfinished word, kept newest first. -/
def wordsAfter (current : List Char) : List Char → List (List Char)
  | [] => endWord current []
  | c :: rest =>
    if isBlank c then endWord current (wordsAfter [] rest) else wordsAfter (c :: current) rest

/-- The maximal runs of characters that are not blank. -/
def wordChars (text : List Char) : List (List Char) :=
  wordsAfter [] text

/-- The maximal runs of characters that are not blank. -/
def words (text : String) : List String :=
  (wordChars text.toList).map String.ofList

/-- Cuts a text at every occurrence of a character; one piece more than there are occurrences. -/
def splitAt (mark : Char) : List Char → List (List Char)
  | [] => [[]]
  | c :: rest =>
    match splitAt mark rest with
    | [] => [[c]]
    | piece :: pieces => if c = mark then [] :: piece :: pieces else (c :: piece) :: pieces

/-- Cuts a text at every occurrence of a character. -/
def split (mark : Char) (text : String) : List String :=
  (splitAt mark text.toList).map String.ofList

def startsWith (start text : List Char) : Bool :=
  start.isPrefixOf text

theorem isBlank_of_isWhitespace (c : Char) (h : c.isWhitespace = true) : isBlank c = true := by
  simp only [Char.isWhitespace, Bool.or_eq_true, decide_eq_true_eq] at h
  rcases h with ((h | h) | h) | h <;> subst h <;> decide

/-- What trimming keeps does not begin with a blank. -/
theorem isBlank_head_trimStart {text rest : List Char} {c : Char}
    (h : trimStart text = c :: rest) : isBlank c = false := by
  induction text with
  | nil => simp [trimStart] at h
  | cons d text ih =>
    by_cases hd : isBlank d = true
    · exact ih (by simpa [trimStart, List.dropWhile_cons, hd] using h)
    · have hdc : d = c ∧ text = rest := by simpa [trimStart, List.dropWhile_cons, hd] using h
      rw [← hdc.1]
      simpa using hd

end StreamingChat.Text
