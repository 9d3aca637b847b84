import StreamingChat.Proofs.Json.Quoting
import StreamingChat.Proofs.Json.Shape

/-!
# The tokens of a written document

A document without doubles is scanned as the tokens it was written with.  Its numbers and keywords
are words that end where a mark or the whole text does, so that no two of them run together, and an
integer is written with the digits it is read from.
-/

namespace StreamingChat.Json

namespace Number

/-! ## Integers -/

/-- Zero is the only number that is written with a zero in front. -/
theorem eq_zero_of_head?_toDigits {k : Nat} (zero : (Nat.toDigits 10 k).head? = some '0') :
    k = 0 := by
  induction k using Nat.strongRecOn with
  | ind k ih =>
      by_cases small : k < 10
      · rw [Nat.toDigits_of_lt_base small] at zero
        exact Nat.digitChar_eq_zero.mp (Option.some_inj.mp zero)
      · have large : 10 ≤ k := Nat.le_of_not_lt small
        obtain ⟨first, later, digits⟩ :=
          List.exists_cons_of_ne_nil (Nat.toDigits_ne_nil (n := k / 10) (b := 10))
        rw [Nat.toDigits_of_base_le (by decide) large, digits] at zero
        have leading : k / 10 = 0 := ih (k / 10) (by omega) (by rw [digits]; exact zero)
        omega

theorem isDigit_toDigits {k : Nat} {c : Char} (member : c ∈ Nat.toDigits 10 k) :
    c.isDigit = true :=
  Nat.isDigit_of_mem_toDigits (by decide) (by decide) member

theorem unsignedParts?_toDigits (negative : Bool) (k : Nat) :
    unsignedParts? negative (Nat.toDigits 10 k) =
      some
        { negative, whole := Nat.toDigits 10 k, fraction := [], exponent := 0, plain := true } := by
  have all : ∀ c ∈ Nat.toDigits 10 k, c.isDigit = true := fun c => isDigit_toDigits
  have whole : (Nat.toDigits 10 k).takeWhile Char.isDigit = Nat.toDigits 10 k := by
    rw [← List.append_nil (Nat.toDigits 10 k), List.takeWhile_append_of_pos all]
    rfl
  have rest : (Nat.toDigits 10 k).dropWhile Char.isDigit = [] := by
    rw [← List.append_nil (Nat.toDigits 10 k), List.dropWhile_append_of_pos all]
    rfl
  have some_ : (Nat.toDigits 10 k).isEmpty = false :=
    List.isEmpty_eq_false_iff.mpr Nat.toDigits_ne_nil
  have alone : ((Nat.toDigits 10 k).head? == some '0' && Nat.toDigits 10 k != ['0']) = false := by
    cases zero : (Nat.toDigits 10 k).head? == some '0' with
    | false => rfl
    | true =>
        rw [eq_zero_of_head?_toDigits (eq_of_beq zero)]
        rfl
  simp only [unsignedParts?, whole, rest, some_, alone, Bool.or_self, Bool.false_eq_true, if_false]
  rfl

theorem parts?_integerChars (n : Int) :
    parts? (integerChars n) = unsignedParts? (decide (n < 0)) (Nat.toDigits 10 n.natAbs) := by
  by_cases negative : n < 0
  · rw [integerChars, decide_eq_true negative]
    rfl
  · rw [integerChars, decide_eq_false negative]
    change parts? (Nat.toDigits 10 n.natAbs) = _
    rw [parts?]
    intro rest signed
    have digit : '-'.isDigit = true := by
      apply isDigit_toDigits (k := n.natAbs)
      rw [signed]
      exact List.mem_cons_self
    cases digit

/-- An integer is read from the digits it is written with. -/
theorem ofChars?_integerChars {n : Int} (fits : Number.Fits n) :
    ofChars? (integerChars n) = some (.integer n fits) := by
  rw [ofChars?, parts?_integerChars, unsignedParts?_toDigits]
  simp only [Option.bind_some, Parts.number?, Nat.ofDigitChars_toDigits (by decide : 1 < 10)
    (by decide : 10 ≤ 10)]
  have value : (if decide (n < 0) = true then -(n.natAbs : Int) else n.natAbs) = n := by
    split
    · next negative =>
      have := of_decide_eq_true negative
      omega
    · next negative =>
      have := of_decide_eq_false (eq_false_of_ne_true negative)
      omega
  simp only [value]
  have signed : ¬(decide (n < 0) = true ∧ n = 0) := by
    rintro ⟨negative, rfl⟩
    cases negative
  rw [dif_pos ⟨trivial, signed, fits⟩]

theorem mem_integerChars {n : Int} {c : Char} (member : c ∈ integerChars n) :
    c = '-' ∨ c.isDigit = true := by
  rcases List.mem_append.mp member with sign | digit
  · unfold signChars at sign
    split at sign
    · exact .inl (List.mem_singleton.mp sign)
    · cases sign
  · exact .inr (isDigit_toDigits digit)

end Number

namespace Token

open Number (mem_integerChars)

/-! ## Words -/

/-- What may follow a word: nothing, or a character that belongs to no word. -/
def Ends (rest : List Char) : Prop :=
  ∀ c, rest.head? = some c → Role.of c ≠ .other

theorem ends_nil : Ends [] := by
  intro c first
  cases first

theorem ends_of_mark {c : Char} {t : Token} (mark : Role.of c = .mark t) (rest : List Char) :
    Ends (c :: rest) := by
  intro d first
  cases first
  rw [mark]
  exact Role.noConfusion

/-- A token that is written as a word and read from it. -/
structure IsWord (t : Token) : Prop where
  nonempty : t.chars ≠ []
  other : ∀ c ∈ t.chars, Role.of c = .other
  reads : ofWord? t.chars = some t

theorem isWord_null : IsWord null :=
  ⟨by decide, by simp [chars, nullChars, Role.of], rfl⟩

theorem isWord_bool (b : Bool) : IsWord (bool b) := by
  cases b with
  | true => exact ⟨by decide, by simp [chars, trueChars, Role.of], rfl⟩
  | false => exact ⟨by decide, by simp [chars, falseChars, Role.of], rfl⟩

theorem role_of_digit {c : Char} (digit : c.isDigit = true) : Role.of c = .other := by
  have ne {d : Char} (mark : d.isDigit = false) : c ≠ d := by
    rintro rfl
    cases digit.symm.trans mark
  simp only [Role.of, ne (d := ' ') rfl, ne (d := '\n') rfl, ne (d := '\t') rfl, ne (d := '\r') rfl,
    ne (d := '"') rfl, ne (d := '[') rfl, ne (d := ']') rfl, ne (d := '\x7b') rfl,
    ne (d := '\x7d') rfl, ne (d := ',') rfl, ne (d := ':') rfl, decide_false, Bool.or_self,
    Bool.false_eq_true, if_false]

theorem isWord_integer {n : Int} (fits : Number.Fits n) : IsWord (number (.integer n fits)) := by
  have letter {c : Char} (sign : c ≠ '-') (digit : c.isDigit = false) :
      c ∉ Number.integerChars n := by
    intro member
    rcases mem_integerChars member with minus | isDigit
    · exact sign minus
    · cases digit.symm.trans isDigit
  have keyword (word : List Char) {c : Char} (member : c ∈ word) (sign : c ≠ '-')
      (digit : c.isDigit = false) : Number.integerChars n ≠ word := by
    rintro rfl
    exact letter sign digit member
  constructor
  · exact List.append_ne_nil_of_right_ne_nil _ Nat.toDigits_ne_nil
  · intro c member
    rcases mem_integerChars member with rfl | digit
    · rfl
    · exact role_of_digit digit
  · change ofWord? (Number.integerChars n) = _
    have notNull := keyword nullChars (c := 'n') (by decide) (by decide) rfl
    have notTrue := keyword trueChars (c := 't') (by decide) (by decide) rfl
    have notFalse := keyword falseChars (c := 'f') (by decide) (by decide) rfl
    rw [ofWord?, if_neg notNull, if_neg notTrue, if_neg notFalse,
      Number.ofChars?_integerChars fits]
    rfl

theorem scanFrom_others {word : List Char} (other : ∀ c ∈ word, Role.of c = .other)
    (before rest : List Char) :
    scanFrom (.plain before) (word ++ rest) = scanFrom (.plain (word.reverse ++ before)) rest := by
  induction word generalizing before with
  | nil => rfl
  | cons c later ih =>
      rw [List.cons_append, scanFrom, other c List.mem_cons_self]
      change scanFrom (.plain (c :: before)) (later ++ rest) = _
      rw [ih fun d member => other d (List.mem_cons_of_mem _ member), List.reverse_cons,
        List.append_assoc]
      rfl

/-- What follows a word ends it. -/
theorem scanFrom_of_ends {rest : List Char} (ends : Ends rest) (word : List Char) :
    scanFrom (.plain word) rest = endWord word (scanFrom (.plain []) rest) := by
  cases rest with
  | nil => rfl
  | cons c later =>
      have here := ends c rfl
      rw [scanFrom, scanFrom]
      cases role : Role.of c with
      | other => exact absurd role here
      | space => rfl
      | quote => rfl
      | mark t => rfl

/-! ## Scanning what was written -/

/-- Tokens are scanned as they were written when a given text follows them. -/
def Scans (ts : List Token) (rest : List Char) : Prop :=
  scanFrom (.plain []) (ts.flatMap chars ++ rest) = (ts ++ ·) <$> scanFrom (.plain []) rest

variable {ts us : List Token} {rest : List Char}

theorem Scans.nil (rest : List Char) : Scans [] rest := by
  change scanFrom (.plain []) rest = _
  cases scanFrom (.plain []) rest <;> rfl

theorem Scans.append (first : Scans ts (us.flatMap chars ++ rest)) (later : Scans us rest) :
    Scans (ts ++ us) rest := by
  unfold Scans at *
  rw [List.flatMap_append, List.append_assoc, first, later]
  cases scanFrom (.plain []) rest with
  | none => rfl
  | some scanned => exact congrArg some (List.append_assoc ts us scanned).symm

theorem Scans.cons {t : Token} (first : Scans [t] (ts.flatMap chars ++ rest))
    (later : Scans ts rest) : Scans (t :: ts) rest :=
  first.append later

theorem scans_word {t : Token} (word : IsWord t) (ends : Ends rest) : Scans [t] rest := by
  unfold Scans
  rw [List.flatMap_singleton, scanFrom_others word.other, scanFrom_of_ends ends, List.append_nil]
  have nonempty : t.chars.reverse ≠ [] := by
    intro empty
    exact word.nonempty (List.reverse_eq_nil_iff.mp empty)
  rw [endWord]
  · rw [List.reverse_reverse, word.reads]
    cases scanFrom (.plain []) rest <;> rfl
  · exact nonempty

theorem scans_mark {c : Char} {t : Token} (mark : Role.of c = .mark t) (written : t.chars = [c])
    (rest : List Char) : Scans [t] rest := by
  unfold Scans
  rw [List.flatMap_singleton, written, List.singleton_append, scanFrom, mark]
  rfl

theorem scans_text (s : String) (rest : List Char) : Scans [text s] rest := by
  unfold Scans
  rw [List.flatMap_singleton]
  exact scanFrom_quote s rest

end Token

open Token (Scans Ends)

theorem ends_laterItemTokens (items : List Json) (rest : List Char) :
    Ends ((laterItemTokens items).flatMap Token.chars ++ rest) := by
  cases items with
  | nil => exact Token.ends_of_mark (c := ']') rfl _
  | cons j later => exact Token.ends_of_mark (c := ',') rfl _

theorem ends_laterMemberTokens (members : List (String × Json)) (rest : List Char) :
    Ends ((laterMemberTokens members).flatMap Token.chars ++ rest) := by
  cases members with
  | nil => exact Token.ends_of_mark (c := '\x7d') rfl _
  | cons m later => exact Token.ends_of_mark (c := ',') rfl _

mutual

/-- A document without doubles is scanned as it was written if no word runs on after it. -/
theorem scans_tokens : (j : Json) → j.Integral → (rest : List Char) → Ends rest →
    Scans j.tokens rest
  | .null, _, _, ends => Token.scans_word Token.isWord_null ends
  | .bool b, _, _, ends => Token.scans_word (Token.isWord_bool b) ends
  | .number (.integer _ fits), _, _, ends => Token.scans_word (Token.isWord_integer fits) ends
  | .number (.decimal ..), integral, _, _ => integral.elim
  | .string s, _, rest, _ => Token.scans_text s rest
  | .array [], _, rest, _ =>
    .cons (Token.scans_mark (c := '[') rfl rfl _)
      (Token.scans_mark (c := ']') rfl rfl rest)
  | .array (j :: later), integral, rest, _ =>
    .cons (Token.scans_mark (c := '[') rfl rfl _)
      ((scans_tokens j integral.1 _ (ends_laterItemTokens later rest)).append
        (scans_laterItemTokens later integral.2 rest))
  | .object [], _, rest, _ =>
    .cons (Token.scans_mark (c := '\x7b') rfl rfl _)
      (Token.scans_mark (c := '\x7d') rfl rfl rest)
  | .object ((name, j) :: later), integral, rest, _ =>
    .cons (Token.scans_mark (c := '\x7b') rfl rfl _)
      (.cons (Token.scans_text name _)
        (.cons (Token.scans_mark (c := ':') rfl rfl _)
          ((scans_tokens j integral.1 _ (ends_laterMemberTokens later rest)).append
            (scans_laterMemberTokens later integral.2 rest))))

theorem scans_laterItemTokens : (items : List Json) → IntegralItems items → (rest : List Char) →
    Scans (laterItemTokens items) rest
  | [], _, rest => Token.scans_mark (c := ']') rfl rfl rest
  | j :: later, integral, rest =>
    .cons (Token.scans_mark (c := ',') rfl rfl _)
      ((scans_tokens j integral.1 _ (ends_laterItemTokens later rest)).append
        (scans_laterItemTokens later integral.2 rest))

theorem scans_laterMemberTokens : (members : List (String × Json)) → IntegralMembers members →
    (rest : List Char) → Scans (laterMemberTokens members) rest
  | [], _, rest => Token.scans_mark (c := '\x7d') rfl rfl rest
  | (name, j) :: later, integral, rest =>
    .cons (Token.scans_mark (c := ',') rfl rfl _)
      (.cons (Token.scans_text name _)
        (.cons (Token.scans_mark (c := ':') rfl rfl _)
          ((scans_tokens j integral.1 _ (ends_laterMemberTokens later rest)).append
            (scans_laterMemberTokens later integral.2 rest))))

end

/-- A document without doubles is scanned as the tokens it was written with. -/
theorem scan_chars {j : Json} (integral : j.Integral) : Token.scan j.chars = some j.tokens := by
  have scanned := scans_tokens j integral [] Token.ends_nil
  unfold Scans at scanned
  rw [List.append_nil] at scanned
  rw [Token.scan, chars, scanned]
  exact congrArg some (List.append_nil _)

end StreamingChat.Json
