import StreamingChat.Json.Token

/-!
# Text between quotes

A quoted text is read back as it was written, whatever characters it holds.  A character is written
in one of three ways, and each of them is undone by itself: decoding gives the character back, and
the scan for the closing quote passes over it.
-/

namespace StreamingChat.Json

open StreamingChat.Text (hexDigit hexValue? hexValue?_hexDigit)

namespace Escape

/-- The three ways in which a character is written. -/
inductive Written (c : Char) : List Char → Prop where
  | letter (l : Char) (named : letter? l = some c) : Written c ['\\', l]
  | code (control : c.toNat < 0x20) :
      Written c ['\\', 'u', '0', '0', hexDigit (c.toNat / 16), hexDigit (c.toNat % 16)]
  | plain (unquoted : c ≠ '"') (unescaped : c ≠ '\\') (printed : ¬c.toNat < 0x20) : Written c [c]

theorem written_encodeChar (c : Char) : Written c (encodeChar c) := by
  by_cases quote : c = '"'
  · subst quote
    exact .letter '"' rfl
  by_cases backslash : c = '\\'
  · subst backslash
    exact .letter '\\' rfl
  unfold encodeChar
  rw [if_neg quote, if_neg backslash]
  split
  · next named => exact named ▸ .letter 'b' rfl
  split
  · next named => exact named ▸ .letter 't' rfl
  split
  · next named => exact named ▸ .letter 'n' rfl
  split
  · next named => exact named ▸ .letter 'f' rfl
  split
  · next named => exact named ▸ .letter 'r' rfl
  split
  · next control => exact .code control
  · next printed => exact .plain quote backslash printed

/-! ## Decoding -/

theorem unit?_hexDigit {n : Nat} (small : n < 0x20) :
    unit? '0' '0' (hexDigit (n / 16)) (hexDigit (n % 16)) = some n := by
  have high : hexValue? (hexDigit (n / 16)) = some (n / 16) := hexValue?_hexDigit (by omega)
  have low : hexValue? (hexDigit (n % 16)) = some (n % 16) := hexValue?_hexDigit (by omega)
  have zero : hexValue? '0' = some 0 := rfl
  simp only [unit?, zero, high, low, Option.some.injEq]
  omega

theorem decodeAfter_written {c : Char} {form : List Char} (written : Written c form)
    (rest : List Char) :
    decodeAfter none (form ++ rest) = (c :: ·) <$> decodeAfter none rest := by
  cases written with
  | letter l named =>
      have other : l ≠ 'u' := by
        rintro rfl
        cases named
      change decodeAfter none ('\\' :: l :: rest) = _
      rw [decodeAfter, named]
      intro _ _ _ _ _ same
      exact absurd same other
  | code control =>
      have low : ¬0xDC00 ≤ c.toNat := by omega
      have high : ¬0xD800 ≤ c.toNat := by omega
      have notHigh : isHighSurrogate c.toNat = false := by simp [isHighSurrogate, high]
      have notLow : isLowSurrogate c.toNat = false := by simp [isLowSurrogate, low]
      simp only [List.cons_append, List.nil_append]
      rw [decodeAfter.eq_def]
      simp only [unit?_hexDigit control, notHigh, notLow, Bool.false_eq_true, if_false,
        Char.ofNat_toNat]
  | plain unquoted unescaped printed =>
      change decodeAfter none (c :: rest) = _
      rw [decodeAfter]
      · simp only [unquoted, unescaped, printed, decide_false, Bool.or_self, Bool.false_eq_true,
          if_false]
      · intro a b c' d rest' same
        exact absurd same unescaped
      · intro c' rest' same
        exact absurd same unescaped

/-- A text is what its escaped form stands for. -/
theorem decode_encode (text : List Char) : decode (encode text) = some text := by
  induction text with
  | nil => rfl
  | cons c rest ih =>
      change decodeAfter none (encodeChar c ++ encode rest) = _
      rw [decodeAfter_written (written_encodeChar c)]
      change (c :: ·) <$> decode (encode rest) = _
      rw [ih]
      rfl

end Escape

namespace Token

open Escape (Written written_encodeChar decode_encode)

/-! ## The closing quote -/

theorem scanFrom_quoted_of_ne {c : Char} (unquoted : c ≠ '"') (unescaped : c ≠ '\\')
    (body rest : List Char) :
    scanFrom (.quoted body) (c :: rest) = scanFrom (.quoted (c :: body)) rest := by
  rw [scanFrom]
  · rw [if_neg unquoted]
  · intro c' rest' same
    exact absurd same unescaped

theorem hexDigit_plain {n : Nat} (small : n < 16) : hexDigit n ≠ '"' ∧ hexDigit n ≠ '\\' := by
  have all : ∀ k < 16, hexDigit k ≠ '"' ∧ hexDigit k ≠ '\\' := by decide
  exact all n small

/-- No character is written so that the scan takes a part of it for the closing quote. -/
theorem scanFrom_quoted_written {c : Char} {form : List Char} (written : Written c form)
    (body rest : List Char) :
    scanFrom (.quoted body) (form ++ rest) = scanFrom (.quoted (form.reverse ++ body)) rest := by
  cases written with
  | letter l named =>
      change scanFrom (.quoted body) ('\\' :: l :: rest) = _
      rw [scanFrom]
      rfl
  | code control =>
      obtain ⟨unquoted, unescaped⟩ := hexDigit_plain (show c.toNat / 16 < 16 by omega)
      obtain ⟨unquoted', unescaped'⟩ := hexDigit_plain (show c.toNat % 16 < 16 by omega)
      simp only [List.cons_append, List.nil_append]
      rw [scanFrom, scanFrom_quoted_of_ne (by decide) (by decide),
        scanFrom_quoted_of_ne (by decide) (by decide), scanFrom_quoted_of_ne unquoted unescaped,
        scanFrom_quoted_of_ne unquoted' unescaped']
      rfl
  | plain unquoted unescaped printed => exact scanFrom_quoted_of_ne unquoted unescaped body rest

theorem scanFrom_quoted_encode (text body rest : List Char) :
    scanFrom (.quoted body) (Escape.encode text ++ rest) =
      scanFrom (.quoted ((Escape.encode text).reverse ++ body)) rest := by
  induction text generalizing body with
  | nil => rfl
  | cons c later ih =>
      change scanFrom (.quoted body) ((Escape.encodeChar c ++ Escape.encode later) ++ rest) =
        scanFrom (.quoted ((Escape.encodeChar c ++ Escape.encode later).reverse ++ body)) rest
      rw [List.append_assoc, scanFrom_quoted_written (written_encodeChar c), ih,
        List.reverse_append, List.append_assoc]

/-- A quoted text is scanned as one token. -/
theorem scanFrom_quote (s : String) (rest : List Char) :
    scanFrom (.plain []) (quote s ++ rest) = (text s :: ·) <$> scanFrom (.plain []) rest := by
  have opened : scanFrom (.plain []) (quote s ++ rest) =
      scanFrom (.quoted []) (Escape.encode s.toList ++ '"' :: rest) := by
    rw [quote, List.append_assoc]
    rfl
  rw [opened, scanFrom_quoted_encode, scanFrom]
  · rw [if_pos rfl, List.append_nil, List.reverse_reverse, decode_encode]
    change (scanFrom (.plain []) rest).bind
      (fun later => some (text (String.ofList s.toList) :: later)) = _
    rw [String.ofList_toList]
    cases scanFrom (.plain []) rest <;> rfl
  · intro c' rest' same
    cases same

end Token

end StreamingChat.Json
