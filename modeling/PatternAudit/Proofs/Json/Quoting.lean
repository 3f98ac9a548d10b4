import PatternAudit.Json.Parser
import PatternAudit.Json.Printer

/-! Strings are read as they were quoted: an escaped character is read back as that character, so
the first quote that is not escaped is the one that ends the string.
-/

namespace PatternAudit.Json

/-- A digit below sixteen is read as it was written. -/
theorem hexDigit?_hexChar {digit : Nat} (small : digit < 16)
    : Text.hexDigit? (hexChar digit) = some digit := by
  revert digit
  decide

/-- The code of a control character is read as it was written. -/
theorem hexUnit?_hexChar {code : Nat} (control : code < 0x20)
    : hexUnit? '0' '0' (hexChar (code / 16)) (hexChar (code % 16)) = some code := by
  have zero : Text.hexDigit? '0' = some 0 := rfl
  rw [hexUnit?, zero, hexDigit?_hexChar (by omega), hexDigit?_hexChar (by omega)]
  simp only [Option.bind_eq_bind, Option.bind_some, Option.pure_def, Option.some.injEq]
  omega

/-- A character that needs no escape is read as itself. -/
theorem stringTail_plain (read : List Char) {char : Char} (notQuote : char ≠ '"')
    (notBackslash : char ≠ '\\') (notControl : ¬char.toNat < 0x20) (rest : List Char)
    : stringTail read (char :: rest) = stringTail (char :: read) rest := by
  rw [stringTail]
  · simp [notBackslash, notControl]
  · exact notQuote
  · exact fun _ _ _ _ _ isBackslash _ => notBackslash isBackslash
  · exact fun _ _ isBackslash _ => notBackslash isBackslash

/-- A character is read back from its escape. -/
theorem stringTail_escape (read : List Char) (char : Char) (rest : List Char)
    : stringTail read (escape char ++ rest) = stringTail (char :: read) rest := by
  unfold escape
  split
  case h_8 notQuote notBackslash _ _ _ _ _ =>
    split
    · next control =>
        have unit := hexUnit?_hexChar control
        have below : char.toNat < 0xD800 := by omega
        simp [stringTail, unit, below]
    · next plain => exact stringTail_plain read notQuote notBackslash plain rest
  all_goals simp [stringTail, escaped?]

/-- Escaped characters are read back up to the closing quote. -/
theorem stringTail_escaped (read chars rest : List Char)
    : stringTail read (chars.flatMap escape ++ '"' :: rest)
      = some (.ofList (read.reverse ++ chars), rest) := by
  induction chars generalizing read with
  | nil => simp [stringTail]
  | cons char chars ih =>
      rw [List.flatMap_cons, List.append_assoc, stringTail_escape, ih]
      simp

/-- A quoted string is an opening quote, from which the string is read back, and what follows. -/
theorem exists_quote (text : String)
    : ∃ escaped,
        (quote text).toList = '"' :: escaped
        ∧ ∀ rest, stringTail [] (escaped ++ rest) = some (text, rest) := by
  refine ⟨text.toList.flatMap escape ++ ['"'], by simp [quote], fun rest => ?_⟩
  rw [List.append_assoc, List.singleton_append, stringTail_escaped]
  simp

end PatternAudit.Json
