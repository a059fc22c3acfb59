/-!
Blank characters: the twenty-five code points of the Unicode `White_Space` property, and
trimming by them. Configuration values are trimmed with this class, and line sources skip
exactly these characters, so `U+200B` and `U+FEFF` count as ordinary characters while
`U+00A0` and `U+3000` do not.
-/

namespace ButtonRelay.Text

/-- The Unicode `White_Space` property: tab to carriage return, space, next line, no-break
space, ogham space mark, the spaces from en quad to hair space, the line and paragraph
separators, narrow no-break space, medium mathematical space and ideographic space. -/
def isBlank (c : Char) : Bool :=
  let n := c.toNat
  (9 ≤ n && n ≤ 13) || n == 32 || n == 0x85 || n == 0xA0 || n == 0x1680 ||
    (0x2000 ≤ n && n ≤ 0x200A) || n == 0x2028 || n == 0x2029 || n == 0x202F ||
    n == 0x205F || n == 0x3000

/-- Drops blank characters from both ends of a character list. -/
def trimBlankList (cs : List Char) : List Char :=
  ((cs.dropWhile isBlank).reverse.dropWhile isBlank).reverse

/-- Drops blank characters from both ends of a string. -/
def trimBlank (s : String) : String :=
  String.ofList (trimBlankList s.toList)

/-- Maps `A`–`Z` to `a`–`z` and keeps every other character. -/
def asciiLower (s : String) : String :=
  String.ofList (s.toList.map Char.toLower)

/-- Every character that core calls whitespace is blank. -/
theorem isBlank_of_isWhitespace {c : Char} (h : c.isWhitespace = true) : isBlank c = true := by
  simp only [Char.isWhitespace, Bool.or_eq_true, decide_eq_true_eq] at h
  simp only [isBlank, Bool.or_eq_true, Bool.and_eq_true, decide_eq_true_eq, beq_iff_eq]
  rcases h with ((h | h) | h) | h <;> subst h <;> decide

example : isBlank '\u3000' = true ∧ isBlank '\u200B' = false ∧ isBlank '\uFEFF' = false ∧
    isBlank '\u0085' = true ∧ isBlank '\u001C' = false := by decide

end ButtonRelay.Text
