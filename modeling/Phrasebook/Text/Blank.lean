/-!
# Blank characters

A blank is a character with the Unicode `White_Space` property: the ASCII controls tab to
carriage return, space, next line, no-break space, the Ogham space mark, the typographic spaces
of the General Punctuation block, the line and paragraph separators and the ideographic space.
Trimming a string and reading message syntax both use exactly this set.
-/

namespace Phrasebook.Text

def isBlank (c : Char) : Bool :=
  let n := c.toNat
  (0x09 ≤ n && n ≤ 0x0D) || n == 0x20 || n == 0x85 || n == 0xA0 || n == 0x1680 ||
    (0x2000 ≤ n && n ≤ 0x200A) || n == 0x2028 || n == 0x2029 || n == 0x202F ||
    n == 0x205F || n == 0x3000

def trimBlankList (cs : List Char) : List Char :=
  ((cs.dropWhile isBlank).reverse.dropWhile isBlank).reverse

def trimBlanks (s : String) : String :=
  String.ofList (trimBlankList s.toList)

def isBlankString (s : String) : Bool :=
  s.toList.all isBlank

theorem isBlank_space : isBlank ' ' = true := rfl

theorem isBlank_of_isWhitespace (c : Char) (h : c.isWhitespace = true) : isBlank c = true := by
  simp only [Char.isWhitespace, Bool.or_eq_true, decide_eq_true_eq] at h
  simp only [isBlank, Bool.or_eq_true, Bool.and_eq_true, decide_eq_true_eq, beq_iff_eq]
  rcases h with ((h | h) | h) | h <;> subst h <;> decide

theorem trimBlankList_nil : trimBlankList [] = [] := rfl

end Phrasebook.Text
