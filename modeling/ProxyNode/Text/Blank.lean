import ProxyNode.Text.Span

/-!
# Text — Blank

The characters that count as blank around a value, and `strip`, which takes them off both ends.

* `isBlank_of_isWhitespace`: every white space of the ASCII range is blank.
* `dropWhile_isBlank_idem`: what was stripped at one end has nothing left to strip there.
-/

namespace ProxyNode.Text

/-- The blank characters: the controls U+0009–000D and U+001C–001F, the space, the next-line
control and the Unicode separators. -/
def blankSpans : List Span :=
  [(9, 13), (28, 32), (133, 133), (160, 160), (5760, 5760), (8192, 8202),
   (8232, 8233), (8239, 8239), (8287, 8287), (12288, 12288)]

def isBlank (c : Char) : Bool := inSpans blankSpans c

/-- The characters without the blank ones at either end. -/
def stripChars (cs : List Char) : List Char :=
  ((cs.dropWhile isBlank).reverse.dropWhile isBlank).reverse

/-- The text without the blank characters at either end. -/
def strip (s : String) : String := String.ofList (stripChars s.toList)

theorem isBlank_of_isWhitespace {c : Char} (h : c.isWhitespace) : isBlank c := by
  simp only [Char.isWhitespace, Bool.or_eq_true, decide_eq_true_eq] at h
  rcases h with ((rfl | rfl) | rfl) | rfl <;> rfl

theorem dropWhile_isBlank_idem (cs : List Char) :
    (cs.dropWhile isBlank).dropWhile isBlank = cs.dropWhile isBlank := by
  induction cs with
  | nil => rfl
  | cons c rest ih => by_cases h : isBlank c <;> simp [h, ih]

end ProxyNode.Text
