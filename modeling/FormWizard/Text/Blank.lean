/-!
# Blank characters and trimming

The blank characters of entered text: the twenty-five code points with the Unicode property
White_Space. Text is handled as a list of characters, so trimming is `List.dropWhile` at either end.

The separators of the formula language are a smaller set, four ASCII characters; they live with
that language and not here.
-/

namespace FormWizard.Text

/-- Whether `c` has the property White_Space. -/
def isBlank (c : Char) : Bool :=
  let n := c.toNat
  (0x09 ≤ n && n ≤ 0x0D) || n == 0x20 || n == 0x85 || n == 0xA0 || n == 0x1680
    || (0x2000 ≤ n && n ≤ 0x200A) || n == 0x2028 || n == 0x2029 || n == 0x202F || n == 0x205F
    || n == 0x3000

/-- The text without the blanks in front. -/
def trimStart (cs : List Char) : List Char := cs.dropWhile isBlank

/-- The text without the characters satisfying `p` at its end. -/
def trimEndWhile (p : Char → Bool) (cs : List Char) : List Char :=
  (cs.reverse.dropWhile p).reverse

/-- The text without the blanks behind. -/
def trimEnd (cs : List Char) : List Char := trimEndWhile isBlank cs

/-- The text without the blanks at either end. -/
def trim (cs : List Char) : List Char := trimEnd (trimStart cs)

/-- The runs of characters that are not blank, in order. -/
def words (cs : List Char) : List (List Char) :=
  (cs.splitBy fun a b ↦ isBlank a == isBlank b).filter fun run ↦ !run.all isBlank

end FormWizard.Text
