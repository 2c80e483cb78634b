import FormWizard.Text.Category
import FormWizard.Text.Property

/-!
# Quoted text

A text between quotes, written so that every character can be seen: quotes, backslashes, tabs, line
ends and the null character are escaped by a letter, and characters that leave no mark of their own
by their code point. These are the unassigned and private ones, controls and formats, separators
other than the blank, and marks that attach to the character before them.
-/

namespace FormWizard.Text

/-- Whether a character is written as it is. -/
def isVisible (c : Char) : Bool :=
  if c.toNat < 127 then 32 ≤ c.toNat
  else
    !Property.graphemeExtend.contains c
      && !(["Cc", "Cf", "Cs", "Co", "Cn", "Zl", "Zp", "Zs"].contains (Category.ofChar c))

/-- One character between quotes. -/
def quotedChar (c : Char) : List Char :=
  if c = '"' then ['\\', '"']
  else if c = '\\' then ['\\', '\\']
  else if c = '\n' then ['\\', 'n']
  else if c = '\r' then ['\\', 'r']
  else if c = '\t' then ['\\', 't']
  else if c.toNat = 0 then ['\\', '0']
  else if isVisible c then [c]
  else ['\\', 'u', '\x7b'] ++ Nat.toDigits 16 c.toNat ++ ['\x7d']

/-- The text between quotes. -/
def quoted (s : String) : String :=
  String.ofList ('"' :: s.toList.flatMap quotedChar ++ ['"'])

end FormWizard.Text
