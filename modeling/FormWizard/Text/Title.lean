import FormWizard.Text.Blank
import FormWizard.Text.CaseMapping
import FormWizard.Text.Property

/-!
# Labels made from names

`titleCase` turns the name of a field into a label: words are split at blanks and where a small
ASCII letter is followed by a capital one, and each word is capitalised. `lowercase` writes a label
in small letters, where a capital sigma at the end of a word has a form of its own.
-/

namespace FormWizard.Text

/-- The text with a blank between a small ASCII letter and a capital one behind it. -/
def splitCapitals : List Char → List Char
  | a :: b :: cs =>
    if a.isLower && b.isUpper then a :: ' ' :: splitCapitals (b :: cs)
    else a :: splitCapitals (b :: cs)
  | cs => cs

/-- A word with its first character in upper case and the others in lower case. -/
def capitalised : List Char → List Char
  | [] => []
  | c :: cs => upper c ++ cs.flatMap lower

/-- The label made from a name. -/
def titleCase (name : String) : String :=
  let capitalisedWords := (words (splitCapitals name.toList)).map capitalised
  " ".intercalate (capitalisedWords.map String.ofList)

/-- Whether the first character that is not ignored in casing is cased. -/
def cased (cs : List Char) : Bool :=
  match cs.dropWhile Property.caseIgnorable.contains with
  | c :: _ => Property.cased.contains c
  | [] => false

/-- The capital sigma. -/
def sigma : Char := 'Σ'

/-- The small letters of a text, given the characters in front of it, last one first. -/
def lowercaseAfter (before : List Char) : List Char → List Char
  | [] => []
  | c :: cs =>
    let small :=
      if c = sigma then (if cased before && !cased cs then ['ς'] else ['σ']) else lower c
    small ++ lowercaseAfter (c :: before) cs

/-- The text in small letters. -/
def lowercase (s : String) : String := String.ofList (lowercaseAfter [] s.toList)

end FormWizard.Text
