import FormWizard.Pattern.Basic
import FormWizard.Text.Blank
import FormWizard.Text.CaseFolding
import FormWizard.Text.Category
import FormWizard.Text.Property
import FormWizard.Text.Script

/-!
# Named sets of characters

The sets a pattern can name: digits, blanks and word characters, either of all scripts or of ASCII
only; the classes in `[:…:]`; and the properties in `\p`.
-/

namespace FormWizard.CharSet

open FormWizard.Text

/-- The characters that are not in the set. -/
def complement (s : CharSet) : CharSet := fun c ↦ !s c

/-- The characters in either set. -/
def union (s t : CharSet) : CharSet := fun c ↦ s c || t c

/-- The characters in both sets. -/
def inter (s t : CharSet) : CharSet := fun c ↦ s c && t c

/-- The characters in the first set only. -/
def diff (s t : CharSet) : CharSet := fun c ↦ s c && !t c

/-- The characters in exactly one of two sets. -/
def symmDiff (s t : CharSet) : CharSet := fun c ↦ s c != t c

/-- The characters between two ends. -/
def range (first last : Char) : CharSet := fun c ↦ first ≤ c && c ≤ last

/-- No character. -/
def none : CharSet := fun _ ↦ false

/-- Every character. -/
def any : CharSet := fun _ ↦ true

/-- The ASCII characters. -/
def ascii : CharSet := fun c ↦ c.toNat < 128

/-- The characters that differ in case only from one in the set. -/
def foldCase (s : CharSet) : CharSet := fun c ↦ s c || (caseVariants c).any s

/-- The characters that differ in the case of an ASCII letter only from one in the set. -/
def foldAsciiCase (s : CharSet) : CharSet := fun c ↦ s c || s c.toLower || s c.toUpper

/-- The decimal digits of all scripts. -/
def digit : CharSet := fun c ↦ if ascii c then c.isDigit else Category.ofChar c = "Nd"

/-- The characters of words in all scripts: letters, marks, digits, connectors and joiners. -/
def word : CharSet := fun c ↦
  if ascii c then c.isAlphanum || c = '_'
  else
    Property.alphabetic.contains c || Category.holds "M" c || digit c || Category.holds "Pc" c
      || c.toNat = 0x200C || c.toNat = 0x200D

/-- The ASCII digits. -/
def asciiDigit : CharSet := Char.isDigit

/-- The ASCII blanks. -/
def asciiBlank : CharSet := fun c ↦ (9 ≤ c.toNat && c.toNat ≤ 13) || c = ' '

/-- The ASCII word characters. -/
def asciiWord : CharSet := fun c ↦ c.isAlphanum || c = '_'

/-- The class named in `[:…:]`. -/
def bracketed? (name : String) : Option CharSet :=
  match name with
  | "alnum" => some Char.isAlphanum
  | "alpha" => some Char.isAlpha
  | "ascii" => some ascii
  | "blank" => some fun c ↦ c = '\t' || c = ' '
  | "cntrl" => some fun c ↦ c.toNat < 32 || c.toNat = 127
  | "digit" => some asciiDigit
  | "graph" => some (range '!' '~')
  | "lower" => some Char.isLower
  | "print" => some (range ' ' '~')
  | "punct" => some fun c ↦ range '!' '~' c && !c.isAlphanum
  | "space" => some asciiBlank
  | "upper" => some Char.isUpper
  | "word" => some asciiWord
  | "xdigit" => some fun c ↦ c.isDigit || range 'a' 'f' c || range 'A' 'F' c
  | _ => Option.none

/-- The property with a name that can be true or false. -/
def property? (name : String) : Option CharSet :=
  match name with
  | "alphabetic" | "alpha" => some Property.alphabetic.contains
  | "uppercase" | "upper" => some Property.uppercase.contains
  | "lowercase" | "lower" => some Property.lowercase.contains
  | "cased" => some Property.cased.contains
  | "caseignorable" | "ci" => some Property.caseIgnorable.contains
  | "graphemeextend" | "grext" => some Property.graphemeExtend.contains
  | "whitespace" | "wspace" | "space" => some isBlank
  | _ => Option.none

/-- The set named by a general category. -/
def category? (name : String) : Option CharSet :=
  match name with
  | "any" => some any
  | "ascii" => some ascii
  | "assigned" => some fun c ↦ Category.ofChar c != "Cn"
  | _ => (Category.named? name).map Category.holds

/-- The set named by a script. -/
def script? (name : String) : Option CharSet := (Script.named? name).map Script.holds

/-- A name in small letters without separators, and without a leading `is`. -/
def normalName (name : List Char) : String :=
  let letters := (name.filter fun c ↦ c != ' ' && c != '_' && c != '-' && ascii c).map Char.toLower
  match letters with
  | 'i' :: 's' :: rest => String.ofList (if rest = ['c'] then letters else rest)
  | _ => String.ofList letters

/-- The set that a single name stands for: a property, a category or a script. -/
def named? (name : List Char) : Option CharSet :=
  let name := normalName name
  (property? name).or ((category? name).or (script? name))

/-- Whether a name is that of a property with values. -/
def hasValues (name : List Char) : Bool :=
  ["generalcategory", "gc", "script", "sc", "scriptextensions", "scx"].contains (normalName name)

/-- The set that a name and a value stand for: those characters whose property has the value. -/
def withValue? (name value : List Char) : Option CharSet :=
  match normalName name with
  | "generalcategory" | "gc" => category? (normalName value)
  | "script" | "sc" | "scriptextensions" | "scx" => script? (normalName value)
  | _ => Option.none

end FormWizard.CharSet
