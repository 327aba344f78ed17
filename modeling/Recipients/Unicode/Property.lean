import Recipients.Unicode.BinaryProperty
import Recipients.Unicode.Category
import Recipients.Unicode.Script
import Recipients.Unicode.Version

/-
  Properties of characters by name. Names are compared loosely: case, blanks, hyphens, low lines
  and a leading `is` make no difference.
-/

namespace Recipients.Unicode

/-- A property, known by the entry of its table. -/
inductive Property where
  | category (names : String)
  | script (names : String)
  | scriptExtension (names : String)
  | binary (names : String)
  | version (names : String)
  deriving DecidableEq, Repr

namespace Property

open Category in
/-- Categories and groups of categories, each with its names. -/
def categories : List (String × List CodeSet) :=
  let cased := [uppercaseLetter, lowercaseLetter, titlecaseLetter]
  let letters := cased ++ [modifierLetter, otherLetter]
  let marks := [nonspacingMark, spacingMark, enclosingMark]
  let numbers := [decimalNumber, letterNumber, otherNumber]
  let punctuation := [connectorPunctuation, dashPunctuation, openPunctuation, closePunctuation,
    initialPunctuation, finalPunctuation, otherPunctuation]
  let symbols := [mathSymbol, currencySymbol, modifierSymbol, otherSymbol]
  let separators := [spaceSeparator, lineSeparator, paragraphSeparator]
  let others := [control, format, privateUse]
  [("Any", [⟨[(0, 0x10FFFF)]⟩]),
    ("ASCII", [⟨[(0, 0x7F)]⟩]),
    ("Assigned",
      letters ++ marks ++ numbers ++ punctuation ++ symbols ++ separators ++ others),
    ("LC Cased_Letter", cased),
    ("L Letter", letters),
    ("Lu Uppercase_Letter", [uppercaseLetter]),
    ("Ll Lowercase_Letter", [lowercaseLetter]),
    ("Lt Titlecase_Letter", [titlecaseLetter]),
    ("Lm Modifier_Letter", [modifierLetter]),
    ("Lo Other_Letter", [otherLetter]),
    ("M Mark Combining_Mark", marks),
    ("Mn Nonspacing_Mark", [nonspacingMark]),
    ("Mc Spacing_Mark", [spacingMark]),
    ("Me Enclosing_Mark", [enclosingMark]),
    ("N Number", numbers),
    ("Nd Decimal_Number digit", [decimalNumber]),
    ("Nl Letter_Number", [letterNumber]),
    ("No Other_Number", [otherNumber]),
    ("P Punctuation punct", punctuation),
    ("Pc Connector_Punctuation", [connectorPunctuation]),
    ("Pd Dash_Punctuation", [dashPunctuation]),
    ("Ps Open_Punctuation", [openPunctuation]),
    ("Pe Close_Punctuation", [closePunctuation]),
    ("Pi Initial_Punctuation", [initialPunctuation]),
    ("Pf Final_Punctuation", [finalPunctuation]),
    ("Po Other_Punctuation", [otherPunctuation]),
    ("S Symbol", symbols),
    ("Sm Math_Symbol", [mathSymbol]),
    ("Sc Currency_Symbol", [currencySymbol]),
    ("Sk Modifier_Symbol", [modifierSymbol]),
    ("So Other_Symbol", [otherSymbol]),
    ("Z Separator", separators),
    ("Zs Space_Separator", [spaceSeparator]),
    ("Zl Line_Separator", [lineSeparator]),
    ("Zp Paragraph_Separator", [paragraphSeparator]),
    ("Cc Control cntrl", [control]),
    ("Cf Format", [format]),
    ("Co Private_Use", [privateUse])]

/-- Entries that hold the characters outside "Assigned". -/
def unassigned : String := "Cn Unassigned"

def other : String := "C Other"

def inCategory (names : String) (c : Char) : Bool :=
  match categories.lookup names with
  | some sets => sets.any (·.contains c)
  | none =>
    let assigned := ((categories.lookup "Assigned").getD []).any (·.contains c)
    let special := [Category.control, Category.format, Category.privateUse].any (·.contains c)
    !assigned || (names == other && special)

/-- Whether some script has `c` as an extra character. -/
def isExtended (c : Char) : Bool := scripts.any fun s => s.extra.contains c

/-- The characters of the common and inherited scripts that other scripts claim are theirs. -/
def inExtension (s : Script) (c : Char) : Bool :=
  s.extra.contains c ||
  (s.members.contains c &&
    !((s.names.startsWith "Zyyy" || s.names.startsWith "Zinh") && isExtended c))

/-- A version has the characters that it and the versions before it added. -/
def inVersion (names : String) : List (String × CodeSet) → Char → Bool
  | [], _ => false
  | v :: vs, c => v.2.contains c || (v.1 != names && inVersion names vs c)

def holds : Property → Char → Bool
  | category names, c => inCategory names c
  | script names, c => scripts.any fun s => s.names == names && s.members.contains c
  | scriptExtension names, c => scripts.any fun s => s.names == names && inExtension s c
  | binary names, c => ((binaryProperties.lookup names).getD ⟨[]⟩).contains c
  | version names, c => inVersion names versions c

/-- A name as far as it counts. -/
def loose (name : Text) : Text :=
  let bare := match name.lower with
    | 'i' :: 's' :: r => r
    | t => t
  let kept := bare.filter fun c => c.toNat < 128 && c != ' ' && c != '_' && c != '-'
  if kept == ['c'] && bare.length < name.length then ['i', 's', 'c'] else kept

/-- Whether `name`, as far as it counts, is one of the names of an entry. -/
def named (name : Text) (entry : String) : Bool :=
  (Text.words entry.toList).any fun n => loose n == name

def category? (name : Text) : Option Property :=
  ((categories.map Prod.fst ++ [unassigned, other]).find? (named name)).map category

def script? (name : Text) : Option Property :=
  ((scripts.map Script.names).find? (named name)).map script

def binary? (name : Text) : Option Property :=
  ((binaryProperties.map Prod.fst).find? (named name)).map binary

/-- The property with a name of its own. Where abbreviations clash, those of categories win. -/
def ofName? (name : Text) : Option Property :=
  let n := loose name
  ((binary? n).or (category? n)).or (script? n)

/-- The property that compares the value of another one, such as the script, with `value`. -/
def ofValue? (name value : Text) : Option Property :=
  let n := loose name
  let v := loose value
  if named n "gc General_Category" then category? v
  else if named n "sc Script" then script? v
  else if named n "scx Script_Extensions" then
    ((scripts.map Script.names).find? (named v)).map scriptExtension
  else if named n "Age" then ((versions.map Prod.fst).find? (named v)).map version
  else none

end Property

/-- Letters, marks, decimal numbers, connectors and joiners. -/
def isWordCharacter (c : Char) : Bool :=
  if c.toNat < 128 then c.isAlphanum || c == '_'
  else Property.holds (.binary "Alphabetic Alpha") c ||
    Category.nonspacingMark.contains c || Category.spacingMark.contains c ||
    Category.enclosingMark.contains c || Category.decimalNumber.contains c ||
    Category.connectorPunctuation.contains c || c.toNat == 0x200C || c.toNat == 0x200D

end Recipients.Unicode
