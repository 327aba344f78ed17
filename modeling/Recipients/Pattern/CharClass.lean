import Recipients.Unicode.CaseFolding
import Recipients.Unicode.Property

/-
  Classes of characters as pattern text describes them.
-/

namespace Recipients.Pattern

inductive CharClass where
  /-- Code points from `first` to `last`. -/
  | range (first last : Nat)
  | property (p : Unicode.Property)
  | digit
  | blank
  | word
  | union (a b : CharClass)
  | inter (a b : CharClass)
  | diff (a b : CharClass)
  | symmDiff (a b : CharClass)
  | compl (a : CharClass)
  /-- All that differs from a member in case only, in ASCII alone or everywhere. -/
  | fold (ascii : Bool) (a : CharClass)
  deriving DecidableEq, Repr

namespace CharClass

/-- The other case of an ASCII letter. -/
def otherCase (c : Char) : Char := if c.isUpper then c.toLower else c.toUpper

def contains : CharClass → Char → Bool
  | range m n, c => m ≤ c.toNat && c.toNat ≤ n
  | property p, c => p.holds c
  | digit, c => Unicode.Category.decimalNumber.contains c
  | blank, c => Text.isBlank c
  | word, c => Unicode.isWordCharacter c
  | union a b, c => a.contains c || b.contains c
  | inter a b, c => a.contains c && b.contains c
  | diff a b, c => a.contains c && !b.contains c
  | symmDiff a b, c => a.contains c != b.contains c
  | compl a, c => !a.contains c
  | fold ascii a, c =>
    a.contains c ||
    (if ascii then a.contains (otherCase c) else (Unicode.caseVariants c).any a.contains)

def ofChar (c : Char) : CharClass := range c.toNat c.toNat

def nothing : CharClass := range 1 0

def anything : CharClass := range 0 0x10FFFF

def ofChars (t : Text) : CharClass := t.foldr (fun c a => union (ofChar c) a) nothing

/-- About how much room a class takes in a compiled pattern. -/
def weight : CharClass → Nat
  | range _ n => if n < 128 then 1 else 4
  | property _ | digit | blank | word => 200
  | union a b | inter a b | diff a b | symmDiff a b => a.weight + b.weight
  | compl a => a.weight + 4
  | fold _ a => a.weight + 1

end CharClass
end Recipients.Pattern
