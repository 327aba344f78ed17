import Recipients.Pattern.Parser

/-
  Patterns: compiled regular expressions together with the text they were read from. What compiles
  them is an engine, and of a compiled one only matters what it does with a text. The library has an
  engine of its own (`Engine.standard`); whatever compiles patterns takes any.
-/

namespace Recipients
namespace Pattern

/-- A compiled regular expression, as what it does with a text. -/
structure Matcher where
  /-- The first part of a text that matches. -/
  find : Text → Option Text
  /-- Whether it matches anywhere in a text. -/
  isMatch : Text → Bool

/-- What compiles regular expressions; `none` for a text that is none. -/
structure Engine where
  compile : (source : Text) → (ignoreCase : Bool) → Option Matcher

def Regex.matcher (r : Regex) : Matcher where
  find := r.find
  isMatch t := (r.find t).isSome

def Engine.standard : Engine where
  compile source ignoreCase := (parse { ignoreCase } source).map Regex.matcher

end Pattern

structure Pattern where
  source : Text
  matcher : Pattern.Matcher

namespace Pattern

/-- Reads a pattern; `none` if the text is not a regular expression. -/
def compile (engine : Engine) (source : Text) (ignoreCase : Bool) : Option Pattern :=
  (engine.compile source ignoreCase).map fun m => ⟨source, m⟩

/-- The first part of a text that matches. -/
def find (p : Pattern) (t : Text) : Option Text := p.matcher.find t

/-- Whether the pattern matches anywhere in a text. -/
def isMatch (p : Pattern) (t : Text) : Bool := p.matcher.isMatch t

end Pattern
end Recipients
