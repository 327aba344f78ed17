import Recipients.Domain.Conversion
import Recipients.Pattern

/-
  What a book works with that may be exchanged: an engine for its patterns and a converter for the
  domains of its mailboxes.
-/

namespace Recipients

structure Tools where
  engine : Pattern.Engine
  converter : Domain.Converter

/-- The library's own tools. -/
def Tools.standard : Tools := ⟨.standard, .standard⟩

end Recipients
