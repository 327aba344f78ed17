import Recipients.Text

/-
  Text made safe for command lines: in single quotes as one word, or with a backslash before every
  character with a meaning there or in a shell.
-/

namespace Recipients
namespace Command

/-- The text as one quoted word; a quote is set outside the quotes, after a backslash. -/
def quoteWord (t : Text) : Text :=
  '\'' :: (t.flatMap fun c => if c = '\'' then ['\'', '\\', '\'', '\''] else [c]) ++ ['\'']

/-- Characters that a backslash protects in address text. -/
def protectedMarks : Text := ['\\', '\x60', '\'', '"', '$', '#']

def protect (t : Text) : Text :=
  t.flatMap fun c => if protectedMarks.contains c then ['\\', c] else [c]

end Command
end Recipients
