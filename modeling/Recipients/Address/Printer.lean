import Recipients.Address

/-
  The written form of one entry. A name with a special character is quoted; a mailbox stands in
  angle brackets after a name or when it begins with an at sign; the mailbox `@` is the null
  return path and prints as `<>`. `shown` says how a mailbox is to appear.
-/

namespace Recipients
namespace Address

/-- Quotes and backslashes get a backslash in front. -/
def escape (t : Text) : Text := t.flatMap fun c => if c = '\\' ∨ c = '"' then ['\\', c] else [c]

def quoted (t : Text) : Text := '"' :: escape t ++ ['"']

/-- The text itself, or its quoted form where it holds one of `marks`. -/
def quotedFor (marks : Text) (t : Text) : Text :=
  if t.any fun c => marks.contains c then quoted t else t

/-- The name of an entry as far as it is written: an empty name is none. -/
def writtenName (a : Address) : Option Text := a.personal.filter fun p => !p.isEmpty

def writeMailbox (shown : Text → Text) (named : Bool) (m : Text) : Text :=
  let text := if m = ['@'] then [] else shown m
  if named || m.head? == some '@' then '<' :: text ++ ['>'] else text

def render (shown : Text → Text) (a : Address) : Text :=
  let name := (writtenName a).map (quotedFor specials)
  match a.mailbox with
  | none => if a.group then name.getD [] ++ [':', ' '] else name.getD [';']
  | some m =>
    match name with
    | none => writeMailbox shown false m
    | some n => n ++ ' ' :: writeMailbox shown true m

/-- The entry with its mailbox as it is. -/
def write (a : Address) : Text := render id a

end Address
end Recipients
