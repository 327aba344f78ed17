import Recipients.Text

/-
  Command lines as tokens. What is left of a line is kept without blanks in front. A semicolon
  ends a command, a number sign starts a comment; quotes and backslashes take their meaning away.
  `readToken_length_lt`: where a command has another argument, reading it gets on.
-/

namespace Recipients
namespace Command

/-- A word ends at a blank or semicolon and loses its quotes. Addresses run to the end of the line
    or a comment and keep what address text has a use for. -/
inductive TokenKind where
  | word
  | addresses
  deriving DecidableEq, Repr

namespace TokenKind

/-- Whether an unquoted `c` ends the token. -/
def endsAt : TokenKind → Char → Bool
  | .word, c => Text.isBlank c || c == ';' || c == '#'
  | .addresses, c => c == '#'

/-- A quotation mark as far as it belongs to the token. -/
def mark : TokenKind → Char → Text
  | .word, _ => []
  | .addresses, c => [c]

end TokenKind

/-- What a character stands for after a backslash. -/
def escaped (c : Char) : Char :=
  if c = 'n' then '\n'
  else if c = 't' then '\t'
  else if c = 'r' then '\r'
  else if c = 'e' ∨ c = 'E' then Char.ofNat 0x1B
  else c

/-- Puts text in front of a token. -/
def onto (t : Text) (found : Text × Text) : Text × Text := (t ++ found.1, found.2)

/-- Reads a token inside `quote`, if any, up to where it ends; yields the token and the rest.
    `held` says that a backslash stands right before, which in single quotes is a character like
    any other. -/
def readToken (kind : TokenKind) (quote : Option Char) (held : Bool) : Text → Text × Text
  | [] => (if held then ['\\'] else [], [])
  | c :: r =>
    if held then onto [escaped c] (readToken kind quote false r)
    else if quote.isNone && kind.endsAt c then ([], c :: r)
    else if quote = some c then onto (kind.mark c) (readToken kind none false r)
    else if quote.isNone && (c == '\'' || c == '"') then
      onto (kind.mark c) (readToken kind (some c) false r)
    else if c = '\\' ∧ quote ≠ some '\'' then readToken kind quote true r
    else onto [c] (readToken kind quote false r)

theorem readToken_length_le (kind : TokenKind) (quote : Option Char) (held : Bool) (cs : Text) :
    (readToken kind quote held cs).2.length ≤ cs.length := by
  fun_induction readToken kind quote held cs with
  | case1 | case3 => simp
  | case2 | case4 | case5 | case6 | case7 =>
    simp only [onto, List.length_cons]
    omega

/-- A line with no blanks in front. -/
def start (line : Text) : Text := Text.trimStart line

theorem start_length_le (line : Text) : (start line).length ≤ line.length :=
  (List.dropWhile_suffix _).length_le

/-- Whether the command at hand has another argument. -/
def hasArgument (rest : Text) : Bool := rest.head?.any fun c => c != ';' && c != '#'

/-- Whether nothing but a comment is left. -/
def isOver (rest : Text) : Bool := rest.head?.all fun c => c == '#'

/-- The next token and what follows it. -/
def next (kind : TokenKind) (rest : Text) : Text × Text :=
  let found := readToken kind none false rest
  (found.1, start found.2)

/-- What follows a semicolon, where one stands there. -/
def afterSemicolon? : Text → Option Text
  | ';' :: r => some (start r)
  | _ => none

/-- The comment that ends the line, without its sign and one space. -/
def comment? : Text → Option Text
  | '#' :: ' ' :: r => some r
  | '#' :: r => some r
  | _ => none

theorem readToken_length_lt (kind : TokenKind) {c : Char} {r : Text}
    (h : kind.endsAt c = false) : (readToken kind none false (c :: r)).2.length ≤ r.length := by
  simp only [readToken, h, Option.isNone_none, Bool.and_false, Bool.false_eq_true, ↓reduceIte,
    reduceCtorEq]
  split
  · exact readToken_length_le kind (some c) false r
  · split
    · exact readToken_length_le kind none true r
    · exact readToken_length_le kind none false r

end Command
end Recipients
