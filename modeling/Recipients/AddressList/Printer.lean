import Recipients.AddressList
import Recipients.Address.Printer

/-
  The written form of a list, on one line or folded. A separator stands after every entry but a
  group marker, unless the next entry is a terminator; folding puts a line end in the place of a space.
-/

namespace Recipients
namespace AddressList

/-- Whether `a`, with `rest` after it, is followed by a separator. -/
def separates (a : Address) : AddressList → Bool
  | [] => false
  | b :: _ => !a.isGroupMarker && !b.isGroupEnd

def render (shown : Text → Text) : AddressList → Text
  | [] => []
  | a :: rest =>
    a.render shown ++ (if separates a rest then [',', ' '] else []) ++ render shown rest

def write (l : AddressList) : Text := render id l

/-- Column reached by the tab that opens a folded line. -/
def foldIndent : Nat := 8

/-- Continues a header line that has reached column `col`, folding in front of an entry that
    would pass column `cols`; `pending` says that a separator is due. -/
def foldFrom (cols : Nat) : (col : Nat) → (pending : Bool) → AddressList → Text
  | _, _, [] => []
  | col, pending, a :: rest =>
    let text := a.write
    let folds := pending && decide (cols < col + 2 + text.length)
    let sep := if folds then [',', '\n', '\t'] else if pending then [',', ' '] else []
    let start := if folds then foldIndent else if pending then col + 2 else col
    sep ++ text ++ foldFrom cols (start + text.length) (separates a rest) rest

/-- A header line of at most `cols` columns where entries allow it; entries are never cut. -/
def writeFolded (header : Text) (cols : Nat) (l : AddressList) : Text :=
  let start := header ++ [':', ' ']
  start ++ foldFrom cols start.length false l

/-- Each entry on its own, terminators left out. -/
def writeEntries (l : AddressList) : List Text :=
  (l.filter fun a => !a.isGroupEnd).map Address.write

end AddressList
end Recipients
