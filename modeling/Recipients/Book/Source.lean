import Recipients.Book.Commands
import Recipients.Command.Lines

/-
  Running commands. A command that fails ends its line, and so does one that leaves words unread;
  the other lines of a text run all the same.
-/

namespace Recipients
namespace Book

/-- Runs commands one after the other; yields what was wrong with the one that failed. -/
def run (b : Book) : List Command → Book × Option CommandError
  | [] => (b, none)
  | c :: cs =>
    match b.perform c with
    | (b, .complete) => run b cs
    | (b, .cutShort) => (b, none)
    | (b, .failed e) => (b, some e)

/-- Runs the commands of a line. -/
def execute (b : Book) (line : Text) : Book × Option CommandError := b.run (Command.ofLine line)

/-- Runs numbered lines; yields what was wrong with those that failed. -/
def runLines (b : Book) : List (Nat × Text) → Book × List (Nat × CommandError)
  | [] => (b, [])
  | (number, line) :: rest =>
    let here := b.execute line
    let later := runLines here.1 rest
    (later.1, (here.2.map (number, ·)).toList ++ later.2)

/-- Runs the lines of a text. -/
def source (b : Book) (t : Text) : Book × List (Nat × CommandError) :=
  b.runLines (Command.logicalLines (Text.lines t))

/-- Runs the lines of a file, which is in the charset of alias files. -/
def sourceFile {m : Type → Type} [Monad m] (files : Files m) (b : Book) (path : Text) :
    m (Except Failure (Book × List (Nat × CommandError))) := do
  match b.settings.fileCharset with
  | .error e => return .error e
  | .ok charset =>
    match ← AliasFile.read files { path, charset } with
    | .ok t => return .ok (b.source t)
    | .error e => return .error e

end Book
end Recipients
