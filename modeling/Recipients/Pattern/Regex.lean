import Recipients.Pattern.CharClass

/-
  Regular expressions and their matches. What an expression can do next at a place is a list of
  steps, those it prefers in front: it is done, or it takes a character of a class and goes on with
  an expression. A match follows all steps at once; of several matches from one place the
  preferred one counts.
-/

namespace Recipients.Pattern

/-- Conditions on a place in a text. -/
inductive Look where
  | textStart
  | textEnd
  | lineStart (crlf : Bool)
  | lineEnd (crlf : Bool)
  | wordBoundary (ascii : Bool)
  | noWordBoundary (ascii : Bool)
  | wordStart (ascii : Bool)
  | wordEnd (ascii : Bool)
  | wordStartHalf (ascii : Bool)
  | wordEndHalf (ascii : Bool)
  deriving DecidableEq, Repr

inductive Regex where
  | empty
  | chars (c : CharClass)
  | look (l : Look)
  | seq (r s : Regex)
  | alt (r s : Regex)
  /-- `least` times and up to `extra` times more. -/
  | counted (greedy : Bool) (least extra : Nat) (r : Regex)
  /-- Once or more. -/
  | plus (greedy : Bool) (r : Regex)
  /-- Any number of times more, once `r` has been there. -/
  | again (greedy : Bool) (r : Regex)
  deriving DecidableEq, Repr

/-- The characters around a place. -/
structure Place where
  before : Option Char
  after : Option Char

namespace Look

def isWord (ascii : Bool) (c : Option Char) : Bool :=
  c.any fun c => if ascii then c.isAlphanum || c == '_' else Unicode.isWordCharacter c

/-- With carriage returns as line ends, a return and the line feed after it end one line. -/
def holds (p : Place) : Look → Bool
  | textStart => p.before.isNone
  | textEnd => p.after.isNone
  | lineStart crlf =>
    p.before.all (· == '\n') || (crlf && p.before == some '\r' && p.after != some '\n')
  | lineEnd crlf =>
    if crlf then p.after.all (· == '\r') || (p.after == some '\n' && p.before != some '\r')
    else p.after.all (· == '\n')
  | wordBoundary ascii => isWord ascii p.before != isWord ascii p.after
  | noWordBoundary ascii => isWord ascii p.before == isWord ascii p.after
  | wordStart ascii => !isWord ascii p.before && isWord ascii p.after
  | wordEnd ascii => isWord ascii p.before && !isWord ascii p.after
  | wordStartHalf ascii => !isWord ascii p.before
  | wordEndHalf ascii => !isWord ascii p.after

end Look

namespace Regex

/-- Whether the expression can match without taking a character. -/
def canBeEmpty : Regex → Bool
  | empty | look _ => true
  | chars _ => false
  | seq r s => r.canBeEmpty && s.canBeEmpty
  | alt r s => r.canBeEmpty || s.canBeEmpty
  | counted _ least _ r => least == 0 || r.canBeEmpty
  | plus _ r => r.canBeEmpty
  | again _ _ => true

def optional (greedy : Bool) (r : Regex) : Regex := counted greedy 0 1 r

/-- Any number of times. An expression that can be empty is not tried again where it was empty. -/
def star (greedy : Bool) (r : Regex) : Regex :=
  if r.canBeEmpty then optional greedy (plus greedy r) else again greedy r

/-- At least `n` times. -/
def atLeast (greedy : Bool) (n : Nat) (r : Regex) : Regex :=
  match n with
  | 0 => star greedy r
  | 1 => plus greedy r
  | n + 2 => seq (counted greedy (n + 1) 0 r) (plus greedy r)

/-- One after the other; nothing is put in front of or behind an empty expression. -/
def andThen : Regex → Regex → Regex
  | empty, s => s
  | r, empty => r
  | r, s => seq r s

inductive Step where
  | done
  | take (c : CharClass) (next : Regex)
  deriving DecidableEq

/-- Each step once, where it stands first. -/
def distinct [DecidableEq α] (l : List α) : List α :=
  (l.foldl (fun kept s => if s ∈ kept then kept else s :: kept) []).reverse

/-- Goes on with `rest` after the steps: where they are done, with its own steps. -/
def chain (steps rest : List Step) (next : Regex) : List Step :=
  steps.flatMap fun
    | .done => rest
    | .take c r => [.take c (r.andThen next)]

/-- The steps of up to `extra` repetitions of `r`, whose own steps are `steps`. -/
def extraSteps (greedy : Bool) (r : Regex) (steps : List Step) : (extra : Nat) → List Step
  | 0 => [.done]
  | extra + 1 =>
    let more := chain steps (extraSteps greedy r steps extra) (counted greedy 0 extra r)
    if greedy then distinct (more ++ [.done]) else distinct (.done :: more)

def countedSteps (greedy : Bool) (r : Regex) (steps : List Step) :
    (least extra : Nat) → List Step
  | 0, extra => extraSteps greedy r steps extra
  | least + 1, extra =>
    distinct (chain steps (countedSteps greedy r steps least extra) (counted greedy least extra r))

/-- What the expression can do next at a place. -/
def steps (p : Place) : Regex → List Step
  | empty => [.done]
  | chars c => [.take c empty]
  | look l => if l.holds p then [.done] else []
  | seq r s => distinct (chain (steps p r) (steps p s) s)
  | alt r s => distinct (steps p r ++ steps p s)
  | counted greedy least extra r => countedSteps greedy r (steps p r) least extra
  | plus greedy r => distinct (chain (steps p r) [.done] (again greedy r))
  | again greedy r =>
    let more := chain (steps p r) [] (again greedy r)
    if greedy then more ++ [.done] else .done :: more

/-- The steps preferred to being done, and whether it is done at all. -/
def untilDone : List Step → List (CharClass × Regex) × Bool
  | [] => ([], false)
  | .done :: _ => ([], true)
  | .take c r :: rest => ((c, r) :: (untilDone rest).1, (untilDone rest).2)

/-- Matches on with the expressions `rs`, the preferred ones in front, after `taken` characters;
    yields how many characters the preferred match takes. -/
def run (rs : List Regex) (before : Option Char) (taken : Nat) (best : Option Nat) :
    Text → Option Nat
  | [] =>
    if (untilDone (rs.flatMap (steps ⟨before, none⟩))).2 then some taken else best
  | c :: rest =>
    let found := untilDone (rs.flatMap (steps ⟨before, some c⟩))
    let next := found.1.filterMap fun s => if s.1.contains c then some s.2 else none
    let best := if found.2 then some taken else best
    if next.isEmpty then best else run (distinct next) (some c) (taken + 1) best rest

/-- The part that the first match in a text takes, where `before` stands in front of it. -/
def findAfter (r : Regex) (before : Option Char) (t : Text) : Option Text :=
  match run [r] before 0 none t with
  | some n => some (t.take n)
  | none =>
    match t with
    | [] => none
    | c :: rest => findAfter r (some c) rest

def find (r : Regex) (t : Text) : Option Text := findAfter r none t

/-- About how much room the expression takes when its repetitions are written out. -/
def weight : Regex → Nat
  | empty => 0
  | chars c => c.weight
  | look _ => 1
  | seq r s | alt r s => r.weight + s.weight + 1
  | counted _ least extra r => (least + extra) * (r.weight + 1)
  | plus _ r | again _ r => r.weight + 1

end Regex
end Recipients.Pattern
