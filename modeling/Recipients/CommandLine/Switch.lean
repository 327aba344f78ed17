import Recipients.Text

/-
  Switches on the command line: `--name`, `--name=value`, `--name value`, and one letter after a
  single dash, where a value may follow at once and letters may be joined. After `--` every
  argument is plain.
-/

namespace Recipients
namespace CommandLine

inductive Switch where
  | config
  | source
  | display
  | tag
  | comment
  | tags
  | fixName
  | help
  | version
  deriving DecidableEq, Repr

/-- Why the arguments ask for no work. -/
inductive Refusal where
  | usage
  | help
  | version
  deriving DecidableEq, Repr

namespace Switch

def name : Switch → Text
  | config => "config".toList
  | source => "source".toList
  | display => "display".toList
  | tag => "tag".toList
  | comment => "comment".toList
  | tags => "tags".toList
  | fixName => "fix-name".toList
  | help => "help".toList
  | version => "version".toList

def letter? : Switch → Option Char
  | config => some 'c'
  | source => some 's'
  | display => some 'd'
  | tag => some 't'
  | help => some 'h'
  | version => some 'V'
  | comment | tags | fixName => none

def takesValue : Switch → Bool
  | config | source | tag | comment | tags => true
  | display | fixName | help | version => false

/-- Whether it may be given more than once. -/
def mayRepeat : Switch → Bool
  | source | tags => true
  | _ => false

/-- Whether its value is a path, which is never empty. -/
def takesPath : Switch → Bool
  | config | source => true
  | _ => false

end Switch

/-- What arguments say: the switches with their values, in order, and the plain arguments. -/
structure Given where
  switches : List (Switch × Text) := []
  plain : List Text := []
  deriving DecidableEq, Repr

namespace Given

def values (g : Given) (s : Switch) : List Text :=
  (g.switches.filter fun given => given.1 == s).map Prod.snd

def value? (g : Given) (s : Switch) : Option Text := (g.values s).head?

def has (g : Given) (s : Switch) : Bool := !(g.values s).isEmpty

/-- Adds a switch; one without a value has an empty one. -/
def add (g : Given) (s : Switch) (value : Text) : Except Refusal Given :=
  if s = .help then .error .help
  else if s = .version then .error .version
  else if g.has s && !s.mayRepeat then .error .usage
  else if s.takesPath && value.isEmpty then .error .usage
  else .ok { g with switches := g.switches ++ [(s, value)] }

end Given

/-- What is looked for: the switches there are, how many plain arguments there may be, and the
    words that end the search. -/
structure Scope where
  switches : List Switch
  limit : Option Nat
  ends : Text → Bool

namespace Scope

/-- Whether an argument is no value and no plain argument. -/
def isSwitch (a : Text) : Bool := a.head? == some '-' && 1 < a.length

/-- What is left to do after an argument. -/
inductive Pending where
  | nothing
  | valueOf (s : Switch)
  deriving DecidableEq, Repr

/-- Reads letters that stand together. -/
def readLetters (sc : Scope) (g : Given) : Text → Except Refusal (Given × Pending)
  | [] => .ok (g, .nothing)
  | c :: rest =>
    match sc.switches.find? fun s => s.letter? == some c with
    | none => .error .usage
    | some s =>
      if !s.takesValue then (g.add s []).bind fun g => readLetters sc g rest
      else match rest with
        | [] => .ok (g, .valueOf s)
        | '=' :: value => (g.add s value).map (·, .nothing)
        | value => (g.add s value).map (·, .nothing)

/-- Reads a name, perhaps with a value. -/
def readName (sc : Scope) (g : Given) (a : Text) : Except Refusal (Given × Pending) :=
  let (name, value?) := match Text.cutFirst '=' a with
    | some (name, value) => (name, some value)
    | none => (a, none)
  match sc.switches.find? fun s => s.name == name, value? with
  | none, _ => .error .usage
  | some s, some value =>
    if s.takesValue then (g.add s value).map (·, .nothing) else .error .usage
  | some s, none =>
    if s.takesValue then .ok (g, .valueOf s) else (g.add s []).map (·, .nothing)

/-- Adds plain arguments as far as they are allowed. -/
def addPlain (sc : Scope) (g : Given) (more : List Text) : Except Refusal Given :=
  let plain := g.plain ++ more
  if sc.limit.any fun n => n < plain.length then .error .usage else .ok { g with plain }

/-- Reads arguments up to a word that ends the search; yields what is left. -/
def read (sc : Scope) (g : Given) : List Text → Except Refusal (Given × List Text)
  | [] => .ok (g, [])
  | a :: rest =>
    if sc.ends a then .ok (g, a :: rest)
    else if a = ['-', '-'] then (sc.addPlain g rest).map (·, [])
    else if !isSwitch a then (sc.addPlain g [a]).bind fun g => read sc g rest
    else
      let found := match a with
        | '-' :: '-' :: name => sc.readName g name
        | _ => sc.readLetters g (a.drop 1)
      match found, rest with
      | .error e, _ => .error e
      | .ok (g, .nothing), rest => read sc g rest
      | .ok (_, .valueOf _), [] => .error .usage
      | .ok (g, .valueOf s), value :: rest =>
        if isSwitch value then .error .usage else (g.add s value).bind fun g => read sc g rest

end Scope
end CommandLine
end Recipients
