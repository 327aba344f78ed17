import Recipients.CommandLine.Switch

/-
  What the user asks for: one action, the file with the settings and more files to run.
-/

namespace Recipients
namespace CommandLine

inductive Action where
  | expand (addresses : List Text) (display : Bool)
  | aliases (tag : Option Text)
  | check (addresses : List Text)
  | add (name : Text) (addresses : List Text) (comment : Option Text) (tags : List Text)
    (fixName : Bool)
  deriving DecidableEq, Repr

structure Invocation where
  config : Option Text
  sources : List Text
  action : Action
  deriving DecidableEq, Repr

/-- The actions by name. -/
inductive ActionName where
  | expand
  | aliases
  | check
  | add
  | help
  deriving DecidableEq, Repr

namespace ActionName

def names : List (String × ActionName) :=
  [("expand", expand), ("aliases", aliases), ("ls", aliases), ("check", check), ("add", add),
    ("help", help)]

def ofText? (t : Text) : Option ActionName :=
  (names.find? fun n => n.1.toList == t).map Prod.snd

/-- The switches of an action. -/
def switches : ActionName → List Switch
  | expand => [.display]
  | aliases => [.tag]
  | add => [.comment, .tags, .fixName]
  | check | help => []

def limit : ActionName → Option Nat
  | aliases => some 0
  | help => some 1
  | _ => none

end ActionName

/-- Switches that stand before an action or after it. -/
def commonSwitches : List Switch := [.config, .source, .help, .version]

/-- Where the action is looked for. -/
def outerScope : Scope where
  switches := commonSwitches
  limit := some 0
  ends a := (ActionName.ofText? a).isSome

def innerScope (name : ActionName) : Scope where
  switches := commonSwitches ++ name.switches
  limit := name.limit
  ends _ := false

/-- The action that the arguments after its name describe. -/
def Action.ofGiven (g : Given) : ActionName → Except Refusal Action
  | .expand =>
    if g.plain.isEmpty then .error .usage else .ok (.expand g.plain (g.has .display))
  | .aliases => .ok (.aliases (g.value? .tag))
  | .check => if g.plain.isEmpty then .error .usage else .ok (.check g.plain)
  | .add =>
    match g.plain with
    | name :: a :: addresses =>
      .ok (.add name (a :: addresses) (g.value? .comment)
        ((g.values .tags).flatMap (Text.splitWhen (· == ','))) (g.has .fixName))
    | _ => .error .usage
  | .help =>
    if g.plain.all fun t => (ActionName.ofText? t).isSome then .error .help else .error .usage

/-- Reads the arguments. Common switches after the action take the place of those before it. -/
def Invocation.ofArguments (args : List Text) : Except Refusal Invocation := do
  let (outer, rest) ← outerScope.read {} args
  match rest with
  | [] => .error .usage
  | word :: rest =>
    match ActionName.ofText? word with
    | none => .error .usage
    | some name =>
      let (inner, _) ← (innerScope name).read {} rest
      let action ← Action.ofGiven inner name
      return {
        config := (inner.value? .config).or (outer.value? .config)
        sources := if inner.has .source then inner.values .source else outer.values .source
        action }

end CommandLine
end Recipients
