import Recipients.Json.Parser
import Recipients.Settings

/-
  Settings as they are stored: a JSON object with a member for each setting. A setting without a
  member has its default, members that are no settings are passed over, and no setting has two
  members. An array is read as the settings in their order.
-/

namespace Recipients
namespace Settings

/-- One setting as it is stored. -/
structure Entry where
  key : String
  /-- Takes the value over into the settings, if it is of the right kind. -/
  set : Json → Settings → Option Settings
  written : Settings → Text

/-- A control character below 32 without an escape of its own. -/
def hexEscape (c : Char) : Text :=
  "\\u00".toList ++ [Nat.digitChar (c.toNat / 16), Nat.digitChar (c.toNat % 16)]

def escape (c : Char) : Text :=
  if c = '"' then ['\\', '"']
  else if c = '\\' then ['\\', '\\']
  else if c.toNat = 8 then ['\\', 'b']
  else if c.toNat = 9 then ['\\', 't']
  else if c.toNat = 10 then ['\\', 'n']
  else if c.toNat = 12 then ['\\', 'f']
  else if c.toNat = 13 then ['\\', 'r']
  else if c.toNat < 32 then hexEscape c
  else [c]

def quoted (t : Text) : Text := '"' :: t.flatMap escape ++ ['"']

namespace Entry

def ofBool (key : String) (get : Settings → Bool) (put : Bool → Settings → Settings) : Entry where
  key := key
  set
    | .bool b, s => some (put b s)
    | _, _ => none
  written s := if get s then "true".toList else "false".toList

def ofText (key : String) (get : Settings → Text) (put : Text → Settings → Settings) : Entry where
  key := key
  set
    | .string units, s => (Json.text? units).map (put · s)
    | _, _ => none
  written s := quoted (get s)

def ofText? (key : String) (get : Settings → Option Text)
    (put : Option Text → Settings → Settings) : Entry where
  key := key
  set
    | .null, s => some (put none s)
    | .string units, s => (Json.text? units).map fun t => put (some t) s
    | _, _ => none
  written s := match get s with
    | none => "null".toList
    | some t => quoted t

/-- Numbers of up to 64 bits. -/
def ofNat (key : String) (get : Settings → Nat) (put : Nat → Settings → Settings) : Entry where
  key := key
  set
    | .number (some n), s => if n < UInt64.size then some (put n s) else none
    | _, _ => none
  written s := Nat.toDigits 10 (get s)

end Entry

/-- The settings in the order in which they are stored. -/
def entries : List Entry := [
  .ofBool "use_domain" useDomain fun b s => { s with useDomain := b },
  .ofText? "hostname" hostname fun t s => { s with hostname := t },
  .ofBool "hidden_host" hiddenHost fun b s => { s with hiddenHost := b },
  .ofBool "idn_encode" encodeDomains fun b s => { s with encodeDomains := b },
  .ofBool "idn_decode" decodeDomains fun b s => { s with decodeDomains := b },
  .ofText "charset" charset fun t s => { s with charset := t },
  .ofText? "config_charset" aliasCharset fun t s => { s with aliasCharset := t },
  .ofText? "alias_file" aliasFile fun t s => { s with aliasFile := t },
  .ofText? "from" sender fun t s => { s with sender := t },
  .ofText? "username" username fun t s => { s with username := t },
  .ofText "gecos_mask" nameMask fun t s => { s with nameMask := t },
  .ofNat "wrap_columns" wrapColumns fun n s => { s with wrapColumns := n }]

/-- Takes members over; `seen` holds the keys of the settings that had a member before. -/
def setMembers (seen : List Text) (s : Settings) :
    List (List (Option Char) × Json) → Option Settings
  | [] => some s
  | (units, value) :: rest => do
    let key ← Json.text? units
    match entries.find? fun e => e.key.toList == key with
    | none => setMembers seen s rest
    | some e => if seen.contains key then none else setMembers (key :: seen) (← e.set value s) rest

/-- Takes values over for one setting after the other. -/
def setItems (s : Settings) : List Entry → List Json → Option Settings
  | _, [] => some s
  | [], _ :: _ => none
  | e :: es, value :: rest => do setItems (← e.set value s) es rest

def ofJson : Json → Option Settings
  | .object members => setMembers [] {} members
  | .array items => setItems {} entries items
  | _ => none

/-- The settings in a text, which `readJson` takes for JSON. -/
def ofText (readJson : Text → Option Json) (t : Text) : Option Settings := (readJson t).bind ofJson

/-- One member, on a line of its own. -/
def member (s : Settings) (e : Entry) : Text :=
  [' ', ' '] ++ quoted e.key.toList ++ [':', ' '] ++ e.written s

/-- The text that is stored. -/
def toText (s : Settings) : Text :=
  ['\x7b', '\n'] ++ Text.join [',', '\n'] (entries.map s.member) ++ ['\n', '\x7d']

variable {m : Type → Type} [Monad m]

/-- The settings in a file; a missing file holds the defaults. -/
def load (files : Files m) (readJson : Text → Option Json) (path : Text) :
    m (Except Failure Settings) := do
  match ← files.readText path with
  | .error .notFound => return .ok {}
  | .error e => return .error (.file e)
  | .ok t =>
    match ofText readJson t with
    | some s => return .ok s
    | none => return .error .settings

end Settings
end Recipients
