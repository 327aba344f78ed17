import Recipients.Pattern
import Recipients.Unicode.Capital

/-
  The users of the machine and their real names. An account's description holds the name among other
  details; a mask tells which part it is, and an ampersand in it stands for the login with a
  capital.
-/

namespace Recipients

structure Account where
  login : Text
  description : Text
  deriving DecidableEq, Repr

/-- Accounts in order; the first one with a login counts. -/
abbrev Directory := List Account

namespace Account

/-- Reads a line `login:password:uid:gid:description:…`. -/
def ofLine? (line : Text) : Option Account :=
  match line with
  | '#' :: _ => none
  | _ =>
    match Text.splitWhen (· == ':') line with
    | (c :: login) :: _ :: _ :: _ :: description :: _ => some ⟨c :: login, description⟩
    | _ => none

def capitalized : Text → Text
  | [] => []
  | c :: r => Unicode.capital c ++ r

/-- The real name: the part of the description that the mask selects, or else the part before the
    first comma. -/
def realName (mask : Pattern) (a : Account) : Text :=
  let selected := (mask.find a.description).getD (a.description.takeWhile (· != ','))
  Text.trim (selected.flatMap fun c => if c = '&' then capitalized a.login else [c])

end Account

namespace Directory

/-- The accounts of a password file; lines that hold none are passed over. -/
def ofText (t : Text) : Directory := (Text.lines t).filterMap Account.ofLine?

def lookup? (d : Directory) (login : Text) : Option Account := d.find? fun a => a.login == login

/-- Adds an account, in the place of one with the same login. -/
def insert (d : Directory) (a : Account) : Directory := a :: d.filter fun b => b.login != a.login

/-- The real name of the user with a login, if there is one. -/
def realName? (d : Directory) (mask : Pattern) (login : Text) : Option Text :=
  ((d.lookup? login).map (·.realName mask)).filter fun n => !n.isEmpty

end Directory
end Recipients
