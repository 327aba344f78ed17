import Recipients.Files

/-
  What the process knows of the user: who it is and where the user's settings lie.
-/

namespace Recipients

structure Environment where
  user : Option Text := none
  logname : Option Text := none
  home : Option Text := none
  configHome : Option Text := none
  deriving DecidableEq, Repr

namespace Environment

/-- The login, which may be empty. -/
def login? (env : Environment) : Option Text := env.user.or env.logname

/-- The directory for settings of all programs: the one that is set, if it begins at the root, or
    else the one in the home directory. -/
def settingsDirectory (env : Environment) : Text :=
  match env.configHome.filter Files.isAbsolute, env.home with
  | some directory, _ => directory
  | none, some home => Files.join home ".config".toList
  | none, none => ['.']

/-- The directory for the settings of this program. -/
def directory (env : Environment) : Text := Files.join env.settingsDirectory "addrbook".toList

def settingsPath (env : Environment) : Text := Files.join env.directory "config.json".toList

def aliasPath (env : Environment) : Text := Files.join env.directory "aliases".toList

end Environment
end Recipients
