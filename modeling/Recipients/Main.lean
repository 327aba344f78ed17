import Recipients.CommandLine.Run

/-
  The program `addrbook`.
-/

namespace Recipients

def FileError.ofIO : IO.Error → FileError
  | .noFileOrDirectory .. => .notFound
  | .permissionDenied .. => .denied
  | .inappropriateType _ code _ => if code = 21 then .isDirectory else .notDirectory
  | e => .other (toString e).toList

namespace Files

/-- The outcome of an action on files. -/
def attempt (action : IO α) : IO (Except FileError α) := do
  match ← action.toBaseIO with
  | .ok a => return .ok a
  | .error e => return .error (.ofIO e)

def readReal (path : Text) : IO (Except FileError Bytes) :=
  attempt do return (← IO.FS.readBinFile (String.ofList path)).toList

def appendReal (path : Text) (bs : Bytes) : IO (Except FileError Unit) :=
  attempt do
    let handle ← IO.FS.Handle.mk (String.ofList path) .append
    handle.write ⟨bs.toArray⟩
    handle.flush

/-- The files of the machine. -/
def real : Files IO where
  isThere path := do
    match ← attempt (IO.FS.Handle.mk (String.ofList path) .read) with
    | .ok _ | .error .denied => return true
    | .error _ => return false
  read := readReal
  extend path more := do
    match ← readReal path with
    | .ok contents => appendReal path (more contents)
    | .error .notFound => appendReal path (more [])
    | .error e => return .error e

end Files

namespace Environment

def getText? (name : String) : IO (Option Text) := return (← IO.getEnv name).map String.toList

def real : IO Environment :=
  return {
    user := ← getText? "USER"
    logname := ← getText? "LOGNAME"
    home := ← getText? "HOME"
    configHome := ← getText? "XDG_CONFIG_HOME" }

end Environment

namespace CommandLine

/-- The users of the machine, as far as they are known. -/
def realUsers : IO Directory := do
  match ← Files.real.readText "/etc/passwd".toList with
  | .ok t => return Directory.ofText t
  | .error _ => return []

def runReal (args : List String) : IO UInt32 := do
  let outcome ← run Files.real .standard .standard (← Environment.real) (← realUsers)
    (args.map String.toList)
  (← IO.getStdout).putStr (String.ofList outcome.stdout)
  (← IO.getStderr).putStr (String.ofList outcome.stderr)
  return outcome.code.toUInt32

end CommandLine
end Recipients

def main (args : List String) : IO UInt32 := Recipients.CommandLine.runReal args
