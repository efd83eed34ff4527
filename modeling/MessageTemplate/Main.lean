import MessageTemplate.Command.Run

/-!
# The program

Reads the arguments, the environment and the settings file, and prints the log and the outcome.
-/

namespace MessageTemplate.Main

/-- Whether a code is a number of the system, which may come negated. -/
def isCode (code number : UInt32) : Bool := code == number || code == 0 - number

/-- The answer of the system to a file that could not be read. -/
def ofSystem : IO.Error → SystemError
  | .noFileOrDirectory .. | .noSuchThing .. => .notFound
  | .inappropriateType _ code _ => if isCode code 20 then .notDirectory else .isDirectory
  | .invalidArgument _ code reason => if isCode code 36 then .nameTooLong else .other reason
  | .permissionDenied .. => .permissionDenied
  | e => .other (toString e)

/-- The content of a file, or the answer of the system. -/
def contents (path : Text) : IO (Except SystemError ByteArray) := do
  try
    return .ok (← IO.FS.readBinFile (String.ofList path))
  catch e =>
    return .error (ofSystem e)

/-- The settings file of the user, in the directory for settings. -/
def userEntry? : IO (Option IO.FS.DirEntry) := do
  let own := (← IO.getEnv "XDG_CONFIG_HOME").filter (·.startsWith "/")
  let home := (← IO.getEnv "HOME").filter (· != "")
  return (own.or (home.map (· ++ "/.config"))).map fun directory =>
    let root := directory ++ "/mtpl"
    { root := ↑root, fileName := "config.toml" }

/-- Whether a path leads to a file. -/
def isFile (entry : IO.FS.DirEntry) : IO Bool := do
  try
    return (← entry.path.metadata).type == .file
  catch _ =>
    return false

/-- The path of the settings file of the user, if it leads to a file. -/
def userSettings : IO (Option Text) := do
  match ← userEntry? with
  | some entry => return if ← isFile entry then some entry.path.toString.toList else none
  | none => return none

/-- The words for malformed settings, wherever they are read from. -/
def complaint : String := "expected the limits of the cache as whole numbers"

/-- What a list of arguments finds around it. The only file that is looked up is the settings file,
and what is logged is left to the command. -/
def environment (arguments : List Text) : IO Environment := do
  let template := (← IO.getEnv "MTPL_TEMPLATE").map String.toList
  let terminal ← (← IO.getStdout).isTty
  let bare : Environment :=
    { template, contents := fun _ => .error .notFound, complaint := fun _ => complaint, terminal }
  match Request.ofArguments arguments with
  | .ok (.run o) =>
    let env := { bare with userSettings := ← userSettings }
    match o.settingsFile env with
    | some path =>
      let content ← contents path
      return { env with contents := fun _ => content }
    | none => return env
  | _ => return bare

end MessageTemplate.Main

open MessageTemplate in
/-- Log, print the outcome, and exit with its code. -/
def main (arguments : List String) : IO UInt32 := do
  let arguments := arguments.map String.toList
  let env ← Main.environment arguments
  let outcome := respond arguments env
  for event in report arguments env do
    IO.eprintln event.line
  IO.print (String.ofList outcome.output)
  IO.eprint (String.ofList outcome.errors)
  return UInt32.ofNat outcome.exitCode
