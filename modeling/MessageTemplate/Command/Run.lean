import MessageTemplate.Cache
import MessageTemplate.Command.Assignment
import MessageTemplate.Command.Log
import MessageTemplate.Command.Options
import MessageTemplate.Template.Render
import MessageTemplate.Token.Description

/-!
# The command

The command renders a template with the properties of the command line, or describes its tokens. It
prints its whole result, or it prints an error and nothing else.

* `Environment`: what the command finds around it.
* `Options.answer`: the result, or the error that comes first. The settings are read before the
  properties, and where tokens are described the properties are not read at all.
* `Options.exceeds`: a rendering that comes to a number which the system does not write.
* `Outcome`, `respond`: the exit status and the texts for the two outputs.
* `Options.log`, `report`: what is logged.
-/

namespace MessageTemplate

/-- What the command finds around it. -/
structure Environment where
  /-- The template to use when no argument gives one. -/
  template : Option Text := none
  /-- The content of the file of a path, or why it cannot be read. -/
  contents : Text → Except SystemError ByteArray
  /-- The path of the settings file of the user, if it leads to a file, which may be unreadable. -/
  userSettings : Option Text := none
  /-- What the reader of settings has to say about the file of a path if it is malformed. -/
  complaint : Text → String := fun _ => ""
  /-- Whether the output is a terminal. -/
  terminal : Bool := false
  /-- Which events are to be logged, if that is not left to the command. -/
  logs : Option (LogEvent → Bool) := none

/-- A description is easier to read on a terminal. -/
def Environment.layout (env : Environment) : Json.Layout :=
  if env.terminal then .indented else .oneLine

/-- What the command leaves behind. What the log says is not part of it, and neither is what the
system says when it ends the program. -/
structure Outcome where
  exitCode : Nat
  output : Text
  errors : Text
  deriving Repr, DecidableEq

namespace Options

variable (o : Options) (env : Environment)

/-- The path of the settings file that is asked for, or else of the user's. -/
def settingsFile : Option Text := o.config.or env.userSettings

/-- The limits of the settings file, or else the usual. -/
def limits : Except Error Limits :=
  match o.settingsFile env with
  | some path =>
    match env.contents path with
    | .ok content => Limits.ofFile content
    | .error e => .error (.system e)
  | none => .ok .usual

/-- The words for malformed settings. -/
def complaint : String := ((o.settingsFile env).map env.complaint).getD ""

/-- The text of the template that is given by an argument, or else by the environment. -/
def templateText : Text := (o.template.or env.template).getD []

/-- The source that binds the properties; of several with one name the last counts. -/
def source (properties : List Assignment) : Source :=
  .ofHashMap (.ofList (properties.map fun a => (a.name, a.value.toValue)))

/-- The result, which ends with a line feed. -/
def answer : Except Error Text := do
  let limits ← o.limits env
  let template := (({ limits } : Cache).getOrParse (o.templateText env)).1.template
  if o.tokens then
    return template.describe.write env.layout 0 ++ ['\n']
  let properties ← o.properties.mapM Assignment.read
  let text ← template.renderToText (source properties) none
  return text ++ ['\n']

/-- Whether the rendering is begun and comes to a number that the system does not write. -/
def exceeds : Bool :=
  match o.limits env, o.tokens, o.properties.mapM Assignment.read with
  | .ok _, false, .ok properties =>
    (Template.parse (o.templateText env)).exceeds (Assignment.last? properties)
  | _, _, _ => false

/-- What the cache reports. -/
def reports : List Cache.Event :=
  match o.limits env with
  | .ok limits => (({ limits } : Cache).getOrParse (o.templateText env)).2.2
  | .error _ => []

/-- The events that are logged: the settings file of the user, if it is the one that is read, and the
reports of the cache, as far as they are asked for. -/
def log : List LogEvent :=
  let loading := if o.config.isNone then env.userSettings.toList else []
  (loading.map LogEvent.loading ++ (o.reports env).map LogEvent.cache).filter
    (env.logs.getD fun e => o.debug && e.isDebug)

end Options

/-- The lines of the help text. -/
def helpLines : List String := [
  "mtpl - Structured message template parser and renderer",
  "",
  "USAGE:",
  "    mtpl [OPTIONS] [TEMPLATE]",
  "",
  "ARGS:",
  "    <TEMPLATE>         Message template (default from MTPL_TEMPLATE env var)",
  "",
  "OPTIONS:",
  "    -p, --property <NAME=VALUE>  Property value used while rendering (repeatable)",
  "    -t, --tokens                 Print the parsed tokens as JSON instead of rendering",
  "    -c, --config <FILE>          Cache configuration file (TOML)",
  "    -d, --debug                  Log cache activity to stderr",
  "    -h, --help                   Print help",
  "    -V, --version                Print version"]

/-- What the command prints when it is asked for help. -/
def helpText : String := String.join (helpLines.map (· ++ "\n"))

/-- What the command prints when it is asked for its version. -/
def versionText : String := "mtpl 0.1.0\n"

namespace Outcome

/-- A result is printed. -/
def success (output : Text) : Outcome := ⟨0, output, []⟩

/-- Only an error is printed. -/
def failure (errors : String) : Outcome := ⟨1, [], errors.toList⟩

/-- The system ends the program, which has printed nothing yet. The code is that of an abort. -/
def aborted : Outcome := ⟨134, [], []⟩

/-- The outcome of a result. -/
def ofAnswer (complaint : String) : Except Error Text → Outcome
  | .ok output => success output
  | .error e => failure ("Error: " ++ e.message complaint ++ "\n")

end Outcome

/-- What the command does with its arguments. -/
def respond (arguments : List Text) (env : Environment) : Outcome :=
  match Request.ofArguments arguments with
  | .ok .help => .success helpText.toList
  | .ok .version => .success versionText.toList
  | .ok (.run o) =>
    if o.exceeds env then .aborted else .ofAnswer (o.complaint env) (o.answer env)
  | .error f => .failure ("Error: " ++ f.message ++ "\nTry 'mtpl --help' for more information.\n")

/-- What the command logs, in order. It goes to the output for errors, in front of the errors. -/
def report (arguments : List Text) (env : Environment) : List LogEvent :=
  match Request.ofArguments arguments with
  | .ok (.run o) => o.log env
  | _ => []

end MessageTemplate
