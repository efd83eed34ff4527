import MessageTemplate.Text.Basic

/-!
# Errors

What can go wrong, by cause, and the message for each cause.

* `SystemError`: what a byte sink or a file may answer.
* `Limit`: the limits of a cache, by name.
* `Error`: the causes of a failure. `Error.message` words them.
-/

namespace MessageTemplate

/-- What a byte sink or a file may answer instead of doing its work. -/
inductive SystemError where
  /-- The sink takes no more bytes and says so. -/
  | sinkFull
  /-- The sink took none of the bytes that it was given. -/
  | nothingWritten
  | notFound
  | isDirectory
  /-- A part of the path before the last is no directory. -/
  | notDirectory
  /-- The path, or a part of it, is too long. -/
  | nameTooLong
  | permissionDenied
  /-- The bytes are not the UTF-8 form of a text. -/
  | invalidUtf8
  /-- Anything else, in the words of the system. -/
  | other (reason : String)
  deriving Repr, DecidableEq

/-- The wording of the system, with its number where there is one. -/
def SystemError.message : SystemError → String
  | sinkFull => "sink full"
  | nothingWritten => "failed to write whole buffer"
  | notFound => "No such file or directory (os error 2)"
  | isDirectory => "Is a directory (os error 21)"
  | notDirectory => "Not a directory (os error 20)"
  | nameTooLong => "File name too long (os error 36)"
  | permissionDenied => "Permission denied (os error 13)"
  | invalidUtf8 => "stream did not contain valid UTF-8"
  | other reason => reason

/-- The limits of a cache. -/
inductive Limit where
  | maxItems
  /-- The length of a template in characters. -/
  | maxTemplateLength
  deriving Repr, DecidableEq

/-- The key of a limit in settings, which also names it in errors. -/
def Limit.name : Limit → String
  | maxItems => "max_items"
  | maxTemplateLength => "max_template_len"

/-- Why an operation failed. -/
inductive Error where
  /-- A value could not be rendered, or a text sink is full. -/
  | rejectedWrite
  /-- A byte sink or a file failed. -/
  | system (cause : SystemError)
  /-- A text is no settings text. -/
  | malformedSettings
  /-- A limit is zero. -/
  | zeroLimit (limit : Limit)
  /-- An argument is not of the form `NAME=VALUE`. -/
  | malformedProperty (argument : Text)
  deriving Repr, DecidableEq

/-- The wording of an error. What is wrong with a settings text is told in the words of the reader of
settings, the `complaint`. -/
def Error.message (complaint : String) : Error → String
  | rejectedWrite => "Output sink rejected a write"
  | system cause => "I/O error: " ++ cause.message
  | malformedSettings => "Invalid configuration: " ++ complaint
  | zeroLimit limit => "Cache limit '" ++ limit.name ++ "' must be greater than zero"
  | malformedProperty argument =>
    "Invalid property '" ++ String.ofList argument ++ "'. Expected NAME=VALUE"

end MessageTemplate
