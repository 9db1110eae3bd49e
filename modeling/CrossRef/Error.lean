/-!
The failures of the library, each a cause with its own words.

An input-output failure of the host (a missing file, a refused connection, a closed pipe) is an
`IoFailure`, worded as the operating system words it. The library's own errors wrap such
failures with what was being done (`transport`), or say what went wrong with the analyzer's
answer (`protocol`), what the analyzer reported (`analyzer`), what is wrong with the
configuration (`config`, `tomlParse`), that a buffer is not open (`unknownBuffer`), or that a
value could not be decoded (`json`).
-/

namespace CrossRef

/-- A failure of the host's input and output. -/
inductive IoFailure where
  | notFound
  | brokenPipe
  | connectionRefused
  | networkUnreachable
  | invalidSocketAddress
  | isDirectory
  | permissionDenied
  | other (text : String)
  deriving DecidableEq, Repr, Inhabited

/-- How the host words a failure. -/
def IoFailure.message : IoFailure → String
  | .notFound => "No such file or directory (os error 2)"
  | .brokenPipe => "Broken pipe (os error 32)"
  | .connectionRefused => "Connection refused (os error 111)"
  | .networkUnreachable => "Network is unreachable (os error 101)"
  | .invalidSocketAddress => "invalid socket address"
  | .isDirectory => "Is a directory (os error 21)"
  | .permissionDenied => "Permission denied (os error 13)"
  | .other text => text

/-- The failure in the operating system's words, without its number. -/
def IoFailure.text : IoFailure → String
  | .notFound => "No such file or directory"
  | .brokenPipe => "Broken pipe"
  | .connectionRefused => "Connection refused"
  | .networkUnreachable => "Network is unreachable"
  | .invalidSocketAddress => "invalid socket address"
  | .isDirectory => "Is a directory"
  | .permissionDenied => "Permission denied"
  | .other text => text

/-- The errors of the library. -/
inductive Error where
  /-- Sending to or receiving from the analyzer failed while doing `context`. -/
  | transport (context : String) (cause : String)
  /-- The analyzer's answer is not a complete, well-formed line. -/
  | protocol (message : String)
  /-- The analyzer reported a failure. -/
  | analyzer (message : String)
  /-- The configuration cannot be used. -/
  | config (message : String)
  /-- A buffer that is not open. -/
  | unknownBuffer (buffer : Nat)
  /-- A file could not be read. -/
  | io (cause : IoFailure)
  /-- A value could not be decoded. -/
  | json (message : String)
  /-- The configuration file is not valid. -/
  | tomlParse (message : String)
  deriving Inhabited

namespace Error

/-- The name of the error's kind. -/
def kind : Error → String
  | .transport .. => "Transport"
  | .protocol _ => "Protocol"
  | .analyzer _ => "Analyzer"
  | .config _ => "Config"
  | .unknownBuffer _ => "UnknownBuffer"
  | .io _ => "Io"
  | .json _ => "Json"
  | .tomlParse _ => "TomlParse"

/-- The error in words. -/
def message : Error → String
  | .transport context cause => "Transport error: " ++ context ++ ": " ++ cause
  | .protocol m => "Protocol error: " ++ m
  | .analyzer m => "Analyzer error: " ++ m
  | .config m => "Configuration error: " ++ m
  | .unknownBuffer b => "Buffer not open: buffer#" ++ toString b
  | .io cause => "IO error: " ++ cause.message
  | .json m => "JSON error: " ++ m
  | .tomlParse m => "TOML parse error: " ++ m

/-- A transport failure. -/
def isTransport : Error → Bool
  | .transport .. => true
  | _ => false

end Error

end CrossRef
