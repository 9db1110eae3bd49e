import CrossRef.Json.Writer
import CrossRef.Text.Base64
/-!
Requests to the analyzer.

A request is one JSON object on one line: its operation under `op`, the project root under
`root-path`, and the operation's own fields, written in this order. Buffer text travels as the
Base64 of its UTF-8 bytes, so a request line never holds a raw newline: strings in JSON escape
their control characters, and the line ends with the only newline.
-/

namespace CrossRef

/-- What can be asked of the analyzer. -/
inductive Request where
  /-- Analysis and findings for a whole project. -/
  | diagnostics (root : String)
  /-- Path-based analysis of a project. -/
  | analyzePaths (root : String)
  /-- Analysis of unsaved buffer text. -/
  | analyzeText (root filename text : String)
  /-- The namespace definitions of a project. -/
  | namespaceDefinitions (root : String)
  /-- What the analyzer resolves at a position. -/
  | findDefinitions (root filename : String) (row col : Nat)
  deriving DecidableEq, Repr, Inhabited

namespace Request

/-- The operation a request is sent with. -/
def op : Request → String
  | .diagnostics _ => "v1/diagnostics"
  | .analyzePaths _ => "v1/analyze_paths"
  | .analyzeText .. => "v1/analyze_text"
  | .namespaceDefinitions _ => "v1/namespace_definitions"
  | .findDefinitions .. => "v1/find_definitions"

/-- The fields after `op` and `root-path`. -/
def ownFields : Request → List (String × Json)
  | .analyzeText _ filename text =>
    [("text", .string (Base64.encodeText text)), ("filename", .string filename)]
  | .findDefinitions _ filename row col =>
    [("filename", .string filename), ("row", .ofNat row), ("col", .ofNat col)]
  | _ => []

/-- The project root of a request. -/
def root : Request → String
  | .diagnostics r | .analyzePaths r | .namespaceDefinitions r => r
  | .analyzeText r .. | .findDefinitions r .. => r

/-- A request as JSON, its fields in order. -/
def toJson (r : Request) : Json :=
  .object ([("op", .string r.op), ("root-path", .string r.root)] ++ r.ownFields)

/-- **The line sent for a request**, newline included. -/
def encode (r : Request) : String := Json.render r.toJson ++ "\n"

end Request

end CrossRef
