import CrossRef.Record.Lists
import CrossRef.Record.Encode
import CrossRef.Error
/-!
Responses from the analyzer.

A response is one JSON object on one line. Its keys `analysis` and `findings` carry an analysis
and its findings, both empty when absent; a string under `error` means the analyzer failed the
request; every other key is kept in the response's extra map.

Decoding a line takes three checks in turn: the line must end with its newline; what comes
before it must be a well-formed response; and a response carrying an error fails the request
with the analyzer's message.
-/

namespace CrossRef

open CrossRef.Json CrossRef.Record

/-- An analyzer's answer. -/
structure Response where
  analysis : Analysis := {}
  findings : List Finding := []
  error : Option String := none
  extra : Extra := []
  deriving Inhabited

namespace Response

/-- A response being read, with the keys already seen and the others set aside. -/
structure Progress where
  response : Response := {}
  seen : List String := []
  setAside : List (String × Json) := []

/-- One entry of a response. -/
def readEntry (depth : Nat) (p : Progress) (k : String) : Reader Progress := do
  let known := ["analysis", "findings", "error"]
  if known.contains k then
    if p.seen.contains k then Reader.failValue (duplicateField k)
    else
      Reader.colon
      let r := p.response
      let r ← match k with
        | "analysis" => do pure { r with analysis := ← Analysis.read depth }
        | "findings" => do pure { r with findings := ← Reader.sequence depth Finding.schema.read }
        | _ => do pure { r with error := ← Reader.optional Reader.text }
      pure { p with response := r, seen := k :: p.seen }
  else
    Reader.colon
    let v ← Reader.anyValue depth
    pure { p with setAside := (k, v) :: p.setAside }

/-- **A response from text.** -/
def read (depth : Nat) : Reader Response :=
  Reader.object depth "struct Response" fun d => do
    let p ← Reader.entries ({} : Progress) (readEntry d)
    pure { p.response with extra := Json.toMap p.setAside.reverse }

/-- **Decode one line** of the analyzer's output. -/
def decode (line : ByteArray) : Except Error Response :=
  if Utf8.byteAt line (line.size - 1) ≠ some 10 then
    .error (.protocol ("response of " ++ toString line.size ++ " bytes is not newline-terminated"))
  else
    let payload := line.extract 0 (line.size - 1)
    match (Reader.whole (read Reader.depthLimit)).run payload with
    | (.error e, _) => .error (.protocol ("malformed response: " ++ e.render payload))
    | (.ok r, _) =>
      match r.error with
      | some m => .error (.analyzer m)
      | none => .ok r

/-- The report a response carries. -/
def toReport (r : Response) : Report := { analysis := r.analysis, findings := r.findings }

/-- A response as JSON: the analysis, the findings, the error if any, then the extra map. -/
def toJson (r : Response) : Json :=
  .object ([("analysis", r.analysis.toJson), ("findings", .array (r.findings.map Finding.toJson))] ++
    optionalField "error" Json.string r.error ++ r.extra)

end Response

end CrossRef
