import CrossRef.Wire.Request
import CrossRef.Wire.Response
/-!
Something that answers analyzer requests.

A transport takes a request to the analyzer's answer, in some monad: the state of a scripted
peer, the state of a simulated host, or the real world. Every failure is surfaced to the caller
and nothing is retried.
-/

namespace CrossRef

/-- Something that answers analyzer requests, in a monad. -/
abbrev Transport (m : Type → Type) := Request → m (Except Error Response)

end CrossRef
