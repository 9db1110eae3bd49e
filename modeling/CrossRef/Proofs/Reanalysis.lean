import Mathlib
import CrossRef.Session
import CrossRef.Proofs.StoreMap
/-!
Analysing a buffer: one request, then a swap or nothing.

`Session.analyze` checks that the buffer is open before it asks anything, so an unopened buffer
fails at once and the transport is never called. For an open buffer it sends one `analyze_text`
request carrying the root, the file name and the Base64 of the text, and the rest of the call is
a pure function of the transport's answer (`Session.analyze_eq`). An answer replaces the buffer's
snapshot by the one built from it and returns that snapshot's counts; an error comes back as the
transport gave it, with the session as it was. The equation holds in every monad and for every
transport, so the one request is all that happens: with a scripted analyzer the log of lines sent
grows by exactly that request's line, or not at all (`Session.sent_analyze`).

Replacing an open buffer's snapshot changes that entry's snapshot and nothing else
(`Store.get?_replace_of_isOpen`); no replacement touches a navigator (`Store.navigator?_replace`).

`Session.onEvent` runs `analyze` on the configured events, turning its counts into `true`, and
answers `false` on every other event without a request (`Session.onEvent_eq`).
-/

namespace CrossRef

namespace Store

/-- **Replacing an open buffer's snapshot** changes that buffer's snapshot and nothing else. -/
theorem get?_replace_of_isOpen (s : Store) {b : Nat} (h : s.isOpen b = true) (snap : Snapshot)
    (b' : Nat) :
    (s.replace b snap).1.get? b' =
      if b' = b then (s.get? b).map (fun st => { st with snapshot := snap }) else s.get? b' := by
  rw [replace, if_pos h]
  exact get?_modify s b b' _

/-- Replacing a snapshot keeps every navigator. -/
theorem navigator?_replace (s : Store) (b : Nat) (snap : Snapshot) (b' : Nat) :
    (s.replace b snap).1.navigator? b' = s.navigator? b' := by
  cases hopen : s.isOpen b
  · -- nothing is replaced in a buffer that is not open
    simp only [replace, hopen, Bool.false_eq_true, if_false]
  · rw [navigator?, get?_replace_of_isOpen s hopen, navigator?]
    by_cases hb : b' = b
    · -- the replaced entry keeps its navigator
      subst hb
      rw [if_pos rfl, Option.map_map]
      rfl
    · rw [if_neg hb]

end Store

namespace Session

variable {m : Type → Type} [Monad m]

/-- **What analysing does**: an unopened buffer fails before any request; an open one sends the
one `analyze_text` request, then swaps the snapshot built from the answer in, or returns the
transport's error with the session as it was. -/
theorem analyze_eq (t : Transport m) (s : Session) (b : Nat) (src : Source) :
    s.analyze t b src =
      if s.store.isOpen b then
        t (.analyzeText src.root src.filename src.text) >>= fun r => pure (match r with
          | .ok resp => ({ s with store := (s.store.replace b (Snapshot.build resp.toReport)).1 },
              .ok (Snapshot.build resp.toReport).stats)
          | .error e => (s, .error e))
      else pure (s, .error (.unknownBuffer b)) := by
  cases hopen : s.store.isOpen b
  · simp only [analyze, hopen, Bool.not_false, if_true, Bool.false_eq_true, if_false]
  · simp only [analyze, hopen, Bool.not_true, Bool.false_eq_true, if_false, if_true]
    congr 1
    funext r
    cases r with
    | error e => rfl
    | ok resp =>
      -- the buffer is open, so the replacement takes place
      have hreplaced : (s.store.replace b (Snapshot.build resp.toReport)).2 = true := by
        rw [Store.replace, if_pos hopen]
      simp only [hreplaced, if_true]

/-- **What an editor event does**: a configured event analyses and answers `true` for the counts;
any other event answers `false` and sends nothing. -/
theorem onEvent_eq (t : Transport m) (s : Session) (b : Nat) (e : EditorEvent) (src : Source) :
    s.onEvent t b e src =
      if e ∈ s.config.analyzeOn then
        s.analyze t b src >>= fun p => pure (p.1, p.2.map fun _ => true)
      else pure (s, .ok false) := by
  have htrig : s.config.triggersOn e = decide (e ∈ s.config.analyzeOn) := by
    simp [AnalysisConfig.triggersOn]
  by_cases he : e ∈ s.config.analyzeOn
  · simp only [onEvent, htrig, he, decide_true, Bool.not_true, Bool.false_eq_true, if_false,
      if_true]
  · simp only [onEvent, htrig, he, decide_false, Bool.not_false, if_true, if_false]

/-- A scripted analyzer logs the line of each request it answers. -/
theorem sent_transport (r : Request) (sc : Script) :
    ((Script.transport r).run sc).2.sent = sc.sent ++ [r.encode] := by
  cases hanswers : sc.answers <;>
    simp only [Script.transport, hanswers, StateT.run, modifyGet, MonadStateOf.modifyGet,
      StateT.modifyGet] <;> rfl

/-- **One line sent, or none**: with a scripted analyzer, analysing an open buffer logs exactly
the line of its `analyze_text` request, and analysing an unopened one logs nothing. -/
theorem sent_analyze (s : Session) (b : Nat) (src : Source) (sc : Script) :
    ((s.analyze Script.transport b src).run sc).2.sent =
      sc.sent ++ if s.store.isOpen b then [(Request.analyzeText src.root src.filename src.text).encode]
        else [] := by
  rw [analyze_eq]
  cases hopen : s.store.isOpen b
  · rw [if_neg Bool.false_ne_true, if_neg Bool.false_ne_true, List.append_nil]
    rfl
  · -- what follows the request is pure, so the log is the request's
    rw [if_pos rfl, if_pos rfl, StateT.run_bind]
    exact sent_transport _ sc

/-- **Analysing a buffer sends one request, then swaps its snapshot or changes nothing.** In any
monad and with any transport: an unopened buffer fails with `unknownBuffer` before any request;
an open one sends exactly one `analyze_text` request, with the root, the file name and the Base64
of the text's UTF-8 bytes, and then depends only on the answer. An answer replaces the buffer's
snapshot by the snapshot built from it and returns its counts; a transport error is returned with
the session exactly as it was. The replacement changes that buffer's snapshot only: its
navigator, every other navigator and every other buffer are kept. With a scripted analyzer the
lines sent grow by that one request's line exactly when the buffer is open. An editor event
analyses, answering `true` for the counts, exactly when it is configured, and otherwise answers
`false` without a request. -/
theorem analyze_requests_once_then_swaps (t : Transport m) (s : Session) (b : Nat) (src : Source) :
    s.analyze t b src =
      (if s.store.isOpen b then
        t (.analyzeText src.root src.filename src.text) >>= fun r => pure (match r with
          | .ok resp => ({ s with store := (s.store.replace b (Snapshot.build resp.toReport)).1 },
              .ok (Snapshot.build resp.toReport).stats)
          | .error e => (s, .error e))
      else pure (s, .error (.unknownBuffer b))) ∧
    (Request.analyzeText src.root src.filename src.text).toJson =
      .object [("op", .string "v1/analyze_text"), ("root-path", .string src.root),
        ("text", .string (Base64.encode src.text.toUTF8)), ("filename", .string src.filename)] ∧
    (∀ snap, s.store.isOpen b = true → ∀ b', (s.store.replace b snap).1.get? b' =
      if b' = b then (s.store.get? b).map (fun st => { st with snapshot := snap })
      else s.store.get? b') ∧
    (∀ snap b', (s.store.replace b snap).1.navigator? b' = s.store.navigator? b') ∧
    (∀ sc : Script, ((s.analyze Script.transport b src).run sc).2.sent =
      sc.sent ++ if s.store.isOpen b then [(Request.analyzeText src.root src.filename src.text).encode]
        else []) ∧
    (∀ e, s.onEvent t b e src =
      if e ∈ s.config.analyzeOn then
        s.analyze t b src >>= fun p => pure (p.1, p.2.map fun _ => true)
      else pure (s, .ok false)) :=
  ⟨analyze_eq t s b src, rfl, fun snap h => s.store.get?_replace_of_isOpen h snap,
    s.store.navigator?_replace b, sent_analyze s b src, fun e => onEvent_eq t s b e src⟩

end Session

end CrossRef
