import Mathlib
import CrossRef.Json.Reader.Value
import CrossRef.Proofs.Utf8Decoding
/-!
Running a reader, and what a reader reads.

A reader is run on some bytes with its cursor at an index (`Reader.runAt`); `Reader.run` is the run
from index 0. The monad's laws become equations of runs: a bind runs its first reader and hands
the result and the cursor to the second (`runAt_bind_ok`), a handler only sees failures
(`runAt_tryCatch_ok`), and the primitives look at the byte under the cursor.

The bytes are seen through what remains of them at the cursor, `B.data.toList.drop i`. A reader
*reads* a value off a list of bytes (`Reads`) when, wherever those bytes stand and whatever follows
them that passes a test, it succeeds with the value and leaves the cursor just past them. The test
on what follows is the reader's look-ahead: a number ends only at a byte that cannot continue it.
Reading composes (`Reads.bind`): a reader followed by another reads the concatenation, provided
what the second reader lets follow passes the first reader's test once its own bytes are put in
front.
-/

namespace CrossRef.Json.Reader

/-- A reader run on some bytes with its cursor at `i`: its outcome and where the cursor stops. -/
def runAt {α : Type} (r : Reader α) (bytes : ByteArray) (i : Nat) : Except ReadError α × Nat :=
  (ExceptT.run (ReaderT.run r bytes)).run i

variable {α β : Type} {B : ByteArray} {i j : Nat}

theorem run_eq_runAt (r : Reader α) (B : ByteArray) : r.run B = r.runAt B 0 := rfl

@[simp] theorem runAt_pure (a : α) : (pure a : Reader α).runAt B i = (.ok a, i) := rfl

@[simp] theorem runAt_throw (e : ReadError) : (throw e : Reader α).runAt B i = (.error e, i) := rfl

@[simp] theorem runAt_get : (get : Reader Nat).runAt B i = (.ok i, i) := rfl

@[simp] theorem runAt_set (j : Nat) : (set j : Reader Unit).runAt B i = (.ok (), j) := rfl

@[simp] theorem runAt_read : (read : Reader ByteArray).runAt B i = (.ok B, i) := rfl

@[simp] theorem runAt_peek : peek.runAt B i = (.ok (Utf8.byteAt B i), i) := rfl

@[simp] theorem runAt_bump : bump.runAt B i = (.ok (), i + 1) := rfl

@[simp] theorem runAt_budget : budget.runAt B i = (.ok (B.size - i + 2), i) := rfl

theorem runAt_bind (x : Reader α) (f : α → Reader β) :
    (x >>= f).runAt B i = match x.runAt B i with
      | (.ok a, j) => (f a).runAt B j
      | (.error e, j) => (.error e, j) := by
  unfold runAt
  rw [ReaderT.run_bind, ExceptT.run_bind, StateT.run_bind]
  rcases h : (ExceptT.run (ReaderT.run x B)).run i with ⟨_ | a, j⟩ <;> rfl

/-- **A bind whose first reader succeeds** goes on with the second from where the first stopped. -/
theorem runAt_bind_ok {x : Reader α} {a : α} (h : x.runAt B i = (.ok a, j)) (f : α → Reader β) :
    (x >>= f).runAt B i = (f a).runAt B j := by
  rw [runAt_bind, h]

theorem runAt_tryCatch (x : Reader α) (k : ReadError → Reader α) :
    (tryCatch x k).runAt B i = match x.runAt B i with
      | (.ok a, j) => (.ok a, j)
      | (.error e, j) => (k e).runAt B j := by
  unfold runAt
  show (ExceptT.run (tryCatch (x B) fun e => k e B)).run i = _
  simp only [tryCatch, MonadExcept.tryCatch, tryCatchThe, MonadExceptOf.tryCatch,
    ExceptT.tryCatch, ExceptT.run_mk, StateT.run_bind]
  rcases h : (ExceptT.run (ReaderT.run x B)).run i with ⟨_ | a, j⟩ <;>
    simp only [ReaderT.run] at h ⊢ <;> rw [show StateT.run (x B) i = _ from h] <;> rfl

/-- A handler is not run when the reader it guards succeeds. -/
theorem runAt_tryCatch_ok {x : Reader α} {a : α} (h : x.runAt B i = (.ok a, j))
    (k : ReadError → Reader α) : (tryCatch x k).runAt B i = (.ok a, j) := by
  rw [runAt_tryCatch, h]

theorem runAt_placed_ok {x : Reader α} {a : α} (h : x.runAt B i = (.ok a, j)) :
    (placed x).runAt B i = (.ok a, j) :=
  runAt_tryCatch_ok h _

theorem runAt_observe_ok {x : Reader α} {a : α} (h : x.runAt B i = (.ok a, j)) :
    (observe x).runAt B i = (.ok (.ok a), j) := by
  unfold observe
  rw [runAt_tryCatch_ok (a := .ok a) (by rw [runAt_bind_ok h]; rfl)]

/-- A container whose contents and end are both read is read. -/
theorem runAt_enclosed_ok {contents : Reader α} {close : Reader Unit} {a : α} {k : Nat}
    (hc : contents.runAt B i = (.ok a, j)) (hclose : close.runAt B j = (.ok (), k)) :
    (enclosed contents close).runAt B i = (.ok a, k) := by
  unfold enclosed
  rw [runAt_bind_ok (runAt_observe_ok hc), runAt_bind_ok (runAt_observe_ok hclose)]
  rfl

/-! ## What a reader reads -/

/-- **`r` reads `a` off the bytes `enc`**: wherever they stand, and whatever follows them that
passes `follows`, `r` succeeds with `a` and leaves the cursor just past them. -/
def Reads (r : Reader α) (a : α) (enc : List UInt8) (follows : List UInt8 → Prop) : Prop :=
  ∀ (B : ByteArray) (i : Nat) (rest : List UInt8), B.data.toList.drop i = enc ++ rest →
    follows rest → r.runAt B i = (.ok a, i + enc.length)

namespace Reads

variable {follows : List UInt8 → Prop}

theorem pure (a : α) : Reads (Pure.pure a) a [] follows := by
  intro B i rest _ _
  rw [runAt_pure, List.length_nil, Nat.add_zero]

/-- **Reading composes**: `x` then `f a` reads what `x` reads followed by what `f a` reads, when
whatever may follow `f a`'s bytes, put behind them, may follow `x`'s. -/
theorem bind {x : Reader α} {f : α → Reader β} {a : α} {b : β} {ea eb : List UInt8}
    {fx : List UInt8 → Prop} (hx : Reads x a ea fx) (hf : Reads (f a) b eb follows)
    (hfollows : ∀ rest, follows rest → fx (eb ++ rest)) :
    Reads (x >>= f) b (ea ++ eb) follows := by
  intro B i rest h hrest
  have hat : B.data.toList.drop i = ea ++ (eb ++ rest) := by rw [h, List.append_assoc]
  rw [runAt_bind_ok (hx B i (eb ++ rest) hat (hfollows rest hrest)),
    hf B (i + ea.length) rest (Utf8.drop_add_of_drop_eq hat) hrest, List.length_append, Nat.add_assoc]

/-- A reader that reads under a stronger test on what follows reads under a weaker one. -/
theorem mono {r : Reader α} {a : α} {enc : List UInt8} {follows' : List UInt8 → Prop}
    (h : Reads r a enc follows') (himp : ∀ rest, follows rest → follows' rest) :
    Reads r a enc follows :=
  fun B i rest hat hrest => h B i rest hat (himp rest hrest)

theorem placed {r : Reader α} {a : α} {enc : List UInt8} (h : Reads r a enc follows) :
    Reads (Reader.placed r) a enc follows :=
  fun B i rest hat hrest => runAt_placed_ok (h B i rest hat hrest)

/-- A reader followed by a pure function of its value reads what the reader reads. -/
theorem bind_pure {x : Reader α} {a : α} {enc : List UInt8} (g : α → β) (hx : Reads x a enc follows) :
    Reads (x >>= fun a => Pure.pure (g a)) (g a) enc follows := by
  intro B i rest hat hrest
  rw [runAt_bind_ok (hx B i rest hat hrest)]
  rfl

/-- A container whose contents and end are read is read. -/
theorem enclosed {contents : Reader α} {close : Reader Unit} {a : α} {ea ec : List UInt8}
    {fc : List UInt8 → Prop} (hc : Reads contents a ea fc) (hclose : Reads close () ec follows)
    (hfollows : ∀ rest, follows rest → fc (ec ++ rest)) :
    Reads (Reader.enclosed contents close) a (ea ++ ec) follows := by
  intro B i rest hat hrest
  have hat' : B.data.toList.drop i = ea ++ (ec ++ rest) := by rw [hat, List.append_assoc]
  rw [runAt_enclosed_ok (hc B i _ hat' (hfollows rest hrest))
    (hclose B _ rest (Utf8.drop_add_of_drop_eq hat') hrest), List.length_append, Nat.add_assoc]

end Reads

/-- Moving on passes over one byte, whatever it is. -/
theorem reads_bump (b : UInt8) : Reads bump () [b] fun _ => True := by
  intro B i rest _ _
  rw [runAt_bump, List.length_singleton]

/-- Taking a byte reads it. -/
theorem reads_next (b : UInt8) : Reads next (some b) [b] fun _ => True := by
  intro B i rest hat _
  have hb : Utf8.byteAt B i = some b := Utf8.byteAt_of_drop_eq_cons hat
  simp only [next, runAt_bind_ok (runAt_peek (B := B) (i := i)), hb, Option.isSome_some, if_true]
  rw [runAt_bind_ok (runAt_bump (B := B) (i := i)), runAt_pure, List.length_singleton]

theorem skipFrom_of_cons {b : UInt8} {rest : List UInt8} (hat : B.data.toList.drop i = b :: rest)
    (hb : isBlank b = false) (fuel : Nat) : skipFrom B i fuel = i := by
  cases fuel with
  | zero => rfl
  | succ fuel => simp only [skipFrom, Utf8.byteAt_of_drop_eq_cons hat, hb, Bool.false_eq_true, if_false]

/-- **No blank ahead**: skipping blanks stays on a byte that is not blank, and reads nothing. -/
theorem reads_skipBlank (b : UInt8) (hb : isBlank b = false) :
    Reads skipBlank (some b) [] fun rest => rest.head? = some b := by
  intro B i rest hat hrest
  obtain ⟨tail, rfl⟩ : ∃ tail, rest = b :: tail := by
    cases rest with
    | nil => cases hrest
    | cons c tail => exact ⟨tail, by rw [List.head?_cons, Option.some_inj] at hrest; rw [hrest]⟩
  rw [List.nil_append] at hat
  simp only [skipBlank, runAt_bind_ok (runAt_read (B := B) (i := i)),
    runAt_bind_ok (runAt_get (B := B) (i := i)), skipFrom_of_cons hat hb]
  rw [runAt_bind_ok (runAt_set (B := B) (i := i) i), runAt_peek, Utf8.byteAt_of_drop_eq_cons hat,
    List.length_nil, Nat.add_zero]

theorem runAt_skipBlank_of_drop_eq {b : UInt8} {more : List UInt8} (hb : isBlank b = false)
    (hat : B.data.toList.drop i = b :: more) : skipBlank.runAt B i = (.ok (some b), i) := by
  have h := reads_skipBlank b hb B i (b :: more) (by rw [List.nil_append, hat]) rfl
  rwa [List.length_nil, Nat.add_zero] at h

/-- At the end of the bytes, skipping blanks finds nothing. -/
theorem runAt_skipBlank_of_end (hend : B.data.toList.drop i = []) :
    skipBlank.runAt B i = (.ok none, i) := by
  have hfrom : ∀ fuel, skipFrom B i fuel = i := fun fuel => by
    cases fuel with
    | zero => rfl
    | succ fuel => simp only [skipFrom, Utf8.byteAt_of_drop_eq_nil hend]
  simp only [skipBlank, runAt_bind_ok (runAt_read (B := B) (i := i)),
    runAt_bind_ok (runAt_get (B := B) (i := i)), hfrom]
  rw [runAt_bind_ok (runAt_set (B := B) (i := i) i), runAt_peek, Utf8.byteAt_of_drop_eq_nil hend]

/-! ## What a successful run gives -/

/-- **Every successful run of `r` gives a value with `P`**, wherever it starts and on any bytes. -/
def Ensures (r : Reader α) (P : α → Prop) : Prop :=
  ∀ (B : ByteArray) (i : Nat) (a : α) (j : Nat), r.runAt B i = (.ok a, j) → P a

namespace Ensures

variable {P Q : α → Prop}

theorem trivial (r : Reader α) : Ensures r fun _ => True :=
  fun _ _ _ _ _ => True.intro

theorem pure {a : α} (h : P a) : Ensures (Pure.pure a) P := by
  intro B i b j hrun
  rw [runAt_pure, Prod.mk.injEq, Except.ok.injEq] at hrun
  exact hrun.1 ▸ h

theorem throw (e : ReadError) : Ensures (MonadExcept.throw e : Reader α) P := by
  intro B i b j hrun
  rw [runAt_throw] at hrun
  cases hrun

/-- **A bind ensures** what its second reader ensures from any value its first one ensures. -/
theorem bind {x : Reader α} {f : α → Reader β} {P : β → Prop} (hx : Ensures x Q)
    (hf : ∀ a, Q a → Ensures (f a) P) : Ensures (x >>= f) P := by
  intro B i b j hrun
  rw [runAt_bind] at hrun
  rcases hx' : x.runAt B i with ⟨_ | a, k⟩
  · rw [hx'] at hrun
    cases hrun
  · rw [hx'] at hrun
    exact hf a (hx B i a k hx') B k b j hrun

theorem tryCatch {x : Reader α} {k : ReadError → Reader α} (hx : Ensures x P)
    (hk : ∀ e, Ensures (k e) P) : Ensures (MonadExcept.tryCatch x k) P := by
  intro B i a j hrun
  rw [runAt_tryCatch] at hrun
  rcases hx' : x.runAt B i with ⟨_ | b, l⟩
  · rw [hx'] at hrun
    exact hk _ B l a j hrun
  · rw [hx'] at hrun
    exact hx B i a j (hx'.trans hrun)

/-- A failure is given a place and stays a failure. -/
theorem placed {r : Reader α} (h : Ensures r P) : Ensures (Reader.placed r) P :=
  tryCatch h fun e => by
    cases e.index with
    | some _ => exact throw e
    | none => exact bind (trivial _) fun _ _ => throw _

/-- A failure kept as a value: a value kept is one the reader gave. -/
theorem observe {r : Reader α} (h : Ensures r P) :
    Ensures (Reader.observe r) fun o => ∀ a, o = .ok a → P a := by
  unfold Reader.observe
  refine tryCatch (bind h fun a ha => pure fun b hb => ?_) fun _ => pure fun b hb => ?_
  · cases hb
    exact ha
  · cases hb

theorem enclosed {contents : Reader α} {close : Reader Unit} (h : Ensures contents P) :
    Ensures (Reader.enclosed contents close) P := by
  unfold Reader.enclosed
  refine bind (observe h) fun o ho => bind (trivial _) fun e _ => ?_
  -- only contents that were read in full, and closed, give a value
  rcases o with err | a <;> rcases e with err' | u
  · exact throw err
  · exact throw err
  · exact throw err'
  · exact pure (ho a rfl)

theorem failAt (m : String) (k : Nat) : Ensures (Reader.failAt m k : Reader α) P := throw _

theorem failValue (m : String) : Ensures (Reader.failValue m : Reader α) P := throw _

theorem failAhead (s : Syntax) : Ensures (Reader.failAhead s : Reader α) P :=
  bind (trivial _) fun _ _ => bind (trivial _) fun _ _ => failAt _ _

theorem fail (s : Syntax) : Ensures (Reader.fail s : Reader α) P :=
  bind (trivial _) fun _ _ => failAt _ _

/-- What a reader ensures, anything weaker it ensures too. -/
theorem mono {r : Reader α} (h : Ensures r P) (himp : ∀ a, P a → Q a) : Ensures r Q :=
  fun B i a j hrun => himp a (h B i a j hrun)

end Ensures

end CrossRef.Json.Reader
