import Mathlib
import CrossRef.Wire.Client
/-!
Reading each answer whole, however the connection cuts the analyzer's bytes.

A client sends its requests one at a time: concurrent callers take the connection's lock from
writing a request to reading its answer, so the requests reach the analyzer in the order the
lock is taken, and that order is the list of requests here. A well-behaved analyzer answers
each request line it reads with one *line*, bytes that end with a newline and hold no other
(`IsLine`), written after it read the request. The connection hands over what was written in
reads of one to `readChunk` bytes, in order, with interrupted reads anywhere (`Delivers`); how
it cuts them is a parameter of every request.

**The answer is the whole line and nothing more.** While the bytes read so far are a proper
prefix of the line they do not end with a newline, so the client reads on; the first read after
which they end with one is the read that takes the line's last byte (`readAnswer_line`). Nothing
of the answer is left waiting, and nothing of the next one has been written yet, so every
request starts afresh (`Peer.Fresh`) and the `i`-th request gets the `i`-th line, decoded
(`answers_of_lines`).

**An analyzer that hangs up** before writing any byte of a reply makes that request a transport
failure; one that hangs up in the middle of a reply, a protocol failure naming the bytes read
(`readAnswer_cut`). Both come from the one way the loop ends without a line: the end of the
stream after every byte was read.
-/

namespace CrossRef

/-! ## Lines and what a connection hands over -/

/-- **A line**: bytes that end with a newline and hold no other. -/
def IsLine (l : ByteArray) : Prop :=
  l.data.toList.getLast? = some newline ∧ newline ∉ l.data.toList.dropLast

instance : DecidablePred IsLine := fun _ => inferInstanceAs (Decidable (_ ∧ _))

/-- **One way the connection hands over some bytes**: reads of one to `readChunk` bytes that give
them in order, with interrupted reads anywhere. -/
inductive Delivers : ByteArray → List Read → Prop
  | nil : Delivers .empty []
  | interrupted {u : ByteArray} {rs : List Read} : Delivers u rs → Delivers u (.interrupted :: rs)
  | data {c u : ByteArray} {rs : List Read} : 0 < c.size → c.size ≤ readChunk → Delivers u rs →
      Delivers (c ++ u) (.data c :: rs)

/-- Reads that hand over some bytes give exactly those bytes. -/
theorem bytes_of_delivers {u : ByteArray} {rs : List Read} (h : Delivers u rs) :
    Read.bytes rs = u := by
  induction h with
  | nil => rfl
  | interrupted _ ih => exact ih
  | data _ _ _ ih => rw [Read.bytes, ih]

/-- **Whole chunks are one way of handing bytes over.** -/
theorem delivers_wholeChunks (u : ByteArray) : Delivers u (wholeChunks u) := by
  induction u using wholeChunks.induct with
  | case1 u h =>
    rw [wholeChunks, if_pos h, ByteArray.size_eq_zero_iff.1 h]
    exact .nil
  | case2 u h ih =>
    rw [wholeChunks, if_neg h]
    -- the first chunk and the rest put back together are the bytes
    have hsplit : u.extract 0 readChunk ++ u.extract readChunk u.size = u := by
      rw [ByteArray.extract_append_extract]
      simp [readChunk]
    have hsize : (u.extract 0 readChunk).size = min readChunk u.size := by simp
    conv => lhs; rw [← hsplit]
    exact .data (by rw [hsize]; simp only [readChunk]; omega) (by rw [hsize]; omega) ih

/-! ## Where a line ends -/

theorem endsLine_iff (b : ByteArray) :
    endsLine b = true ↔ b.data.toList.getLast? = some newline := by
  rw [Array.getLast?_toList, Array.back?_eq_getElem?]
  by_cases h : b.size = 0
  · have hdata : b.data.size = 0 := by simpa using h
    simp [endsLine, h, hdata]
  · have hlt : b.size - 1 < b.data.size := by simp; omega
    simp only [endsLine, ByteArray.get!, getElem!_pos b.data (b.size - 1) hlt]
    simp [Nat.pos_of_ne_zero h]

theorem IsLine.endsLine {l : ByteArray} (h : IsLine l) : endsLine l = true :=
  (endsLine_iff l).2 h.1

/-- **A proper prefix of a line does not end with a newline.** -/
theorem endsLine_of_isLine_append {x y : ByteArray} (h : IsLine (x ++ y)) (hy : 0 < y.size) :
    endsLine x = false := by
  have hne : y.data.toList ≠ [] := by
    intro he
    have hlen : y.data.toList.length = 0 := by rw [he]; rfl
    rw [Array.length_toList, ByteArray.size_data] at hlen
    omega
  -- every byte of `x` lies before the line's last byte
  have hsub : ∀ a ∈ x.data.toList, a ∈ (x ++ y).data.toList.dropLast := by
    intro a ha
    rw [ByteArray.toList_data_append, List.dropLast_append_of_ne_nil hne]
    exact List.mem_append_left _ ha
  rw [Bool.eq_false_iff]
  intro hend
  rw [endsLine_iff] at hend
  exact h.2 (hsub _ (List.mem_of_getLast? hend))

/-! ## The read loop -/

/-- **The answer is the line.** When the reads hand over the rest `u` of a line whose first part
was read, the loop returns the whole line and leaves nothing of it waiting. -/
theorem readAnswer_line {u : ByteArray} {rs : List Read} (hd : Delivers u rs) :
    ∀ acc : ByteArray, IsLine (acc ++ u) → 0 < u.size →
      (readAnswer acc rs).1 = .ok (acc ++ u) ∧ Read.bytes (readAnswer acc rs).2 = .empty := by
  induction hd with
  | nil => intro acc _ hu; simp at hu
  | interrupted _ ih => exact ih
  | @data c u rs hc _ hrest ih =>
    intro acc hl _
    have hc0 : c.size ≠ 0 := by omega
    by_cases hu : u.size = 0
    · -- this read takes the line's last byte
      obtain rfl := ByteArray.size_eq_zero_iff.1 hu
      have hend : endsLine (acc ++ c) = true := by simpa using hl.endsLine
      simp [readAnswer, hc0, hend, bytes_of_delivers hrest]
    · -- the bytes read so far are still a proper prefix of the line
      have hl' : IsLine (acc ++ c ++ u) := by rwa [ByteArray.append_assoc]
      have hend : endsLine (acc ++ c) = false := endsLine_of_isLine_append hl' (by omega)
      obtain ⟨hanswer, hleft⟩ := ih (acc ++ c) hl' (by omega)
      simp only [readAnswer, hc0, hend, if_false, Bool.false_eq_true]
      exact ⟨by rw [hanswer, ByteArray.append_assoc], hleft⟩

/-- **Bytes without a line end meet the end of the stream.** The loop reads them all and fails as
the end of the stream fails after that many bytes. -/
theorem readAnswer_cut {u : ByteArray} {rs : List Read} (hd : Delivers u rs) :
    ∀ acc : ByteArray, newline ∉ (acc ++ u).data.toList →
      (readAnswer acc rs).1 = .error (closedAfter (acc ++ u).size) := by
  induction hd with
  | nil => intro acc _; simp [readAnswer]
  | interrupted _ ih => exact ih
  | @data c u rs hc _ _ ih =>
    intro acc hno
    have hc0 : c.size ≠ 0 := by omega
    have hno' : newline ∉ (acc ++ c ++ u).data.toList := by rwa [ByteArray.append_assoc]
    -- the bytes read so far hold no newline, so neither does their last one
    have hend : endsLine (acc ++ c) = false := by
      rw [Bool.eq_false_iff]
      intro h
      rw [endsLine_iff] at h
      apply hno'
      rw [ByteArray.toList_data_append]
      exact List.mem_append_left _ (List.mem_of_getLast? h)
    simp only [readAnswer, hc0, hend, if_false, Bool.false_eq_true]
    rw [ih (acc ++ c) hno', ByteArray.append_assoc]

/-! ## Requests over one connection -/

/-- **A connection ready for the next request**: nothing of an earlier answer waits, and the peer
has hung up only if its script is done. -/
structure Peer.Fresh (p : Peer) : Prop where
  unread : p.unread = .empty
  closed : p.closed = p.replies.isEmpty

theorem Peer.fresh_ofReplies (rs : List Reply) : (Peer.ofReplies rs).Fresh := ⟨rfl, rfl⟩

section Exchange

variable {p : Peer} {cut : ByteArray → List Read} (r : Request) (rest : List Reply)

/-- A reply line is the answer to the request, and leaves the connection ready for the next. -/
theorem Peer.exchange_line (hp : p.Fresh) (hcut : ∀ u, Delivers u (cut u)) {l : ByteArray}
    (hreplies : p.replies = .write l :: rest) (hl : IsLine l) :
    (p.exchange cut r).1 = Response.decode l ∧ (p.exchange cut r).2.Fresh ∧
      (p.exchange cut r).2.replies = rest := by
  have hopen : p.closed = false := by rw [hp.closed, hreplies]; rfl
  have hwaiting : (p.take r.encode).unread = l := by
    simp [take, hreplies, hp.unread]
  have hlen : 0 < l.size := by
    have := List.getLast?_isSome.1 (by rw [hl.1]; rfl : l.data.toList.getLast?.isSome)
    simpa using List.length_pos_of_ne_nil this
  obtain ⟨hanswer, hleft⟩ := readAnswer_line (hcut l) .empty (by simpa using hl) hlen
  simp only [exchange, hopen, Bool.false_eq_true, if_false, receive, hwaiting]
  rw [ByteArray.empty_append] at hanswer
  refine ⟨by rw [hanswer]; rfl, ⟨hleft, ?_⟩, by simp [take, hreplies]⟩
  simp [take, hreplies, hl.endsLine]

/-- A peer that hangs up before replying makes the request a transport failure. -/
theorem Peer.exchange_hangUp (hp : p.Fresh) (hcut : ∀ u, Delivers u (cut u))
    (hreplies : p.replies = .hangUp :: rest) :
    (p.exchange cut r).1 = .error (.transport "receiving response" "connection closed by analyzer") := by
  have hopen : p.closed = false := by rw [hp.closed, hreplies]; rfl
  have hwaiting : (p.take r.encode).unread = .empty := by simp [take, hreplies, hp.unread]
  have hfail := readAnswer_cut (hcut .empty) .empty (by simp)
  simp only [exchange, hopen, Bool.false_eq_true, if_false, receive, hwaiting, hfail]
  rfl

/-- A peer that hangs up in the middle of a reply makes the request a protocol failure naming
the bytes it wrote. -/
theorem Peer.exchange_cut (hp : p.Fresh) (hcut : ∀ u, Delivers u (cut u)) {c : ByteArray}
    (hreplies : p.replies = .write c :: rest) (hc : 0 < c.size) (hno : newline ∉ c.data.toList) :
    (p.exchange cut r).1 = .error (.protocol ("connection closed after " ++ toString c.size ++
      " bytes of an incomplete response")) := by
  have hopen : p.closed = false := by rw [hp.closed, hreplies]; rfl
  have hwaiting : (p.take r.encode).unread = c := by simp [take, hreplies, hp.unread]
  have hfail := readAnswer_cut (hcut c) .empty (by simpa using hno)
  simp only [exchange, hopen, Bool.false_eq_true, if_false, receive, hwaiting, hfail]
  simp [closedAfter, Nat.pos_iff_ne_zero.1 hc]
  rfl

end Exchange

/-- The answers a run of requests gets from a peer following a script, each request with the way
the connection cuts the bytes waiting for it. -/
def Client.answers (script : List Reply) (rcs : List (Request × (ByteArray → List Read))) :
    List (Except Error Response) :=
  ((rcs.mapM fun rc => Client.requestBy rc.2 rc.1).run (Peer.ofReplies script)).1

theorem run_mapM_requestBy (rc : Request × (ByteArray → List Read))
    (rcs : List (Request × (ByteArray → List Read))) (p : Peer) :
    ((rc :: rcs).mapM fun rc => Client.requestBy rc.2 rc.1).run p =
      (((p.exchange rc.2 rc.1).1 :: ((rcs.mapM fun rc => Client.requestBy rc.2 rc.1).run
        (p.exchange rc.2 rc.1).2).1), ((rcs.mapM fun rc => Client.requestBy rc.2 rc.1).run
        (p.exchange rc.2 rc.1).2).2) := by
  simp [List.mapM_cons, Client.requestBy, StateT.run_bind, StateT.run_modifyGet]
  rfl

theorem run_mapM_append (xs ys : List (Request × (ByteArray → List Read))) (p : Peer) :
    ((xs ++ ys).mapM fun rc => Client.requestBy rc.2 rc.1).run p =
      (((xs.mapM fun rc => Client.requestBy rc.2 rc.1).run p).1 ++
          ((ys.mapM fun rc => Client.requestBy rc.2 rc.1).run
            ((xs.mapM fun rc => Client.requestBy rc.2 rc.1).run p).2).1,
        ((ys.mapM fun rc => Client.requestBy rc.2 rc.1).run
          ((xs.mapM fun rc => Client.requestBy rc.2 rc.1).run p).2).2) := by
  simp [List.mapM_append, StateT.run_bind]
  rfl

/-- **Requests answered by lines get those lines, decoded**, in order, whatever way the
connection cuts each of them, and leave the connection ready for the next request. -/
theorem answers_of_lines (ls : List ByteArray) (hls : ∀ l ∈ ls, IsLine l) (rest : List Reply) :
    ∀ (rcs : List (Request × (ByteArray → List Read))) (p : Peer), rcs.length = ls.length →
      (∀ rc ∈ rcs, ∀ u, Delivers u (rc.2 u)) → p.Fresh → p.replies = ls.map .write ++ rest →
      ((rcs.mapM fun rc => Client.requestBy rc.2 rc.1).run p).1 = ls.map Response.decode ∧
        ((rcs.mapM fun rc => Client.requestBy rc.2 rc.1).run p).2.Fresh ∧
        ((rcs.mapM fun rc => Client.requestBy rc.2 rc.1).run p).2.replies = rest := by
  induction ls with
  | nil =>
    intro rcs p hlen _ hp hreplies
    obtain rfl := List.length_eq_zero_iff.1 hlen
    exact ⟨rfl, hp, hreplies⟩
  | cons l ls ih =>
    intro rcs p hlen hcuts hp hreplies
    obtain ⟨rc, rcs, rfl⟩ := List.exists_cons_of_length_eq_add_one hlen
    obtain ⟨hanswer, hfresh, hnext⟩ := Peer.exchange_line rc.1 (ls.map .write ++ rest) hp
      (hcuts rc List.mem_cons_self) (by rw [hreplies]; rfl) (hls l List.mem_cons_self)
    obtain ⟨hanswers, hfresh', hnext'⟩ := ih (fun l' hl' => hls l' (List.mem_cons_of_mem l hl'))
      rcs _ (by simpa using hlen) (fun rc' hrc' => hcuts rc' (List.mem_cons_of_mem rc hrc'))
      hfresh hnext
    rw [run_mapM_requestBy]
    exact ⟨by rw [hanswer, hanswers]; rfl, hfresh', hnext'⟩

/-- **Each request gets its own reply.** Over one connection, to an analyzer that answers each
request line with a line, the `i`-th request gets the `i`-th line, decoded, however the
connection cuts the bytes into reads. If the analyzer hangs up instead of the next reply, that
request is a transport failure; if it hangs up after part of a reply, a protocol failure naming
the bytes it wrote. -/
theorem requests_read_their_replies (ls : List ByteArray) (hls : ∀ l ∈ ls, IsLine l)
    (rcs : List (Request × (ByteArray → List Read))) (hlen : rcs.length = ls.length)
    (hcuts : ∀ rc ∈ rcs, ∀ u, Delivers u (rc.2 u))
    (r : Request) (cut : ByteArray → List Read) (hcut : ∀ u, Delivers u (cut u))
    (rest : List Reply) :
    Client.answers (ls.map .write ++ rest) rcs = ls.map Response.decode ∧
      Client.answers (ls.map .write ++ .hangUp :: rest) (rcs ++ [(r, cut)]) =
        ls.map Response.decode ++
          [.error (.transport "receiving response" "connection closed by analyzer")] ∧
      ∀ c : ByteArray, 0 < c.size → newline ∉ c.data.toList →
        Client.answers (ls.map .write ++ .write c :: rest) (rcs ++ [(r, cut)]) =
          ls.map Response.decode ++ [.error (.protocol ("connection closed after " ++
            toString c.size ++ " bytes of an incomplete response"))] := by
  have hcuts' : ∀ rc ∈ rcs ++ [(r, cut)], ∀ u, Delivers u (rc.2 u) := by
    intro rc hrc
    rcases List.mem_append.1 hrc with h | h
    · exact hcuts rc h
    · rw [List.mem_singleton.1 h]; exact hcut
  -- the lines come first in each script; what follows is answered by one more request
  have hlast : ∀ last : Reply, ∀ answer : Except Error Response,
      (∀ p : Peer, p.Fresh → p.replies = last :: rest → (p.exchange cut r).1 = answer) →
      Client.answers (ls.map .write ++ last :: rest) (rcs ++ [(r, cut)]) =
        ls.map Response.decode ++ [answer] := by
    intro last answer hstep
    obtain ⟨hanswers, hfresh, hnext⟩ := answers_of_lines ls hls (last :: rest) rcs _ hlen hcuts
      (Peer.fresh_ofReplies _) rfl
    rw [Client.answers, run_mapM_append, run_mapM_requestBy, hanswers, hstep _ hfresh hnext]
    rfl
  refine ⟨?_, hlast _ _ fun p hp hreplies => Peer.exchange_hangUp r rest hp hcut hreplies,
    fun c hc hno => hlast _ _ fun p hp hreplies => Peer.exchange_cut r rest hp hcut hreplies hc hno⟩
  exact (answers_of_lines ls hls rest rcs _ hlen hcuts (Peer.fresh_ofReplies _) rfl).1

/-- Two requests answered by the lines `{}` and `[]` over whole-chunk reads, then a third that
meets a hang-up or the cut reply `{`. -/
theorem requests_read_two_lines :
    let ls : List ByteArray := [⟨#[123, 125, 10]⟩, ⟨#[91, 93, 10]⟩]
    let rcs : List (Request × (ByteArray → List Read)) :=
      [(.diagnostics "/p", wholeChunks), (.diagnostics "/q", wholeChunks)]
    ((∀ l ∈ ls, IsLine l) ∧ rcs.length = ls.length ∧ (∀ rc ∈ rcs, ∀ u, Delivers u (rc.2 u)) ∧
      ∀ u, Delivers u (wholeChunks u)) ∧
    (Client.answers (ls.map .write ++ []) rcs = ls.map Response.decode ∧
      Client.answers (ls.map .write ++ [.hangUp]) (rcs ++ [(.diagnostics "/r", wholeChunks)]) =
        ls.map Response.decode ++
          [.error (.transport "receiving response" "connection closed by analyzer")] ∧
      ∀ c : ByteArray, 0 < c.size → newline ∉ c.data.toList →
        Client.answers (ls.map .write ++ [.write c]) (rcs ++ [(.diagnostics "/r", wholeChunks)]) =
          ls.map Response.decode ++ [.error (.protocol ("connection closed after " ++
            toString c.size ++ " bytes of an incomplete response"))]) := by
  intro ls rcs
  have hcuts : ∀ rc ∈ rcs, ∀ u, Delivers u (rc.2 u) := by
    intro rc hrc u
    simp only [rcs, List.mem_cons, List.not_mem_nil, or_false] at hrc
    rcases hrc with rfl | rfl <;> exact delivers_wholeChunks u
  exact ⟨⟨by decide, rfl, hcuts, delivers_wholeChunks⟩,
    requests_read_their_replies ls (by decide) rcs rfl hcuts (.diagnostics "/r") wholeChunks
      delivers_wholeChunks []⟩

end CrossRef
