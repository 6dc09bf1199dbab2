/-
  HNodeMgmt.Scgi.SlowClient — a header that arrives in several events.

  Client sockets are non-blocking, so a read that finds nothing is answered by
  -1, and each of the three reading places takes that for an error.  Whether
  such a read happens depends on where an event ends: only inside the header
  block does the parser return without reading again.

  Main results:
    * `readable_step` — an event that ends inside the block is served, one
      that ends elsewhere puts the record into ERROR.
    * `slow_client_iff` — a header is served EXACTLY when its length fits the
      counter and every event but the last ends inside the block.
    * `slow_client_broken` — a header cut inside its length is not.
-/
import Mathlib.Tactic.Common
import HNodeMgmt.Scgi.Header

namespace HNodeMgmt.Scgi

open Lib HeaderState

/-! ## §1. Readable events. -/

/-- A client's record, its socket, and the requests posted to the parent. -/
structure Client where
  rr : HNSCGIRR
  sock : Socket
  posted : List HNSCGIMsg

/-- A connection as it is accepted; `addSocketToEPoll` makes it non-blocking. -/
def Client.accepted (fd : Nat) : Client :=
  { rr := HNSCGIRR.new fd, sock := { pieces := [], nonblocking := true }, posted := [] }

/-- `processClientRequest`: the bytes of the event are behind those nobody has
read. -/
def Client.readable (client : Client) (bytes : List UInt8) : Client :=
  match client.rr.recvData { client.sock with pieces := [client.sock.bytes ++ bytes] } with
  | (.requestReady, rr, sock) => { rr, sock, posted := client.posted ++ [rr.request] }
  | (_, rr, sock) => { client with rr, sock }

/-- The client after some events. -/
def serve (fd : Nat) (events : List (List UInt8)) : Client :=
  events.foldl Client.readable (Client.accepted fd)

theorem serve_snoc (fd : Nat) (events : List (List UInt8)) (bytes : List UInt8) :
    serve fd (events ++ [bytes]) = (serve fd events).readable bytes := by
  simp [serve]

/-- The header is served: no event leads to ERROR, the last byte completes it,
and the one request that is posted is that of a header that comes at once. -/
structure Served (fd : Nat) (header : List UInt8) (events : List (List UInt8)) : Prop where
  neverError : ∀ pre post, events = pre ++ post → (serve fd pre).rr.rxState ≠ .error
  done : (serve fd events).rr.rxState = .hdrDone
  consumed : (serve fd events).sock.bytes = []
  queued : ∃ request, (serve fd events).posted = [request] ∧
    (serve fd [header]).posted = [request]

/-! ## §2. What one event does. -/

/-- The reader's state behind a part of the stream, and what it left. -/
def stateAt (stream : List UInt8) : HeaderState := (headerReader.feed (.len []) stream).1

def restAt (stream : List UInt8) : List UInt8 := (headerReader.feed (.len []) stream).2

/-- The states in which an event may end. -/
def fed : HeaderState → Bool
  | .block _ got _ => !got.isEmpty
  | .done _ _ => true
  | _ => false

/-- What has been posted in a state. -/
def postedAt : HeaderState → List HNSCGIMsg
  | .done _ request => [request]
  | _ => []

variable {fd : Nat} {client : Client} {stream bytes : List UInt8} {st : HeaderState}

theorem stateAt_of_reads {rest : List UInt8} (h : Reads headerReader (.len []) stream st rest)
    (hsettled : headerReader.Settled st rest) : stateAt stream = st ∧ restAt stream = rest := by
  rw [stateAt, restAt, h.feed_eq hsettled]
  exact ⟨rfl, rfl⟩

/-- No read has been answered by -1 so far. -/
structure OnTrack (fd : Nat) (client : Client) (stream : List UInt8) : Prop where
  holds : Holds fd client.rr (stateAt stream)
  bytes : client.sock.bytes = restAt stream
  nonblocking : client.sock.nonblocking = true
  posted : client.posted = postedAt (stateAt stream)
  fed : stream = [] ∨ fed (stateAt stream) = true

theorem onTrack_accepted (fd : Nat) : OnTrack fd (Client.accepted fd) [] :=
  ⟨.inr ⟨rfl, rfl⟩, rfl, rfl, rfl, .inl rfl⟩

theorem fed_of_waiting (hfinal : st.final = false) (hstarved : st.starved = false) :
    fed st = true := by
  cases st with
  | block exp got short => simpa [fed, HeaderState.starved] using hstarved
  | len digits => cases hstarved
  | comma exp request => cases hstarved
  | done exp request => rfl
  | bad exp request => cases hfinal

theorem not_fed_of_starved (hstarved : st.starved = true) : fed st = false := by
  cases st with
  | block exp got short => simpa [fed, HeaderState.starved] using hstarved
  | done exp request => cases hstarved
  | _ => rfl

theorem postedAt_of_open (hfinal : st.final = false) : postedAt st = [] := by
  cases st with
  | done exp request => cases hfinal
  | _ => rfl

/-- A record that is done ignores an event. -/
theorem readable_done (htrack : OnTrack fd client stream)
    (hfinal : (stateAt stream).final = true) (bytes : List UInt8) :
    OnTrack fd (client.readable bytes) (stream ++ bytes) ∧
      fed (stateAt (stream ++ bytes)) = true := by
  have hne : stream ≠ [] := by
    rintro rfl
    cases hfinal
  have hfed : fed (stateAt stream) = true := htrack.fed.resolve_left hne
  have hrecord : client.rr = (stateAt stream).record fd := by
    rcases htrack.holds with h | ⟨-, h⟩
    · exact h
    · rw [h] at hfinal
      cases hfinal
  have hstate := final_rxState fd hfinal
  rw [← hrecord] at hstate
  have hreads := (headerReader.feed_reads (.len []) stream).append bytes
  obtain ⟨hst, hrest⟩ := stateAt_of_reads hreads (.inr hfinal)
  have hst' : stateAt (stream ++ bytes) = stateAt stream := hst
  have hreadable : client.readable bytes =
      { client with sock := { client.sock with pieces := [client.sock.bytes ++ bytes] } } := by
    rw [Client.readable, recvData_stays hstate]
  rw [hreadable, hst']
  refine ⟨⟨?_, ?_, htrack.nonblocking, ?_, ?_⟩, hfed⟩
  · rw [hst']
    exact htrack.holds
  · rw [hrest, ← restAt, ← htrack.bytes]
    simp [Socket.bytes]
  · rw [hst']
    exact htrack.posted
  · rw [hst']
    exact .inr hfed

/-- **An event that ends inside the block is served; one that ends elsewhere,
before the header is done, leads to ERROR.** -/
theorem readable_step (htrack : OnTrack fd client stream) (hne : bytes ≠ []) :
    (fed (stateAt (stream ++ bytes)) = true →
      OnTrack fd (client.readable bytes) (stream ++ bytes)) ∧
    (fed (stateAt (stream ++ bytes)) = false →
      (client.readable bytes).rr.rxState = .error) := by
  by_cases hfinal : (stateAt stream).final = true
  · obtain ⟨htrack', hfed⟩ := readable_done htrack hfinal bytes
    exact ⟨fun _ => htrack', fun h => by rw [hfed] at h; cases h⟩
  have hopen : (stateAt stream).final = false := by simpa using hfinal
  have hposted : client.posted = [] := htrack.posted.trans (postedAt_of_open hopen)
  -- all that came before has been read
  have hrest : restAt stream = [] :=
    (headerReader.feed_settled (.len []) stream).resolve_right hfinal
  have hnil : client.sock.bytes = [] := htrack.bytes.trans hrest
  have hbefore : Reads headerReader (.len []) (stream ++ bytes) (stateAt stream) bytes := by
    have h := (headerReader.feed_reads (.len []) stream).append bytes
    rw [← restAt, hrest] at h
    exact h
  obtain ⟨r, hout, heq⟩ := recvData_outcome htrack.holds hopen
    { client.sock with pieces := [client.sock.bytes ++ bytes] }
  have hsock :
      Socket.bytes { client.sock with pieces := [client.sock.bytes ++ bytes] } = bytes := by
    simp [Socket.bytes] at hnil ⊢
    exact hnil
  have hdry : ∀ sock' : Socket,
      sock'.Drained { client.sock with pieces := [client.sock.bytes ++ bytes] } →
      sock'.bytes = [] := by
    rintro sock' (h | h)
    · exact h
    · have hpieces : sock'.pieces = [] := List.length_eq_zero_iff.mp (by simpa using h)
      rw [Socket.bytes, hpieces]
      rfl
  rw [Client.readable, heq]
  cases hout with
  | @waiting st' sock' reads follows drained notFinal fed' =>
    rw [hsock] at reads
    obtain ⟨hst, hrest'⟩ := stateAt_of_reads (hbefore.trans reads) (.inl (hdry sock' drained))
    have hfed := fed_of_waiting notFinal (fed' htrack.nonblocking)
    rw [hst, hfed]
    refine ⟨fun _ => ⟨?_, ?_, ?_, ?_, ?_⟩, fun h => absurd h.symm Bool.false_ne_true⟩
    · rw [hst]
      exact .inl rfl
    · exact hrest'.symm
    · exact follows.nonblocking.trans htrack.nonblocking
    · rw [hst, postedAt_of_open notFinal]
      exact hposted
    · rw [hst]
      exact .inr hfed
  | @ready exp request sock' reads follows =>
    rw [hsock] at reads
    obtain ⟨hst, hrest'⟩ := stateAt_of_reads (hbefore.trans reads) (.inr rfl)
    rw [hst]
    refine ⟨fun _ => ⟨?_, ?_, ?_, ?_, ?_⟩, fun h => absurd h.symm Bool.false_ne_true⟩
    · rw [hst]
      exact .inl rfl
    · exact hrest'.symm
    · exact follows.nonblocking.trans htrack.nonblocking
    · rw [hst]
      show client.posted ++ [request] = [request]
      rw [hposted, List.nil_append]
    · rw [hst]
      exact .inr rfl
  | @bad exp request sock' reads follows =>
    rw [hsock] at reads
    obtain ⟨hst, -⟩ := stateAt_of_reads (hbefore.trans reads) (.inr rfl)
    rw [hst]
    exact ⟨fun h => absurd h Bool.false_ne_true, fun _ => rfl⟩
  | @wouldBlock st' rr' sock' reads follows drained nonblocking notFinal error empty =>
    rw [hsock] at reads
    have hdry' := hdry sock' drained
    obtain ⟨hst, -⟩ := stateAt_of_reads (hbefore.trans reads) (.inl hdry')
    have hstarved : st'.starved = true := by
      rcases empty with h | ⟨-, h⟩
      · exact h
      · rw [hsock, hdry'] at h
        exact absurd h.symm hne
    rw [hst, not_fed_of_starved hstarved]
    exact ⟨fun h => absurd h Bool.false_ne_true, fun _ => error⟩

/-! ## §3. Runs of events. -/

/-- Events that all end inside the block keep the record on track. -/
theorem onTrack_of_fed (fd : Nat) (events : List (List UInt8)) (hne : ∀ e ∈ events, e ≠ [])
    (hfed : ∀ pre post, events = pre ++ post → pre ≠ [] → fed (stateAt pre.flatten) = true) :
    OnTrack fd (serve fd events) events.flatten := by
  induction events using List.reverseRecOn with
  | nil => exact onTrack_accepted fd
  | append_singleton events bytes ih =>
    have hbefore : OnTrack fd (serve fd events) events.flatten := by
      refine ih (fun e he => hne e (by simp [he])) ?_
      rintro pre post rfl hpre
      exact hfed pre (post ++ [bytes]) (by simp) hpre
    have hflat : (events ++ [bytes]).flatten = events.flatten ++ bytes := by simp
    have hlast := hfed (events ++ [bytes]) [] (by simp) (by simp)
    rw [hflat] at hlast ⊢
    rw [serve_snoc]
    exact (readable_step hbefore (hne bytes (by simp))).1 hlast

/-- A record that never gets into ERROR is on track. -/
theorem onTrack_of_neverError (events : List (List UInt8)) (hne : ∀ e ∈ events, e ≠ [])
    (hnever : ∀ pre post, events = pre ++ post → (serve fd pre).rr.rxState ≠ .error) :
    OnTrack fd (serve fd events) events.flatten := by
  induction events using List.reverseRecOn with
  | nil => exact onTrack_accepted fd
  | append_singleton events bytes ih =>
    have hbefore : OnTrack fd (serve fd events) events.flatten := by
      refine ih (fun e he => hne e (by simp [he])) ?_
      rintro pre post rfl
      exact hnever pre (post ++ [bytes]) (by simp)
    have hlast := hnever (events ++ [bytes]) [] (by simp)
    have hflat : (events ++ [bytes]).flatten = events.flatten ++ bytes := by simp
    obtain ⟨hserved, herror⟩ := readable_step hbefore (hne bytes (by simp))
    rw [serve_snoc] at hlast
    rw [hflat, serve_snoc]
    cases hfed : fed (stateAt (events.flatten ++ bytes)) with
    | true => exact hserved hfed
    | false => exact absurd (herror hfed) hlast

theorem onTrack_not_error (h : OnTrack fd client stream) : client.rr.rxState ≠ .error := by
  have hfed : fed (stateAt stream) = true ∨ stateAt stream = .len [] := by
    rcases h.fed with rfl | hfed
    · exact .inr rfl
    · exact .inl hfed
  rcases h.holds with hrr | ⟨hrr, -⟩
  · rw [hrr]
    rcases hfed with hfed | hlen
    · cases hst : stateAt stream with
      | bad exp request =>
        rw [hst] at hfed
        cases hfed
      | _ => nofun
    · rw [hlen]
      nofun
  · rw [hrr]
    nofun

/-! ## §4. Where the events of a header end. -/

/-- The bytes in front of the block: the length and the colon. -/
def prefixLen (block : List UInt8) : Nat := (decimal block.length).length + 1

/-- **Inside the block, and nowhere else**: the end of an event in front of the
last byte. -/
theorem fed_cut_iff {block pre post : List UInt8} (h : block.length < 2 ^ 32)
    (hcut : netstring block = pre ++ post) (hpost : post ≠ []) :
    fed (stateAt pre) = true ↔
      prefixLen block < pre.length ∧ pre.length < prefixLen block + block.length := by
  have hlen := parsedLen_toNat h
  have htotal : pre.length < prefixLen block + block.length + 1 := by
    have hlengths := congrArg List.length hcut
    have hpos : 0 < post.length := List.length_pos_iff.mpr hpost
    simp only [netstring, List.length_append, List.length_cons, List.length_nil] at hlengths
    unfold prefixLen
    omega
  have hpre : pre = (netstring block).take pre.length := by
    rw [hcut, List.take_left]
  by_cases hdigits : pre.length ≤ (decimal block.length).length
  · -- in the length
    have htake : pre = (decimal block.length).take pre.length := by
      rw [hpre, netstring, List.take_append_of_le_length]
      · simp
      · simpa using hdigits
    have hreads := reads_digits pre [] [] fun c hc => by
      rw [htake] at hc
      exact decimal_plain (List.mem_of_mem_take hc)
    rw [List.append_nil] at hreads
    rw [(stateAt_of_reads hreads (.inl rfl)).1]
    unfold prefixLen
    simp only [fed, Bool.false_eq_true, false_iff]
    omega
  · -- behind the colon
    obtain ⟨j, hj⟩ : ∃ j, pre.length = prefixLen block + j :=
      ⟨pre.length - prefixLen block, by unfold prefixLen; omega⟩
    have hle : (block.take j).length ≤ (parsedLen block.length).toNat := by
      rw [hlen, List.length_take]
      exact min_le_right j block.length
    have htake : pre = decimal block.length ++ 58 :: (block.take j ++ []) := by
      rw [hpre, hj, netstring, prefixLen, List.take_append, List.take_of_length_le (by omega)]
      have hleft : (decimal block.length).length + 1 + j - (decimal block.length).length =
          j + 1 := by omega
      rw [hleft, List.take_succ_cons, List.take_append_of_le_length (by omega), List.append_nil]
    have hreads := reads_block block.length [] hle
    rw [← htake] at hreads
    rw [(stateAt_of_reads hreads (.inl rfl)).1, hj]
    -- inside the block, or behind the whole of it, where the comma alone is missing
    by_cases hall : j < block.length
    · have htakelen : (block.take j).length = j := by
        rw [List.length_take]
        omega
      rw [gather_short (by omega)]
      simp only [fed, Bool.not_eq_true', List.isEmpty_eq_false_iff, ← List.length_pos_iff,
        htakelen]
      omega
    · have htakelen : (block.take j).length = block.length := by
        rw [List.length_take]
        omega
      rw [gather_full (by omega)]
      simp only [fed, Bool.false_eq_true, false_iff]
      omega

/-- A length that does not fit the counter leaves bytes unread. -/
theorem restAt_long {block : List UInt8} (h : ¬ block.length < 2 ^ 32) :
    restAt (netstring block) ≠ [] := by
  have hlt : (parsedLen block.length).toNat < block.length :=
    lt_of_lt_of_le (parsedLen block.length).toNat_lt (by omega)
  have htakelen : (block.take (parsedLen block.length).toNat).length =
      (parsedLen block.length).toNat := by
    rw [List.length_take]
    omega
  have hreads := reads_block block.length
    (block.drop (parsedLen block.length).toNat ++ [44]) (le_of_eq htakelen)
  rw [← List.append_assoc, List.take_append_drop, gather_full (by omega)] at hreads
  -- the next byte of the block is taken for the comma
  obtain ⟨c, cs, hrest⟩ : ∃ c cs, block.drop (parsedLen block.length).toNat = c :: cs := by
    cases hdrop : block.drop (parsedLen block.length).toNat with
    | nil =>
      rw [List.drop_eq_nil_iff] at hdrop
      omega
    | cons c cs => exact ⟨c, cs, rfl⟩
  rw [hrest] at hreads
  have hall := hreads.trans (Reads.single rfl : Reads headerReader _ (c :: (cs ++ [44])) _ _)
  have hfinal : (HeaderState.step (.comma (parsedLen block.length)
      (extractPairs HNSCGIMsg.new (block.take (parsedLen block.length).toNat))) c).final = true :=
    step_comma_final _ _ c
  rw [show netstring block = decimal block.length ++ 58 :: (block ++ [44]) from rfl,
    (stateAt_of_reads hall (.inr hfinal)).2]
  simp

/-! ## §5. Which headers are served. -/

/-- In one event, the whole header is read. -/
theorem onTrack_whole (fd : Nat) {block : List UInt8} (hlen : block.length < 2 ^ 32) :
    OnTrack fd (serve fd [netstring block]) (netstring block) := by
  have htrack := onTrack_of_fed fd [netstring block] (by simp [netstring]) (by
    intro pre post heq hpre
    obtain ⟨rfl, rfl⟩ : pre = [netstring block] ∧ post = [] := by
      cases pre with
      | nil => exact absurd rfl hpre
      | cons e rest => simpa [eq_comm, and_assoc] using heq
    simp [(stateAt_of_reads (reads_netstring hlen) (.inl rfl)).1, fed])
  simpa using htrack

/-- **A slow client is served exactly when** its header's length fits the
counter and every event but the last ends inside the header block. -/
theorem slow_client_iff (fd : Nat) (block : List UInt8) (events : List (List UInt8))
    (hevents : events.flatten = netstring block) (hne : ∀ e ∈ events, e ≠ []) :
    Served fd (netstring block) events ↔
      block.length < 2 ^ 32 ∧ ∀ pre post, events = pre ++ post → pre ≠ [] → post ≠ [] →
        prefixLen block < pre.flatten.length ∧
          pre.flatten.length < prefixLen block + block.length := by
  have hcut : ∀ pre post, events = pre ++ post → netstring block = pre.flatten ++ post.flatten := by
    rintro pre post rfl
    rw [← hevents, List.flatten_append]
  have hpost : ∀ pre post, events = pre ++ post → post ≠ [] → post.flatten ≠ [] := by
    rintro pre post rfl hpost hflat
    obtain ⟨e, rest, rfl⟩ := List.exists_cons_of_ne_nil hpost
    exact hne e (by simp) (by simpa using (List.append_eq_nil_iff.mp hflat).1)
  constructor
  · intro h
    have htrack := onTrack_of_neverError events hne h.neverError
    rw [hevents] at htrack
    -- a header that is too long is not read to its end
    have hlen : block.length < 2 ^ 32 := by
      by_contra hlong
      exact restAt_long hlong (htrack.bytes.symm.trans h.consumed)
    refine ⟨hlen, fun pre post heq hpre hpost' => ?_⟩
    -- the events up to the cut are in order as well, so the reader stands in the block
    have htrack' : OnTrack fd (serve fd pre) pre.flatten := by
      refine onTrack_of_neverError pre (fun e he => hne e (by simp [heq, he])) ?_
      rintro pre' post' rfl
      exact h.neverError pre' (post' ++ post) (by simp [heq])
    have hflat : pre.flatten ≠ [] := by
      obtain ⟨e, rest, rfl⟩ := List.exists_cons_of_ne_nil hpre
      have he : e ≠ [] := hne e (by simp [heq])
      simp [he]
    have hfed := htrack'.fed.resolve_left hflat
    exact (fed_cut_iff hlen (hcut pre post heq) (hpost pre post heq hpost')).mp hfed
  · intro ⟨hlen, hcuts⟩
    obtain ⟨hst, hrest⟩ := stateAt_of_reads (reads_netstring hlen) (.inl rfl)
    have hfed : ∀ pre post, events = pre ++ post → pre ≠ [] →
        fed (stateAt pre.flatten) = true := by
      intro pre post heq hpre
      by_cases hlast : post = []
      · have hflat : pre.flatten = netstring block := by
          rw [← hevents, heq, hlast, List.append_nil]
        rw [hflat, hst]
        rfl
      · exact (fed_cut_iff hlen (hcut pre post heq) (hpost pre post heq hlast)).mpr
          (hcuts pre post heq hpre hlast)
    have htrack := onTrack_of_fed fd events hne hfed
    rw [hevents] at htrack
    have hrecord : (serve fd events).rr =
        (HeaderState.done (parsedLen block.length) (parsedRequest block)).record fd := by
      rcases htrack.holds with hrr | ⟨-, hlenState⟩
      · rw [hrr, hst]
      · rw [hst] at hlenState
        cases hlenState
    refine ⟨?_, ?_, ?_, parsedRequest block, ?_, ?_⟩
    · rintro pre post rfl
      have hpre := onTrack_of_fed fd pre (fun e he => hne e (by simp [he]))
        fun pre' post' heq => hfed pre' (post' ++ post) (by simp [heq])
      exact onTrack_not_error hpre
    · rw [hrecord]
      rfl
    · rw [htrack.bytes, hrest]
    · rw [htrack.posted, hst]
      rfl
    · rw [(onTrack_whole fd hlen).posted, hst]
      rfl

/-! ## §6. One header, cut in two places. -/

/-- The two headers every SCGI request begins with. -/
def sampleBlock : List UInt8 :=
  lit "CONTENT_LENGTH" ++ [0] ++ lit "0" ++ [0] ++ lit "SCGI" ++ [0] ++ lit "1" ++ [0]

/-- Cut inside the block. -/
theorem slow_client_served :
    Served 7 (netstring sampleBlock)
      [(netstring sampleBlock).take 9, (netstring sampleBlock).drop 9] := by
  refine (slow_client_iff 7 sampleBlock _ (by decide) (by decide)).mpr ⟨by decide, ?_⟩
  intro pre post heq hpre hpost
  obtain ⟨e, rest, rfl⟩ := List.exists_cons_of_ne_nil hpre
  obtain ⟨rfl, htail⟩ := List.cons.inj heq
  obtain rfl : rest = [] := by
    cases rest with
    | nil => rfl
    | cons e' rest' => exact absurd (List.append_eq_nil_iff.mp (List.cons.inj htail).2.symm).2 hpost
  decide

/-- **Cut inside its length**, "2" and "4:...", the header is not served. -/
theorem slow_client_broken :
    ¬ ∀ (block : List UInt8) (events : List (List UInt8)), events.flatten = netstring block →
      (∀ e ∈ events, e ≠ []) → Served 7 (netstring block) events := by
  intro h
  have hserved := h sampleBlock
    [(netstring sampleBlock).take 1, (netstring sampleBlock).drop 1] (by decide) (by decide)
  exact hserved.neverError [(netstring sampleBlock).take 1] [(netstring sampleBlock).drop 1] rfl
    (by decide +kernel)

end HNodeMgmt.Scgi
