import GlRs485.StepOutcomes
import GlRs485.HexRequests

/-!
# How a stream of hex text is cut into reads

TCP does not keep the boundaries of what a client writes, and `conn_loop` takes
every read for a request of its own. With `str` the bytes that reach the line are
those of the stream exactly when every read holds whole pairs of digits, not more
of them than the decoder takes, and gets to the port.
-/

namespace GlRs485.Segmentation

open CBytes HexText HexCodec HexDecoder SpacedHex ConnectionQueue BridgeSettings SerialLine
open SocketBridge ServingVisits HexRequests HeadPasses LoopActions StepOutcomes
open TracedSystem

set_option autoImplicit false

def requestTexts (events : List Event) : List (List Byte) :=
  events.filterMap fun event => match event with
    | .request _ bytes => some bytes
    | _ => none

def writtenBytes (events : List Event) : List Byte := (sentBytes events).flatten

def mostDigits : Nat := 252

/-- A request for the line: what was read, how often the lock was refused when it was
to be written, and whether `tty.fd` was still the port. -/
structure Reading where
  text : List Byte
  lockFails : Nat
  onPort : Bool
  deriving DecidableEq

/-- `tty_write` gives up, and closes the port, when the lock is refused for the
thirty-first time. -/
def Reading.limit (reading : Reading) : Nat :=
  if reading.lockFails ≤ 30 ∧ reading.onPort = true then mostDigits else 0

/-- The digits come in whole pairs, and not more of them than can be decoded and written. -/
def Reading.Whole (reading : Reading) : Prop := WholePairs reading.limit (unblanked reading.text)

instance (reading : Reading) : Decidable reading.Whole :=
  inferInstanceAs (Decidable (WholePairs _ _))

def Reading.forwarded (reading : Reading) : List Byte :=
  partValues reading.limit (unblanked reading.text)

def OnlyHex (bytes : List Byte) : Prop := ∀ digit ∈ unblanked bytes, IsHexDigit digit

structure Noted where
  readings : List Reading
  written : List Byte
  deriving DecidableEq

def lockFailsOf : Answers → Nat
  | .head _ => 0
  | .visit io => io.lockFails

def onPort (s : State) : Bool := decide (s.fds s.tty.fd = some (.serial 0))

/-- What is written to `tty.fd` gets to the line while that is the port. Writes are
taken whole here: these are the bytes that `conn_loop` hands over. -/
def noteForwarding (s : State) (answers : Answers) (events : List Event) : List Noted :=
  [⟨(requestTexts events).map fun text => ⟨text, lockFailsOf answers, onPort s⟩,
    if onPort s then writtenBytes events else []⟩]

def forwardStep (longBits : Nat) : StepFunction State Answers Noted :=
  observing (step longBits) noteForwarding

def readings (seen : List Noted) : List Reading := seen.flatMap Noted.readings

def lineBytes (seen : List Noted) : List Byte := seen.flatMap Noted.written

theorem requestTexts_append (front back : List Event) :
    requestTexts (front ++ back) = requestTexts front ++ requestTexts back := by
  rw [requestTexts, List.filterMap_append]
  rfl

def Bystander : Event → Prop
  | .request _ _ => False
  | .line (.sent _ _ _) => False
  | _ => True

def Unasked : Event → Prop
  | .request _ _ => False
  | _ => True

theorem unasked_no_requests {events : List Event} (others : ∀ event ∈ events, Unasked event) :
    requestTexts events = [] := by
  rw [requestTexts, List.filterMap_eq_nil_iff]
  intro event member
  have other := others event member
  cases event <;> first | rfl | exact other.elim

theorem bystander_unasked (event : Event) (other : Bystander event) : Unasked event := by
  cases event <;> trivial

theorem bystanders_forward_nothing {events : List Event}
    (others : ∀ event ∈ events, Bystander event) :
      requestTexts events = [] ∧ sentBytes events = [] := by
  constructor
  · exact unasked_no_requests fun event member => bystander_unasked event (others event member)
  · rw [sentBytes, List.filterMap_eq_nil_iff]
    intro event member
    have other := others event member
    cases event with
    | line call => cases call <;> first | rfl | exact other.elim
    | _ => rfl

theorem reply_call_bystander (s : State) (conn : Ptr) (io : VisitAnswers) :
    Bystander (replyCall s conn io) := by
  unfold replyCall
  split <;> trivial

theorem head_decodes_nothing {longBits : Nat} {s s' : State} {io : HeadAnswers}
    {events : List Event} (outcome : HeadOutcome longBits s io s' events) (head : s.pc = .head) :
      s'.pc ≠ .endless := by
  have starts : ∀ (opened : State) (rc : Nat), opened.pc ≠ .endless →
      (startServing opened rc).pc ≠ .endless := by
    intro opened rc running
    rcases start_serving_place opened rc with same | ⟨more, walks⟩
    · rw [same]
      exact running
    · simp [walks]
  cases outcome with
  | waited place _ => rcases place with rfl | rfl <;> simp
  | purged _ _ _ => simp
  | @spared nfds tvSec readable writable toutSec tout rc conns _ =>
      apply starts
      have before : (afterExpiry s readable writable toutSec conns tout).pc = .head := head
      have opening :=
        accept_pending_opening (afterExpiry s readable writable toutSec conns tout) io.opening
      generalize afterExpiry s readable writable toutSec conns tout = spared at before opening ⊢
      generalize acceptPending spared io.opening = opened at opening ⊢
      obtain ⟨after, events⟩ := opened
      cases opening with
      | exited _ _ => simp
      | unattached _ => simp
      | _ => exact fun endless => Pc.noConfusion (before.symm.trans endless)

/-- The requests of a visit, and what is shown of one that is never decoded. -/
theorem visit_requests (s : State) (conn : Ptr) (io : VisitAnswers) :
    let served := serveConn s conn io
    ((∀ event ∈ served.2.1, Bystander event) ∧ served.2.2 ≠ .endless) ∨
      ∃ bytes peer, Reads s conn io bytes peer ∧ requestTexts served.2.1 = [bytes] ∧
        (served.2.2 = .endless → served.2.1 = [.request conn bytes]) := by
  have outcome := serve_conn_outcome s conn io
  have single : ∀ {bytes : List Byte} {events : List Event},
      (∀ event ∈ events, Unasked event) →
        requestTexts (.request conn bytes :: events) = [bytes] := by
    intro bytes events others
    rw [← List.singleton_append, requestTexts_append, unasked_no_requests others]
    rfl
  have sends : ∀ s : State, ∀ event ∈ (socketSend s conn io).2.1, Bystander event := fun s =>
    socket_send_shows s conn io (reply_call_bystander s conn io) trivial
  dsimp only
  generalize serveConn s conn io = served at outcome ⊢
  obtain ⟨s', events, flow⟩ := served
  cases outcome with
  | passed => exact Or.inl ⟨by simp, by simp⟩
  | unread _ _ => exact Or.inl ⟨by simp, by simp⟩
  | ended _ _ =>
      refine Or.inl ⟨?_, by simp⟩
      intro event member
      rw [List.mem_singleton.mp member]
      trivial
  | @stuck _ bytes peer reads _ =>
      exact Or.inr ⟨bytes, peer, reads, rfl, fun _ => rfl⟩
  | @answered _ bytes peer lines events reads answered _ =>
      refine Or.inr ⟨bytes, peer, reads, single ?_, by simp⟩
      exact answered.shows (fun _ => trivial) (fun _ => trivial)
  | @answeredAtOnce middle bytes peer lines events reads answered _ =>
      refine Or.inr ⟨bytes, peer, reads, single ?_, fun endless =>
        absurd endless (socket_send_ends middle conn io)⟩
      intro event member
      rcases List.mem_append.mp member with earlier | later
      · exact answered.shows (fun _ => trivial) (fun _ => trivial) event earlier
      · exact bystander_unasked event (sends middle event later)
  | owed _ => exact Or.inl ⟨sends s, socket_send_ends s conn io⟩

theorem whole_within {reading : Reading} (whole : reading.Whole) :
    (unblanked reading.text).length ≤ 252 := by
  have most : (unblanked reading.text).length ≤ reading.limit := whole.2
  unfold Reading.limit mostDigits at most
  split at most <;> omega

theorem forwarded_broken {reading : Reading} (broken : ¬reading.Whole) : reading.forwarded = [] :=
  if_neg broken

theorem forwarded_unreached {reading : Reading}
    (unreached : ¬(reading.lockFails ≤ 30 ∧ reading.onPort = true)) :
      reading.forwarded = [] := by
  by_cases whole : reading.Whole
  · have none : (unblanked reading.text).length ≤ 0 := by
      have most := whole.2
      rwa [Reading.limit, if_neg unreached] at most
    rw [Reading.forwarded, List.length_eq_zero_iff.mp (Nat.le_zero.mp none)]
    exact ite_self _
  · exact forwarded_broken whole

theorem request_forwards (s : State) (conn : Ptr) (io : VisitAnswers) (bytes : List Byte)
    (peer : Nat) (port : Bool) (text : s.cfg.isStr = true) (number : 0 ≤ s.tty.fd)
    (size : bytes.length ≤ 256) (reads : Reads s conn io bytes peer) (hex : OnlyHex bytes)
    (shown : (serveConn s conn io).2.2 = .endless →
      (serveConn s conn io).2.1 = [.request conn bytes]) :
      let reading : Reading := ⟨bytes, io.lockFails, port⟩
      ((serveConn s conn io).2.2 = .endless → ¬reading.Whole) ∧
        (if port then writtenBytes (serveConn s conn io).2.1 else []) = reading.forwarded := by
  obtain ⟨oddServed, evenServed⟩ := text_served s conn io bytes peer text reads size
  have whole : textBeforeNul bytes = unblanked bytes :=
    takeWhile_zero_free _ fun zero => nonzero_of_hex 0 (hex 0 zero) rfl
  rw [whole] at oddServed evenServed
  intro reading
  unfold writtenBytes
  by_cases odd : (unblanked bytes).length % 2 = 1
  · obtain ⟨ended, none, _⟩ := oddServed odd
    have broken : ¬reading.Whole := fun pairs => by
      have even : (unblanked bytes).length % 2 = 0 := pairs.1
      omega
    rw [none, forwarded_broken broken]
    exact ⟨fun endless => absurd endless ended, ite_self _⟩
  · obtain ⟨_, ended, decoded, refused⟩ := evenServed (by omega)
    by_cases long : 254 ≤ (unblanked bytes).length
    · have broken : ¬reading.Whole := fun pairs => by
        have most : (unblanked bytes).length ≤ 252 := whole_within pairs
        omega
      refine ⟨fun _ => broken, ?_⟩
      rw [shown (ended.mpr long), forwarded_broken broken]
      exact ite_self _
    · refine ⟨fun endless => absurd (ended.mp endless) long, ?_⟩
      by_cases reached : io.lockFails ≤ 30 ∧ port = true
      · obtain ⟨strIn, out, content, handed⟩ := decoded (by omega) number reached.1
        have values : reading.forwarded = pairValues (unblanked bytes) := by
          rw [Reading.forwarded, Reading.limit, if_pos reached]
          have even : (unblanked bytes).length % 2 = 0 := by omega
          exact if_pos ⟨even, show (unblanked bytes).length ≤ 252 by omega⟩
        rw [handed, packed_cells_of_hex _ strIn out content hex, if_pos reached.2, values]
        exact List.append_nil _
      · rw [forwarded_unreached reached]
        by_cases given : port = true
        · have busy : 30 < io.lockFails := Nat.lt_of_not_le fun few => reached ⟨few, given⟩
          rw [refused busy]
          exact ite_self _
        · exact if_neg given

theorem step_forwards {longBits : Nat} {s s' : State} {answers : Answers} {seen : List Noted}
    (text : s.cfg.isStr = true) (port : 0 ≤ s.tty.fd) (sound : Sound s)
    (admissible : Admissible s answers)
    (taken : forwardStep longBits s answers = some (s', seen)) :
      ((readings seen = [] ∧ lineBytes seen = []) ∧ s'.pc ≠ .endless) ∨
        ∃ reading, readings seen = [reading] ∧ (OnlyHex reading.text →
          lineBytes seen = reading.forwarded ∧ (s'.pc = .endless → ¬reading.Whole)) := by
  obtain ⟨events, stepped, rfl⟩ := observing_taken taken
  have noted : readings (noteForwarding s answers events) =
      (requestTexts events).map fun text => ⟨text, lockFailsOf answers, onPort s⟩ :=
    List.append_nil _
  have line : lineBytes (noteForwarding s answers events) =
      if onPort s then writtenBytes events else [] := List.append_nil _
  rw [noted, line]
  cases step_outcome sound stepped with
  | @head io pc outcome =>
      left
      obtain ⟨none, nothing⟩ := bystanders_forward_nothing (head_shows outcome
        (fun _ _ => trivial) (fun _ => trivial) (fun _ => trivial) (fun _ _ => trivial)
        (fun _ _ => trivial))
      refine ⟨⟨by rw [none]; rfl, ?_⟩, head_decodes_nothing outcome pc⟩
      rw [writtenBytes, nothing]
      exact ite_self _
  | @visit io more conn outcome =>
      obtain ⟨ended, shown⟩ := visit_step_served outcome.pc stepped
      have texts : requestTexts events = requestTexts (serveConn s conn io).2.1 :=
        stale_hidden _ shown fun _ => rfl
      have sent : sentBytes events = sentBytes (serveConn s conn io).2.1 :=
        stale_hidden _ shown fun _ => rfl
      rw [Ne, ended, texts, writtenBytes, sent]
      rcases visit_requests s conn io with ⟨others, ends⟩ | ⟨bytes, peer, reads, single, stuck⟩
      · obtain ⟨none, nothing⟩ := bystanders_forward_nothing others
        refine Or.inl ⟨⟨by rw [none]; rfl, ?_⟩, ends⟩
        rw [nothing]
        exact ite_self _
      · right
        refine ⟨⟨bytes, io.lockFails, onPort s⟩, by rw [single]; rfl, fun hex => ?_⟩
        have size := conn_read_size io.recv bytes peer admissible.1 reads.heard
        obtain ⟨broken, written⟩ := request_forwards s conn io bytes peer (onPort s) text port size
          reads hex stuck
        exact ⟨written, broken⟩

/-- What the line got is the readings put together, and the loop is never stuck but
in one that is not whole. -/
structure Forwarding (initial : State) (seen : List Noted) (s : State) : Prop where
  sound : Sound s
  cfg : s.cfg = initial.cfg
  ttyFd : s.tty.fd = initial.tty.fd
  written : (∀ reading ∈ readings seen, OnlyHex reading.text) →
    lineBytes seen = (readings seen).flatMap Reading.forwarded
  stuck : (∀ reading ∈ readings seen, OnlyHex reading.text) → s.pc = .endless →
    ∃ reading ∈ readings seen, ¬reading.Whole

theorem forwarding_step {longBits : Nat} {initial s s' : State} {answers : Answers}
    {seen later : List Noted} (text : initial.cfg.isStr = true) (port : 0 ≤ initial.tty.fd)
    (before : Forwarding initial seen s) (admissible : Admissible s answers)
    (taken : forwardStep longBits s answers = some (s', later)) :
      Forwarding initial (seen ++ later) s' := by
  have forwards := step_forwards (by rw [before.cfg, text]) (by rw [before.ttyFd]; exact port)
    before.sound admissible taken
  have noted : readings (seen ++ later) = readings seen ++ readings later :=
    List.flatMap_append
  have line : lineBytes (seen ++ later) = lineBytes seen ++ lineBytes later :=
    List.flatMap_append
  obtain ⟨events, stepped, _⟩ := observing_taken taken
  have sound := (step_going before.sound admissible stepped).1
  have fixed := step_fixed (step_outcome before.sound stepped)
  refine ⟨sound, fixed.cfg.trans before.cfg, fixed.ttyFd.trans before.ttyFd, ?_, ?_⟩
  · intro hex
    rw [noted] at hex
    have earlier := before.written fun reading member => hex reading (by simp [member])
    rw [noted, line, List.flatMap_append, earlier]
    rcases forwards with ⟨⟨none, nothing⟩, _⟩ | ⟨reading, single, forwards⟩
    · rw [none, nothing]
      rfl
    · rw [single, (forwards (hex reading (by simp [single]))).1, List.flatMap_singleton]
  · intro hex endless
    rw [noted] at hex ⊢
    rcases forwards with ⟨_, ends⟩ | ⟨reading, single, forwards⟩
    · exact absurd endless ends
    · exact ⟨reading, by simp [single], (forwards (hex reading (by simp [single]))).2 endless⟩

/-- All of the cut is read, unless the loop is stuck in a read before its end. -/
def ReadsCut (seen : List Noted) (s : State) (cut : List (List Byte)) : Prop :=
  (readings seen).map Reading.text = cut ∨
    s.pc = .endless ∧ (readings seen).map Reading.text <+: cut

theorem run_forwarding {longBits : Nat} {initial s : State} {seen : List Noted}
    (started : Started initial) (text : initial.cfg.isStr = true)
    (run : Run (forwardStep longBits) Admissible initial seen s) : Forwarding initial seen s := by
  have nothing : Forwarding initial [] initial := by
    refine ⟨started_sound started, rfl, rfl, fun _ => rfl, fun _ endless => ?_⟩
    rw [(started_empty started).2] at endless
    simp at endless
  exact run_invariant (Forwarding initial) nothing
    (fun _ _ _ _ _ before allowed taken =>
      forwarding_step text (started_port started) before allowed taken) run

theorem stream_digits {s : State} {seen : List Noted} {cut : List (List Byte)}
    (reads : ReadsCut seen s cut) :
      ∃ rest, (readings seen).map Reading.text ++ rest = cut ∧ unblanked cut.flatten =
        ((readings seen).flatMap fun reading => unblanked reading.text) ++
          unblanked rest.flatten := by
  obtain ⟨rest, same⟩ : (readings seen).map Reading.text <+: cut := by
    rcases reads with whole | ⟨_, within⟩
    · rw [whole]
    · exact within
  have blanks : ∀ texts : List (List Byte),
      unblanked texts.flatten = (texts.map unblanked).flatten := fun texts => List.filter_flatten
  refine ⟨rest, same, ?_⟩
  rw [← same, List.flatten_append, unblanked, List.filter_append]
  congr 1
  rw [List.flatMap_def]
  exact (blanks _).trans (by rw [List.map_map]; rfl)

/-- One cut of a stream of hex text. -/
theorem cut_forwarded_iff {longBits : Nat} {initial s : State} {seen : List Noted}
    {cut : List (List Byte)} (started : Started initial) (text : initial.cfg.isStr = true)
    (hex : IsHexRequest cut.flatten) (run : Run (forwardStep longBits) Admissible initial seen s)
    (reads : ReadsCut seen s cut) :
      lineBytes seen = pairValues (unblanked cut.flatten) ↔
        ∀ reading ∈ readings seen, reading.Whole := by
  have forwarding := run_forwarding started text run
  obtain ⟨rest, same, digits⟩ := stream_digits reads
  have onlyHex : ∀ reading ∈ readings seen, OnlyHex reading.text := by
    intro reading member digit listed
    apply hex.2 digit
    rw [digits]
    exact List.mem_append_left _ (List.mem_flatMap.mpr ⟨reading, member, listed⟩)
  have even := hex.1
  let parts := (readings seen).map fun reading => (reading.limit, unblanked reading.text)
  have values : (readings seen).flatMap Reading.forwarded =
      parts.flatMap fun part => partValues part.1 part.2 := by
    rw [List.flatMap_map]
    rfl
  have taken : ((readings seen).flatMap fun reading => unblanked reading.text) =
      parts.flatMap Prod.snd := by
    rw [List.flatMap_map]
  have every : (∀ reading ∈ readings seen, reading.Whole) ↔
      ∀ part ∈ parts, WholePairs part.1 part.2 := by
    simp only [parts, List.forall_mem_map]
    rfl
  rw [forwarding.written onlyHex, values, every]
  rw [digits, taken] at even ⊢
  rcases reads with whole | ⟨endless, _⟩
  · have finished : rest = [] := by
      rw [whole] at same
      exact List.append_right_eq_self.mp same
    rw [finished] at even ⊢
    rw [show unblanked ([] : List (List Byte)).flatten = [] from rfl, List.append_nil] at even ⊢
    exact partValues_flatten_iff parts even
  · obtain ⟨reading, listed, broken⟩ := forwarding.stuck onlyHex endless
    have member : (reading.limit, unblanked reading.text) ∈ parts :=
      List.mem_map_of_mem listed
    have fewer := (partValues_length parts).2 ⟨_, member, broken⟩
    constructor
    · intro all
      rw [all, pairValues_length, List.length_append] at fewer
      rw [List.length_append] at even
      omega
    · intro whole
      exact absurd (whole _ member) broken

/-- However a stream is cut, the line gets the same bytes, those of the stream,
exactly when no cut is inside a pair, no read is too long for the decoder and every read
with digits gets to the port. -/
theorem forwarding_ignores_cuts_iff {longBits : Nat} {initial s₁ s₂ : State}
    {seen₁ seen₂ : List Noted} {stream : List Byte} {cut₁ cut₂ : List (List Byte)}
    (started : Started initial) (text : initial.cfg.isStr = true) (hex : IsHexRequest stream)
    (first : cut₁.flatten = stream) (second : cut₂.flatten = stream)
    (run₁ : Run (forwardStep longBits) Admissible initial seen₁ s₁)
    (reads₁ : ReadsCut seen₁ s₁ cut₁)
    (run₂ : Run (forwardStep longBits) Admissible initial seen₂ s₂)
    (reads₂ : ReadsCut seen₂ s₂ cut₂) :
      (lineBytes seen₁ = lineBytes seen₂ ∧ lineBytes seen₂ = pairValues (unblanked stream)) ↔
        ∀ reading ∈ readings seen₁ ++ readings seen₂, reading.Whole := by
  have firstIff := cut_forwarded_iff started text (by rw [first]; exact hex) run₁ reads₁
  have secondIff := cut_forwarded_iff started text (by rw [second]; exact hex) run₂ reads₂
  rw [first] at firstIff
  rw [second] at secondIff
  rw [List.forall_mem_append, ← firstIff, ← secondIff]
  constructor
  · rintro ⟨same, decoded⟩
    exact ⟨same.trans decoded, decoded⟩
  · rintro ⟨decodedFirst, decodedSecond⟩
    exact ⟨decodedFirst.trans decodedSecond.symm, decodedSecond⟩

def clientSends (reads : List (List Byte)) : List Answers :=
  [passWith [4] [] 5 1, visitWith [] 0 [] 0] ++ reads.flatMap fun bytes =>
    [passWith [5] [] 6 2, visitWith bytes 0 [.data [1]] 0,
      passWith [] [5] 6 2, visitWith [] 0 [] 2]

theorem forwarding_ignores_cuts_iff_between_pairs :
    ∃ seen₁ seen₂, readings seen₁ = [⟨ascii "0a 1F", 0, true⟩] ∧
      readings seen₂ = [⟨ascii "0a", 0, true⟩, ⟨ascii " 1F", 0, true⟩] ∧
        lineBytes seen₁ = lineBytes seen₂ ∧ lineBytes seen₂ = [10, 31] := by
  obtain ⟨s₁, seen₁, run₁, reads₁⟩ := run_of_replay_view (forwardStep 64) Admissible
    (fun reached => readings reached.2) (clientSends [ascii "0a 1F"])
    (freshDaemon strOverTcp) [⟨ascii "0a 1F", 0, true⟩] (by decide +kernel)
  obtain ⟨s₂, seen₂, run₂, reads₂⟩ := run_of_replay_view (forwardStep 64) Admissible
    (fun reached => readings reached.2) (clientSends [ascii "0a", ascii " 1F"])
    (freshDaemon strOverTcp) [⟨ascii "0a", 0, true⟩, ⟨ascii " 1F", 0, true⟩] (by decide +kernel)
  dsimp only at reads₁ reads₂
  refine ⟨seen₁, seen₂, reads₁, reads₂, ?_⟩
  refine (@forwarding_ignores_cuts_iff 64 _ s₁ s₂ seen₁ seen₂ (ascii "0a 1F") [ascii "0a 1F"]
    [ascii "0a", ascii " 1F"] (fresh_daemon_started _) (by decide) (by decide +kernel) rfl
    (by decide +kernel) run₁ (Or.inl (by rw [reads₁]; rfl)) run₂
    (Or.inl (by rw [reads₂]; rfl))).mpr ?_
  rw [reads₁, reads₂]
  decide +kernel

/-- The two digits of one byte in two reads: both are refused. -/
theorem pair_in_two_reads_is_lost :
    ∃ seen₁ s₁ seen₂ s₂, IsHexRequest (ascii "0a") ∧
      Run (forwardStep 64) Admissible (freshDaemon strOverTcp) seen₁ s₁ ∧
        ReadsCut seen₁ s₁ [ascii "0a"] ∧ lineBytes seen₁ = [10] ∧
      Run (forwardStep 64) Admissible (freshDaemon strOverTcp) seen₂ s₂ ∧
        ReadsCut seen₂ s₂ [ascii "0", ascii "a"] ∧ lineBytes seen₂ = [] := by
  obtain ⟨s₁, seen₁, run₁, shown₁⟩ := run_of_replay_view (forwardStep 64) Admissible
    (fun reached => ((readings reached.2).map Reading.text, lineBytes reached.2))
    (clientSends [ascii "0a"]) (freshDaemon strOverTcp) ([ascii "0a"], [10]) (by decide +kernel)
  obtain ⟨s₂, seen₂, run₂, shown₂⟩ := run_of_replay_view (forwardStep 64) Admissible
    (fun reached => ((readings reached.2).map Reading.text, lineBytes reached.2))
    [passWith [4] [] 5 1, visitWith [] 0 [] 0, passWith [5] [] 6 2, visitWith (ascii "0") 0 [] 17,
      passWith [5] [] 6 2, visitWith (ascii "a") 0 [] 17]
    (freshDaemon strOverTcp) ([ascii "0", ascii "a"], []) (by decide +kernel)
  obtain ⟨reads₁, written₁⟩ := Prod.mk.inj shown₁
  obtain ⟨reads₂, written₂⟩ := Prod.mk.inj shown₂
  exact ⟨seen₁, s₁, seen₂, s₂, by decide +kernel, run₁, Or.inl reads₁, written₁, run₂,
    Or.inl reads₂, written₂⟩

end GlRs485.Segmentation
