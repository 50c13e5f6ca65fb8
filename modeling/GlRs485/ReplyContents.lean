import GlRs485.ReplyIsolation
import GlRs485.TransmissionType

/-!
# Whose bytes go out

The length of a reply is one number for all clients, its bytes lie in the buffer
of the connection. A reply call may therefore offer too few or too many bytes,
but as far as the buffer reaches they are the client's own: the reply formed for
it, and behind that zeros or what is left of its request.
-/

namespace GlRs485.ReplyContents

open CBytes ConnectionQueue BridgeSettings HexCodec SerialLine SocketBridge ServingVisits
open HeadPasses LoopActions WaitingReplies ReplyIsolation TransmissionType TracedSystem

set_option autoImplicit false

def noteLast (last : Option (List Byte)) : Event → Option (List Byte)
  | .formed _ reply => some reply
  | _ => last

def lastReply (trace : List Event) : Option (List Byte) := trace.foldl noteLast none

def noteRequest (conn : Ptr) (latest : Option (List Byte)) : Event → Option (List Byte)
  | .request reader bytes => if reader = conn then some bytes else latest
  | _ => latest

def latestRequest (conn : Ptr) (trace : List Event) : Option (List Byte) :=
  trace.foldl (noteRequest conn) none

/-- From a place on, a buffer holds zeros or what the request left there. -/
def LeftOver (asked : List Byte) (buf : Buf) (start : Nat) : Prop :=
  ∀ index, start ≤ index → index < bufSize → buf index = 0 ∨ asked[index]? = some (buf index)

/-- The bytes begin with the reply, or are its beginning; what goes beyond it, as far
as a buffer reaches, is zero or left over from the request. -/
structure OwnBytes (own asked bytes : List Byte) : Prop where
  reply : bytes.take own.length = own.take bytes.length
  rest : ∀ index byte, own.length ≤ index → index < bufSize → bytes[index]? = some byte →
    byte = 0 ∨ asked[index]? = some byte

/-- A reply call offers as many bytes as the reply formed last has, for whomever,
and they are the client's own. -/
def ShowsOwnBytes (before : List Event) : Event → Prop
  | .replied conn _ _ bytes _ => ∃ own asked last, latestReply conn before = some own ∧
      latestRequest conn before = some asked ∧ lastReply before = some last ∧
      bytes.length = last.length ∧ OwnBytes own asked bytes
  | _ => True

/-! ## What a request leaves in the buffer of its connection -/

theorem leftOver_later {asked : List Byte} {buf : Buf} {start later : Nat}
    (stale : LeftOver asked buf start) (behind : start ≤ later) : LeftOver asked buf later :=
  fun index from_ inside => stale index (by omega) inside

theorem leftOver_cleared (asked : List Byte) (buf : Buf) (start : Nat) :
    LeftOver asked (memset buf 0 bufSize) start :=
  fun _ _ inside => Or.inl (if_pos inside)

theorem leftOver_written {asked : List Byte} {buf written : Buf} {start : Nat}
    (stale : LeftOver asked buf start) (same : ∀ index, start ≤ index → written index = buf index) :
      LeftOver asked written start := by
  intro index from_ inside
  rw [same index from_]
  exact stale index from_ inside

theorem strncpy_beyond (target source : Buf) (count index : Nat) (beyond : count ≤ index) :
    strncpy target source count index = target index := if_neg (by omega)

theorem text_reply_left_over {s : State} {conn : Ptr} {asked : List Byte} (text : List Byte)
    (stale : LeftOver asked (s.conn conn).buf 0) :
      LeftOver asked ((textReply s conn text).1.conn conn).buf
        (textReply s conn text).1.tty.rxlen := by
  have buf := finish_reply_buf (s.update conn fun c =>
    { c with buf := strncpy c.buf (ofBytes text) text.length }) conn text.length
  rw [update_conn_same] at buf
  show LeftOver asked ((finishReply _ conn text.length).1.conn conn).buf text.length
  rw [buf]
  apply leftOver_written (leftOver_later stale (Nat.zero_le _))
  exact fun index beyond => strncpy_beyond _ _ _ index beyond

theorem tty_answer_left_over {s : State} {conn : Ptr} {asked : List Byte} (io : VisitAnswers)
    (stale : LeftOver asked (s.conn conn).buf 0) :
      LeftOver asked ((ttyAnswer s conn io).1.conn conn).buf (ttyAnswer s conn io).1.tty.rxlen := by
  unfold ttyAnswer
  dsimp only
  split
  · exact text_reply_left_over _ stale
  · have cleared := leftOver_cleared asked (s.conn conn).buf
    split
    · show LeftOver asked ((finishReply _ conn _).1.conn conn).buf _
      rw [finish_reply_buf, update_conn_same, update_conn_same]
      apply leftOver_written (cleared _)
      exact fun index beyond => gl_hex2str_beyond _ _ _ index
        (by rw [Nat.mul_comm]; exact beyond)
    · show LeftOver asked ((finishReply _ conn _).1.conn conn).buf _
      rw [finish_reply_buf, update_conn_same, update_conn_same]
      apply leftOver_written (cleared _)
      exact fun index beyond => strncpy_beyond _ _ _ index beyond

theorem tty_request_left_over {s : State} {conn : Ptr} {asked : List Byte} (io : VisitAnswers)
    (ready : s.tty.fd ∈ s.sdsetwr) (stale : LeftOver asked (s.conn conn).buf 0) :
      LeftOver asked ((ttyRequest s conn io).1.conn conn).buf
        (ttyRequest s conn io).1.tty.rxlen := by
  have kept : ((afterWrite s io).conn conn).buf = (s.conn conn).buf := by
    unfold afterWrite
    split <;> rfl
  rw [tty_request_eq s conn io ready]
  dsimp only
  split
  · exact text_reply_left_over (s := afterWrite s io) _ (kept ▸ stale)
  · exact tty_answer_left_over io (kept ▸ stale)

theorem dispatch_left_over {s s' : State} {conn : Ptr} {asked : List Byte} {io : VisitAnswers}
    {events : List Event} {flow : Flow} (ready : s.tty.fd ∈ s.sdsetwr)
    (stale : LeftOver asked (s.conn conn).buf 0)
    (computed : dispatchRequest s conn io = (s', events, flow)) (answers : events ≠ []) :
      LeftOver asked (s'.conn conn).buf s'.tty.rxlen := by
  unfold dispatchRequest at computed
  dsimp only at computed
  split at computed
  · split at computed
    · have state : _ = s' := congrArg Prod.fst computed
      rw [← state]
      exact text_reply_left_over (ascii "data format error") stale
    · split at computed
      · exact absurd (congrArg (fun result => result.2.1) computed).symm answers
      · have state : _ = s' := congrArg Prod.fst computed
        rw [← state]
        exact tty_request_left_over io ready stale
  · have state : _ = s' := congrArg Prod.fst computed
    rw [← state]
    exact tty_request_left_over io ready stale

theorem loaded_left_over (s : State) (conn : Ptr) (peer : Nat) (bytes : List Byte) :
    LeftOver bytes ((loadRequest (heardState s conn peer) conn bytes).conn conn).buf 0 := by
  have cleared : ((heardState s conn peer).conn conn).buf =
      memset (s.conn conn).buf 0 bufSize := by
    unfold heardState
    dsimp only
    split
    · exact congrArg Conn.buf (update_conn_same s conn _)
    · rw [update_conn_same]
  have stored : ((loadRequest (heardState s conn peer) conn bytes).conn conn).buf =
      store (memset (s.conn conn).buf 0 bufSize) 0 bytes := by
    rw [← cleared]
    exact congrArg Conn.buf (update_conn_same (heardState s conn peer) conn _)
  intro index _ inside
  rw [stored, store]
  by_cases within : index < bytes.length
  · right
    simp [within]
  · left
    rw [if_neg (by omega)]
    exact if_pos inside

/-! ## Along a run -/

structure Holds (own asked : List Byte) (buf : Buf) : Prop where
  reply : cells buf own.length = own
  rest : LeftOver asked buf own.length

/-- Every reply that waits stands in its buffer, `tty.rxlen` is the length of the reply
formed last, and every reply call so far showed its client's own bytes. -/
structure ContentsInPlace (trace : List Event) (s : State) : Prop where
  waiting : ∀ conn ∈ s.queue.live, (s.conn conn).state = .resp → ∃ own asked,
    latestReply conn trace = some own ∧ latestRequest conn trace = some asked ∧
      Holds own asked (s.conn conn).buf
  sized : ∀ last, lastReply trace = some last → s.tty.rxlen = last.length
  shown : Judged ShowsOwnBytes trace

theorem lastReply_append (trace events : List Event) :
    lastReply (trace ++ events) = events.foldl noteLast (lastReply trace) := List.foldl_append

theorem latestRequest_append (conn : Ptr) (trace events : List Event) :
    latestRequest conn (trace ++ events) =
      events.foldl (noteRequest conn) (latestRequest conn trace) := List.foldl_append

theorem unnoted_kept (conn : Ptr) (trace events : List Event)
    (unnoted : ∀ event ∈ events, Plain event ∨ ∃ s writer io, event = replyCall s writer io) :
      latestRequest conn (trace ++ events) = latestRequest conn trace ∧
        lastReply (trace ++ events) = lastReply trace := by
  rw [latestRequest_append, lastReply_append]
  constructor
  · apply notes_unchanged
    intro event member
    rcases unnoted event member with plain | ⟨s, writer, io, rfl⟩
    · cases event <;> first | rfl | exact plain.elim
    · unfold replyCall
      split <;> rfl
  · apply notes_unchanged
    intro event member
    rcases unnoted event member with plain | ⟨s, writer, io, rfl⟩
    · cases event <;> first | rfl | exact plain.elim
    · unfold replyCall
      split <;> rfl

theorem some_reply_last (conn : Ptr) (trace : List Event) (own : List Byte)
    (latest : latestReply conn trace = some own) : ∃ last, lastReply trace = some last := by
  induction trace using List.reverseRecOn generalizing own with
  | nil => simp [latestReply] at latest
  | append_singleton trace event ih =>
      rw [latestReply_append] at latest
      rw [lastReply_append]
      cases event with
      | formed owner reply => exact ⟨reply, rfl⟩
      | request reader bytes =>
          by_cases same : reader = conn
          · simp [noteReply, same] at latest
          · simp only [List.foldl_cons, List.foldl_nil, noteReply, if_neg same] at latest
            exact ih own latest
      | _ => exact ih own latest

theorem shows_own_silent (before : List Event) (event : Event) (silent : NoReplyCall event) :
    ShowsOwnBytes before event := by
  cases event <;> trivial

theorem own_bytes_of_holds {own asked : List Byte} {buf : Buf} (holds : Holds own asked buf)
    (count : Nat) : OwnBytes own asked (cells buf count) := by
  constructor
  · rw [cells_length]
    rcases Nat.le_total own.length count with shorter | longer
    · rw [cells_take buf count _ shorter, holds.reply, List.take_of_length_le shorter]
    · have front := cells_take buf own.length count longer
      rw [holds.reply] at front
      rw [List.take_of_length_le (by simpa using longer), front]
  · intro index byte beyond inside found
    obtain ⟨bound, rfl⟩ := List.getElem?_eq_some_iff.mp found
    rw [cells_getElem]
    exact holds.rest index beyond inside

theorem reply_call_shown {trace : List Event} {s : State} {writer : Ptr} (io : VisitAnswers)
    (before : ContentsInPlace trace s) (listed : writer ∈ s.queue.live)
    (owing : (s.conn writer).state = .resp) : ShowsOwnBytes trace (replyCall s writer io) := by
  obtain ⟨own, asked, reply, request, holds⟩ := before.waiting writer listed owing
  obtain ⟨last, formed⟩ := some_reply_last writer trace own reply
  have sized := before.sized last formed
  have shows : ∃ own asked last, latestReply writer trace = some own ∧
      latestRequest writer trace = some asked ∧ lastReply trace = some last ∧
        (cells (s.conn writer).buf s.tty.rxlen).length = last.length ∧
          OwnBytes own asked (cells (s.conn writer).buf s.tty.rxlen) :=
    ⟨own, asked, last, reply, request, formed, by rw [cells_length, sized],
      own_bytes_of_holds holds _⟩
  unfold replyCall
  split <;> exact shows

theorem contents_kept {s s' : State} {trace events : List Event}
    (before : ContentsInPlace trace s) (waiting : WaitingKept s s')
    (replies : ∀ conn, latestReply conn (trace ++ events) = latestReply conn trace)
    (unnoted : ∀ event ∈ events, Plain event ∨ ∃ s writer io, event = replyCall s writer io)
    (shown : Judged ShowsOwnBytes (trace ++ events)) : ContentsInPlace (trace ++ events) s' := by
  refine ⟨?_, ?_, shown⟩
  · intro conn listed owing
    obtain ⟨listedBefore, owingBefore, buf⟩ := waiting.waiting conn listed owing
    rw [replies conn, (unnoted_kept conn trace events unnoted).1, buf]
    exact before.waiting conn listedBefore owingBefore
  · intro last formed
    rw [(unnoted_kept 0 trace events unnoted).2] at formed
    rw [waiting.rxlen]
    exact before.sized last formed

/-- An answered request makes its reply the last one formed and leaves the replies of
the other clients where they are. -/
theorem contents_answered {s s' : State} {io : VisitAnswers} {conn : Ptr} {bytes : List Byte}
    {peer : Nat} {lines : List LineEvent} {trace events : List Event} {flow : Flow}
    (before : ContentsInPlace trace s)
    (answered : Answered conn io.lockFails (heardFrom s peer) s' lines events)
    (computed : dispatchRequest (loadRequest (heardState s conn peer) conn bytes) conn io =
      (s', events, flow)) : ContentsInPlace (trace ++ .request conn bytes :: events) s' := by
  have frame := answered_frame answered
  have answers : events ≠ [] := by simp [answered.shown]
  have stale := dispatch_left_over (by simp [loadRequest]) (loaded_left_over s conn peer bytes)
    computed answers
  have lineNotes : ∀ {Note : Type} (record : Note → Event → Note) (note : Note),
      (∀ call noted, record noted (.line call) = noted) →
        (lines.map Event.line).foldl record note = note := by
    intro Note record note unseen
    apply notes_unchanged
    intro event member
    obtain ⟨call, _, rfl⟩ := List.mem_map.mp member
    exact unseen call note
  have shape : trace ++ .request conn bytes :: events =
      trace ++ ([.request conn bytes] ++ (lines.map .line ++
        [.formed conn (cells (s'.conn conn).buf s'.tty.rxlen)])) := by
    rw [answered.shown]
    rfl
  refine ⟨?_, ?_, ?_⟩
  · intro other listed owing
    rw [shape, latestReply_append, latestRequest_append]
    simp only [List.foldl_append]
    rw [lineNotes (noteReply other) _ (fun _ _ => rfl), lineNotes (noteRequest other) _
      (fun _ _ => rfl)]
    by_cases same : other = conn
    · subst same
      refine ⟨cells (s'.conn other).buf s'.tty.rxlen, bytes, ?_, ?_, ?_⟩
      · simp [noteReply]
      · simp [noteRequest]
      · exact ⟨by rw [cells_length], by rw [cells_length]; exact stale⟩
    · have apart : ¬conn = other := fun equal => same equal.symm
      rw [frame.others other same] at owing ⊢
      simp only [List.foldl_cons, List.foldl_nil, noteReply, noteRequest, if_neg apart]
      exact before.waiting other (frame.live ▸ listed) owing
  · intro last formed
    rw [shape, lastReply_append] at formed
    simp only [List.foldl_append, List.foldl_cons, List.foldl_nil, noteLast,
      Option.some.injEq] at formed
    rw [← formed, cells_length]
  · exact judged_append before.shown fun earlier event member =>
      shows_own_silent earlier event (answered_no_reply answered event member)

/-- The step lemma. -/
theorem contents_step {s₀ s s' : State} {answers : Answers} {trace events : List Event}
    (before : ContentsInPlace trace s) (waits : Waits s₀ answers s events s') :
      ContentsInPlace (trace ++ events) s' := by
  cases waits with
  | kept waiting plain =>
      apply contents_kept before waiting (fun conn => latestReply_plain conn trace events plain)
        (fun event member => Or.inl (plain event member))
      exact judged_append before.shown fun earlier event member =>
        shows_own_silent earlier event (plain_no_reply event (plain event member))
  | @replied _ _ io writer rest listed owing waiting plain =>
      apply contents_kept before waiting
      · intro conn
        rw [← List.singleton_append, ← List.append_assoc, latestReply_plain conn _ rest plain,
          latestReply_replyCall]
      · intro event member
        rcases List.mem_cons.mp member with call | later
        · exact Or.inr ⟨s, writer, io, call⟩
        · exact Or.inl (plain event later)
      · rw [← List.singleton_append, ← List.append_assoc]
        apply judged_append (judged_snoc before.shown (reply_call_shown io before listed owing))
        exact fun earlier event member =>
          shows_own_silent earlier event (plain_no_reply event (plain event member))
  | answered visit stands listed reads answered computed =>
      exact contents_answered before answered computed

/-- In every run, whoever asks meanwhile: a reply call offers its client's own bytes,
in the length of the reply formed last. -/
theorem reply_calls_show_own_bytes {longBits : Nat} {initial s : State} {trace : List Event}
    (started : Started initial) (run : Run (step longBits) Admissible initial trace s) :
      Judged ShowsOwnBytes trace := by
  have empty : ContentsInPlace [] initial := by
    refine ⟨?_, by simp [lastReply], judged_nil ShowsOwnBytes⟩
    intro conn listed
    rw [(started_empty started).1] at listed
    simp at listed
  have reached := run_actions_invariant (fun _ _ admitted => admitted) ContentsInPlace
    (fun trace _ => Judged ShowsOwnBytes trace) (started_sound started) empty
    (fun _ _ _ _ _ _ _ stable before action => contents_step before (action_waits stable action))
    (fun _ _ _ _ _ _ _ before stuck => by
      apply judged_append before.shown
      cases stuck
      simp [ShowsOwnBytes])
    run
  rcases reached.2 with running | ⟨_, left⟩
  · exact running.shown
  · exact left

def longerReplyMeanwhile : List Answers :=
  [passWith [4] [] 5 1, visitWith [] 0 [] 0,
    passWith [4] [] 6 2, visitWith [] 0 [] 0, visitWith [] 0 [] 0,
    passWith [5, 6] [] 7 3, visitWith [1, 2, 3, 4, 5, 6, 7, 8, 9] 0 [.data []] 0,
    visitWith [2] 0 [.data [20, 21, 22, 23, 24, 25, 26, 27, 28, 29]] 0,
    passWith [] [5] 7 3, visitWith [] 0 [] 10]

/-- It is sent the end of its own request, and a zero, behind its reply. -/
theorem reply_calls_show_own_bytes_and_request :
    ∃ trace, .replied 1 5 none (ascii "no data" ++ [8, 9, 0]) 10 ∈ trace ∧
      Judged ShowsOwnBytes trace := by
  obtain ⟨final, trace, run, shown⟩ := run_of_replay_view (step 64) Admissible
    (fun reached => decide (Event.replied 1 5 none (ascii "no data" ++ [8, 9, 0]) 10 ∈ reached.2))
    longerReplyMeanwhile (freshDaemon (hexOverTcp 0)) true (by decide +kernel)
  exact ⟨trace, of_decide_eq_true shown,
    reply_calls_show_own_bytes (fresh_daemon_started _) run⟩

end GlRs485.ReplyContents
