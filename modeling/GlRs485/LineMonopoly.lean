import GlRs485.EchoedFrames
import GlRs485.LineSharing
import GlRs485.PortLoss

/-!
# Whoever has the line keeps it

`tty_write` takes the lock and nobody gives it back before the port is closed. The
socket daemon closes its port only when it is refused the lock, and it is not refused
a lock it has. So from its first request on the line is its own as long as it runs,
and the register calls of the API end with -2. The end of its process closes the port.
-/

namespace GlRs485.LineMonopoly

open CBytes ConnectionQueue BridgeSettings HexCodec SerialLine RegisterApi SocketBridge
open ServingVisits LoopActions LineDiscipline LineSharing EchoedFrames SerialOwnership PortLoss
open TracedSystem

set_option autoImplicit false

/-! ## When the socket daemon closes its port -/

/-- The port is closed right after the lock was refused, or closed already. -/
def ClosedWhenRefused (port : Int) (before : List LineEvent) (call : LineEvent) : Prop :=
  call = .closed port →
    tenureOf port before = .closed ∨ ∃ front, before = front ++ [.locked port false]

def Harmless (port : Int) (calls : List LineEvent) : Prop :=
  ∀ call ∈ calls, call ≠ .opened port ∧ call ≠ .closed port

/-- The calls of a request: they end with a refused lock and the close, or close nothing. -/
def RequestCalls (port : Int) (calls : List LineEvent) : Prop :=
  Harmless port calls ∨
    ∃ front, Harmless port front ∧ calls = front ++ [.locked port false, .closed port]

theorem harmless_append {port : Int} {front back : List LineEvent} (first : Harmless port front)
    (second : Harmless port back) : Harmless port (front ++ back) := by
  intro call member
  rcases List.mem_append.mp member with before | after
  · exact first call before
  · exact second call after

theorem request_calls_after {port : Int} {front back : List LineEvent}
    (first : Harmless port front) (second : RequestCalls port back) :
      RequestCalls port (front ++ back) := by
  rcases second with harmless | ⟨middle, harmless, rfl⟩
  · exact Or.inl (harmless_append first harmless)
  · exact Or.inr ⟨front ++ middle, harmless_append first harmless, by rw [List.append_assoc]⟩

theorem locks_harmless (fd : Int) (fails timeOut : Nat) :
    Harmless fd (flockLoop fd fails timeOut).2 := by
  intro call member
  obtain ⟨obtained, rfl⟩ := flock_loop_events fd fails timeOut call member
  exact ⟨by simp, by simp⟩

theorem reads_harmless (fd : Int) (results : List RxResult) (buf : Buf) :
    Harmless fd (ttyRead fd results buf).events := by
  intro call member
  obtain ⟨result, rfl⟩ := receive_loop_events fd results buf 0 call member
  exact ⟨by simp, by simp⟩

theorem flock_loop_gives_up (fd : Int) (fails timeOut : Nat) (busy : 30 < fails + timeOut)
    (within : timeOut ≤ 30) :
      ∃ front, Harmless fd front ∧
        (flockLoop fd fails timeOut).2 = front ++ [.locked fd false] := by
  induction fails generalizing timeOut with
  | zero => omega
  | succ fails ih =>
      by_cases last : 30 < timeOut + 1
      · exact ⟨[], by simp [Harmless], by simp [flockLoop, last]⟩
      · obtain ⟨front, harmless, refused⟩ := ih (timeOut + 1) (by omega) (by omega)
        refine ⟨.locked fd false :: front, ?_, by simp [flockLoop, last, refused]⟩
        intro call member
        rcases List.mem_cons.mp member with rfl | later
        · exact ⟨by simp, by simp⟩
        · exact harmless call later

theorem tty_write_calls (fd : Int) (lockFails : Nat) (results : List Int) (data : List Byte) :
    RequestCalls fd (ttyWrite fd lockFails results data).2 ∧
      (0 ≤ (ttyWrite fd lockFails results data).1 →
        Harmless fd (ttyWrite fd lockFails results data).2) := by
  rcases tty_write_cases fd lockFails results data with
    ⟨_, outcome⟩ | ⟨_, busy, outcome⟩ | ⟨_, _, outcome⟩
  · rw [outcome]
    exact ⟨Or.inl (by simp [Harmless]), by simp [Harmless]⟩
  · obtain ⟨front, harmless, refused⟩ := flock_loop_gives_up fd lockFails 0 (by omega) (by omega)
    rw [outcome, refused]
    exact ⟨Or.inr ⟨front, harmless, by simp⟩, fun positive => absurd positive (by simp)⟩
  · have sent : Harmless fd ((flockLoop fd lockFails 0).2 ++
        [.flushed fd, .sent fd data (acceptedBytes results data)]) :=
      harmless_append (locks_harmless fd lockFails 0) (by simp [Harmless])
    rw [outcome]
    exact ⟨Or.inl sent, fun _ => sent⟩

theorem tty_request_calls (s : State) (conn : Ptr) (io : VisitAnswers)
    (ready : s.tty.fd ∈ s.sdsetwr) :
      RequestCalls s.tty.fd (socketCalls (ttyRequest s conn io).2.1) := by
  have flushed : Harmless s.tty.fd [.flushed s.tty.fd] := by simp [Harmless]
  obtain ⟨written, obtained⟩ :=
    tty_write_calls s.tty.fd io.lockFails io.written (cells s.tty.writebuf s.tty.txlen)
  rw [tty_request_eq s conn io ready]
  dsimp only
  rw [socketCalls_append, socketCalls_lines]
  split
  · rw [socketCalls_formed (error_reply_formed (afterWrite s io) conn (ascii "tty write error")),
      List.append_nil]
    exact request_calls_after flushed written
  · next positive =>
      obtain ⟨events, formed, shown, _⟩ := tty_answer_formed (afterWrite s io) conn io
      rw [shown, socketCalls_append, socketCalls_lines, socketCalls_formed formed, List.append_nil,
        (after_write_frame s conn io).ttyFd]
      apply Or.inl
      apply harmless_append (harmless_append flushed (obtained (by omega)))
      exact reads_harmless _ _ _

theorem dispatch_calls {s s' : State} {conn : Ptr} {io : VisitAnswers} {events : List Event}
    {flow : Flow} (ready : s.tty.fd ∈ s.sdsetwr)
    (computed : dispatchRequest s conn io = (s', events, flow)) :
      RequestCalls s.tty.fd (socketCalls events) := by
  have shown : (dispatchRequest s conn io).2.1 = events :=
    congrArg (fun result => result.2.1) computed
  have nothing : Harmless s.tty.fd [] := by simp [Harmless]
  rw [← shown]
  unfold dispatchRequest
  dsimp only
  split
  · split
    · rw [socketCalls_formed (error_reply_formed _ conn (ascii "data format error"))]
      exact Or.inl nothing
    · split
      · exact Or.inl nothing
      · exact tty_request_calls _ conn io ready
  · exact tty_request_calls s conn io ready

/-- What the daemon has done, with the opening of its port in front. -/
def record (initial : State) (trace : List Event) : List LineEvent :=
  .opened initial.tty.fd :: socketCalls trace

theorem record_append (initial : State) (trace events : List Event) :
    record initial (trace ++ events) = record initial trace ++ socketCalls events := by
  rw [record, socketCalls_append, ← List.cons_append]
  rfl

theorem stays_closed {port : Int} {calls more : List LineEvent}
    (closed : tenureOf port calls = .closed) (unopened : .opened port ∉ more) :
      tenureOf port (calls ++ more) = .closed := by
  rw [tenureOf, List.foldl_append, ← tenureOf, closed]
  apply notes_unchanged
  intro call member
  cases call with
  | opened fd =>
      have other : ¬fd = port := by
        rintro rfl
        exact unopened member
      exact if_neg other
  | locked fd obtained => cases obtained <;> simp [noteTenure]
  | closed fd => simp [noteTenure]
  | _ => rfl

/-- The daemon's record keeps to the rule, and after a lock timeout the port is closed in it. -/
structure RecordKept (initial : State) (trace : List Event) (s : State) : Prop where
  port : PortUntilLockout initial trace s
  closes : Judged (ClosedWhenRefused initial.tty.fd) (record initial trace)
  gone : LockedOut initial trace → tenureOf initial.tty.fd (record initial trace) = .closed

theorem locked_out_later {initial : State} {trace events : List Event}
    (out : LockedOut initial (trace ++ events))
    (silent : .closed initial.tty.fd ∉ socketCalls events) : LockedOut initial trace := by
  rcases List.mem_append.mp out with before | now
  · exact before
  · have call : socketCall (.line (.closed initial.tty.fd)) = some (.closed initial.tty.fd) := rfl
    exact absurd (List.mem_filterMap.mpr ⟨_, now, call⟩) silent

theorem record_harmless {initial s s' : State} {trace events : List Event}
    (before : RecordKept initial trace s) (port : PortUntilLockout initial (trace ++ events) s')
    (harmless : Harmless initial.tty.fd (socketCalls events)) :
      RecordKept initial (trace ++ events) s' := by
  refine ⟨port, ?_, ?_⟩
  · rw [record_append]
    exact judged_append before.closes fun _ call member closing =>
      absurd closing (harmless call member).2
  · intro out
    have outBefore := locked_out_later out fun member => (harmless _ member).2 rfl
    rw [record_append]
    exact stays_closed (before.gone outBefore) fun member => (harmless _ member).1 rfl

/-- A descriptor of a client is the port only after a lock timeout. -/
theorem record_close {initial s s' : State} {trace events : List Event} {sd : Int}
    (before : RecordKept initial trace s) (port : PortUntilLockout initial (trace ++ events) s')
    (calls : socketCalls events = [.closed sd])
    (apart : ¬LockedOut initial trace → sd ≠ initial.tty.fd) :
      RecordKept initial (trace ++ events) s' := by
  by_cases same : sd = initial.tty.fd
  · have out : LockedOut initial trace := by
      by_contra open_
      exact apart open_ same
    have closed := before.gone out
    refine ⟨port, ?_, fun _ => ?_⟩
    · rw [record_append, calls]
      exact judged_snoc before.closes fun _ => Or.inl closed
    · rw [record_append, calls]
      exact stays_closed closed (by simp)
  · apply record_harmless before port
    rw [calls]
    simp [Harmless, same]

theorem record_request {initial s s' : State} {trace events : List Event}
    (before : RecordKept initial trace s) (port : PortUntilLockout initial (trace ++ events) s')
    (calls : RequestCalls initial.tty.fd (socketCalls events)) :
      RecordKept initial (trace ++ events) s' := by
  rcases calls with harmless | ⟨front, harmless, calls⟩
  · exact record_harmless before port harmless
  · have tried : Judged (ClosedWhenRefused initial.tty.fd)
        (record initial trace ++ (front ++ [.locked initial.tty.fd false])) := by
      apply judged_append before.closes
      intro earlier call member closing
      rcases List.mem_append.mp member with first | last
      · exact absurd closing (harmless call first).2
      · rw [List.mem_singleton.mp last] at closing
        exact absurd closing (by simp)
    have shape : record initial (trace ++ events) =
        (record initial trace ++ (front ++ [.locked initial.tty.fd false])) ++
          [.closed initial.tty.fd] := by
      rw [record_append, calls]
      simp
    refine ⟨port, ?_, fun _ => ?_⟩
    · rw [shape]
      exact judged_snoc tried fun _ => Or.inr ⟨_, (List.append_assoc _ _ _).symm⟩
    · rw [shape, tenureOf_snoc]
      simp [noteTenure]

theorem reply_call_unseen (s : State) (conn : Ptr) (io : VisitAnswers) :
    socketCalls [replyCall s conn io] = [] := by
  unfold replyCall
  split <;> rfl

theorem record_step {initial s₀ s s' : State} {answers : Answers} {trace events : List Event}
    (stable : Stable s) (before : RecordKept initial trace s)
    (action : Action s₀ answers s events s') : RecordKept initial (trace ++ events) s' := by
  have port := port_step stable before.port action
  have number := before.port.number
  have nothing : ∀ {calls : List LineEvent}, calls = [] → Harmless initial.tty.fd calls := by
    rintro _ rfl
    simp [Harmless]
  cases action with
  | quiet fixed live fds rxlen kept silent =>
      apply record_harmless before port (nothing _)
      rw [socketCalls, List.filterMap_eq_nil_iff]
      intro event member
      have quiet := silent event member
      cases event <;> first | rfl | exact quiet.elim
  | @refused _ sd free =>
      apply record_close before port rfl
      intro open_
      rw [← number]
      exact (port_apart before.port open_ free).symm
  | leaked free => exact record_harmless before port (nothing rfl)
  | opened tcps free small room fixed added fds rxlen =>
      exact record_harmless before port (nothing rfl)
  | attached once fixed added fds rxlen => exact record_harmless before port (nothing rfl)
  | @closed _ _ conn listed fixed gone rxlen =>
      apply record_close before port rfl
      intro open_
      rw [← number]
      exact (before.port.port open_).2 conn listed
  | @answered _ io reader bytes peer lines events flow visit visited listed reads answered
      computed =>
      apply record_request before port
      have heard := (heard_state_untouched s₀ reader peer).1
      have same : (loadRequest (heardState s₀ reader peer) reader bytes).tty.fd =
          initial.tty.fd := heard.frame.ttyFd.trans number
      have calls := dispatch_calls (by simp [loadRequest]) computed
      rw [same] at calls
      exact calls
  | @sent _ io writer visit listed owing accepted =>
      exact record_harmless before port (nothing (reply_call_unseen _ _ _))
  | @lost _ _ io writer visit listed owing failed fixed gone rxlen =>
      apply record_close before port
      · rw [← List.singleton_append, socketCalls_append, reply_call_unseen]
        rfl
      · intro open_
        rw [← number]
        exact (before.port.port open_).2 writer listed

/-- The run lemma: a daemon closes its port only when the lock was just refused. -/
theorem daemon_closes_when_refused {longBits : Nat} {initial s : State} {trace : List Event}
    (started : Started initial) (run : Run (step longBits) Admissible initial trace s) :
      Judged (ClosedWhenRefused initial.tty.fd) (record initial trace) := by
  have opening : Judged (ClosedWhenRefused initial.tty.fd) (record initial []) :=
    judged_snoc (judged_nil _) fun closing => absurd closing (by simp)
  have reached := run_actions_invariant (fun _ _ admitted => admitted) (RecordKept initial)
    (fun trace _ => Judged (ClosedWhenRefused initial.tty.fd) (record initial trace))
    (started_sound started)
    ⟨started_port_until_lockout started, opening, by simp [LockedOut]⟩
    (fun _ _ _ _ _ _ _ stable before action => record_step stable before action)
    (fun _ _ _ _ _ _ _ before stuck => by
      cases stuck
      rw [record_append]
      exact judged_append before.closes fun _ _ member =>
        absurd member (by simp [socketCalls, socketCall]))
    run
  rcases reached.2 with running | ⟨_, left⟩
  · exact running.closes
  · exact left

/-! ## Who has the lock -/

section Sharing

variable {Process : Type*} [DecidableEq Process]

/-- `flock` does not refuse a lock to the description that has it. -/
def HolderNotRefused (before : List (Process × LineEvent)) : Process × LineEvent → Prop
  | (process, .locked fd false) => ¬(deviceAfter before).holds process fd
  | _ => True

theorem others_leave_lock {device : Device Process} {tenure : Process → Int → Tenure}
    {process other : Process} {port : Int} {call : LineEvent} (agrees : Agrees device tenure)
    (granted : device.grants other call) (apart : process ≠ other) :
      (device.apply other call).holds process port ↔ device.holds process port := by
  have elsewhere : ∀ number entry,
      device.setPort other number entry process port = device.ports process port :=
    fun number entry => device.setPort_other other process number port entry
      fun both => apart both.1
  have unshared : ∀ number, device.ports process port ≠ none →
      device.ports process port ≠ device.ports other number :=
    fun number open_ shared => apart (agrees.apart process port other number open_ shared).1
  cases call with
  | opened number => simp [Device.holds, Device.apply, elsewhere]
  | locked number obtained =>
      cases obtained with
      | false => rfl
      | true =>
          by_cases closed : device.ports other number = none
          · simp [Device.apply, closed]
          · simp only [Device.apply, if_neg closed, Device.holds]
            constructor
            · rintro ⟨open_, shared⟩
              exact absurd shared.symm (unshared number open_)
            · rintro ⟨open_, held⟩
              rcases granted with none | free | own
              · exact absurd none closed
              · exact absurd (held.symm.trans free) open_
              · exact absurd (held.symm.trans own) (unshared number open_)
  | closed number =>
      simp only [Device.holds, Device.apply, elsewhere]
      constructor
      · rintro ⟨open_, held⟩
        split at held
        · exact absurd held.symm open_
        · exact ⟨open_, held⟩
      · rintro ⟨open_, held⟩
        refine ⟨open_, ?_⟩
        rw [if_neg fun shared => unshared number open_ (held.symm.trans shared.symm)]
        exact held
  | _ => rfl

theorem own_calls_keep_lock {device : Device Process} {tenure : Process → Int → Tenure}
    {process : Process} {port : Int} {call : LineEvent} (agrees : Agrees device tenure)
    (granted : device.grants process call) (open_ : call ≠ .closed port)
    (holds : device.holds process port) : (device.apply process call).holds process port := by
  obtain ⟨taken, held⟩ := holds
  cases call with
  | opened number =>
      have apart : port ≠ number := by
        rintro rfl
        exact taken granted
      have kept := device.setPort_other process process number port (some device.openings)
        fun both => apart both.2
      simpa only [Device.holds, Device.apply, kept] using And.intro taken held
  | locked number obtained =>
      cases obtained with
      | false => exact ⟨taken, held⟩
      | true =>
          by_cases closed : device.ports process number = none
          · simpa [Device.holds, Device.apply, closed] using And.intro taken held
          · simp only [Device.apply, if_neg closed, Device.holds]
            rcases granted with none | free | own
            · exact absurd none closed
            · exact absurd (held.symm.trans free) taken
            · exact ⟨taken, own.symm.trans held⟩
  | closed number =>
      have apart : port ≠ number := fun same => open_ (congrArg LineEvent.closed same.symm)
      have kept := device.setPort_other process process number port none fun both => apart both.2
      have unshared : device.ports process number ≠ device.holder := by
        intro shared
        exact apart (agrees.apart process port process number taken
          (held.symm.trans shared.symm)).2
      simpa only [Device.holds, Device.apply, kept, if_neg unshared] using And.intro taken held
  | _ => exact ⟨taken, held⟩

theorem refused_holds_not {trace : List (Process × LineEvent)} {process : Process} {port : Int}
    {front : List LineEvent}
    (granted : Judged (fun before call => (deviceAfter before).grants call.1 call.2) trace)
    (refusals : Judged HolderNotRefused trace)
    (last : callsOf process trace = front ++ [.locked port false]) :
      ¬(deviceAfter trace).holds process port := by
  induction trace using List.reverseRecOn with
  | nil => simp [callsOf] at last
  | append_singleton trace call ih =>
      obtain ⟨other, event⟩ := call
      have agrees := trace_agrees trace (judged_front granted)
      rw [callsOf_snoc] at last
      rw [deviceAfter_snoc]
      by_cases own : other = process
      · subst own
        rw [if_pos rfl] at last
        have refused : event = .locked port false :=
          List.singleton_inj.mp (List.append_inj' last rfl).2
        subst refused
        exact judged_last refusals
      · rw [if_neg own, List.append_nil] at last
        rw [others_leave_lock agrees (judged_last granted) fun same => own same.symm]
        exact ih (judged_front granted) (judged_front refusals) last

/-- The step lemma: a holder that closes only when refused keeps the lock. -/
theorem lock_kept_step {trace : List (Process × LineEvent)} {call : Process × LineEvent}
    {daemon : Process} {port : Int}
    (granted : Judged (fun before call => (deviceAfter before).grants call.1 call.2)
      (trace ++ [call]))
    (refusals : Judged HolderNotRefused (trace ++ [call]))
    (rule : Judged (ClosedWhenRefused port) (callsOf daemon (trace ++ [call])))
    (holds : (deviceAfter trace).holds daemon port) :
      (deviceAfter (trace ++ [call])).holds daemon port := by
  obtain ⟨process, event⟩ := call
  have agrees := trace_agrees trace (judged_front granted)
  have allowed := judged_last granted
  rw [deviceAfter_snoc]
  by_cases own : process = daemon
  · subst own
    rw [callsOf_snoc, if_pos rfl] at rule
    apply own_calls_keep_lock agrees allowed _ holds
    intro closing
    rcases judged_last rule closing with closed | ⟨front, refused⟩
    · exact holds.1 ((agrees.closed process port).mp closed)
    · exact refused_holds_not (judged_front granted) (judged_front refusals) refused holds
  · exact (others_leave_lock agrees allowed fun same => own same.symm).mpr holds

/-- The run lemma. -/
theorem lock_kept {before after : List (Process × LineEvent)} {daemon : Process} {port : Int}
    (granted : Judged (fun before call => (deviceAfter before).grants call.1 call.2)
      (before ++ after))
    (refusals : Judged HolderNotRefused (before ++ after))
    (rule : Judged (ClosedWhenRefused port) (callsOf daemon (before ++ after)))
    (holds : (deviceAfter before).holds daemon port) :
      (deviceAfter (before ++ after)).holds daemon port := by
  induction after using List.reverseRecOn with
  | nil => simpa using holds
  | append_singleton after call ih =>
      rw [← List.append_assoc] at granted refusals rule ⊢
      have ruleBefore : Judged (ClosedWhenRefused port) (callsOf daemon (before ++ after)) := by
        rw [callsOf_snoc] at rule
        exact judged_front rule
      exact lock_kept_step granted refusals rule
        (ih (judged_front granted) (judged_front refusals) ruleBefore)

/-- The calls of a socket daemon whose port has this number. -/
inductive SocketDaemon (port : Int) (calls : List LineEvent) : Prop
  | intro {longBits : Nat} {initial s : State} {trace : List Event} (started : Started initial)
      (number : initial.tty.fd = port) (run : Run (step longBits) Admissible initial trace s)
      (front : calls <+: record initial trace) : SocketDaemon port calls

theorem socket_daemon_rule {port : Int} {calls : List LineEvent}
    (daemon : SocketDaemon port calls) : Judged (ClosedWhenRefused port) calls := by
  obtain ⟨started, rfl, run, rest, split⟩ := daemon
  have whole := daemon_closes_when_refused started run
  rw [← split] at whole
  exact judged_front whole

def HasWritten (trace : List (Process × LineEvent)) (process : Process) (port : Int) : Prop :=
  ∃ earlier offered accepted, trace = earlier ++ [(process, .sent port offered accepted)] ∧
    (deviceAfter earlier).ports process port ≠ none

theorem writer_holds {trace : List (Process × LineEvent)} {process : Process} {port : Int}
    (interleaved : Interleaved trace) (written : HasWritten trace process port) :
      (deviceAfter trace).holds process port := by
  obtain ⟨earlier, offered, accepted, rfl, open_⟩ := written
  have agrees := trace_agrees earlier (judged_front interleaved.granted)
  have rule :=
    (lifetime_disciplined program_disciplined (interleaved.programs process)).underLock
  rw [callsOf_snoc, if_pos rfl] at rule
  have locked : tenuresIn earlier process port = .locked := by
    cases tenure : tenuresIn earlier process port with
    | closed => exact absurd ((agrees.closed process port).mp tenure) open_
    | unlocked => exact absurd tenure (judged_last rule)
    | locked => rfl
  rw [deviceAfter_snoc]
  exact agrees.locked process port locked

/-- The call takes the lock of an open port, writes to one or reads from one. -/
def UsesLine (device : Device Process) (process : Process) : LineEvent → Prop
  | .locked fd true => device.ports process fd ≠ none
  | .sent fd _ _ => device.ports process fd ≠ none
  | .received fd _ => device.ports process fd ≠ none
  | _ => False

theorem others_kept_out {trace : List (Process × LineEvent)} {daemon other : Process}
    {port : Int} {call : LineEvent} (interleaved : Interleaved (trace ++ [(other, call)]))
    (holds : (deviceAfter trace).holds daemon port) (apart : other ≠ daemon) :
      ¬UsesLine (deviceAfter trace) other call := by
  have granted := judged_front interleaved.granted
  have agrees := trace_agrees trace granted
  have alone : ∀ fd, ¬(deviceAfter trace).holds other fd :=
    fun fd theirs => apart (held_by_one granted theirs holds)
  intro uses
  cases call with
  | locked fd obtained =>
      cases obtained with
      | false => exact uses
      | true =>
          rcases judged_last interleaved.granted with closed | free | own
          · exact uses closed
          · exact holds.1 (holds.2.symm.trans free)
          · exact alone fd ⟨uses, own⟩
  | sent fd offered accepted =>
      obtain ⟨number, theirs⟩ := touching_holds interleaved uses id
      exact alone number theirs
  | received fd result =>
      obtain ⟨number, theirs⟩ := touching_holds interleaved uses id
      exact alone number theirs
  | _ => exact uses

theorem calls_split {trace : List (Process × LineEvent)} {process : Process} {call : LineEvent}
    {front rest : List LineEvent} (split : callsOf process trace = front ++ call :: rest) :
      ∃ before after, trace = before ++ (process, call) :: after ∧
        callsOf process before = front := by
  obtain ⟨first, second, filtered, fronts, calls⟩ := List.map_eq_append_iff.mp split
  obtain ⟨entry, others, rfl, shown, _⟩ := List.map_eq_cons_iff.mp calls
  obtain ⟨left, right, rfl, leftFiltered, rightFiltered⟩ := List.filter_eq_append_iff.mp filtered
  obtain ⟨skipped, after, rfl, none, own, _⟩ := List.filter_eq_cons_iff.mp rightFiltered
  have entryEq : entry = (process, call) := Prod.ext (of_decide_eq_true own) shown
  have nobody : skipped.filter (fun call => call.1 = process) = [] :=
    List.filter_eq_nil_iff.mpr none
  refine ⟨left ++ skipped, after, by rw [entryEq, List.append_assoc], ?_⟩
  rw [callsOf, List.filter_append, nobody, List.append_nil, leftFiltered]
  exact fronts

theorem opened_stays_open {port : Int} {calls : List LineEvent} (open_ : .closed port ∉ calls) :
    tenureOf port (.opened port :: calls) ≠ .closed := by
  induction calls using List.reverseRecOn with
  | nil => simp [tenureOf, noteTenure]
  | append_singleton calls call ih =>
      have before := ih fun member => open_ (List.mem_append_left _ member)
      rw [← List.cons_append, tenureOf_snoc]
      cases call with
      | closed fd =>
          have other : ¬fd = port := by
            rintro rfl
            exact open_ (by simp)
          simpa [noteTenure, other] using before
      | opened fd =>
          by_cases same : fd = port
          · simp [noteTenure, same]
          · simpa [noteTenure, same] using before
      | locked fd obtained =>
          cases obtained
          · exact before
          · by_cases same : fd = port
            · simp [noteTenure, same, before]
            · simpa [noteTenure, same] using before
      | _ => exact before

theorem exchange_writes {line : LineAnswers} {command failure : List Byte} {asked : Bool}
    (openable : 0 ≤ line.fd) (lockable : line.lockFails ≤ 30) :
      ∃ front rest accepted, (exchange line command asked failure).events =
        front ++ .sent line.fd command accepted :: rest ∧ tenureOf line.fd front ≠ .closed := by
  have obtained : (flockLoop line.fd line.lockFails 0).1 = true :=
    (flock_loop_obtains_iff line.fd line.lockFails 0 (by omega)).mpr (by omega)
  have opened : ¬line.fd < 0 := by omega
  refine ⟨.opened line.fd :: ((flockLoop line.fd line.lockFails 0).2 ++ [.flushed line.fd]),
    (receiveLoop line.fd line.received (fun _ => 0) 0).events ++ [.closed line.fd],
    acceptedBytes line.written command, ?_, ?_⟩
  · simp [exchange, opened, obtained, myuartTxNonBlocking]
  · apply opened_stays_open
    intro closed
    rcases List.mem_append.mp closed with tried | flushed
    · exact (locks_harmless line.fd line.lockFails 0 _ tried).2 rfl
    · simp at flushed

theorem exchange_locked_out {line : LineAnswers} {command failure : List Byte} {asked : Bool}
    (openable : 0 ≤ line.fd) (busy : 30 < line.lockFails) :
      (exchange line command asked failure).code = -2 := by
  have opened : ¬line.fd < 0 := by omega
  have refused : (flockLoop line.fd line.lockFails 0).1 = false := by
    rw [← Bool.not_eq_true, flock_loop_obtains_iff _ _ _ (by omega)]
    omega
  simp [exchange, opened, refused]

theorem register_call_exchange {line : LineAnswers} {result : ApiResult}
    (call : RegisterCall line result) (used : result.events ≠ []) :
      0 ≤ line.fd ∧ ∃ command asked failure, result = exchange line command asked failure := by
  have exchanged : ∃ command asked failure, result = exchange line command asked failure := by
    cases call with
    | read returned =>
        obtain ⟨command, _, _, same⟩ := read_exchange returned
        exact ⟨_, _, _, same⟩
    | write returned =>
        rcases write_exchange returned with untouched | ⟨command, same⟩
        · exact absurd untouched used
        · exact ⟨_, _, _, same⟩
  refine ⟨?_, exchanged⟩
  obtain ⟨command, asked, failure, rfl⟩ := exchanged
  by_contra negative
  have unopened : line.fd < 0 := by omega
  exact used (by simp [exchange, unopened])

def closings (process : Process) (left : List Int) : List (Process × LineEvent) :=
  left.map fun fd => (process, .closed fd)

theorem closings_keep_free {trace : List (Process × LineEvent)} {process : Process}
    (free : (deviceAfter trace).holder = none) (left : List Int) :
      (deviceAfter (trace ++ closings process left)).holder = none := by
  induction left generalizing trace with
  | nil => rwa [closings, List.map_nil, List.append_nil]
  | cons fd rest ih =>
      rw [closings, List.map_cons, List.append_cons]
      apply ih
      simp [deviceAfter_snoc, Device.apply, free]

/-- With the port that has the lock the lock is given back. -/
theorem closings_release {trace : List (Process × LineEvent)} {process : Process} {port : Int}
    (granted : Judged (fun before call => (deviceAfter before).grants call.1 call.2) trace)
    (holds : (deviceAfter trace).holds process port) {left : List Int} (among : port ∈ left) :
      (deviceAfter (trace ++ closings process left)).holder = none := by
  induction left generalizing trace with
  | nil => simp at among
  | cons fd rest ih =>
      rw [closings, List.map_cons, List.append_cons]
      by_cases same : fd = port
      · apply closings_keep_free
        rw [deviceAfter_snoc, same]
        exact if_pos holds.2.symm
      · have apart := (trace_agrees trace granted).apart process port process fd holds.1
        have others : ¬(deviceAfter trace).ports process fd = (deviceAfter trace).holder :=
          fun mine => same (apart (holds.2.symm.trans mine.symm)).2.symm
        have kept := Device.setPort_other (deviceAfter trace) process process fd port none
          fun both => same both.2.symm
        have still : (deviceAfter (trace ++ [(process, .closed fd)])).holds process port := by
          rw [deviceAfter_snoc]
          simp only [Device.holds, Device.apply, kept, if_neg others]
          exact holds
        have later := (List.mem_cons.mp among).resolve_left fun first => same first.symm
        exact ih (judged_snoc granted trivial) still later

theorem made_after {before after early late : List (Process × LineEvent)} {other : Process}
    {event : LineEvent} (fresh : callsOf other before = [])
    (split : before ++ after = early ++ (other, event) :: late) :
      ∃ middle, early = before ++ middle ∧ after = middle ++ (other, event) :: late := by
  rcases List.append_eq_append_iff.mp split with ⟨middle, same, rest⟩ | ⟨middle, same, rest⟩
  · exact ⟨middle, same, rest⟩
  · cases middle with
    | nil => exact ⟨[], by simpa using same.symm, by simpa using rest.symm⟩
    | cons entry more =>
        have head := List.head_eq_of_cons_eq rest
        rw [same, ← head, callsOf, List.filter_append, List.map_append] at fresh
        simp at fresh

/-- A register call of a process that cannot use the line does not get the lock. -/
theorem register_call_kept_out {before after : List (Process × LineEvent)} {other : Process}
    (interleaved : Interleaved (before ++ after)) (fresh : callsOf other before = [])
    (keptOut : ∀ front event rest, after = front ++ (other, event) :: rest →
      ¬UsesLine (deviceAfter (before ++ front)) other event)
    {line : LineAnswers} {result : ApiResult} (call : RegisterCall line result)
    (used : result.events ≠ []) (calls : callsOf other (before ++ after) = result.events) :
      result.code = -2 := by
  obtain ⟨openable, command, asked, failure, rfl⟩ := register_call_exchange call used
  by_cases busy : 30 < line.lockFails
  · exact exchange_locked_out openable busy
  · -- otherwise it would write to a port that it has open
    obtain ⟨front, rest, accepted, events, open_⟩ :=
      @exchange_writes line command failure asked openable (by omega)
    obtain ⟨early, late, split, calledBefore⟩ := calls_split (calls.trans events)
    obtain ⟨middle, rfl, position⟩ := made_after fresh split
    have granted : Judged (fun before call => (deviceAfter before).grants call.1 call.2)
        (before ++ middle) := by
      have whole := interleaved.granted
      rw [position, ← List.append_assoc] at whole
      exact judged_front whole
    have agrees := trace_agrees _ granted
    apply absurd _ (keptOut middle _ late position)
    intro closed
    apply open_
    rw [← calledBefore]
    exact (agrees.closed other line.fd).mpr closed

/-- Once the socket daemon has written a request to its port, it has the lock as long as it
runs: nobody else locks a port of the line, writes to it or reads from it, and every register
call that opens one meanwhile ends with -2. When it ends, the lock is free. -/
theorem daemon_keeps_line {before after : List (Process × LineEvent)} {daemon : Process}
    {port : Int} (interleaved : Interleaved (before ++ after))
    (refusals : Judged HolderNotRefused (before ++ after))
    (runs : SocketDaemon port (callsOf daemon (before ++ after)))
    (written : HasWritten before daemon port) :
      (deviceAfter (before ++ after)).holds daemon port ∧
      (∀ front call rest, after = front ++ call :: rest → call.1 ≠ daemon →
        ¬UsesLine (deviceAfter (before ++ front)) call.1 call.2) ∧
      (∀ other, other ≠ daemon → callsOf other before = [] →
        ∀ line result, RegisterCall line result → result.events ≠ [] →
          callsOf other (before ++ after) = result.events → result.code = -2) ∧
      ∀ left, (∀ fd, (deviceAfter (before ++ after)).ports daemon fd ≠ none → fd ∈ left) →
        (deviceAfter (before ++ after ++ closings daemon left)).holder = none := by
  have rule := socket_daemon_rule runs
  have first := writer_holds (interleaved_front interleaved) written
  have holdsAt : ∀ front rest, after = front ++ rest →
      (deviceAfter (before ++ front)).holds daemon port := by
    intro front rest split
    rw [split, ← List.append_assoc] at interleaved refusals rule
    have ruleFront : Judged (ClosedWhenRefused port) (callsOf daemon (before ++ front)) := by
      rw [callsOf, List.filter_append, List.map_append, ← callsOf, ← callsOf] at rule
      exact judged_front rule
    exact lock_kept (judged_front interleaved.granted) (judged_front refusals) ruleFront first
  have keptOut : ∀ front call rest, after = front ++ call :: rest → call.1 ≠ daemon →
      ¬UsesLine (deviceAfter (before ++ front)) call.1 call.2 := by
    intro front call rest split apart
    have reached : Interleaved ((before ++ front) ++ [call]) := by
      rw [split, ← List.append_assoc, List.append_cons] at interleaved
      exact interleaved_front interleaved
    exact others_kept_out reached (holdsAt front _ split) apart
  have holds := holdsAt after [] (by simp)
  refine ⟨holds, keptOut, ?_, fun left whole =>
    closings_release interleaved.granted holds (whole port holds.1)⟩
  intro other apart fresh line result call used calls
  exact register_call_kept_out interleaved fresh
    (fun front event rest split => keptOut front (other, event) rest split apart) call used calls

end Sharing

section Examples

instance (before : List (Fin 2 × LineEvent)) :
    (call : Fin 2 × LineEvent) → Decidable (HolderNotRefused before call)
  | (process, .locked fd false) =>
      inferInstanceAs (Decidable (¬(deviceAfter before).holds process fd))
  | (_, .locked _ true) => isTrue trivial
  | (_, .opened _) => isTrue trivial
  | (_, .flushed _) => isTrue trivial
  | (_, .sent _ _ _) => isTrue trivial
  | (_, .received _ _) => isTrue trivial
  | (_, .closed _) => isTrue trivial

def oneRequest : List Answers :=
  [passWith [4] [] 5 1, visitWith [] 0 [] 0, passWith [5] [] 6 2, visitWith [1, 2] 0 [.data [7]] 0]

def daemonCalls : List LineEvent :=
  [.opened 3, .flushed 3, .locked 3 true, .flushed 3, .sent 3 [1, 2] [1, 2],
    .received 3 (.data [7])]

def callAfterRequest {Process : Type} (daemon caller : Process) : List (Process × LineEvent) :=
  (daemonCalls.drop 5).map ((daemon, ·)) ++ (readCalls 31).map ((caller, ·))

def requestWritten {Process : Type} (daemon : Process) : List (Process × LineEvent) :=
  (daemonCalls.take 5).map ((daemon, ·))

theorem daemon_calls_run : ∃ trace s,
    Run (step 64) Admissible (freshDaemon (hexOverTcp 0)) trace s ∧
      record (freshDaemon (hexOverTcp 0)) trace = daemonCalls := by
  obtain ⟨final, trace, run, shown⟩ := run_of_replay_view (step 64) Admissible
    (fun reached => record (freshDaemon (hexOverTcp 0)) reached.2) oneRequest
    (freshDaemon (hexOverTcp 0)) daemonCalls (by decide +kernel)
  exact ⟨trace, final, run, shown⟩

theorem daemon_keeps_line_from_call : ∃ line result, RegisterCall line result ∧
    callsOf (1 : Fin 2) (requestWritten 0 ++ callAfterRequest 0 1) = result.events ∧
      result.code = -2 := by
  obtain ⟨trace, final, run, recorded⟩ := daemon_calls_run
  have daemon : callsOf (0 : Fin 2) (requestWritten 0 ++ callAfterRequest 0 1) = daemonCalls := by
    decide +kernel
  have caller : callsOf (1 : Fin 2) (requestWritten 0 ++ callAfterRequest 0 1) = readCalls 31 := by
    decide +kernel
  have started := fresh_daemon_started (hexOverTcp 0)
  have interleaved : Interleaved (requestWritten (0 : Fin 2) ++ callAfterRequest 0 1) := by
    constructor
    · intro process
      match process with
      | 0 =>
          rw [daemon, ← recorded]
          exact .running (.socketDaemon started run (List.prefix_refl _))
      | 1 =>
          rw [caller]
          exact .running (read_calls_program 31 _ (by decide +kernel) (List.prefix_refl _))
    · exact judged_of_positions (by decide +kernel)
  obtain ⟨result, returned⟩ : ∃ result, readRs485Data readOne (answersAfter 31) = some result :=
    ⟨_, rfl⟩
  have events : readCalls 31 = result.events := by rw [readCalls, returned]; rfl
  have runs : SocketDaemon 3 (callsOf (0 : Fin 2) (requestWritten 0 ++ callAfterRequest 0 1)) :=
    .intro started rfl run (by rw [daemon, ← recorded])
  have written : HasWritten (requestWritten 0) (0 : Fin 2) 3 :=
    ⟨(daemonCalls.take 4).map ((0, ·)), [1, 2], [1, 2], rfl, by decide +kernel⟩
  have kept := daemon_keeps_line interleaved (judged_of_positions (by decide +kernel)) runs written
  have code := kept.2.2.1 1 (by decide) (by decide +kernel) _ result (.read returned)
    (events ▸ by decide +kernel) (caller.trans events)
  exact ⟨_, result, .read returned, caller.trans events, code⟩

end Examples

end GlRs485.LineMonopoly
