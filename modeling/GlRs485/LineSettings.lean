import GlRs485.Foundation.BorrowedSetting
import GlRs485.LineMonopoly
import GlRs485.SerialMode

/-!
# The settings of the line

`uartOpenSerial` keeps the settings it found for `uartCloseSerial`, and each read sets its
own timeout and puts back what it found. The settings belong to the device: what one
process puts back is what all the others go on with.
-/

namespace GlRs485.LineSettings

open CBytes CIntegers FlagWord GlRs485.Configuration SerialLine SerialMode BorrowedSetting
open LineSharing LineMonopoly TracedSystem

set_option autoImplicit false

/-! ## What the calls make of the settings -/

/-- What `MyuartRxExpires` sets for one read. -/
def rxAttrs (timeout : Int) (origAttrs : Termios) : Termios :=
  { origAttrs with
    vmin := if timeout < 0 then 1 else 0
    vtime := if timeout < 0 then 0 else UInt8.ofNat (timeout / 100).toNat }

theorem control_flags_masked (cbaud : Flags) (dataBits parity stopBits : Int) (rtsCts : Bool) :
    Masked (controlFlags cbaud dataBits parity stopBits rtsCts) := by
  have speed : Masked fun cflag => cfsetspeed cflag cbaud :=
    masked_comp (masked_or cbaud) (masked_and _)
  have raw : Masked cfmakeraw := ⟨_, CS8, fun _ => rfl⟩
  have sized : Masked fun cflag =>
      cfmakeraw (cfsetspeed cflag cbaud) ||| CLOCAL ||| CREAD ||| charSize dataBits :=
    masked_comp (masked_or (charSize dataBits)) (masked_comp (masked_or CREAD)
      (masked_comp (masked_or CLOCAL) (masked_comp raw speed)))
  have pairs : Masked (withParity parity) := by
    unfold withParity
    split
    · exact masked_or _
    · split
      · exact masked_or _
      · exact masked_and _
  have stops : Masked (withStopBits stopBits) := by
    unfold withStopBits
    split
    · exact masked_or _
    · exact masked_and _
  have flows : Masked (withFlowControl rtsCts) := by
    unfold withFlowControl
    split
    · exact masked_or _
    · exact masked_and _
  have whole := masked_comp flows (masked_comp stops (masked_comp pairs sized))
  exact whole

theorem opened_settings_stay {cfg : CfgT} {baudRate timeout : Int} {rtsCts : Bool}
    {found mode : Termios} (opens : uartOpen cfg baudRate rtsCts timeout found = some mode) :
      uartOpen cfg baudRate rtsCts timeout mode = some mode ∧ rxAttrs timeout mode = mode := by
  obtain ⟨speed, listed, rfl⟩ := Option.map_eq_some_iff.mp opens
  refine ⟨?_, rfl⟩
  unfold uartOpen uartOpenSerial
  dsimp only
  rw [listed, Option.map_some, masked_twice (control_flags_masked _ _ _ _ _)]

/-! ## Processes on one line -/

abbrev SettingsCall := Call Int

/-- What a call on the line does with the settings. -/
def settingsCalls : LineEvent → List SettingsCall
  | .opened fd => [.noted, .installed fd]
  | .locked _ _ => []
  | .flushed _ => []
  | .sent fd _ _ => [.used fd]
  | .received fd _ => [.remembered fd, .adjusted fd, .used fd, .restored fd]
  | .closed fd => [.returned fd]

/-- An opening that fails after it has noted the settings is no call on the line. -/
inductive Performs : List LineEvent → List SettingsCall → Prop
  | done : Performs [] []
  | failed {calls : List LineEvent} {settings : List SettingsCall}
      (rest : Performs calls settings) : Performs calls (.noted :: .gaveUp :: settings)
  | call {calls : List LineEvent} {settings : List SettingsCall} (call : LineEvent)
      (rest : Performs calls settings) : Performs (call :: calls) (settingsCalls call ++ settings)

theorem performs_return {calls : List LineEvent} {settings : List SettingsCall}
    (performs : Performs calls settings) {fd : Int} (returned : .returned fd ∈ settings) :
      .closed fd ∈ calls := by
  induction performs with
  | done => simp at returned
  | failed rest ih => exact ih (by simpa using returned)
  | call call rest ih =>
      rcases List.mem_append.mp returned with now | later
      · cases call with
        | closed other => simp_all [settingsCalls]
        | _ => simp [settingsCalls] at now
      · exact List.mem_cons_of_mem _ (ih later)

variable {Process : Type*} [DecidableEq Process]

def settingsOf (process : Process) (trace : List (Process × SettingsCall)) : List SettingsCall :=
  (trace.filter fun call => call.1 = process).map Prod.snd

structure LineUse (Process : Type*) [DecidableEq Process] where
  trace : List (Process × SettingsCall)
  programs : ∀ process, ∃ calls settings, Program calls ∧ Performs calls settings ∧
    settingsOf process trace <+: settings

/-- What `uartOpenSerial` makes of the settings it finds. -/
def portAttrs (cfg : CfgT) (baudRate timeout : Int) (found : Termios) : Termios :=
  (uartOpen cfg baudRate false timeout found).getD found

/-- `origTTYAttrs` before the first opening. -/
def zeroAttrs : Termios := ⟨0, 0, 0, 0, 0, 0⟩

/-- The line and the processes on it, when all are configured alike. -/
def lineAfter (cfg : CfgT) (baudRate timeout : Int) (atRest : Termios)
    (trace : List (Process × SettingsCall)) : Shared Process Int Termios :=
  after (portAttrs cfg baudRate timeout) (rxAttrs timeout) (unborrowed zeroAttrs atRest) trace

/-- Whoever has the line open finds the settings in place. -/
def InMode (mode : Termios) (line : Shared Process Int Termios) : Prop :=
  ∀ process fd, line.lent process fd → line.setting = mode

section

variable {cfg : CfgT} {baudRate timeout : Int} {atRest mode : Termios}

theorem port_attrs_mode (opens : uartOpen cfg baudRate false timeout atRest = some mode) :
    portAttrs cfg baudRate timeout atRest = mode ∧ portAttrs cfg baudRate timeout mode = mode ∧
      rxAttrs timeout mode = mode := by
  obtain ⟨again, reads⟩ := opened_settings_stay opens
  exact ⟨by rw [portAttrs, opens, Option.getD_some], by rw [portAttrs, again, Option.getD_some],
    reads⟩

/-- The configured settings are in place for whoever has the line open, at every point of
every interleaving, exactly if nobody who would put back others closes the line while
somebody else has it. If such a process moreover leaves nobody in the middle of opening,
and nobody opens the line twice, then whenever all have closed it the line is as it was. -/
theorem settings_kept_iff_last_to_leave (use : LineUse Process)
    (opens : uartOpen cfg baudRate false timeout atRest = some mode) :
      ((∀ front, front <+: use.trace →
          InMode mode (lineAfter cfg baudRate timeout atRest front)) ↔
        Judged (fun before call =>
          LeavesLast mode (lineAfter cfg baudRate timeout atRest before) call) use.trace) ∧
      (Judged (fun before call =>
          Orderly mode (lineAfter cfg baudRate timeout atRest before) call) use.trace →
        ∀ front, front <+: use.trace →
          (∀ process fd, ¬(lineAfter cfg baudRate timeout atRest front).lent process fd) →
            (lineAfter cfg baudRate timeout atRest front).setting = atRest) := by
  obtain ⟨installs, again, adjusts⟩ := port_attrs_mode opens
  refine ⟨mode_held_iff zeroAttrs installs again adjusts use.trace, ?_⟩
  rintro orderly front ⟨rest, split⟩
  have settled : Settled atRest mode (lineAfter cfg baudRate timeout atRest front) :=
    after_invariant (Settled atRest mode) (Orderly mode) (settled_unborrowed zeroAttrs atRest mode)
      (fun _ _ settled call => settled_step installs again adjusts settled call)
      (judged_front (split ▸ orderly))
  exact settled.idle

/-! ## The socket daemon -/

theorem unrefused_stays_open {port : Int} {calls : List LineEvent}
    (runs : SocketDaemon port calls) (unrefused : .locked port false ∉ calls) :
      .closed port ∉ calls := by
  have rule := socket_daemon_rule runs
  intro closing
  obtain ⟨before, later, split, unclosed⟩ := List.eq_append_cons_of_mem closing
  obtain ⟨_, rfl, _, rest, whole⟩ := runs
  rw [split, List.append_assoc, record] at whole
  rcases rule before _ later split rfl with closed | ⟨front, refused⟩
  · cases before with
    | nil => simp at whole
    | cons call before =>
        obtain rfl := (List.cons.inj whole).1
        have stays := opened_stays_open fun member => unclosed (List.mem_cons_of_mem _ member)
        exact stays closed
  · exact unrefused (by rw [split, refused]; simp)

theorem first_opening (cfg : CfgT) (baudRate timeout : Int) (atRest : Termios) (daemon : Process)
    (port : Int) (later : List (Process × SettingsCall)) :
      lineAfter cfg baudRate timeout atRest
          ((daemon, .noted) :: (daemon, .installed port) :: later) =
        after (portAttrs cfg baudRate timeout) (rxAttrs timeout)
          (lineAfter cfg baudRate timeout atRest [(daemon, .noted), (daemon, .installed port)])
          later :=
  after_append _ _ _ [(daemon, .noted), (daemon, .installed port)] later

theorem first_opening_state (opens : uartOpen cfg baudRate false timeout atRest = some mode)
    (daemon : Process) (port : Int) :
      lineAfter cfg baudRate timeout atRest [(daemon, .noted), (daemon, .installed port)] =
        (unborrowed zeroAttrs atRest).set daemon
          ⟨atRest, false, Function.update (fun _ => false) port true, none⟩ mode := by
  obtain ⟨installs, _⟩ := port_attrs_mode opens
  simp [lineAfter, after, Shared.apply, Shared.set, unborrowed, Borrower.note, Borrower.take,
    installs]

/-- The daemon's port guards the settings as soon as it is open. -/
theorem first_opening_guards (opens : uartOpen cfg baudRate false timeout atRest = some mode)
    (daemon : Process) (port : Int) :
      Guarded mode daemon port (lineAfter cfg baudRate timeout atRest
        [(daemon, .noted), (daemon, .installed port)]) := by
  rw [first_opening_state opens]
  have nothing := @nothing_lent Process Int _ zeroAttrs atRest
  refine ⟨rfl, ?_, ?_, ?_, ?_⟩
  · simp [Shared.lent, Shared.set_self]
  · intro process installing
    by_cases same : process = daemon
    · rw [same, Shared.set_self] at installing
      exact absurd installing Bool.false_ne_true
    · rw [Shared.set_other _ _ _ same] at installing
      exact absurd installing Bool.false_ne_true
  · intro process handle lent another
    by_cases same : process = daemon
    · have apart : handle ≠ port := fun equal => another ⟨same, equal⟩
      simp [same, Shared.lent, Shared.set_self, apart] at lent
    · rw [Shared.lent, Shared.set_other _ _ _ same] at lent
      exact absurd lent (nothing process handle)
  · intro process setting known
    by_cases same : process = daemon
    · rw [same, Shared.set_self] at known
      exact absurd known (by simp)
    · rw [Shared.set_other _ _ _ same] at known
      exact absurd known (by simp [unborrowed])

/-- A socket daemon that opened the line before anybody else keeps the configured settings in
place for everybody who opens, writes, reads and closes after it, in any interleaving, until
it is refused the lock. -/
theorem daemon_keeps_mode (use : LineUse Process)
    (opens : uartOpen cfg baudRate false timeout atRest = some mode) {daemon : Process}
    {port : Int} {calls : List LineEvent} {settings : List SettingsCall}
    (runs : SocketDaemon port calls) (performs : Performs calls settings)
    (own : settingsOf daemon use.trace <+: settings) (unrefused : .locked port false ∉ calls)
    {later : List (Process × SettingsCall)}
    (first : use.trace = (daemon, .noted) :: (daemon, .installed port) :: later) :
      ∀ front, front <+: later → (lineAfter cfg baudRate timeout atRest
        ((daemon, .noted) :: (daemon, .installed port) :: front)).setting = mode := by
  obtain ⟨_, again, adjusts⟩ := port_attrs_mode opens
  rintro front ⟨rest, split⟩
  have stays : ∀ call ∈ front, call ≠ (daemon, .returned port) := by
    rintro call member rfl
    have whole : (daemon, Call.returned port) ∈ use.trace := by
      rw [first, ← split]
      simp [member]
    have performed : .returned port ∈ settingsOf daemon use.trace :=
      List.mem_map.mpr ⟨_, List.mem_filter.mpr ⟨whole, by simp⟩, rfl⟩
    have closed := performs_return performs (own.subset performed)
    exact unrefused_stays_open runs unrefused closed
  have guarded : Guarded mode daemon port (lineAfter cfg baudRate timeout atRest
      ((daemon, .noted) :: (daemon, .installed port) :: front)) := by
    rw [first_opening]
    exact after_calls (Guarded mode daemon port) (· ≠ (daemon, .returned port))
      (fun _ _ guarded stays => guarded_step again adjusts guarded stays)
      (first_opening_guards opens daemon port) stays
  exact guarded.setting

/-! ## After the first to open has left first -/

/-- Whoever puts back the settings at rest takes them from all others: until somebody opens
or closes the line, it is used with these settings, or with the timeout of a read in them. -/
theorem settings_stay_at_rest {line : Shared Process Int Termios} {process : Process} {fd : Int}
    (lent : line.lent process fd) (found : (line.borrower process).kept = atRest)
    (nobodyReads : ∀ other, (line.borrower other).memory = none)
    {uses : List (Process × SettingsCall)} (between : ∀ call ∈ uses, call.2.isUse = true) :
      Lost (rxAttrs timeout) atRest (after (portAttrs cfg baudRate timeout) (rxAttrs timeout) line
        ((process, .returned fd) :: uses)) := by
  have taken : Lost (rxAttrs timeout) atRest (line.apply (portAttrs cfg baudRate timeout)
      (rxAttrs timeout) process (.returned fd)) := by
    rw [Shared.apply, if_pos (show Borrower.has _ _ = true from lent)]
    refine ⟨Or.inl found, ?_⟩
    intro other setting known
    by_cases own : other = process
    · rw [own, Shared.set_self] at known
      exact absurd known (by simp [Borrower.giveBack])
    · rw [Shared.set_other _ _ _ own, nobodyReads other] at known
      exact absurd known (by simp)
  exact after_calls (Lost (rxAttrs timeout) atRest) (fun call => call.2.isUse = true)
    (fun _ _ lost use => lost_step rfl lost use) taken between

end

/-! ## Two calls of the API on a port that is fresh -/

theorem performs_calls (calls : List LineEvent) : Performs calls (calls.flatMap settingsCalls) := by
  induction calls with
  | nil => exact .done
  | cons call calls ih => exact .call call ih

def firstLeavesFirst {Process : Type} (one other : Process) : List (Process × SettingsCall) :=
  [(one, .noted), (one, .installed 3), (other, .noted), (other, .installed 3), (one, .used 3),
    (one, .remembered 3), (one, .adjusted 3), (one, .used 3), (one, .restored 3),
    (one, .returned 3), (other, .used 3), (other, .remembered 3), (other, .adjusted 3),
    (other, .used 3), (other, .restored 3), (other, .returned 3)]

theorem read_call_settings (process : Fin 2) :
    settingsOf process (firstLeavesFirst 0 1) = (readCalls 0).flatMap settingsCalls := by
  revert process
  decide +kernel

theorem overlapping_programs (process : Fin 2) : ∃ calls settings, Program calls ∧
    Performs calls settings ∧ settingsOf process (firstLeavesFirst 0 1) <+: settings :=
  ⟨readCalls 0, (readCalls 0).flatMap settingsCalls,
    read_calls_program 0 _ (by decide +kernel) (List.prefix_refl _), performs_calls _,
    by rw [read_call_settings]⟩

def plainMode : Mode := ⟨.eight, .none, .one⟩

def plainAttrs : Termios := ⟨IGNBRK, 0, controlFlags 0o15#32 8 0 1 false 0, 0, 0, 10⟩

theorem plain_mode_opens :
    uartOpen (configured plainMode) 9600 false 1000 zeroAttrs = some plainAttrs := by
  rw [uart_open_of_mode _ plainMode _ _ _ (configured_mode plainMode)]
  rfl

theorem settings_kept_iff_last_to_leave_overlapping :
    ¬Judged (fun before call =>
      LeavesLast plainAttrs (lineAfter (configured plainMode) 9600 1000 zeroAttrs before) call)
        (firstLeavesFirst (0 : Fin 2) 1) := by
  intro judged
  have kept := (settings_kept_iff_last_to_leave
    ⟨firstLeavesFirst (0 : Fin 2) 1, overlapping_programs⟩ plain_mode_opens).1.mpr judged
  have lent : ((lineAfter (configured plainMode) 9600 1000 zeroAttrs
      ((firstLeavesFirst (0 : Fin 2) 1).take 10)).borrower 1).has 3 = true := by decide +kernel
  have found := kept _ (List.take_prefix 10 _) 1 3 lent
  exact absurd (congrArg Termios.iflag found) (by decide +kernel)

def daemonStays {Process : Type} (daemon caller : Process) : List (Process × SettingsCall) :=
  [(daemon, .noted), (daemon, .installed 3), (caller, .noted), (caller, .installed 3),
    (daemon, .used 3), (daemon, .remembered 3), (caller, .used 3), (caller, .remembered 3),
    (daemon, .adjusted 3), (daemon, .used 3), (caller, .adjusted 3), (daemon, .restored 3),
    (caller, .used 3), (caller, .restored 3), (caller, .returned 3)]

theorem daemon_keeps_mode_during_call :
    (lineAfter (configured plainMode) 9600 1000 zeroAttrs
      (daemonStays (0 : Fin 2) 1)).setting = plainAttrs := by
  obtain ⟨trace, final, run, recorded⟩ := daemon_calls_run
  have daemon : settingsOf (0 : Fin 2) (daemonStays 0 1) =
      daemonCalls.flatMap settingsCalls := by decide +kernel
  have caller : settingsOf (1 : Fin 2) (daemonStays 0 1) =
      (readCalls 0).flatMap settingsCalls := by decide +kernel
  have started := SocketBridge.fresh_daemon_started (SocketBridge.hexOverTcp 0)
  have program : Program daemonCalls :=
    .socketDaemon started run (by rw [← recorded]; exact List.prefix_refl _)
  have runs : SocketDaemon 3 daemonCalls := .intro started rfl run (by rw [recorded])
  let use : LineUse (Fin 2) :=
    { trace := daemonStays 0 1
      programs := fun process => match process with
        | 0 => ⟨daemonCalls, _, program, performs_calls _, by rw [daemon]⟩
        | 1 => ⟨readCalls 0, _, read_calls_program 0 _ (by decide +kernel) (List.prefix_refl _),
            performs_calls _, by rw [caller]⟩ }
  have own : settingsOf 0 use.trace <+: daemonCalls.flatMap settingsCalls := by rw [← daemon]
  exact daemon_keeps_mode use plain_mode_opens runs (performs_calls daemonCalls) own
    (by decide +kernel) rfl _ (List.prefix_refl _)

end GlRs485.LineSettings
