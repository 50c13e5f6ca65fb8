import GlRs485.Foundation.CBytes
import GlRs485.Foundation.TracedSystem
import Mathlib.Data.List.Perm.Basic
import Mathlib.Logic.Function.Basic

/-!
# The running-status keys: `main.c` and the start and stop calls of the API

The API calls and the daemons write two keys of the UCI store in any order. A start
call writes its key after the shell has come back, whatever became of the daemon; a
daemon writes its own key when it goes into its loop and both keys when it leaves
it; a stop call kills every process that was listed and writes both keys.
-/

namespace GlRs485.RunningStatus

open CBytes TracedSystem

set_option autoImplicit false

inductive Bridge
  | socket
  | mqtt
  deriving DecidableEq

def Bridge.key : Bridge → String
  | .socket => "rs485.socket.status"
  | .mqtt => "rs485.mqtt.status"

def statusUp : List Byte := ascii "1"

def statusDown : List Byte := ascii "0"

abbrev Write := String × List Byte

def guci2Commit (stored : String → List Byte) (writes : List Write) : String → List Byte :=
  writes.foldl (fun stored write => Function.update stored write.1 write.2) stored

def upWrites (bridge : Bridge) : List Write := [(bridge.key, statusUp)]

def downWrites : List Write :=
  [("rs485.socket.status", statusDown), ("rs485.mqtt.status", statusDown)]

/-- Where a daemon stands in `main`: before its key is written, in its loop, or
behind the loop with both keys still to be written. -/
inductive Phase
  | starting
  | looping
  | ended
  deriving DecidableEq

structure Daemon where
  pid : Nat
  kind : Bridge
  phase : Phase
  deriving DecidableEq

/-- What an API call does next: run the bridge, write the key of the bridge, list the
processes, or kill the listed processes and write both keys. -/
inductive Call
  | launching (bridge : Bridge)
  | announcing (bridge : Bridge)
  | listing
  | killing (pids : List Nat)
  deriving DecidableEq

def rs485Start (bridge : Bridge) : Call := .launching bridge

def rs485SocketStart : Call := rs485Start .socket

def rs485MqttStart : Call := rs485Start .mqtt

/-- `pgrep rs485 | xargs kill -9`, the same command for both bridges. -/
def rs485Stop : Call := .listing

def rs485SocketStop : Call := rs485Stop

def rs485MqttStop : Call := rs485Stop

inductive Api
  | socketStart
  | socketStop
  | mqttStart
  | mqttStop
  deriving DecidableEq

def Api.call : Api → Call
  | .socketStart => rs485SocketStart
  | .socketStop => rs485SocketStop
  | .mqttStart => rs485MqttStart
  | .mqttStop => rs485MqttStop

structure State where
  stored : String → List Byte
  calls : List Call
  daemons : List Daemon

def State.idle (stored : String → List Byte) : State := ⟨stored, [], []⟩

/-- What becomes of a daemon: the part of `main` it is in comes to its end, or the
process exits in it. -/
inductive Fate
  | goesOn
  | exits
  deriving DecidableEq

inductive Input
  | request (api : Api)
  | call (call : Call) (launched : Option Nat)
  | daemon (daemon : Daemon) (fate : Fate)

def launchedDaemon (bridge : Bridge) (launched : Option Nat) : List Daemon :=
  (launched.map fun pid => Daemon.mk pid bridge .starting).toList

def State.commit (state : State) (writes : List Write) : State × List Write :=
  ({ state with stored := guci2Commit state.stored writes }, writes)

/-- One step of `rs485_socket_start`, `rs485_mqtt_start` and the two stop calls. -/
def callStep (state : State) (call : Call) (launched : Option Nat) : State × List Write :=
  let others := state.calls.erase call
  match call with
  | .launching bridge =>
      ({ state with calls := .announcing bridge :: others
                    daemons := launchedDaemon bridge launched ++ state.daemons }, [])
  | .announcing bridge => { state with calls := others }.commit (upWrites bridge)
  | .listing =>
      ({ state with calls := .killing (state.daemons.map fun daemon => daemon.pid) :: others }, [])
  | .killing (pid :: rest) =>
      ({ state with calls := .killing rest :: others
                    daemons := state.daemons.filter fun daemon => daemon.pid ≠ pid }, [])
  | .killing [] => { state with calls := others }.commit downWrites

/-- One step of `main` behind `daemon()`. Only the socket bridge has something to
initialise before it writes its key. -/
def daemonStep (state : State) (daemon : Daemon) (fate : Fate) : Option (State × List Write) :=
  let others := state.daemons.erase daemon
  match daemon.phase, fate with
  | .starting, .goesOn =>
      some ({ state with daemons := { daemon with phase := .looping } :: others }.commit
        (upWrites daemon.kind))
  | .starting, .exits =>
      if daemon.kind = .socket then some ({ state with daemons := others }, []) else none
  | .looping, .goesOn =>
      some ({ state with daemons := { daemon with phase := .ended } :: others }, [])
  | .looping, .exits => some ({ state with daemons := others }, [])
  | .ended, .goesOn => some ({ state with daemons := others }.commit downWrites)
  | .ended, .exits => none

def step : StepFunction State Input Write := fun state input =>
  match input with
  | .request api => some ({ state with calls := api.call :: state.calls }, [])
  | .call call launched =>
      if call ∈ state.calls then some (callStep state call launched) else none
  | .daemon daemon fate =>
      if daemon ∈ state.daemons then daemonStep state daemon fate else none

def Fresh (state : State) : Input → Prop
  | .call _ (some pid) => ∀ daemon ∈ state.daemons, daemon.pid ≠ pid
  | _ => True

instance (state : State) : (input : Input) → Decidable (Fresh state input)
  | .call _ (some pid) => inferInstanceAs (Decidable (∀ daemon ∈ state.daemons, daemon.pid ≠ pid))
  | .call _ none => .isTrue trivial
  | .request _ => .isTrue trivial
  | .daemon _ _ => .isTrue trivial

def Running (state : State) (bridge : Bridge) : Prop :=
  ∃ daemon ∈ state.daemons, daemon.kind = bridge

def Settled (state : State) : Prop :=
  state.calls = [] ∧ ∀ daemon ∈ state.daemons, daemon.phase = .looping

instance (state : State) (bridge : Bridge) : Decidable (Running state bridge) :=
  inferInstanceAs (Decidable (∃ daemon ∈ state.daemons, _))

instance (state : State) : Decidable (Settled state) := inferInstanceAs (Decidable (_ ∧ _))

/-! ## What is still to come -/

def Call.dooms (pid : Nat) : Call → Bool
  | .listing => true
  | .killing pids => decide (pid ∈ pids)
  | _ => false

def Call.announces (bridge : Bridge) : Call → Bool
  | .launching started => decide (started = bridge)
  | .announcing started => decide (started = bridge)
  | _ => false

def Call.stops : Call → Bool
  | .listing => true
  | .killing _ => true
  | _ => false

/-- A daemon that will write its key whatever happens, unless it is killed. -/
def Daemon.announces (bridge : Bridge) (daemon : Daemon) : Bool :=
  decide (daemon.phase = .starting ∧ daemon.kind = .mqtt ∧ bridge = .mqtt)

def Doomed (calls : List Call) (pid : Nat) : Prop := ∃ call ∈ calls, call.dooms pid

def Announced (calls : List Call) (daemons : List Daemon) (bridge : Bridge) : Prop :=
  (∃ call ∈ calls, call.announces bridge) ∨
    ∃ daemon ∈ daemons, daemon.announces bridge ∧ ¬ Doomed calls daemon.pid

def ResetDue (calls : List Call) (daemons : List Daemon) : Prop :=
  (∃ call ∈ calls, call.stops) ∨ ∃ daemon ∈ daemons, daemon.phase = .ended

instance (calls : List Call) (pid : Nat) : Decidable (Doomed calls pid) :=
  inferInstanceAs (Decidable (∃ call ∈ calls, _))

instance (calls : List Call) (daemons : List Daemon) (bridge : Bridge) :
    Decidable (Announced calls daemons bridge) := inferInstanceAs (Decidable (_ ∨ _))

instance (calls : List Call) (daemons : List Daemon) : Decidable (ResetDue calls daemons) :=
  inferInstanceAs (Decidable (_ ∨ _))

/-- Every daemon in its loop is killed, or its key is written "1", later on. -/
def Foretold (state : State) : Prop :=
  ∀ daemon ∈ state.daemons, daemon.phase = .looping →
    Announced state.calls state.daemons daemon.kind ∨ Doomed state.calls daemon.pid

instance (state : State) : Decidable (Foretold state) :=
  inferInstanceAs (Decidable (∀ daemon ∈ state.daemons, _))

/-- The steps that leave no wrong key behind. The other steps never do. -/
def LeavesNoLie (state : State) : Input → Prop
  | .call (.announcing bridge) _ =>
      Running state bridge ∨ ResetDue state.calls state.daemons
  | .call (.killing []) _ => Foretold state
  | .daemon daemon .exits =>
      state.stored daemon.kind.key ≠ statusUp ∨
        Running { state with daemons := state.daemons.erase daemon } daemon.kind ∨
          ResetDue state.calls state.daemons
  | .daemon daemon .goesOn => daemon.phase = .ended → Foretold state
  | _ => True

instance (state : State) : (input : Input) → Decidable (LeavesNoLie state input)
  | .request _ => .isTrue trivial
  | .call (.launching _) _ => .isTrue trivial
  | .call (.announcing bridge) _ =>
      inferInstanceAs (Decidable (Running state bridge ∨ ResetDue state.calls state.daemons))
  | .call .listing _ => .isTrue trivial
  | .call (.killing (_ :: _)) _ => .isTrue trivial
  | .call (.killing []) _ => inferInstanceAs (Decidable (Foretold state))
  | .daemon daemon .exits => inferInstanceAs (Decidable (state.stored daemon.kind.key ≠ statusUp ∨
      Running { state with daemons := state.daemons.erase daemon } daemon.kind ∨
        ResetDue state.calls state.daemons))
  | .daemon daemon .goesOn => inferInstanceAs (Decidable (daemon.phase = .ended → Foretold state))

/-- What is wrong with a key is about to be put right. -/
structure Truthful (state : State) : Prop where
  covered : ∀ bridge, state.stored bridge.key = statusUp →
    Running state bridge ∨ ResetDue state.calls state.daemons
  told : ∀ daemon ∈ state.daemons, daemon.phase = .looping →
    state.stored daemon.kind.key = statusUp ∨
      Announced state.calls state.daemons daemon.kind ∨ Doomed state.calls daemon.pid

theorem idle_truthful (stored : String → List Byte)
    (quiet : ∀ bridge : Bridge, stored bridge.key ≠ statusUp) : Truthful (.idle stored) where
  covered := fun bridge shown => absurd shown (quiet bridge)
  told := fun _ member => absurd member List.not_mem_nil

theorem settled_truthful {state : State} (truthful : Truthful state) (settled : Settled state)
    (bridge : Bridge) : state.stored bridge.key = statusUp ↔ Running state bridge := by
  rcases settled with ⟨noCall, looping⟩
  constructor
  · intro shown
    rcases truthful.covered bridge shown with running | ⟨call, member, _⟩ | ⟨daemon, member, ended⟩
    · exact running
    · rw [noCall] at member
      exact absurd member List.not_mem_nil
    · rw [looping daemon member] at ended
      cases ended
  · rintro ⟨daemon, member, rfl⟩
    rcases truthful.told daemon member (looping daemon member) with
      shown | (⟨call, pending, _⟩ | ⟨other, present, announces, _⟩) | ⟨call, pending, _⟩
    · exact shown
    · rw [noCall] at pending
      exact absurd pending List.not_mem_nil
    · have starting : other.phase = .starting := (of_decide_eq_true announces).1
      rw [looping other present] at starting
      cases starting
    · rw [noCall] at pending
      exact absurd pending List.not_mem_nil

/-! ## What a commit does to the two keys -/

theorem key_eq_iff (first second : Bridge) : first.key = second.key ↔ first = second := by
  cases first <;> cases second <;> decide

theorem status_down_ne_up : statusDown ≠ statusUp := by decide +kernel

@[simp] theorem up_written (stored : String → List Byte) (written bridge : Bridge) :
    guci2Commit stored (upWrites written) bridge.key =
      if bridge = written then statusUp else stored bridge.key := by
  simp [guci2Commit, upWrites, Function.update_apply, key_eq_iff]

@[simp] theorem down_written (stored : String → List Byte) (bridge : Bridge) :
    guci2Commit stored downWrites bridge.key = statusDown := by
  cases bridge <;> simp [guci2Commit, downWrites, Bridge.key]

/-! ## What a change of the lists leaves to come -/

theorem exists_replaced {Entry : Type} [DecidableEq Entry] {holds : Entry → Prop}
    {list : List Entry} {old new : Entry} (present : old ∈ list) (alike : holds new ↔ holds old) :
      (∃ entry ∈ new :: list.erase old, holds entry) ↔ ∃ entry ∈ list, holds entry := by
  simp only [(List.perm_cons_erase present).mem_iff, List.mem_cons, or_and_right, exists_or,
    exists_eq_left, alike]

theorem exists_erased {Entry : Type} [DecidableEq Entry] {holds : Entry → Prop}
    {list : List Entry} {old : Entry} (silent : ¬ holds old) :
      (∃ entry ∈ list.erase old, holds entry) ↔ ∃ entry ∈ list, holds entry := by
  constructor
  · rintro ⟨entry, member, held⟩
    exact ⟨entry, List.mem_of_mem_erase member, held⟩
  · rintro ⟨entry, member, held⟩
    have other : entry ≠ old := fun same => silent (same ▸ held)
    exact ⟨entry, (List.mem_erase_of_ne other).mpr member, held⟩

theorem announced_kept {calls after : List Call} {daemons later : List Daemon} {bridge : Bridge}
    (byCall : (∃ call ∈ calls, call.announces bridge) → ∃ call ∈ after, call.announces bridge)
    (byDaemon : ∀ daemon ∈ daemons, daemon.announces bridge → ¬ Doomed calls daemon.pid →
      daemon ∈ later ∧ ¬ Doomed after daemon.pid)
    (announced : Announced calls daemons bridge) : Announced after later bridge := by
  rcases announced with pending | ⟨daemon, member, announces, spared⟩
  · exact .inl (byCall pending)
  · rcases byDaemon daemon member announces spared with ⟨stays, safe⟩
    exact .inr ⟨daemon, stays, announces, safe⟩

theorem told_kept {state after : State} (truthful : Truthful state)
    (unwritten : after.stored = state.stored)
    (same : ∀ daemon ∈ after.daemons, daemon.phase = .looping → daemon ∈ state.daemons)
    (announced : ∀ bridge, Announced state.calls state.daemons bridge →
      Announced after.calls after.daemons bridge)
    (doomed : ∀ daemon ∈ after.daemons, Doomed state.calls daemon.pid →
      Doomed after.calls daemon.pid) :
      ∀ daemon ∈ after.daemons, daemon.phase = .looping →
        after.stored daemon.kind.key = statusUp ∨
          Announced after.calls after.daemons daemon.kind ∨ Doomed after.calls daemon.pid := by
  intro daemon member looping
  rw [unwritten]
  exact (truthful.told daemon (same daemon member looping) looping).imp_right fun foretold =>
    foretold.imp (announced daemon.kind) (doomed daemon member)

/-! ## The API calls -/

theorem start_requested {state : State} (truthful : Truthful state) (bridge : Bridge) :
    Truthful { state with calls := rs485Start bridge :: state.calls } := by
  have doomed (pid : Nat) : Doomed (rs485Start bridge :: state.calls) pid ↔
      Doomed state.calls pid := by simp [Doomed, rs485Start, Call.dooms]
  constructor
  · intro written shown
    refine (truthful.covered written shown).imp_right fun due => due.imp_left ?_
    rintro ⟨call, member, stops⟩
    exact ⟨call, List.mem_cons_of_mem _ member, stops⟩
  · refine told_kept truthful rfl (fun daemon member _ => member) (fun written => ?_)
      fun daemon _ => (doomed daemon.pid).mpr
    refine announced_kept ?_ fun daemon member _ spared =>
      ⟨member, fun later => spared ((doomed daemon.pid).mp later)⟩
    rintro ⟨call, member, announces⟩
    exact ⟨call, List.mem_cons_of_mem _ member, announces⟩

theorem stop_requested (state : State) :
    Truthful { state with calls := rs485Stop :: state.calls } where
  covered := fun _ _ => .inr (.inl ⟨rs485Stop, List.mem_cons_self, rfl⟩)
  told := fun _ _ _ => .inr (.inr ⟨rs485Stop, List.mem_cons_self, rfl⟩)

theorem request_kept {state : State} (truthful : Truthful state) (api : Api) :
    Truthful { state with calls := api.call :: state.calls } := by
  cases api with
  | socketStart => exact start_requested truthful .socket
  | mqttStart => exact start_requested truthful .mqtt
  | socketStop => exact stop_requested state
  | mqttStop => exact stop_requested state

theorem launching_kept {state : State} {bridge : Bridge} (truthful : Truthful state)
    (pending : .launching bridge ∈ state.calls) (launched : Option Nat) :
      Truthful (callStep state (.launching bridge) launched).1 := by
  have doomed (pid : Nat) : Doomed (.announcing bridge :: state.calls.erase (.launching bridge)) pid
      ↔ Doomed state.calls pid := exists_replaced pending (by simp [Call.dooms])
  constructor
  · intro written shown
    rcases truthful.covered written shown with ⟨daemon, member, kind⟩ | stopping | leaving
    · exact .inl ⟨daemon, List.mem_append_right _ member, kind⟩
    · exact .inr (.inl ((exists_replaced pending (by simp [Call.stops])).mpr stopping))
    · rcases leaving with ⟨daemon, member, ended⟩
      exact .inr (.inr ⟨daemon, List.mem_append_right _ member, ended⟩)
  · refine told_kept truthful rfl ?_ ?_ fun daemon _ => (doomed daemon.pid).mpr
    · intro daemon member looping
      rcases List.mem_append.mp member with new | old
      · rcases Option.map_eq_some_iff.mp (Option.mem_toList.mp new) with ⟨pid, _, made⟩
        rw [← made] at looping
        cases looping
      · exact old
    · intro written
      refine announced_kept (exists_replaced pending (by simp [Call.announces])).mpr ?_
      intro daemon member _ spared
      exact ⟨List.mem_append_right _ member, fun later => spared ((doomed daemon.pid).mp later)⟩

/-- A start call may write its key only while a daemon of its kind is there, or while
the key is going to be written again. -/
theorem announcing_kept_iff {state : State} {bridge : Bridge} (truthful : Truthful state)
    (launched : Option Nat) :
      Truthful (callStep state (.announcing bridge) launched).1 ↔
        Running state bridge ∨ ResetDue state.calls state.daemons := by
  have stopping : (∃ call ∈ state.calls.erase (.announcing bridge), call.stops) ↔
      ∃ call ∈ state.calls, call.stops := exists_erased (by simp [Call.stops])
  have doomed (pid : Nat) : Doomed (state.calls.erase (.announcing bridge)) pid ↔
      Doomed state.calls pid := exists_erased (by simp [Call.dooms])
  have covered (written : Bridge) :
      Running state written ∨ ResetDue (state.calls.erase (.announcing bridge)) state.daemons ↔
        Running state written ∨ ResetDue state.calls state.daemons := by
    rw [ResetDue, ResetDue, stopping]
  constructor
  · intro kept
    exact (covered bridge).mp (kept.covered bridge (by simp [callStep, State.commit]))
  · intro allowed
    constructor
    · intro written shown
      refine (covered written).mpr ?_
      by_cases own : written = bridge
      · exact own ▸ allowed
      · refine truthful.covered written ?_
        simpa [callStep, State.commit, own] using shown
    · intro daemon member looping
      by_cases own : daemon.kind = bridge
      · exact .inl (by simp [callStep, State.commit, own])
      · refine (truthful.told daemon member looping).imp ?_ fun foretold => foretold.imp ?_ ?_
        · intro shown
          simpa [callStep, State.commit, own] using shown
        · refine announced_kept (exists_erased ?_).mpr fun other present _ spared =>
            ⟨present, fun later => spared ((doomed other.pid).mp later)⟩
          simpa [Call.announces] using Ne.symm own
        · exact (doomed daemon.pid).mpr

theorem listing_kept {state : State} (launched : Option Nat) :
    Truthful (callStep state .listing launched).1 where
  covered := fun _ _ => .inr (.inl ⟨_, List.mem_cons_self, rfl⟩)
  told := by
    intro daemon member _
    have listed : daemon.pid ∈ state.daemons.map fun other => other.pid :=
      List.mem_map_of_mem member
    exact .inr (.inr ⟨_, List.mem_cons_self, decide_eq_true listed⟩)

theorem killing_kept {state : State} {pid : Nat} {rest : List Nat} (truthful : Truthful state)
    (pending : .killing (pid :: rest) ∈ state.calls) (launched : Option Nat) :
      Truthful (callStep state (.killing (pid :: rest)) launched).1 := by
  have doomed (other : Nat) (different : other ≠ pid) :
      Doomed (.killing rest :: state.calls.erase (.killing (pid :: rest))) other ↔
        Doomed state.calls other := exists_replaced pending (by simp [Call.dooms, different])
  have killed : Doomed state.calls pid := ⟨_, pending, by simp [Call.dooms]⟩
  constructor
  · exact fun _ _ => .inr (.inl ⟨_, List.mem_cons_self, rfl⟩)
  · refine told_kept truthful rfl ?_ ?_ ?_
    · exact fun daemon member _ => List.mem_of_mem_filter member
    · intro bridge
      refine announced_kept (exists_replaced pending (by simp [Call.announces])).mpr ?_
      intro daemon member _ spared
      have different : daemon.pid ≠ pid := fun same => spared (same ▸ killed)
      refine ⟨List.mem_filter.mpr ⟨member, decide_eq_true different⟩, fun later => ?_⟩
      exact spared ((doomed daemon.pid different).mp later)
    · intro daemon member
      have different : daemon.pid ≠ pid := of_decide_eq_true (List.mem_filter.mp member).2
      exact (doomed daemon.pid different).mpr

theorem reset_truthful_iff (state : State) {calls : List Call} {daemons : List Daemon}
    {writes : List Write} (downed : writes = downWrites)
    (sameLooping : ∀ daemon : Daemon, daemon.phase = .looping →
      (daemon ∈ daemons ↔ daemon ∈ state.daemons))
    (announced : ∀ bridge, Announced calls daemons bridge ↔
      Announced state.calls state.daemons bridge)
    (doomed : ∀ pid, Doomed calls pid ↔ Doomed state.calls pid) :
      Truthful ⟨guci2Commit state.stored writes, calls, daemons⟩ ↔ Foretold state := by
  subst downed
  have down (bridge : Bridge) : guci2Commit state.stored downWrites bridge.key ≠ statusUp := by
    rw [down_written]
    exact status_down_ne_up
  constructor
  · intro kept daemon member looping
    have told := kept.told daemon ((sameLooping daemon looping).mpr member) looping
    have foretold := told.resolve_left (down daemon.kind)
    exact foretold.imp (announced daemon.kind).mp (doomed daemon.pid).mp
  · intro foretold
    constructor
    · exact fun bridge shown => absurd shown (down bridge)
    · intro daemon member looping
      have told := foretold daemon ((sameLooping daemon looping).mp member) looping
      exact .inr (told.imp (announced daemon.kind).mpr (doomed daemon.pid).mpr)

theorem clearing_kept_iff {state : State} (launched : Option Nat) :
    Truthful (callStep state (.killing []) launched).1 ↔ Foretold state := by
  have doomed (pid : Nat) : Doomed (state.calls.erase (.killing [])) pid ↔
      Doomed state.calls pid := exists_erased (by simp [Call.dooms])
  refine reset_truthful_iff state rfl (fun _ _ => Iff.rfl) (fun bridge => ?_) doomed
  have byCall : (∃ call ∈ state.calls.erase (.killing []), call.announces bridge) ↔
      ∃ call ∈ state.calls, call.announces bridge := exists_erased (by simp [Call.announces])
  simp only [Announced, byCall, doomed]

/-! ## The daemons -/

theorem announced_without (calls : List Call) (daemons : List Daemon) {gone : Daemon}
    (bridge : Bridge) (silent : ¬ gone.announces bridge) :
      Announced calls (daemons.erase gone) bridge ↔ Announced calls daemons bridge := by
  rw [Announced, Announced, exists_erased fun held => silent held.1]

theorem leaving_without (daemons : List Daemon) {gone : Daemon} (early : gone.phase ≠ .ended) :
    (∃ daemon ∈ daemons.erase gone, daemon.phase = .ended) ↔
      ∃ daemon ∈ daemons, daemon.phase = .ended := exists_erased early

theorem initialised_kept {state : State} {daemon : Daemon} (truthful : Truthful state)
    (starting : daemon.phase = .starting) :
      Truthful (State.commit { state with
        daemons := { daemon with phase := .looping } :: state.daemons.erase daemon }
          (upWrites daemon.kind)).1 := by
  constructor
  · intro bridge shown
    by_cases own : bridge = daemon.kind
    · exact .inl ⟨_, List.mem_cons_self, own.symm⟩
    · have before : state.stored bridge.key = statusUp := by simpa [State.commit, own] using shown
      rcases truthful.covered bridge before with running | stopping | leaving
      · have others := (exists_erased (fun same => own same.symm)).mpr running
        rcases others with ⟨other, member, kind⟩
        exact .inl ⟨other, List.mem_cons_of_mem _ member, kind⟩
      · exact .inr (.inl stopping)
      · have early : daemon.phase ≠ .ended := by simp [starting]
        rcases (leaving_without _ early).mpr leaving with ⟨other, member, ended⟩
        exact .inr (.inr ⟨other, List.mem_cons_of_mem _ member, ended⟩)
  · intro other member looping
    by_cases own : other.kind = daemon.kind
    · exact .inl (by simp [State.commit, own])
    · have earlier : other ∈ state.daemons := by
        rcases List.mem_cons.mp member with same | present
        · exact absurd (congrArg Daemon.kind same) own
        · exact List.mem_of_mem_erase present
      refine (truthful.told other earlier looping).imp ?_ fun foretold => foretold.imp_left ?_
      · intro shown
        simpa [State.commit, own] using shown
      · refine announced_kept id fun waiting present announces spared => ⟨?_, spared⟩
        refine List.mem_cons_of_mem _ ((List.mem_erase_of_ne ?_).mpr present)
        rintro rfl
        have both := of_decide_eq_true announces
        exact own (both.2.2.trans both.2.1.symm)

theorem silent_of_phase {daemon : Daemon} (bridge : Bridge) (later : daemon.phase ≠ .starting) :
    ¬ daemon.announces bridge := by
  simp [Daemon.announces, later]

theorem returned_kept {state : State} {daemon : Daemon} (truthful : Truthful state)
    (looping : daemon.phase = .looping) :
      Truthful { state with
        daemons := { daemon with phase := .ended } :: state.daemons.erase daemon } := by
  constructor
  · exact fun _ _ => .inr (.inr ⟨_, List.mem_cons_self, rfl⟩)
  · refine told_kept truthful rfl ?_ ?_ fun _ _ => id
    · intro other member still
      rcases List.mem_cons.mp member with same | present
      · rw [same] at still
        cases still
      · exact List.mem_of_mem_erase present
    · intro bridge
      refine announced_kept id fun waiting present announces spared => ⟨?_, spared⟩
      refine List.mem_cons_of_mem _ ((List.mem_erase_of_ne ?_).mpr present)
      rintro rfl
      exact silent_of_phase bridge (by simp [looping]) announces

/-- A daemon that exits without a word leaves its key right when the key is not "1", when
another daemon of its kind is there, or when the keys are going to be written again. -/
theorem exits_kept_iff {state : State} {daemon : Daemon} (truthful : Truthful state)
    (early : daemon.phase ≠ .ended) (silent : ∀ bridge, ¬ daemon.announces bridge) :
      Truthful { state with daemons := state.daemons.erase daemon } ↔
        state.stored daemon.kind.key ≠ statusUp ∨
          Running { state with daemons := state.daemons.erase daemon } daemon.kind ∨
            ResetDue state.calls state.daemons := by
  have due : ResetDue state.calls (state.daemons.erase daemon) ↔
      ResetDue state.calls state.daemons := by
    rw [ResetDue, ResetDue, leaving_without state.daemons early]
  rw [← imp_iff_not_or]
  constructor
  · intro kept shown
    exact (kept.covered daemon.kind shown).imp_right due.mp
  · intro allowed
    constructor
    · intro bridge shown
      by_cases own : bridge = daemon.kind
      · subst own
        exact (allowed shown).imp_right due.mpr
      · refine (truthful.covered bridge shown).imp ?_ due.mpr
        exact (exists_erased (fun same => own same.symm)).mpr
    · refine told_kept truthful rfl ?_ ?_ fun _ _ => id
      · exact fun other member _ => List.mem_of_mem_erase member
      · exact fun bridge => (announced_without _ _ bridge (silent bridge)).mpr

theorem exit_reset_kept_iff {state : State} {daemon : Daemon} (ended : daemon.phase = .ended) :
    Truthful ({ state with daemons := state.daemons.erase daemon }.commit downWrites).1 ↔
      Foretold state := by
  refine reset_truthful_iff state rfl ?_ ?_ fun _ => Iff.rfl
  · intro other looping
    refine List.mem_erase_of_ne fun same => ?_
    rw [same, ended] at looping
    cases looping
  · intro bridge
    exact announced_without _ _ bridge (silent_of_phase bridge (by simp [ended]))

/-! ## Every step, every run -/

theorem call_kept_iff {state : State} {call : Call} (truthful : Truthful state)
    (pending : call ∈ state.calls) (launched : Option Nat) :
      Truthful (callStep state call launched).1 ↔ LeavesNoLie state (.call call launched) := by
  match call with
  | .launching bridge => exact iff_of_true (launching_kept truthful pending launched) trivial
  | .announcing bridge => exact announcing_kept_iff truthful launched
  | .listing => exact iff_of_true (listing_kept launched) trivial
  | .killing (pid :: rest) => exact iff_of_true (killing_kept truthful pending launched) trivial
  | .killing [] => exact clearing_kept_iff launched

theorem daemon_kept_iff {state after : State} {daemon : Daemon} {fate : Fate}
    {writes : List Write} (truthful : Truthful state)
    (taken : daemonStep state daemon fate = some (after, writes)) :
      Truthful after ↔ LeavesNoLie state (.daemon daemon fate) := by
  match phase : daemon.phase, fate with
  | .starting, .goesOn =>
      simp only [daemonStep, phase, Option.some.injEq] at taken
      obtain rfl : _ = after := congrArg Prod.fst taken
      exact iff_of_true (initialised_kept truthful phase) (by simp [LeavesNoLie, phase])
  | .starting, .exits =>
      simp only [daemonStep, phase, Option.ite_none_right_eq_some, Option.some.injEq] at taken
      rcases taken with ⟨socket, taken⟩
      obtain rfl : _ = after := congrArg Prod.fst taken
      exact exits_kept_iff truthful (by simp [phase]) (by simp [Daemon.announces, socket])
  | .looping, .goesOn =>
      simp only [daemonStep, phase, Option.some.injEq] at taken
      obtain rfl : _ = after := congrArg Prod.fst taken
      exact iff_of_true (returned_kept truthful phase) (by simp [LeavesNoLie, phase])
  | .looping, .exits =>
      simp only [daemonStep, phase, Option.some.injEq] at taken
      obtain rfl : _ = after := congrArg Prod.fst taken
      exact exits_kept_iff truthful (by simp [phase]) (by simp [Daemon.announces, phase])
  | .ended, .goesOn =>
      simp only [daemonStep, phase, Option.some.injEq] at taken
      obtain rfl : _ = after := congrArg Prod.fst taken
      rw [exit_reset_kept_iff phase]
      simp [LeavesNoLie, phase]
  | .ended, .exits => simp [daemonStep, phase] at taken

/-- The step lemma, both ways. -/
theorem step_truthful_iff {state after : State} {input : Input} {writes : List Write}
    (truthful : Truthful state) (taken : step state input = some (after, writes)) :
      Truthful after ↔ LeavesNoLie state input := by
  cases input with
  | request api =>
      simp only [step, Option.some.injEq] at taken
      obtain rfl : _ = after := congrArg Prod.fst taken
      exact iff_of_true (request_kept truthful api) trivial
  | call call launched =>
      simp only [step, Option.ite_none_right_eq_some, Option.some.injEq] at taken
      obtain rfl : _ = after := congrArg Prod.fst taken.2
      exact call_kept_iff truthful taken.1 launched
  | daemon daemon fate =>
      simp only [step, Option.ite_none_right_eq_some] at taken
      exact daemon_kept_iff truthful taken.2

def Harmless (state : State) (input : Input) : Prop := Fresh state input ∧ LeavesNoLie state input

instance (state : State) (input : Input) : Decidable (Harmless state input) :=
  inferInstanceAs (Decidable (_ ∧ _))

/-- A run none of whose steps leaves a wrong key behind tells the truth whenever nothing
is on its way. -/
theorem running_keys_tell_the_truth {stored : String → List Byte}
    (quiet : ∀ bridge : Bridge, stored bridge.key ≠ statusUp) {trace : List Write} {state : State}
    (run : Run step Harmless (.idle stored) trace state) (settled : Settled state)
    (bridge : Bridge) : state.stored bridge.key = statusUp ↔ Running state bridge := by
  have truthful : Truthful state := by
    refine run_invariant (fun _ reached => Truthful reached) (idle_truthful stored quiet) ?_ run
    intro _ earlier input after writes kept harmless taken
    exact (step_truthful_iff kept taken).mpr harmless.2
  exact settled_truthful truthful settled bridge

theorem running_keys_tell_the_truth_restarted :
    ∃ state trace, Run step Harmless (.idle fun _ => statusDown) trace state ∧ Settled state ∧
      Running state .mqtt ∧
        ∀ bridge : Bridge, state.stored bridge.key = statusUp ↔ Running state bridge := by
  have found := run_of_replay_view step Harmless
    (fun taken : State × List Write => decide (Settled taken.1 ∧ Running taken.1 .mqtt))
    [.request .socketStart, .call (.launching .socket) (some 7),
      .call (.announcing .socket) none, .daemon ⟨7, .socket, .starting⟩ .goesOn,
      .request .socketStop, .call .listing none, .call (.killing [7]) none,
      .call (.killing []) none, .request .mqttStart, .call (.launching .mqtt) (some 8),
      .daemon ⟨8, .mqtt, .starting⟩ .goesOn, .call (.announcing .mqtt) none]
    (.idle fun _ => statusDown) true (by decide +kernel)
  rcases found with ⟨state, trace, run, shown⟩
  rcases of_decide_eq_true shown with ⟨settled, running⟩
  refine ⟨state, trace, run, settled, running, fun bridge => ?_⟩
  exact running_keys_tell_the_truth (fun _ => status_down_ne_up) run settled bridge

/-- A start call writes its key after the daemon has failed to open its port; and a socket
daemon that leaves its loop writes the key of an MQTT daemon that goes on. -/
theorem keys_can_lie :
    (∃ state trace, Run step Fresh (.idle fun _ => statusDown) trace state ∧ Settled state ∧
      state.stored "rs485.socket.status" = statusUp ∧ ¬ Running state .socket) ∧
    ∃ state trace, Run step Fresh (.idle fun _ => statusDown) trace state ∧ Settled state ∧
      state.stored "rs485.mqtt.status" ≠ statusUp ∧ Running state .mqtt := by
  constructor
  · have found := run_of_replay_view step Fresh
      (fun taken : State × List Write => decide (Settled taken.1 ∧
        taken.1.stored "rs485.socket.status" = statusUp ∧ ¬ Running taken.1 .socket))
      [.request .socketStart, .call (.launching .socket) (some 7),
        .daemon ⟨7, .socket, .starting⟩ .exits, .call (.announcing .socket) none]
      (.idle fun _ => statusDown) true (by decide +kernel)
    rcases found with ⟨state, trace, run, shown⟩
    exact ⟨state, trace, run, of_decide_eq_true shown⟩
  · have found := run_of_replay_view step Fresh
      (fun taken : State × List Write => decide (Settled taken.1 ∧
        taken.1.stored "rs485.mqtt.status" ≠ statusUp ∧ Running taken.1 .mqtt))
      [.request .mqttStart, .call (.launching .mqtt) (some 8),
        .daemon ⟨8, .mqtt, .starting⟩ .goesOn, .call (.announcing .mqtt) none,
        .request .socketStart, .call (.launching .socket) (some 9),
        .daemon ⟨9, .socket, .starting⟩ .goesOn, .call (.announcing .socket) none,
        .daemon ⟨9, .socket, .looping⟩ .goesOn, .daemon ⟨9, .socket, .ended⟩ .goesOn]
      (.idle fun _ => statusDown) true (by decide +kernel)
    rcases found with ⟨state, trace, run, shown⟩
    exact ⟨state, trace, run, of_decide_eq_true shown⟩

end GlRs485.RunningStatus
