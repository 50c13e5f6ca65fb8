import GlRs485.ServingVisits

/-!
# The walks and the queue operations of a pass

The walks over the queue meet its live blocks in order. The expiry walk charges
every connection when none runs out; otherwise it closes the first one that
does and `conn_loop` returns.
-/

namespace GlRs485.HeadPasses

open ConnectionQueue BridgeSettings SocketBridge ServingVisits LinkedChain

set_option autoImplicit false

theorem queue_next_elem_split (q : QueueMem) (front back : List Ptr) (conn after : Ptr)
    (formed : WellFormed q) (split : q.live = front ++ conn :: after :: back) :
      queueNextElem q conn = some after := by
  have linked := formed.linked
  rw [split] at linked
  unfold queueNextElem circularNext
  rw [linked.next_eq]
  rfl

theorem queue_walk_rest (q : QueueMem) (formed : WellFormed q) (front rest : List Ptr)
    (split : q.live = front ++ rest) : queueWalk q rest.length rest.head? = some rest := by
  induction rest generalizing front with
  | nil => rfl
  | cons conn rest ih =>
      have later := ih (front ++ [conn]) (by simpa using split)
      cases rest with
      | nil => rfl
      | cons after back =>
          have steps := queue_next_elem_split q front back conn after formed split
          show (queueWalk q (after :: back).length (queueNextElem q conn)).map (conn :: ·) = _
          rw [steps]
          exact congrArg (Option.map (conn :: ·)) later

theorem queue_walk_live (q : QueueMem) (formed : WellFormed q) :
    queueWalk q q.len q.beg = some q.live := by
  rw [formed.counted, formed.linked.first_eq]
  exact queue_walk_rest q formed [] q.live rfl

def charged (s : State) (toutSec : Nat) (conns : List Ptr) : State :=
  { s with queue := { s.queue with
      heap := fun conn =>
        if conn ∈ conns then chargeConn toutSec (s.queue.heap conn) else s.queue.heap conn } }

theorem charged_conn (s : State) (toutSec : Nat) (conns : List Ptr) (conn : Ptr) :
    (charged s toutSec conns).conn conn =
      if conn ∈ conns then chargeConn toutSec (s.conn conn) else s.conn conn := rfl

theorem charged_next (s : State) (toutSec : Nat) (conns : List Ptr) :
    (charged s toutSec conns).queue.next = s.queue.next := by
  funext conn
  show ((charged s toutSec conns).conn conn).next = (s.conn conn).next
  rw [charged_conn]
  split <;> rfl

theorem charged_prev (s : State) (toutSec : Nat) (conns : List Ptr) :
    (charged s toutSec conns).queue.prev = s.queue.prev := by
  funext conn
  show ((charged s toutSec conns).conn conn).prev = (s.conn conn).prev
  rw [charged_conn]
  split <;> rfl

theorem charged_well_formed (s : State) (toutSec : Nat) (conns : List Ptr)
    (formed : WellFormed s.queue) : WellFormed (charged s toutSec conns).queue :=
  well_formed_of_links (charged_next s toutSec conns) (charged_prev s toutSec conns) rfl rfl rfl rfl
    formed

theorem charged_sd (s : State) (toutSec : Nat) (conns : List Ptr) (conn : Ptr) :
    ((charged s toutSec conns).conn conn).sd = (s.conn conn).sd := by
  rw [charged_conn]
  split <;> rfl

theorem charged_state (s : State) (toutSec : Nat) (conns : List Ptr) (conn : Ptr) :
    ((charged s toutSec conns).conn conn).state = (s.conn conn).state := by
  rw [charged_conn]
  split <;> rfl

theorem charged_buf (s : State) (toutSec : Nat) (conns : List Ptr) (conn : Ptr) :
    ((charged s toutSec conns).conn conn).buf = (s.conn conn).buf := by
  rw [charged_conn]
  split <;> rfl

theorem charged_nil (s : State) (toutSec : Nat) : charged s toutSec [] = s := by
  simp [charged]

theorem charged_cons (s : State) (toutSec : Nat) (conn : Ptr) (rest : List Ptr)
    (fresh : conn ∉ rest) :
      charged (s.update conn (chargeConn toutSec))
        toutSec rest = charged s toutSec (conn :: rest) := by
  have heaps : (charged (s.update conn (chargeConn toutSec)) toutSec rest).queue.heap =
      (charged s toutSec (conn :: rest)).queue.heap := by
    funext other
    by_cases same : other = conn
    · subst same
      simp [charged, State.update, fresh]
    · simp [charged, State.update, same]
  exact congrArg (fun heap => { s with queue := { s.queue with heap := heap } }) heaps

theorem charge_one_frame (s : State) (toutSec : Nat) (conn : Ptr) :
    Frame conn s (s.update conn (chargeConn toutSec)) :=
  update_frame s conn (chargeConn toutSec) (fun _ => rfl) (fun _ => rfl) (fun _ => rfl)

theorem expire_walk_spares (io : HeadAnswers) (toutSec : Nat) (s : State) (front rest : List Ptr)
    (formed : WellFormed s.queue) (split : s.queue.live = front ++ rest)
    (spared : ∀ conn ∈ rest, 0 < (chargeConn toutSec (s.conn conn)).timeout) :
      expireWalk io toutSec rest.length rest.head? s = (charged s toutSec rest, [], false) := by
  induction rest generalizing s front with
  | nil => rw [charged_nil]; rfl
  | cons conn rest ih =>
      have distinct : (front ++ conn :: rest).Nodup := split ▸ formed.linked.distinct
      have fresh : conn ∉ rest := (List.nodup_cons.mp (List.nodup_append.mp distinct).2.1).1
      have frame := charge_one_frame s toutSec conn
      have positive := spared conn (by simp)
      have sparedLater : ∀ other ∈ rest,
          0 < (chargeConn toutSec ((s.update conn (chargeConn toutSec)).conn other)).timeout := by
        intro other member
        rw [frame.others other (fun same => fresh (same ▸ member))]
        exact spared other (by simp [member])
      have later := ih _ (front ++ [conn]) (frame.wellFormed formed)
        (by rw [frame.live, split]; simp) sparedLater
      simp only [List.length_cons, List.head?_cons, expireWalk, update_conn_same]
      rw [if_neg (by omega), ← charged_cons s toutSec conn rest fresh, ← later]
      cases rest with
      | nil => rfl
      | cons after back =>
          rw [queue_next_elem_split _ front back conn after (frame.wellFormed formed)
            (by rw [frame.live, split])]
          rfl

/-- The first connection that runs out is closed, and `conn_loop` returns. -/
theorem expire_walk_purges (io : HeadAnswers) (toutSec : Nat) (s : State)
    (front before after : List Ptr) (conn : Ptr) (formed : WellFormed s.queue)
    (split : s.queue.live = front ++ (before ++ conn :: after))
    (spared : ∀ other ∈ before, 0 < (chargeConn toutSec (s.conn other)).timeout)
    (expired : (chargeConn toutSec (s.conn conn)).timeout ≤ 0)
    (notTty : (s.conn conn).state ≠ .tty) :
      expireWalk io toutSec (before ++ conn :: after).length (before ++ conn :: after).head? s =
        ({ (connClose (charged s toutSec (before ++ [conn])) conn io.scrap).1 with pc := .returned },
          [.closed conn (s.conn conn).sd], true) := by
  induction before generalizing s front with
  | nil =>
      have single := charged_cons s toutSec conn [] (by simp)
      rw [charged_nil] at single
      simp only [List.nil_append, List.length_cons, List.head?_cons, expireWalk, update_conn_same]
      rw [if_pos expired, if_neg (show (chargeConn toutSec (s.conn conn)).state ≠ .tty from notTty),
        ← single, update_conn_same]
      rfl
  | cons entry before ih =>
      have distinct : (front ++ (entry :: before ++ conn :: after)).Nodup :=
        split ▸ formed.linked.distinct
      have fresh : entry ∉ before ++ conn :: after :=
        (List.nodup_cons.mp (List.nodup_append.mp distinct).2.1).1
      have frame := charge_one_frame s toutSec entry
      have positive := spared entry (by simp)
      have apart : conn ≠ entry := fun same => fresh (by simp [same])
      have later := ih (s.update entry (chargeConn toutSec)) (front ++ [entry])
        (frame.wellFormed formed) (by rw [frame.live, split]; simp)
        (by
          intro other member
          rw [frame.others other (fun same => fresh (by simp [← same, member]))]
          exact spared other (by simp [member]))
        (by rw [frame.others conn apart]; exact expired)
        (by rw [frame.others conn apart]; exact notTty)
      simp only [List.cons_append, List.length_cons, List.head?_cons, expireWalk, update_conn_same]
      rw [if_neg (by omega)]
      have freshBefore : entry ∉ before ++ [conn] := by
        intro member
        apply fresh
        simp only [List.mem_append, List.mem_cons] at member ⊢
        tauto
      rw [← charged_cons s toutSec entry _ freshBefore, ← frame.others conn apart, ← later]
      obtain ⟨following, rest, tail⟩ :
          ∃ following rest, before ++ conn :: after = following :: rest := by
        cases before <;> simp
      rw [List.cons_append, tail] at split
      rw [tail, queue_next_elem_split _ front rest entry following (frame.wellFormed formed)
        (by rw [frame.live, split])]
      rfl

/-- `tout_sec` of a pass. -/
def passSec (longBits : Nat) (s : State) (io : HeadAnswers) : Nat :=
  (s.tout + elapsed longBits io.ts io.tts) % 2 ^ longBits / 1000000

/-- The pass takes the timeout of the connection down to nothing. -/
def runsOut (longBits : Nat) (s : State) (io : HeadAnswers) (conn : Ptr) : Bool :=
  decide (s.cfg.conntimeout ≠ 0 ∧ passSec longBits s io ≠ 0 ∧
    (chargeConn (passSec longBits s io) (s.conn conn)).timeout ≤ 0)

/-- The expiry part of a pass: timeouts are charged while nobody runs out;
otherwise one who does is closed and `conn_loop` returns. -/
inductive Expiry (longBits : Nat) (s : State) (io : HeadAnswers) :
    State × List Event × Bool → Prop
  | spared {toutSec tout : Nat} {conns : List Ptr}
      (none : ∀ conn ∈ s.queue.live, runsOut longBits s io conn = false) :
      Expiry longBits s io ({ charged s toutSec conns with tout := tout }, [], false)
  | purged {toutSec tout : Nat} {conns : List Ptr} {conn : Ptr} (listed : conn ∈ s.queue.live)
      (out : runsOut longBits s io conn = true) :
      Expiry longBits s io
        ({ (connClose { charged s toutSec conns with tout := tout } conn io.scrap).1 with
            pc := .returned }, [.closed conn (s.conn conn).sd], true)

/-- With a timeout setting a pass adds up the elapsed time and charges the whole
seconds: nobody, everybody, or up to the first one that runs out. -/
inductive Charging (longBits : Nat) (s : State) (io : HeadAnswers) :
    State × List Event × Bool → Prop
  | early (nothing : passSec longBits s io = 0) :
      Charging longBits s io
        ({ s with tout := (s.tout + elapsed longBits io.ts io.tts) % 2 ^ longBits }, [], false)
  | everybody (late : passSec longBits s io ≠ 0)
      (positive : ∀ conn ∈ s.queue.live,
        0 < (chargeConn (passSec longBits s io) (s.conn conn)).timeout) :
      Charging longBits s io
        ({ charged s (passSec longBits s io) s.queue.live with
            tout := (s.tout + elapsed longBits io.ts io.tts) % 2 ^ longBits % 1000000 }, [], false)
  | purging {tout : Nat} {conns : List Ptr} {conn : Ptr} (late : passSec longBits s io ≠ 0)
      (listed : conn ∈ s.queue.live)
      (expired : (chargeConn (passSec longBits s io) (s.conn conn)).timeout ≤ 0) :
      Charging longBits s io
        ({ (connClose { charged s (passSec longBits s io) conns with tout := tout } conn io.scrap).1
            with pc := .returned }, [.closed conn (s.conn conn).sd], true)

theorem expire_staled_charging (longBits : Nat) (s : State) (io : HeadAnswers)
    (timed : s.cfg.conntimeout ≠ 0) (formed : WellFormed s.queue)
    (notTty : ∀ conn ∈ s.queue.live, (s.conn conn).state ≠ .tty) :
      Charging longBits s io (expireStaled longBits s io) := by
  unfold expireStaled
  rw [if_neg timed]
  dsimp only
  split
  · next early => exact .early early
  · next late =>
      let timedState : State :=
        { s with tout := (s.tout + elapsed longBits io.ts io.tts) % 2 ^ longBits }
      have counted : s.queue.len = s.queue.live.length := formed.counted
      have begins : s.queue.beg = s.queue.live.head? := formed.linked.first_eq
      rw [counted, begins]
      cases found : s.queue.live.find? fun conn =>
          decide ((chargeConn (passSec longBits s io) (s.conn conn)).timeout ≤ 0) with
      | none =>
          have positive : ∀ conn ∈ s.queue.live,
              0 < (chargeConn (passSec longBits s io) (s.conn conn)).timeout := by
            simpa using found
          have walked := expire_walk_spares io (passSec longBits s io) timedState []
            s.queue.live formed rfl positive
          unfold passSec at walked
          rw [walked]
          exact .everybody late positive
      | some conn =>
          obtain ⟨expired, before, after, split, spared⟩ :=
            List.find?_eq_some_iff_append.mp found
          have listed : conn ∈ s.queue.live := List.mem_of_find?_eq_some found
          have positive : ∀ other ∈ before,
              0 < (chargeConn (passSec longBits s io) (s.conn other)).timeout := by
            simpa using spared
          have ranOut : (chargeConn (passSec longBits s io) (s.conn conn)).timeout ≤ 0 := by
            simpa using expired
          have walked := expire_walk_purges io (passSec longBits s io) timedState [] before
            after conn formed split positive ranOut (notTty conn listed)
          unfold passSec at walked
          rw [split, walked]
          exact .purging late listed ranOut

theorem expire_staled_expiry (longBits : Nat) (s : State) (io : HeadAnswers)
    (formed : WellFormed s.queue) (notTty : ∀ conn ∈ s.queue.live, (s.conn conn).state ≠ .tty) :
      Expiry longBits s io (expireStaled longBits s io) := by
  have uncharged : ∀ tout : Nat, ({ charged s 0 [] with tout := tout } : State) =
      { s with tout := tout } := by
    intro tout
    rw [charged_nil]
  by_cases timed : s.cfg.conntimeout = 0
  · have spared : ∀ conn ∈ s.queue.live, runsOut longBits s io conn = false := by
      intro conn _
      simp [runsOut, timed]
    have same : ({ charged s 0 [] with tout := s.tout } : State) = s := uncharged s.tout
    rw [expireStaled, if_pos timed]
    exact same ▸ .spared spared
  · have charging := expire_staled_charging longBits s io timed formed notTty
    generalize expireStaled longBits s io = outcome at charging
    cases charging with
    | early nothing =>
        have spared : ∀ conn ∈ s.queue.live, runsOut longBits s io conn = false := by
          intro conn _
          simp [runsOut, nothing]
        rw [← uncharged]
        exact .spared spared
    | everybody late positive =>
        exact .spared fun conn listed => by simp [runsOut, positive conn listed]
    | purging late listed expired => exact .purged listed (decide_eq_true ⟨timed, late, expired⟩)

structure Closed (s s' : State) (conn : Ptr) : Prop where
  live : s'.queue.live = s.queue.live.erase conn
  formed : WellFormed s'.queue
  others : ∀ other ∈ s.queue.live, other ≠ conn → SameContent (s'.conn other) (s.conn other)
  fds : s'.fds = s.fds.closeAt (s.conn conn).sd

theorem Closed.remaining {s s' : State} {conn other : Ptr} (gone : Closed s s' conn)
    (formed : WellFormed s.queue) (listed : other ∈ s'.queue.live) :
      other ∈ s.queue.live ∧ SameContent (s'.conn other) (s.conn other) := by
  rw [gone.live] at listed
  have before := List.mem_of_mem_erase listed
  have different : other ≠ conn := by
    intro same
    exact formed.linked.distinct.not_mem_erase (same ▸ listed)
  exact ⟨before, gone.others other before different⟩

theorem conn_close_closed (s : State) (conn : Ptr) (scrap : Conn) (formed : WellFormed s.queue)
    (listed : conn ∈ s.queue.live) : Closed s (connClose s conn scrap).1 conn := by
  obtain ⟨front, back, split⟩ := List.append_of_mem listed
  refine ⟨?_, queue_delete_elem_well_formed s.queue front back conn scrap formed split, ?_, rfl⟩
  · have distinct := formed.linked.distinct
    rw [split] at distinct
    rw [split, erase_middle distinct]
    exact queue_delete_elem_live s.queue front back conn scrap formed split
  · intro other _ different
    exact queue_delete_elem_content s.queue conn scrap other different

/-- `conn_close` answers a block that is still queued, except after the last one. -/
theorem conn_close_next (s : State) (conn : Ptr) (scrap : Conn) (formed : WellFormed s.queue)
    (listed : conn ∈ s.queue.live) :
      ∃ nextconn, (connClose s conn scrap).2 = some nextconn ∧
        (nextconn ∈ s.queue.live.erase conn ∨ s.queue.live = [conn] ∧ nextconn = conn) := by
  obtain ⟨front, back, split⟩ := List.append_of_mem listed
  have linked := formed.linked
  rw [split] at linked
  have erased : s.queue.live.erase conn = front ++ back := by
    rw [split, erase_middle linked.distinct]
  have successor : (connClose s conn scrap).2 = queueNextElem s.queue conn := rfl
  rw [erased, successor]
  unfold queueNextElem circularNext
  rw [linked.next_eq, linked.first_eq]
  cases back with
  | nil =>
      cases front with
      | nil => exact ⟨conn, rfl, Or.inr ⟨split, rfl⟩⟩
      | cons entry front => exact ⟨entry, rfl, Or.inl (by simp)⟩
  | cons after back => exact ⟨after, rfl, Or.inl (by simp)⟩

structure Opened (s s' : State) (conn : Ptr) (sd : Int) : Prop where
  fresh : conn ∉ s.queue.live
  live : s'.queue.live = s.queue.live ++ [conn]
  formed : WellFormed s'.queue
  others : ∀ other ∈ s.queue.live, SameContent (s'.conn other) (s.conn other)
  sd : (s'.conn conn).sd = sd
  state : (s'.conn conn).state = .header
  timeout : (s'.conn conn).timeout = s.cfg.conntimeout

theorem enqueue_opened (s : State) (conn : Ptr) (sd : Int) (formed : WellFormed s.queue)
    (fresh : conn ∉ s.queue.live) :
      Opened s (enqueue s sd (some conn)).1 conn sd := by
  let added : State := { s with queue := queueNewElem s.queue conn }
  let addressed : State := added.update conn fun c => { c with sd := sd }
  have queued : Frame conn addressed (stateConnSet addressed conn .header) :=
    update_frame addressed conn
      (fun c => { c with state := .header, timeout := addressed.cfg.conntimeout })
      (fun _ => rfl) (fun _ => rfl) (fun _ => rfl)
  have next : addressed.queue.next = added.queue.next := by
    funext other
    by_cases same : other = conn
    · subst same
      simp [addressed, added, State.update, QueueMem.next]
    · simp [addressed, added, State.update, QueueMem.next, same]
  have prev : addressed.queue.prev = added.queue.prev := by
    funext other
    by_cases same : other = conn
    · subst same
      simp [addressed, added, State.update, QueueMem.prev]
    · simp [addressed, added, State.update, QueueMem.prev, same]
  have addedFormed : WellFormed added.queue := queue_new_elem_well_formed s.queue conn formed fresh
  refine ⟨fresh, queue_new_elem_live s.queue conn,
    queued.wellFormed (well_formed_of_links next prev rfl rfl rfl rfl addedFormed), ?_, ?_, ?_, ?_⟩
  · intro other listed
    have different : other ≠ conn := fun same => fresh (same ▸ listed)
    have kept := queue_new_elem_content s.queue conn other
    show SameContent ((stateConnSet addressed conn .header).conn other) _
    rw [queued.others other different, update_conn_other _ _ _ _ different]
    exact kept
  · exact queued.sd.trans (congrArg Conn.sd (update_conn_same added conn _))
  · exact congrArg Conn.state (update_conn_same addressed conn _)
  · exact congrArg Conn.timeout (update_conn_same addressed conn _)

inductive Opening (s : State) (io : OpenAnswers) : State → List Event → Prop
  | nothing : Opening s io s []
  | refused {sd : Int} (tcps : s.cfg.isTcps = true) (answer : io.sd = some sd) :
      Opening s io { s with fds := (s.fds.openAt sd .client).closeAt sd }
        [.accepted sd, .dropped sd]
  | leaked {sd : Int} (tcps : s.cfg.isTcps = true) (answer : io.sd = some sd) :
      Opening s io { s with fds := s.fds.openAt sd .client } [.accepted sd]
  | exited {sd : Int} (tcps : s.cfg.isTcps = true) (answer : io.sd = some sd) :
      Opening s io { s with fds := s.fds.openAt sd .client, pc := .exited } [.accepted sd]
  | opened {sd : Int} {conn : Ptr} (tcps : s.cfg.isTcps = true) (answer : io.sd = some sd)
      (block : io.block = some conn) (small : sd < fdSetsize)
      (room : (s.queue.len : Int) ≠ s.cfg.maxconn) :
      Opening s io (enqueue { s with fds := s.fds.openAt sd .client } sd (some conn)).1
        [.accepted sd, .opened conn sd]
  | unattached (once : s.oneTime = true) :
      Opening s io { s with oneTime := false, pc := .exited } []
  | attached {conn : Ptr} (once : s.oneTime = true) (block : io.block = some conn) :
      Opening s io (enqueue { s with oneTime := false } s.serverSd (some conn)).1
        [.opened conn s.serverSd]

theorem conn_open_opening (s : State) (io : OpenAnswers) :
    Opening s io (connOpen s io).1 (connOpen s io).2 := by
  unfold connOpen
  split
  · next tcps =>
      cases answer : io.sd with
      | none => exact .nothing
      | some sd =>
          dsimp only
          split
          · exact .refused tcps answer
          · split
            · exact .leaked tcps answer
            · split
              · exact .refused tcps answer
              · next small =>
                  split
                  · exact .refused tcps answer
                  · next room =>
                      cases block : io.block with
                      | none => exact .exited tcps answer
                      | some conn => exact .opened tcps answer block (by omega) room
  · split
    · next once =>
        cases block : io.block with
        | none => exact .unattached once
        | some conn => exact .attached once block
    · exact .nothing

theorem accept_pending_opening (s : State) (io : OpenAnswers) :
    Opening s io (acceptPending s io).1 (acceptPending s io).2 := by
  unfold acceptPending
  split
  · exact conn_open_opening s io
  · exact .nothing

inductive Passing (longBits : Nat) (s : State) (io : HeadAnswers) (rc : Nat) :
    State → List Event → Prop
  | spared {toutSec tout : Nat} {conns : List Ptr} {s' : State} {events : List Event}
      (none : ∀ conn ∈ s.queue.live, runsOut longBits s io conn = false)
      (opening : Opening { charged s toutSec conns with tout := tout } io.opening s' events) :
      Passing longBits s io rc (startServing s' rc) events
  | purged {toutSec tout : Nat} {conns : List Ptr} {conn : Ptr} (listed : conn ∈ s.queue.live)
      (out : runsOut longBits s io conn = true) :
      Passing longBits s io rc
        { (connClose { charged s toutSec conns with tout := tout } conn io.scrap).1 with
          pc := .returned } [.closed conn (s.conn conn).sd]

theorem pass_after_select_passing (longBits : Nat) (s : State) (io : HeadAnswers) (rc : Nat)
    (formed : WellFormed s.queue) (notTty : ∀ conn ∈ s.queue.live, (s.conn conn).state ≠ .tty) :
      Passing longBits s io rc (passAfterSelect longBits s io rc).1
        (passAfterSelect longBits s io rc).2 := by
  have expiry := expire_staled_expiry longBits s io formed notTty
  unfold passAfterSelect
  generalize expireStaled longBits s io = expired at expiry
  cases expiry with
  | spared none => exact .spared none (accept_pending_opening _ io.opening)
  | purged listed out => exact .purged listed out

theorem head_step_ready (longBits : Nat) (s : State) (io : HeadAnswers)
    (readable writable : Int → Bool) (formed : WellFormed s.queue)
    (selected : io.select = .ready readable writable) :
      ∃ nfds askedRd askedWr tvSec rd wr rc, headStep longBits s io =
        ((passAfterSelect longBits { s with sdsetrd := rd, sdsetwr := wr } io rc).1,
          .selected nfds askedRd askedWr tvSec ::
            (passAfterSelect longBits { s with sdsetrd := rd, sdsetwr := wr } io rc).2) := by
  unfold headStep
  rw [queue_walk_live s.queue formed]
  simp only [selected]
  exact ⟨_, _, _, _, _, _, _, rfl⟩

end GlRs485.HeadPasses
