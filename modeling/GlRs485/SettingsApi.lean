import GlRs485.Configuration
import GlRs485.Foundation.KeyedWrites
import GlRs485.RegisterApi
import GlRs485.RunningStatus

/-!
# The calls that read and change the settings

The get and set calls of the three sections of the package and the two status calls. A get
call reads each key into a local array, so a value that does not fit its array gives no
result, as in `cfg_init`. A set call commits what the request holds, whatever it is.
-/

namespace GlRs485.SettingsApi

open CBytes GlRs485.Configuration RegisterApi KeyedWrites RunningStatus

set_option autoImplicit false

/-- A text of a section: its name in requests and answers, its key in the store and the size
of the array that a get call reads it into. -/
structure Entry where
  name : String
  key : String
  size : Nat
  deriving DecidableEq

inductive Section
  | rs485
  | socket
  | mqtt
  deriving DecidableEq

/-- In the order of the answers. -/
def Section.entries : Section → List Entry
  | .rs485 =>
      [⟨"device", "rs485.rs485.device", intbufsize + 1⟩, ⟨"speed", "rs485.rs485.speed", 8⟩,
        ⟨"mode", "rs485.rs485.mode", 8⟩, ⟨"timeout", "rs485.rs485.timeout", 8⟩,
        ⟨"type", "rs485.rs485.type", 8⟩]
  | .socket =>
      [⟨"address", "rs485.socket.address", intbufsize + 1⟩, ⟨"port", "rs485.socket.port", 8⟩,
        ⟨"mode", "rs485.socket.mode", 8⟩, ⟨"timeout", "rs485.socket.timeout", 8⟩]
  | .mqtt =>
      [⟨"port", "rs485.mqtt.port", 8⟩, ⟨"address", "rs485.mqtt.address", intbufsize + 1⟩,
        ⟨"timeout", "rs485.mqtt.timeout", 8⟩, ⟨"interval", "rs485.mqtt.interval", 8⟩,
        ⟨"username", "rs485.mqtt.username", intbufsize + 1⟩,
        ⟨"password", "rs485.mqtt.password", intbufsize + 1⟩, ⟨"qos", "rs485.mqtt.qos", 8⟩,
        ⟨"clientid", "rs485.mqtt.clientid", intbufsize + 1⟩,
        ⟨"publish", "rs485.mqtt.publish", intbufsize + 1⟩,
        ⟨"subscribe", "rs485.mqtt.subscribe", intbufsize + 1⟩,
        ⟨"autoconn", "rs485.mqtt.autoconn", 8⟩,
        ⟨"autoconninteval", "rs485.mqtt.autoconninteval", 8⟩,
        ⟨"autoconnmaxtime", "rs485.mqtt.autoconnmaxtime", 8⟩]

/-- The texts `gjson_get_string` finds in a request. -/
structure Request where
  text : String → List Byte
  terminated : ∀ name, (0 : Byte) ∉ text name

def getTexts (uci : UciStore) (entries : List Entry) : Option (List JsonLeaf) :=
  if ∀ entry ∈ entries, (uci.value entry.key).length < entry.size then
    some (entries.map fun entry => .string entry.name (uci.value entry.key))
  else none

def getConfig (uci : UciStore) (group : String) (entries : List Entry) :
    Option (List JsonField) :=
  (getTexts uci entries).map fun texts => [.object group texts]

def getRs485Attr (uci : UciStore) : Option (List JsonField) :=
  getConfig uci "rs485_config" Section.rs485.entries

def getSocketConfig (uci : UciStore) : Option (List JsonField) :=
  getConfig uci "rs485_socket_config" Section.socket.entries

def getMqttConfig (uci : UciStore) : Option (List JsonField) :=
  getConfig uci "rs485_mqtt_config" Section.mqtt.entries

def getStatus (uci : UciStore) (name key : String) : Option (List JsonField) :=
  (getTexts uci [⟨name, key, 16⟩]).map fun texts => texts.map .leaf

def getRs485SocketStatus (uci : UciStore) : Option (List JsonField) :=
  getStatus uci "rs485_socket_status" "rs485.socket.status"

def getRs485MqttStatus (uci : UciStore) : Option (List JsonField) :=
  getStatus uci "rs485_mqtt_status" "rs485.mqtt.status"

/-- What `guci2_set` puts down for each text, in this order. -/
def requestWrites (request : Request) (entries : List Entry) : List Write :=
  entries.map fun entry => (entry.key, request.text entry.name)

def setRs485Attr (request : Request) : List Write := requestWrites request Section.rs485.entries

/-- The section is written from its last text on. -/
def setSocketConfig (request : Request) : List Write :=
  requestWrites request Section.socket.entries.reverse

def setMqttConfig (request : Request) : List Write := requestWrites request Section.mqtt.entries

/-- What the calls and the daemons commit: a section, the key of a bridge that starts, or both
keys when one stops. -/
inductive Commit
  | set (part : Section) (request : Request)
  | started (bridge : Bridge)
  | stopped

def Commit.writes : Commit → List Write
  | .set .rs485 request => setRs485Attr request
  | .set .socket request => setSocketConfig request
  | .set .mqtt request => setMqttConfig request
  | .started bridge => upWrites bridge
  | .stopped => downWrites

theorem commit_terminated (commit : Commit) (write : Write) (member : write ∈ commit.writes) :
    (0 : Byte) ∉ write.2 := by
  have requested : ∀ request entries, write ∈ requestWrites request entries →
      (0 : Byte) ∉ write.2 := by
    rintro request entries member
    obtain ⟨entry, _, rfl⟩ := List.mem_map.mp member
    exact request.terminated entry.name
  cases commit with
  | set part request =>
      cases part with
      | rs485 => exact requested request _ member
      | socket => exact requested request _ member
      | mqtt => exact requested request _ member
  | started bridge =>
      rw [List.mem_singleton.mp member]
      exact show (0 : Byte) ∉ statusUp by decide +kernel
  | stopped =>
      rcases List.mem_pair.mp member with rfl | rfl <;> decide +kernel

def Commit.apply (commit : Commit) (uci : UciStore) : UciStore where
  value := guci2Commit uci.value commit.writes
  terminated :=
    write_all_keeps (fun text => (0 : Byte) ∉ text) uci.value commit.writes uci.terminated
      (commit_terminated commit)

def storeAfter (uci : UciStore) (commits : List Commit) : UciStore :=
  commits.foldl (fun uci commit => commit.apply uci) uci

theorem store_after_snoc (uci : UciStore) (commits : List Commit) (commit : Commit) :
    storeAfter uci (commits ++ [commit]) = commit.apply (storeAfter uci commits) :=
  List.foldl_append ..

/-! ## What a commit leaves -/

theorem entries_apart (part : Section) : (part.entries.map Entry.key).Nodup := by
  cases part <;> decide +kernel

theorem sections_apart (first second : Section) (different : first ≠ second) (entry : Entry)
    (member : entry ∈ first.entries) : entry.key ∉ second.entries.map Entry.key := by
  have table : ∀ first second : Section, first ≠ second → ∀ entry ∈ first.entries,
      entry.key ∉ second.entries.map Entry.key := by
    intro first second
    cases first <;> cases second <;> decide +kernel
  exact table first second different entry member

theorem status_apart (part : Section) (bridge : Bridge) :
    bridge.key ∉ part.entries.map Entry.key := by
  cases part <;> cases bridge <;> decide +kernel

theorem request_writes_keys (request : Request) (entries : List Entry) :
    (requestWrites request entries).map Prod.fst = entries.map Entry.key := by
  rw [requestWrites, List.map_map]
  rfl

theorem set_writes_perm (part : Section) (request : Request) :
    (Commit.set part request).writes.Perm (requestWrites request part.entries) := by
  cases part with
  | socket =>
      rw [Commit.writes, setSocketConfig, requestWrites, List.map_reverse]
      exact List.reverse_perm _
  | rs485 => exact List.Perm.refl _
  | mqtt => exact List.Perm.refl _

theorem set_own (part : Section) (request : Request) (uci : UciStore) {entry : Entry}
    (member : entry ∈ part.entries) :
      ((Commit.set part request).apply uci).value entry.key = request.text entry.name := by
  have perm := set_writes_perm part request
  have apart : ((Commit.set part request).writes.map Prod.fst).Nodup := by
    rw [(perm.map Prod.fst).nodup_iff, request_writes_keys]
    exact entries_apart part
  have written : (entry.key, request.text entry.name) ∈ (Commit.set part request).writes :=
    perm.mem_iff.mpr (List.mem_map.mpr ⟨entry, member, rfl⟩)
  exact write_all_written uci.value _ apart written

theorem set_elsewhere (part : Section) (request : Request) (uci : UciStore) {key : String}
    (other : key ∉ part.entries.map Entry.key) :
      ((Commit.set part request).apply uci).value key = uci.value key := by
  apply write_all_other
  rw [((set_writes_perm part request).map Prod.fst).mem_iff, request_writes_keys]
  exact other

theorem status_elsewhere (commit : Commit) (status : ∀ part request, commit ≠ .set part request)
    (uci : UciStore) {key : String} (other : ∀ bridge : Bridge, key ≠ bridge.key) :
      (commit.apply uci).value key = uci.value key := by
  apply write_all_other
  cases commit with
  | set part request => exact absurd rfl (status part request)
  | started bridge => simpa [Commit.writes, upWrites] using other bridge
  | stopped => simpa [Commit.writes, downWrites] using ⟨other .socket, other .mqtt⟩

/-! ## The last request counts -/

def noteRequest (part : Section) (last : Option Request) : Commit → Option Request
  | .set other request => if other = part then some request else last
  | _ => last

def lastRequest (part : Section) (commits : List Commit) : Option Request :=
  commits.foldl (noteRequest part) none

theorem last_request_snoc (part : Section) (commits : List Commit) (commit : Commit) :
    lastRequest part (commits ++ [commit]) = noteRequest part (lastRequest part commits) commit :=
  List.foldl_append ..

/-- Whatever is committed in between, a section holds what it was last set to. -/
theorem stored_text (uci : UciStore) (commits : List Commit) {part : Section} {entry : Entry}
    (member : entry ∈ part.entries) :
      (storeAfter uci commits).value entry.key =
        match lastRequest part commits with
        | some request => request.text entry.name
        | none => uci.value entry.key := by
  induction commits using List.reverseRecOn with
  | nil => rfl
  | append_singleton commits commit ih =>
      rw [store_after_snoc, last_request_snoc]
      have foreign : ∀ bridge : Bridge, entry.key ≠ bridge.key := by
        intro bridge same
        exact status_apart part bridge (same ▸ List.mem_map_of_mem member)
      cases commit with
      | set other request =>
          by_cases own : other = part
          · subst own
            rw [set_own other request _ member]
            simp [noteRequest]
          · have apart := sections_apart part other (Ne.symm own) entry member
            rw [set_elsewhere other request _ apart, ih]
            simp [noteRequest, own]
      | started bridge => rw [status_elsewhere _ (by simp) _ foreign, ih]; rfl
      | stopped => rw [status_elsewhere _ (by simp) _ foreign, ih]; rfl

end GlRs485.SettingsApi
