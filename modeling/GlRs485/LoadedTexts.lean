import GlRs485.StoredSettings

/-!
# The texts that `cfg_init` loads

Every text but two fits the array it is copied to. The device name may be four
times as long as its array, and the address of the broker is put together from
two texts; what does not fit is overwritten by the copy to the array behind it.
-/

namespace GlRs485.LoadedTexts

open CBytes GlRs485.Configuration StoredSettings

set_option autoImplicit false

@[simp] theorem offset_mqttaddr : TextField.mqttaddr.offset = 1691 := rfl

@[simp] theorem offset_mqttusername : TextField.mqttusername.offset = 2204 := rfl

@[simp] theorem offset_mqttpassword : TextField.mqttpassword.offset = 2717 := rfl

@[simp] theorem offset_mqttsubscribe : TextField.mqttsubscribe.offset = 3230 := rfl

@[simp] theorem offset_mqttpublish : TextField.mqttpublish.offset = 3743 := rfl

@[simp] theorem offset_mqttclientid : TextField.mqttclientid.offset = 4256 := rfl

/-- The address of the broker without its terminator. -/
def brokerAddress (uci : UciStore) : List Byte :=
  ascii "tcp://" ++ uci.value "rs485.mqtt.address" ++ ascii ":" ++ uci.value "rs485.mqtt.port"

theorem mqttUrl_eq (uci : UciStore) : mqttUrl uci = brokerAddress uci ++ [0] := rfl

/-- The text the store means for an array; `trxcntl_file` has none. -/
def storedText (uci : UciStore) : TextField → Option (List Byte)
  | .ttytype => some (uci.value "rs485.rs485.type")
  | .ttymode => some (uci.value "rs485.rs485.mode")
  | .connmode => some (uci.value "rs485.socket.mode")
  | .ttyport => some (uci.value "rs485.rs485.device")
  | .logname => some logName
  | .trxcntlFile => none
  | .serveraddr => some (uci.value "rs485.socket.address")
  | .mqttaddr => some (brokerAddress uci)
  | .mqttusername => some (uci.value "rs485.mqtt.username")
  | .mqttpassword => some (uci.value "rs485.mqtt.password")
  | .mqttsubscribe => some (uci.value "rs485.mqtt.subscribe")
  | .mqttpublish => some (uci.value "rs485.mqtt.publish")
  | .mqttclientid => some (uci.value "rs485.mqtt.clientid")

def LoadsTexts (uci : UciStore) (cfg : CfgT) : Prop :=
  ∀ field, ∀ text ∈ storedText uci field, cfg.string field = text

/-- An address that its array holds, or that goes on as the user name. -/
def AddressFits (uci : UciStore) : Prop :=
  (brokerAddress uci).length < TextField.mqttaddr.size ∨
    (brokerAddress uci).drop TextField.mqttaddr.size = uci.value "rs485.mqtt.username"

theorem load_texts_address (uci : UciStore) (cfg : CfgT) (index : Nat)
    (stored : index ≤ (brokerAddress uci).length) (inside : index < 513) :
      (loadTexts uci cfg).text (1691 + index) = ofBytes (brokerAddress uci) index := by
  have behind : ∀ (cfg : CfgT) (field : TextField) (key : String) (count : Nat),
      2204 ≤ field.offset → (cfg.copy field (guci2Get uci key) count).text (1691 + index) =
        cfg.text (1691 + index) := by
    intro cfg field key count far
    exact change_before cfg field _ _ (by omega)
  have size : (mqttUrl uci).length = (brokerAddress uci).length + 1 := by
    rw [mqttUrl_eq, List.length_append, List.length_singleton]
  unfold loadTexts
  dsimp only
  rw [behind _ .mqttsubscribe _ _ (by decide), behind _ .mqttpublish _ _ (by decide),
    behind _ .mqttclientid _ _ (by decide), behind _ .mqttpassword _ _ (by decide),
    behind _ .mqttusername _ _ (by decide), change_from _ _ _ _ (by rw [offset_mqttaddr]; omega),
    offset_mqttaddr, Nat.add_sub_cancel_left, store, if_pos (by omega), Nat.sub_zero, mqttUrl_eq]
  by_cases last : index = (brokerAddress uci).length
  · rw [List.getD_append_right _ _ _ _ (by omega), ofBytes_beyond _ _ (by omega), last,
      Nat.sub_self]
    rfl
  · rw [List.getD_append _ _ _ _ (by omega)]
    rfl

def mqttCopies : List (TextField × String) :=
  [(.mqttusername, "rs485.mqtt.username"), (.mqttpassword, "rs485.mqtt.password"),
    (.mqttsubscribe, "rs485.mqtt.subscribe"), (.mqttpublish, "rs485.mqtt.publish"),
    (.mqttclientid, "rs485.mqtt.clientid")]

theorem load_texts_copies (uci : UciStore) (cfg : CfgT) (entry : TextField × String)
    (copied : entry ∈ mqttCopies) (index : Nat) (inside : index < 513) :
      (loadTexts uci cfg).text (entry.1.offset + index) =
        ofBytes (uci.value entry.2) index := by
  simp only [mqttCopies, List.mem_cons, List.not_mem_nil, or_false] at copied
  unfold loadTexts
  rcases copied with rfl | rfl | rfl | rfl | rfl <;>
    simp only [guci2Get, copy_text _ _ _ _ _ (uci.terminated _), offset_mqttusername,
      offset_mqttpassword, offset_mqttsubscribe, offset_mqttpublish, offset_mqttclientid,
      intbufsize] <;>
    grind

theorem load_texts_copied_string (uci : UciStore) (cfg : CfgT) (entry : TextField × String)
    (copied : entry ∈ mqttCopies) (short : (uci.value entry.2).length < 513) :
      (loadTexts uci cfg).string entry.1 = uci.value entry.2 := by
  have behind : ∀ entry ∈ mqttCopies, entry.1.offset + 513 ≤ textSize := by decide
  have room := behind entry copied
  apply string_terminated _ _ _ (uci.terminated _) (by omega)
  intro index bound
  exact load_texts_copies uci cfg entry copied index (by omega)

/-- A user name that follows the address in memory ends it. -/
def loadedAddress (uci : UciStore) : List Byte :=
  if (brokerAddress uci).length < TextField.mqttaddr.size then brokerAddress uci
  else (brokerAddress uci).take TextField.mqttaddr.size ++ uci.value "rs485.mqtt.username"

theorem broker_address_terminated (uci : UciStore) : (0 : Byte) ∉ brokerAddress uci := by
  have scheme : (0 : Byte) ∉ ascii "tcp://" := by decide +kernel
  have colon : (0 : Byte) ∉ ascii ":" := by decide +kernel
  simp [brokerAddress, scheme, colon, uci.terminated]

theorem load_texts_broker (uci : UciStore) (cfg : CfgT) (fits : FitsLocals uci) :
    (loadTexts uci cfg).string .mqttaddr = loadedAddress uci := by
  have username := fits ("rs485.mqtt.username", intbufsize + 1) (by simp [localArrays])
  have terminated := broker_address_terminated uci
  have address := load_texts_address uci cfg
  have user := load_texts_copies uci cfg (.mqttusername, "rs485.mqtt.username")
    (by simp [mqttCopies])
  have memory : textSize = 4769 := rfl
  have full : TextField.mqttaddr.size = 513 := rfl
  simp only [intbufsize] at username
  unfold loadedAddress
  rw [full]
  by_cases inside : (brokerAddress uci).length < 513
  · rw [if_pos inside]
    apply string_terminated _ _ _ terminated (by rw [offset_mqttaddr]; omega)
    intro index bound
    rw [offset_mqttaddr]
    exact address index bound (by omega)
  · rw [if_neg inside]
    have cut : ((brokerAddress uci).take 513).length = 513 := by
      rw [List.length_take]
      omega
    apply string_terminated
    · rw [List.mem_append, not_or]
      exact ⟨fun nul => terminated (List.mem_of_mem_take nul), uci.terminated _⟩
    · rw [offset_mqttaddr, List.length_append, cut]
      omega
    · intro index bound
      rw [List.length_append, cut] at bound
      rw [offset_mqttaddr, ofBytes_append, cut]
      by_cases own : index < 513
      · rw [if_pos own, address index (by omega) own, ofBytes_getElem _ _ (by omega),
          ofBytes_getElem _ _ (by omega), List.getElem_take]
      · have shifted : 1691 + index = 2204 + (index - 513) := by omega
        rw [if_neg own, shifted]
        exact user (index - 513) (by omega)

theorem loaded_address_iff (uci : UciStore) :
    loadedAddress uci = brokerAddress uci ↔ AddressFits uci :=
  overrun_eq_iff (brokerAddress uci) (uci.value "rs485.mqtt.username") TextField.mqttaddr.size

theorem load_texts_type (uci : UciStore) (cfg : CfgT) (fits : FitsLocals uci) :
    (loadTexts uci cfg).string .ttytype = uci.value "rs485.rs485.type" := by
  have short := fits ("rs485.rs485.type", 8) (by simp [localArrays])
  have memory : textSize = 4769 := rfl
  dsimp only at short
  apply string_terminated _ _ _ (uci.terminated _) (by rw [offset_ttytype]; omega)
  intro index bound
  rw [offset_ttytype, Nat.zero_add, load_texts_text _ _ _ (by rw [offset_mqttaddr]; omega),
    if_pos (by omega)]

/-- The device name may run over the log file name, which is copied after it. -/
theorem load_texts_log (uci : UciStore) (cfg : CfgT) :
    (loadTexts uci cfg).string .logname = logName := by
  have length : logName.length = 9 := rfl
  apply string_terminated _ _ _ (by decide +kernel) (by decide +kernel)
  intro index bound
  rw [offset_logname, load_texts_text _ _ _ (by rw [offset_mqttaddr]; omega), if_neg (by omega),
    if_neg (by omega), if_neg (by omega), if_neg (by omega), if_pos (by omega),
    Nat.add_sub_cancel_left]

/-- Where the text that is read at an array is the text of the store. -/
theorem loaded_text_iff (uci : UciStore) (cfg : CfgT) (fits : FitsLocals uci) (field : TextField) :
    (∀ text ∈ storedText uci field, (loadTexts uci cfg).string field = text) ↔
      (field = .ttyport → DeviceFits uci) ∧ (field = .mqttaddr → AddressFits uci) := by
  obtain ⟨mode, connmode, address⟩ := load_texts_strings uci cfg fits
  have copied : ∀ entry ∈ mqttCopies, (loadTexts uci cfg).string entry.1 = uci.value entry.2 := by
    intro entry member
    have short : ∀ entry ∈ mqttCopies, (entry.2, intbufsize + 1) ∈ localArrays := by decide
    exact load_texts_copied_string uci cfg entry member (fits _ (short entry member))
  cases field with
  | ttyport =>
      simp [storedText, load_texts_device uci cfg fits, loaded_device_iff]
  | mqttaddr => simp [storedText, load_texts_broker uci cfg fits, loaded_address_iff]
  | ttytype => simp [storedText, load_texts_type uci cfg fits]
  | ttymode => simp [storedText, mode]
  | connmode => simp [storedText, connmode]
  | logname => simp [storedText, load_texts_log]
  | trxcntlFile => simp [storedText]
  | serveraddr => simp [storedText, address]
  | mqttusername =>
      simp [storedText, copied (.mqttusername, "rs485.mqtt.username") (by simp [mqttCopies])]
  | mqttpassword =>
      simp [storedText, copied (.mqttpassword, "rs485.mqtt.password") (by simp [mqttCopies])]
  | mqttsubscribe =>
      simp [storedText, copied (.mqttsubscribe, "rs485.mqtt.subscribe") (by simp [mqttCopies])]
  | mqttpublish =>
      simp [storedText, copied (.mqttpublish, "rs485.mqtt.publish") (by simp [mqttCopies])]
  | mqttclientid =>
      simp [storedText, copied (.mqttclientid, "rs485.mqtt.clientid") (by simp [mqttCopies])]

theorem loads_texts_iff (uci : UciStore) (cfg : CfgT) (fits : FitsLocals uci) :
    LoadsTexts uci (loadNumbers uci (loadTexts uci cfg)) ↔ DeviceFits uci ∧ AddressFits uci := by
  simp only [LoadsTexts, load_numbers_string, loaded_text_iff uci cfg fits]
  constructor
  · intro all
    exact ⟨(all .ttyport).1 rfl, (all .mqttaddr).2 rfl⟩
  · rintro ⟨device, address⟩ field
    exact ⟨fun _ => device, fun _ => address⟩

/-- Whatever was in `cfg` before, all texts of the store are loaded exactly when
the device name and the address of the broker fit their arrays. -/
theorem cfg_init_loads_texts_iff {uci : UciStore} {cfg loaded : CfgT}
    (init : cfgInit uci cfg = some loaded) :
      LoadsTexts uci loaded ↔ DeviceFits uci ∧ AddressFits uci := by
  unfold cfgInit at init
  split at init
  · next fits =>
      rw [← Option.some.inj init]
      exact loads_texts_iff uci cfg fits
  · simp at init

theorem cfg_init_loads_texts_iff_documented :
    ∃ loaded, cfgInit documentedStore zeroed = some loaded ∧ LoadsTexts documentedStore loaded := by
  have init : cfgInit documentedStore zeroed = _ := if_pos (by decide +kernel)
  exact ⟨_, init, (cfg_init_loads_texts_iff init).mpr
    ⟨Or.inl (by decide +kernel), Or.inl (by decide +kernel)⟩⟩

def longNames : UciStore where
  value key :=
    if key = "rs485.rs485.device" then List.replicate 128 97
    else if key = "rs485.mqtt.address" then List.replicate 507 97
    else []
  terminated key := by
    split_ifs
    · exact fun nul => absurd (List.eq_of_mem_replicate nul) (by decide)
    · exact fun nul => absurd (List.eq_of_mem_replicate nul) (by decide)
    · exact List.not_mem_nil

theorem long_names_read_on :
    ∃ loaded, cfgInit longNames zeroed = some loaded ∧
      loaded.string .ttyport = List.replicate 128 97 ++ logName ∧
      (loaded.string .mqttaddr).length = 513 ∧ ¬LoadsTexts longNames loaded := by
  have fits : FitsLocals longNames := by decide +kernel
  have device := load_texts_device longNames zeroed fits
  have address := load_texts_broker longNames zeroed fits
  refine ⟨_, if_pos fits, device.trans (by decide +kernel), ?_, ?_⟩
  · exact (congrArg List.length address).trans (by decide +kernel)
  · intro texts
    rcases ((loads_texts_iff longNames zeroed fits).mp texts).1 with short | same
    · exact absurd short (by decide +kernel)
    · exact absurd same (by decide +kernel)

end GlRs485.LoadedTexts
