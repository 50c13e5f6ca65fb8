import GlRs485.CommandLine
import GlRs485.Foundation.Overlay

/-!
# What an option changes

Every text option copies `INTBUFSIZE` bytes to its array, whatever the size of the
array. The zeros behind the text go on into the arrays behind a short one: those
of `-m` up to the log file name, those of `-p` into the log file name.
-/

namespace GlRs485.OwnSettings

open CBytes CIntegers GlRs485.Configuration CommandLine Overlay

set_option autoImplicit false

inductive Field
  | number (field : NumberField)
  | text (field : TextField)
  deriving DecidableEq

def fieldOf : Letter → Field
  | .v => .number .dbglvl
  | .L => .text .logname
  | .p => .text .ttyport
  | .s => .number .ttyspeed
  | .m => .text .ttymode
  | .A => .text .serveraddr
  | .P => .number .serverport
  | .C => .number .maxconn
  | .T => .number .conntimeout
  | .M => .text .connmode

def storedText (opt : Opt) : List Byte :=
  let optarg := opt.optarg
  match opt.letter with
  | .L =>
      if optarg.head? ≠ some slash then
        if optarg.head? = some dash then [] else logPath ++ optarg
      else optarg
  | .p => if optarg.head? ≠ some slash then devPath ++ optarg else optarg
  | _ => optarg

def Fits (opt : Opt) : Prop :=
  match fieldOf opt.letter with
  | .text field => (storedText opt).length < field.size
  | .number _ => True

def Unnamed (options : List Opt) (field : Field) : Prop :=
  ∀ opt ∈ options, fieldOf opt.letter ≠ field

/-- All fields that no option names are as before. -/
structure ChangesOwnSettings (options : List Opt) (cfg result : CfgT) : Prop where
  numbers : ∀ field, Unnamed options (.number field) → result.numbers field = cfg.numbers field
  texts : ∀ field, Unnamed options (.text field) → ∀ index < field.size,
    result.pointer field index = cfg.pointer field index

/-- The bytes behind the array of an option to which its copy goes on. -/
def InPadding (letter : Letter) (place : Nat) : Prop :=
  ∃ field, fieldOf letter = .text field ∧ field.offset + field.size ≤ place ∧
    place < field.offset + intbufsize

/-- There is nothing to lose behind the arrays of the options. -/
def PaddingClear (options : List Opt) (cfg : CfgT) : Prop :=
  ∀ field, Unnamed options (.text field) → ∀ index < field.size,
    (∃ opt ∈ options, InPadding opt.letter (field.offset + index)) → cfg.pointer field index = 0

/-- The first option clears the text of the second. -/
def Overruns (first second : Opt) : Prop :=
  storedText second ≠ [] ∧ ∃ field, fieldOf second.letter = .text field ∧
    InPadding first.letter field.offset

def givenNumber (longBits : Nat) (opt : Opt) : Int :=
  match opt.letter with
  | .v => toChar (strtol longBits opt.optarg)
  | _ => toInt (strtoul longBits opt.optarg)

def numberWrite (longBits : Nat) (opt : Opt) : Write NumberField Int := fun field =>
  if fieldOf opt.letter = .number field then some (givenNumber longBits opt) else none

def reach (opt : Opt) : Nat :=
  let optarg := opt.optarg
  match opt.letter with
  | .L =>
      if optarg.head? ≠ some slash then
        if optarg.head? = some dash then 1 else max intbufsize ((storedText opt).length + 1)
      else intbufsize
  | .p =>
      if optarg.head? ≠ some slash then max intbufsize ((storedText opt).length + 1)
      else intbufsize
  | _ => intbufsize

def textWrite (opt : Opt) : Write Nat Byte := fun place =>
  match fieldOf opt.letter with
  | .text field =>
      if field.offset ≤ place ∧ place < field.offset + reach opt then
        some (ofBytes (storedText opt) (place - field.offset))
      else none
  | .number _ => none

def laid (longBits : Nat) (opt : Opt) (cfg : CfgT) : CfgT where
  numbers := lay (numberWrite longBits opt) cfg.numbers
  text := lay (textWrite opt) cfg.text

@[simp] theorem laid_numbers (longBits : Nat) (opt : Opt) (cfg : CfgT) :
    (laid longBits opt cfg).numbers = lay (numberWrite longBits opt) cfg.numbers := rfl

@[simp] theorem laid_text (longBits : Nat) (opt : Opt) (cfg : CfgT) :
    (laid longBits opt cfg).text = lay (textWrite opt) cfg.text := rfl

theorem cfg_same {left right : CfgT} (numbers : ∀ field, left.numbers field = right.numbers field)
    (text : ∀ place, left.text place = right.text place) : left = right := by
  cases left
  cases right
  exact CfgT.mk.injEq .. ▸ ⟨funext numbers, funext text⟩

theorem stored_text_terminated (opt : Opt) : (0 : Byte) ∉ storedText opt := by
  have terminated := opt.terminated
  have log : (0 : Byte) ∉ logPath := by decide +kernel
  have dev : (0 : Byte) ∉ devPath := by decide +kernel
  unfold storedText
  dsimp only
  split
  · split_ifs <;> simp [terminated, log]
  · split_ifs <;> simp [terminated, dev]
  · exact terminated

theorem text_lay (opt : Opt) (field : TextField) (named : fieldOf opt.letter = .text field)
    (cfg : CfgT) (place : Nat) :
      lay (textWrite opt) cfg.text place =
        if field.offset ≤ place ∧ place < field.offset + reach opt then
          ofBytes (storedText opt) (place - field.offset)
        else cfg.text place := by
  simp only [lay, textWrite, named]
  split <;> rfl

theorem text_option_laid (longBits : Nat) (opt : Opt) (field : TextField)
    (named : fieldOf opt.letter = .text field) (cfg changed : CfgT)
    (numbers : changed.numbers = cfg.numbers)
    (text : ∀ place, changed.text place =
      if field.offset ≤ place ∧ place < field.offset + reach opt then
        ofBytes (storedText opt) (place - field.offset)
      else cfg.text place) :
      changed = laid longBits opt cfg := by
  apply cfg_same
  · intro other
    have untouched : numberWrite longBits opt other = none := by simp [numberWrite, named]
    rw [numbers, laid_numbers, lay_untouched _ _ _ untouched]
  · intro place
    rw [text, laid_text, text_lay opt field named]

theorem number_option_laid (longBits : Nat) (opt : Opt) (field : NumberField)
    (named : fieldOf opt.letter = .number field) (cfg : CfgT) :
      cfg.set field (givenNumber longBits opt) = laid longBits opt cfg := by
  apply cfg_same
  · intro other
    by_cases same : other = field
    · subst same
      have written : numberWrite longBits opt other = some (givenNumber longBits opt) := by
        simp [numberWrite, named]
      rw [set_same, laid_numbers, lay_written _ _ _ _ written]
    · have untouched : numberWrite longBits opt other = none := by
        simp [numberWrite, named, Ne.symm same]
      rw [set_other _ _ _ _ same, laid_numbers, lay_untouched _ _ _ untouched]
  · intro place
    have untouched : textWrite opt place = none := by simp [textWrite, named]
    rw [set_text, laid_text, lay_untouched _ _ _ untouched]

theorem copy_laid (longBits : Nat) (opt : Opt) (field : TextField)
    (named : fieldOf opt.letter = .text field) (stored : storedText opt = opt.optarg)
    (reached : reach opt = intbufsize) (cfg : CfgT) :
      cfg.copy field (ofBytes opt.optarg) intbufsize = laid longBits opt cfg := by
  apply text_option_laid longBits opt field named cfg _ (copy_numbers _ _ _ _)
  intro place
  rw [copy_text _ _ _ _ _ opt.terminated, stored, reached]

theorem concatenate_laid (longBits : Nat) (opt : Opt) (field : TextField) (path : List Byte)
    (named : fieldOf opt.letter = .text field) (stored : storedText opt = path ++ opt.optarg)
    (reached : reach opt = max intbufsize ((storedText opt).length + 1))
    (terminated : (0 : Byte) ∉ path) (short : path.length < intbufsize)
    (room : field.offset + path.length < textSize)
    (fits : (storedText opt).length ≤ intbufsize) (cfg : CfgT) :
      concatenate cfg field path opt.optarg = laid longBits opt cfg := by
  rw [stored, List.length_append] at fits reached
  apply text_option_laid longBits opt field named cfg (concatenate cfg field path opt.optarg) rfl
  intro place
  rw [concatenate_text _ _ _ _ _ terminated opt.terminated fits short room, stored, reached]

theorem closed_log_laid (longBits : Nat) (opt : Opt) (letter : opt.letter = .L)
    (dashed : opt.optarg.head? = some dash) (cfg : CfgT) :
      cfg.change .logname (fun logname => put logname 0 0) = laid longBits opt cfg := by
  have differ : dash ≠ slash := by decide
  have stored : storedText opt = [] := by simp [storedText, letter, dashed, differ]
  have reached : reach opt = 1 := by simp [reach, letter, dashed, differ]
  apply text_option_laid longBits opt .logname (by rw [letter]; rfl) cfg
    (cfg.change .logname fun logname => put logname 0 0) rfl
  intro place
  rw [stored, reached]
  by_cases before : place < TextField.logname.offset
  · rw [change_before _ _ _ _ before, if_neg (by omega)]
  · rw [change_from _ _ _ _ (by omega)]
    by_cases first : place = TextField.logname.offset
    · rw [if_pos (by omega), first, Nat.sub_self, put_same]
      rfl
    · have here : TextField.logname.offset + (place - TextField.logname.offset) = place := by omega
      rw [if_neg (by omega), put_other _ _ _ _ (by omega), CfgT.pointer, here]

theorem ttymode_accepted_anywhere (optarg : List Byte) (terminated : (0 : Byte) ∉ optarg)
    (fits : optarg.length < TextField.ttymode.size) (left right : CfgT) :
      ttymodeAccepted (left.copy .ttymode (ofBytes optarg) intbufsize) =
        ttymodeAccepted (right.copy .ttymode (ofBytes optarg) intbufsize) := by
  have short : optarg.length < 8 := fits
  have holds : ∀ cfg : CfgT, ∀ index < 8,
      (cfg.copy .ttymode (ofBytes optarg) intbufsize).pointer .ttymode index =
        ofBytes optarg index := by
    intro cfg index bound
    have size : intbufsize = 512 := rfl
    rw [CfgT.pointer, copy_text _ _ _ _ _ terminated, if_pos (by omega), Nat.add_sub_cancel_left]
  have length : ∀ cfg : CfgT,
      strlen ((cfg.copy .ttymode (ofBytes optarg) intbufsize).pointer .ttymode)
        (textSize - TextField.ttymode.offset) = optarg.length := by
    intro cfg
    have memory : textSize - TextField.ttymode.offset = 4761 := rfl
    exact strlen_terminated optarg _ _ terminated (by omega)
      fun index bound => holds cfg index (by omega)
  simp only [ttymodeAccepted, length, holds _ _ (show 0 < 8 by decide),
    holds _ _ (show 1 < 8 by decide), holds _ _ (show 2 < 8 by decide)]

theorem log_option_laid (longBits : Nat) (optarg : List Byte) (terminated : (0 : Byte) ∉ optarg)
    (fits : Fits ⟨.L, optarg, terminated⟩) (cfg : CfgT) :
      parseOption longBits cfg ⟨.L, optarg, terminated⟩ =
        some (laid longBits ⟨.L, optarg, terminated⟩ cfg) := by
  have known : getopt .L ≠ false := by decide +kernel
  have log : (0 : Byte) ∉ logPath := by decide +kernel
  unfold parseOption
  rw [if_neg known]
  dsimp only
  by_cases slashed : optarg.head? = some slash
  · rw [if_neg (by simp [slashed]), ← copy_laid longBits ⟨.L, optarg, terminated⟩ .logname rfl
      (by simp [storedText, slashed]) (by simp [reach, slashed])]
  · by_cases dashed : optarg.head? = some dash
    · rw [if_pos slashed, if_pos dashed, ← closed_log_laid longBits _ rfl dashed]
    · have stored : storedText ⟨.L, optarg, terminated⟩ = logPath ++ optarg := by
        simp [storedText, slashed, dashed]
      rw [if_pos slashed, if_neg dashed, ← concatenate_laid longBits ⟨.L, optarg, terminated⟩
        .logname logPath rfl stored (by simp [reach, slashed, dashed]) log (by decide +kernel)
        (by decide +kernel) (Nat.le_of_lt_succ fits)]

theorem port_option_laid (longBits : Nat) (optarg : List Byte) (terminated : (0 : Byte) ∉ optarg)
    (fits : Fits ⟨.p, optarg, terminated⟩) (cfg : CfgT) :
      parseOption longBits cfg ⟨.p, optarg, terminated⟩ =
        some (laid longBits ⟨.p, optarg, terminated⟩ cfg) := by
  have known : getopt .p ≠ false := by decide +kernel
  have dev : (0 : Byte) ∉ devPath := by decide +kernel
  unfold parseOption
  rw [if_neg known]
  dsimp only
  by_cases slashed : optarg.head? = some slash
  · rw [if_neg (by simp [slashed]), ← copy_laid longBits ⟨.p, optarg, terminated⟩ .ttyport rfl
      (by simp [storedText, slashed]) (by simp [reach, slashed])]
  · have stored : storedText ⟨.p, optarg, terminated⟩ = devPath ++ optarg := by
      simp [storedText, slashed]
    have short : (storedText ⟨.p, optarg, terminated⟩).length < 128 := fits
    have size : intbufsize = 512 := rfl
    rw [if_pos slashed, ← concatenate_laid longBits ⟨.p, optarg, terminated⟩ .ttyport devPath rfl
      stored (by simp [reach, slashed]) dev (by decide +kernel) (by decide +kernel) (by omega)]

theorem parse_option_laid {longBits : Nat} {before after : CfgT} {opt : Opt} (fits : Fits opt)
    (parsed : parseOption longBits before opt = some after) (cfg : CfgT) :
      parseOption longBits cfg opt = some (laid longBits opt cfg) := by
  have number := number_option_laid longBits opt
  have copied := copy_laid longBits opt
  obtain ⟨letter, optarg, terminated⟩ := opt
  unfold parseOption at parsed ⊢
  split at parsed
  · simp at parsed
  · next known =>
      rw [if_neg known]
      cases letter with
      | L =>
          have log := log_option_laid longBits optarg terminated fits cfg
          rwa [parseOption, if_neg known] at log
      | p =>
          have port := port_option_laid longBits optarg terminated fits cfg
          rwa [parseOption, if_neg known] at port
      | v =>
          dsimp only at parsed ⊢
          split at parsed
          · simp at parsed
          · next allowed => rw [if_neg allowed, ← number .dbglvl rfl, givenNumber]
      | s => rw [← number .ttyspeed rfl, givenNumber]
      | m =>
          dsimp only at parsed ⊢
          split at parsed
          · next allowed =>
              rw [ttymode_accepted_anywhere optarg terminated fits before cfg] at allowed
              rw [if_pos allowed, ← copied .ttymode rfl rfl rfl]
          · simp at parsed
      | A => rw [← copied .serveraddr rfl rfl rfl]
      | P => rw [← number .serverport rfl, givenNumber]
      | C =>
          dsimp only at parsed ⊢
          split at parsed
          · simp at parsed
          · next allowed => rw [if_neg allowed, ← number .maxconn rfl, givenNumber]
      | T =>
          dsimp only at parsed ⊢
          split at parsed
          · simp at parsed
          · next allowed => rw [if_neg allowed, ← number .conntimeout rfl, givenNumber]
      | M => exact absurd (show getopt .M = false by decide +kernel) known

theorem parse_options_laid {longBits : Nat} {options : List Opt} {cfg result : CfgT}
    (fit : ∀ opt ∈ options, Fits opt) (parsed : parseOptions longBits cfg options = some result) :
      result.numbers = layAll (options.map (numberWrite longBits)) cfg.numbers ∧
        result.text = layAll (options.map textWrite) cfg.text := by
  induction options generalizing cfg with
  | nil =>
      obtain rfl := Option.some.inj parsed
      exact ⟨rfl, rfl⟩
  | cons opt rest ih =>
      obtain ⟨next, first, later⟩ := Option.bind_eq_some_iff.mp parsed
      have laidFirst := parse_option_laid (fit opt (by simp)) first cfg
      rw [first] at laidFirst
      obtain rfl := Option.some.inj laidFirst
      exact ih (fun opt member => fit opt (by simp [member])) later

theorem accepted_of_member {longBits : Nat} {options : List Opt} {cfg result : CfgT}
    (parsed : parseOptions longBits cfg options = some result) {opt : Opt}
    (member : opt ∈ options) : ∃ before after, parseOption longBits before opt = some after := by
  induction options generalizing cfg with
  | nil => simp at member
  | cons head rest ih =>
      obtain ⟨next, first, later⟩ := Option.bind_eq_some_iff.mp parsed
      rcases List.mem_cons.mp member with rfl | behind
      · exact ⟨cfg, next, first⟩
      · exact ih later behind

theorem size_pos (field : TextField) : 0 < field.size := by
  cases field <;> decide

theorem fields_apart (left right : TextField) (different : left ≠ right) :
    left.offset + left.size ≤ right.offset ∨ right.offset + right.size ≤ left.offset := by
  cases left <;> cases right <;> first | exact absurd rfl different | decide

theorem reach_pos (opt : Opt) : 0 < reach opt := by
  unfold reach
  dsimp only
  have size : intbufsize = 512 := rfl
  split
  · split_ifs <;> omega
  · split_ifs <;> omega
  · omega

theorem reach_beyond {opt : Opt} {field : TextField} (fits : Fits opt)
    (named : fieldOf opt.letter = .text field) (index : Nat) (beyond : field.size ≤ index) :
      index < reach opt ↔ index < intbufsize := by
  have size : intbufsize = 512 := rfl
  have short : (storedText opt).length < field.size := by simpa [Fits, named] using fits
  unfold reach
  dsimp only
  split
  · next letter =>
      have log : field.size = 513 := by
        rw [letter] at named
        exact (Field.text.inj named) ▸ rfl
      split_ifs <;> omega
  · next letter =>
      have port : field.size = 128 := by
        rw [letter] at named
        exact (Field.text.inj named) ▸ rfl
      split_ifs <;> omega
  · exact Iff.rfl

theorem text_write_before {opt : Opt} {field : TextField}
    (named : fieldOf opt.letter = .text field) (place : Nat) (before : place < field.offset) :
      textWrite opt place = none := by
  simp only [textWrite, named]
  exact if_neg (by omega)

theorem text_write_beyond {opt : Opt} {field : TextField} (fits : Fits opt)
    (named : fieldOf opt.letter = .text field) (place : Nat)
    (beyond : field.offset + field.size ≤ place) :
      textWrite opt place = if place < field.offset + intbufsize then some 0 else none := by
  have short : (storedText opt).length < field.size := by simpa [Fits, named] using fits
  have reached := reach_beyond fits named (place - field.offset) (by omega)
  simp only [textWrite, named]
  by_cases inside : place < field.offset + intbufsize
  · rw [if_pos (by omega), if_pos inside, ofBytes_beyond _ _ (by omega)]
  · rw [if_neg (by omega), if_neg inside]

theorem text_write_foreign {opt : Opt} (fits : Fits opt) {field : TextField}
    (foreign : fieldOf opt.letter ≠ .text field) (index : Nat) (inside : index < field.size) :
      (∀ value ∈ textWrite opt (field.offset + index), value = 0) ∧
        (textWrite opt (field.offset + index) ≠ none ↔
          InPadding opt.letter (field.offset + index)) := by
  cases named : fieldOf opt.letter with
  | number number => simp [textWrite, InPadding, named]
  | text own =>
      have different : own ≠ field := fun same => foreign (same ▸ named)
      rcases fields_apart own field different with behind | front
      · rw [text_write_beyond fits named _ (by omega)]
        by_cases reached : field.offset + index < own.offset + intbufsize
        · rw [if_pos reached]
          exact ⟨by simp, by simp [InPadding, named]; omega⟩
        · rw [if_neg reached]
          exact ⟨by simp, by simp [InPadding, named]; omega⟩
      · rw [text_write_before named _ (by omega)]
        exact ⟨by simp, by simp [InPadding, named]; omega⟩

theorem changes_own_settings_iff {longBits : Nat} {options : List Opt} {cfg result : CfgT}
    (parsed : parseOptions longBits cfg options = some result)
    (fit : ∀ opt ∈ options, Fits opt) :
      ChangesOwnSettings options cfg result ↔ PaddingClear options cfg := by
  obtain ⟨numbers, text⟩ := parse_options_laid fit parsed
  have kept : ∀ field, Unnamed options (.text field) → ∀ index < field.size,
      (result.pointer field index = cfg.pointer field index ↔
        ((∃ opt ∈ options, InPadding opt.letter (field.offset + index)) →
          cfg.pointer field index = 0)) := by
    intro field unnamed index inside
    have foreign : ∀ opt ∈ options, _ := fun opt member =>
      text_write_foreign (fit opt member) (unnamed opt member) index inside
    have single : ∀ write ∈ options.map textWrite, ∀ value ∈ write (field.offset + index),
        value = 0 := by
      intro write member
      obtain ⟨opt, given, rfl⟩ := List.mem_map.mp member
      exact (foreign opt given).1
    rw [CfgT.pointer, CfgT.pointer, text, lay_all_kept_iff _ _ _ 0 single]
    simp only [List.mem_map, exists_exists_and_eq_and]
    constructor
    · rintro clear ⟨opt, member, padding⟩
      exact clear ⟨opt, member, (foreign opt member).2.mpr padding⟩
    · rintro clear ⟨opt, member, written⟩
      exact clear ⟨opt, member, (foreign opt member).2.mp written⟩
  constructor
  · intro own field unnamed index inside
    exact (kept field unnamed index inside).mp (own.texts field unnamed index inside)
  · intro clear
    constructor
    · intro field unnamed
      have none_written : ∀ write ∈ options.map (numberWrite longBits), ∀ value ∈ write field,
          value = cfg.numbers field := by
        intro write member value written
        obtain ⟨opt, given, rfl⟩ := List.mem_map.mp member
        simp [numberWrite, unnamed opt given] at written
      rw [numbers]
      exact (lay_all_kept_iff _ _ _ _ none_written).mpr fun _ => rfl
    · intro field unnamed index inside
      exact (kept field unnamed index inside).mpr (clear field unnamed index inside)

/-- Only a mode, a socket mode or a device is short enough to reach other arrays. -/
theorem in_padding_iff (letter : Letter) (place : Nat) :
    InPadding letter place ↔
      letter = .m ∧ 16 ≤ place ∧ place < 520 ∨ letter = .M ∧ 24 ≤ place ∧ place < 528 ∨
        letter = .p ∧ 152 ≤ place ∧ place < 536 := by
  cases letter <;> simp [InPadding, fieldOf, TextField.size, intbufsize] <;> omega

theorem overruns_iff (first second : Opt) :
    Overruns first second ↔ storedText second ≠ [] ∧
      (first.letter = .m ∧ (second.letter = .M ∨ second.letter = .p ∨ second.letter = .L) ∨
        first.letter = .M ∧ (second.letter = .p ∨ second.letter = .L) ∨
        first.letter = .p ∧ second.letter = .L) := by
  simp only [Overruns, in_padding_iff]
  cases second.letter <;> simp [fieldOf]

theorem overruns_only_behind {first second : Opt} {left right : TextField}
    (inLeft : fieldOf first.letter = .text left) (inRight : fieldOf second.letter = .text right)
    (before : left.offset + left.size ≤ right.offset) : ¬Overruns second first := by
  rintro ⟨_, field, named, own, ownNamed, behind, _⟩
  obtain rfl := Field.text.inj (inLeft.symm.trans named)
  obtain rfl := Field.text.inj (inRight.symm.trans ownNamed)
  have positive := size_pos right
  omega

/-- Two text options can be exchanged unless the first clears the text of the second. -/
theorem text_writes_agree_iff {first second : Opt} {left right : TextField}
    (fits : Fits first) (inLeft : fieldOf first.letter = .text left)
    (inRight : fieldOf second.letter = .text right)
    (before : left.offset + left.size ≤ right.offset) :
      Agree (textWrite first) (textWrite second) ↔ ¬Overruns first second := by
  have positive := size_pos left
  have reached := reach_pos second
  constructor
  · rintro agree ⟨nonempty, field, named, own, ownNamed, _, inside⟩
    obtain rfl := Field.text.inj (inRight.symm.trans named)
    obtain rfl := Field.text.inj (inLeft.symm.trans ownNamed)
    have cleared : textWrite first right.offset = some 0 := by
      rw [text_write_beyond fits inLeft _ before, if_pos inside]
    have stored : textWrite second right.offset = some (ofBytes (storedText second) 0) := by
      simp [textWrite, inRight, reached]
    have nul := agree right.offset 0 cleared _ stored
    have inText := List.length_pos_iff.mpr nonempty
    rw [ofBytes_getElem _ 0 inText] at nul
    exact stored_text_terminated second (nul ▸ List.getElem_mem inText)
  · intro clear place cleared inFirst written inSecond
    have behind : right.offset ≤ place := by
      by_contra front
      rw [text_write_before inRight place (by omega)] at inSecond
      simp at inSecond
    rw [text_write_beyond fits inLeft place (by omega)] at inFirst
    split at inFirst
    · next inside =>
        have empty : storedText second = [] := by
          by_contra nonempty
          exact clear ⟨nonempty, right, inRight, left, inLeft, before, by omega⟩
        simp only [textWrite, inRight, empty] at inSecond
        split at inSecond
        · rw [← Option.some.inj inFirst, ← Option.some.inj inSecond]
          rfl
        · simp at inSecond
    · simp at inFirst

theorem text_writes_agree_overruns_iff {first second : Opt} (fitsFirst : Fits first)
    (fitsSecond : Fits second) (different : fieldOf first.letter ≠ fieldOf second.letter) :
      Agree (textWrite first) (textWrite second) ↔
        ¬Overruns first second ∧ ¬Overruns second first := by
  cases inFirst : fieldOf first.letter with
  | number number => simp [Agree, Overruns, InPadding, textWrite, inFirst]
  | text left =>
      cases inSecond : fieldOf second.letter with
      | number number => simp [Agree, Overruns, InPadding, textWrite, inSecond]
      | text right =>
          have apart : left ≠ right := by
            rintro rfl
            exact different (inFirst.trans inSecond.symm)
          rcases fields_apart left right apart with before | behind
          · rw [text_writes_agree_iff fitsFirst inFirst inSecond before,
              and_iff_left (overruns_only_behind inFirst inSecond before)]
          · rw [show Agree (textWrite first) (textWrite second) ↔
                Agree (textWrite second) (textWrite first) from ⟨Agree.symm, Agree.symm⟩,
              text_writes_agree_iff fitsSecond inSecond inFirst behind,
              and_iff_right (overruns_only_behind inSecond inFirst behind)]

theorem number_writes_agree (longBits : Nat) {first second : Opt}
    (different : fieldOf first.letter ≠ fieldOf second.letter) :
      Agree (numberWrite longBits first) (numberWrite longBits second) := by
  intro field left inFirst right inSecond
  simp only [numberWrite, Option.mem_def, Option.ite_none_right_eq_some] at inFirst inSecond
  exact absurd (inFirst.1.trans inSecond.1.symm) different

theorem pair_exchanged_iff {longBits : Nat} {first second : Opt} (fitsFirst : Fits first)
    (fitsSecond : Fits second) (different : fieldOf first.letter ≠ fieldOf second.letter)
    (prior : CfgT) :
      laid longBits second (laid longBits first prior) =
          laid longBits first (laid longBits second prior) ↔
        ¬Overruns first second ∧ ¬Overruns second first := by
  rw [← text_writes_agree_overruns_iff fitsFirst fitsSecond different]
  rw [laid, laid, CfgT.mk.injEq]
  simp only [laid_numbers, laid_text, lay_commute_iff]
  exact and_iff_right (number_writes_agree longBits different)

/-- Options change nothing but their own settings, in any order, exactly when their
padding meets nothing. -/
theorem options_change_own_settings_iff {longBits : Nat} {options : List Opt} {cfg result : CfgT}
    (parsed : parseOptions longBits cfg options = some result)
    (fit : ∀ opt ∈ options, Fits opt) :
      (ChangesOwnSettings options cfg result ↔ PaddingClear options cfg) ∧
        ∀ first ∈ options, ∀ second ∈ options,
          fieldOf first.letter ≠ fieldOf second.letter → ∀ prior,
            (parseOptions longBits prior [first, second] =
                parseOptions longBits prior [second, first] ↔
              ¬Overruns first second ∧ ¬Overruns second first) := by
  refine ⟨changes_own_settings_iff parsed fit, ?_⟩
  intro first inFirst second inSecond different prior
  have one : ∀ opt ∈ options, ∀ cfg,
      parseOption longBits cfg opt = some (laid longBits opt cfg) := by
    intro opt member
    obtain ⟨before, after, accepted⟩ := accepted_of_member parsed member
    exact parse_option_laid (fit opt member) accepted
  simp only [parseOptions, one first inFirst, one second inSecond, Option.bind_some,
    Option.some.injEq]
  exact pair_exchanged_iff (fit first inFirst) (fit second inSecond) different prior

def modeGiven : Opt := ⟨.m, ascii "8e2", by decide +kernel⟩

def portGiven : Opt := ⟨.P, ascii "1502", by decide +kernel⟩

def deviceGiven : Opt := ⟨.p, ascii "ttyS0", by decide +kernel⟩

def logGiven : Opt := ⟨.L, ascii "bridge.log", by decide +kernel⟩

theorem options_change_own_settings_iff_empty_configuration :
    ∃ result, parseOptions 32 zeroed [modeGiven, portGiven] = some result ∧
      ChangesOwnSettings [modeGiven, portGiven] zeroed result ∧
      parseOptions 32 zeroed [modeGiven, portGiven] =
        parseOptions 32 zeroed [portGiven, modeGiven] := by
  obtain ⟨result, parsed⟩ := Option.isSome_iff_exists.mp
    (show (parseOptions 32 zeroed [modeGiven, portGiven]).isSome = true by decide +kernel)
  have fit : ∀ opt ∈ [modeGiven, portGiven], Fits opt := by
    simp only [List.mem_cons, List.not_mem_nil, or_false, forall_eq_or_imp, forall_eq]
    exact ⟨show (ascii "8e2").length < 8 by decide +kernel, trivial⟩
  obtain ⟨own, exchanged⟩ := options_change_own_settings_iff parsed fit
  refine ⟨result, parsed, own.mpr fun _ _ _ _ _ => rfl, ?_⟩
  apply (exchanged modeGiven (by simp) portGiven (by simp) (by decide) zeroed).mpr
  simp [overruns_iff, modeGiven, portGiven]

/-- The stored socket mode is lost to `-m`, a log file name to a later `-p`. -/
theorem padding_clears_other_settings :
    (∃ result, parseOptions 32 (zeroed.copy .connmode (ofBytes (ascii "tcps")) 8) [modeGiven] =
        some result ∧ Fits modeGiven ∧ result.string .connmode = [] ∧
      ¬ChangesOwnSettings [modeGiven] (zeroed.copy .connmode (ofBytes (ascii "tcps")) 8) result) ∧
    Fits deviceGiven ∧ Fits logGiven ∧
    fieldOf deviceGiven.letter ≠ fieldOf logGiven.letter ∧
    (parseOptions 32 zeroed [deviceGiven, logGiven]).isSome = true ∧
    parseOptions 32 zeroed [deviceGiven, logGiven] ≠
      parseOptions 32 zeroed [logGiven, deviceGiven] := by
  refine ⟨?_, show (storedText deviceGiven).length < 128 by decide +kernel,
    show (storedText logGiven).length < 513 by decide +kernel, by decide, by decide +kernel, ?_⟩
  · obtain ⟨result, parsed, lost⟩ := Option.map_eq_some_iff.mp
      (show (parseOptions 32 (zeroed.copy .connmode (ofBytes (ascii "tcps")) 8) [modeGiven]).map
        (fun cfg => (cfg.string .connmode, cfg.pointer .connmode 0)) = some ([], 0)
        by decide +kernel)
    refine ⟨result, parsed, show (ascii "8e2").length < 8 by decide +kernel,
      congrArg Prod.fst lost, ?_⟩
    intro own
    have kept := own.texts .connmode (by simp [Unnamed, modeGiven, fieldOf]) 0 (by decide)
    rw [show result.pointer .connmode 0 = 0 from congrArg Prod.snd lost] at kept
    exact absurd kept (by decide +kernel)
  · intro same
    have names := congrArg (Option.map fun cfg => cfg.string .logname) same
    exact absurd names (by decide +kernel)

end GlRs485.OwnSettings
