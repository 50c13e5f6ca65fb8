import GlRs485.CommandLine

/-!
# The numeric options `-v`, `-C` and `-T`

`main` reads the number that stands at the front of the text, cuts it to the
type of its variable and checks the range afterwards. What is refused is decided
by the remainder that is left, so a text that is no number, or a number far out
of range, may well be accepted.
-/

namespace GlRs485.NumericOptions

open CBytes CIntegers GlRs485.Configuration GlRs485.CommandLine

set_option autoImplicit false

/-- The options whose argument is a number with a documented range. -/
inductive NumericOption
  | v
  | C
  | T
  deriving DecidableEq

namespace NumericOption

def letter : NumericOption → Letter
  | .v => .v
  | .C => .C
  | .T => .T

def field : NumericOption → NumberField
  | .v => .dbglvl
  | .C => .maxconn
  | .T => .conntimeout

def lowest : NumericOption → Int
  | .v => 0
  | .C => 1
  | .T => 0

def highest : NumericOption → Int
  | .v => 5
  | .C => maxMaxconn
  | .T => maxConntimeout

end NumericOption

def numeral (text : List Byte) : Bool × Nat × List Byte :=
  let signed := readSign (text.dropWhile isSpace)
  (signed.1, readBase signed.2)

def withSign (negative : Bool) (magnitude : Nat) : Int :=
  if negative then -magnitude else magnitude

/-- The number at the front of a text, 0 where none stands there. -/
def leadingInteger (text : List Byte) : Int :=
  withSign (readInteger text).1 (readInteger text).2

def integerLiteral (text : List Byte) : Option Int :=
  let number := numeral text
  if number.2.2 ≠ [] ∧ number.2.2.all fun c => digitValue c < number.2.1 then
    some (withSign number.1 (readDigits number.2.1 number.2.2))
  else none

/-- What the usage text promises: a literal in the range is stored, anything else refused. -/
def NumericOption.documented (option : NumericOption) (cfg : CfgT) (optarg : List Byte) :
    Option CfgT :=
  (integerLiteral optarg).bind fun value =>
    if option.lowest ≤ value ∧ value ≤ option.highest then some (cfg.set option.field value)
    else none

def NumericOption.InRange (option : NumericOption) (optarg : List Byte) : Prop :=
  ∃ value, integerLiteral optarg = some value ∧ option.lowest ≤ value ∧ value ≤ option.highest

/-- The leading numbers whose remainder in the variable lies outside the range. Those
too large for a `long` count as its largest value, which leaves -1. -/
def NumericOption.Refuses : NumericOption → Int → Prop
  | .v, value => 2 ^ 63 ≤ value ∨ -2 ^ 63 ≤ value ∧ 5 < value % 2 ^ 8
  | .C, value => 2 ^ 64 ≤ value.natAbs ∨ value % 2 ^ 32 = 0 ∨ 32 < value % 2 ^ 32
  | .T, value => value.natAbs < 2 ^ 64 ∧ 86400 < value % 2 ^ 32 ∧ value % 2 ^ 32 < 2 ^ 31

instance (option : NumericOption) (value : Int) : Decidable (option.Refuses value) :=
  match option with
  | .v => inferInstanceAs (Decidable (_ ∨ _))
  | .C => inferInstanceAs (Decidable (_ ∨ _))
  | .T => inferInstanceAs (Decidable (_ ∧ _))

/-- What is left of a leading number in a `char` that `strtol` was read into. -/
def charRemainder (value : Int) : Int :=
  if value < -2 ^ 63 then 0 else if 2 ^ 63 ≤ value then -1 else value.bmod (2 ^ 8)

def intRemainder (value : Int) : Int :=
  if 2 ^ 64 ≤ value.natAbs then -1 else value.bmod (2 ^ 32)

def NumericOption.remainder : NumericOption → Int → Int
  | .v => charRemainder
  | .C => intRemainder
  | .T => intRemainder

theorem leading_of_literal (text : List Byte) (value : Int)
    (literal : integerLiteral text = some value) : leadingInteger text = value := by
  unfold integerLiteral at literal
  dsimp only at literal
  split at literal
  · exact Option.some.inj literal
  · cases literal

theorem leading_magnitude (text : List Byte) :
    (leadingInteger text).natAbs = (readInteger text).2 := by
  unfold leadingInteger withSign
  split
  · exact Int.natAbs_neg _
  · exact Int.natAbs_natCast _

theorem char_of_strtol (text : List Byte) :
    toChar (strtol 64 text) = charRemainder (leadingInteger text) := by
  have read : strtol 64 text =
      if leadingInteger text < -2 ^ 63 then -2 ^ 63
      else if 2 ^ 63 ≤ leadingInteger text then 2 ^ 63 - 1
      else leadingInteger text := rfl
  rw [read, charRemainder]
  split
  · rfl
  · split
    · rfl
    · rfl

/-- A minus sign negates modulo 2^64, which is the same modulo 2^32. -/
theorem int_of_strtoul (text : List Byte) :
    toInt (strtoul 64 text) = intRemainder (leadingInteger text) := by
  rw [intRemainder, leading_magnitude text]
  unfold strtoul
  dsimp only
  split
  · rfl
  · next fits =>
      unfold leadingInteger withSign toInt
      split
      · simp only [Int.bmod_def]
        omega
      · rfl

theorem refused_v_iff (value : Int) :
    charRemainder value < 0 ∨ 5 < charRemainder value ↔ NumericOption.v.Refuses value := by
  simp only [charRemainder, NumericOption.Refuses, Int.bmod_def]
  omega

theorem refused_C_iff (value : Int) :
    intRemainder value < 1 ∨ maxMaxconn < intRemainder value ↔ NumericOption.C.Refuses value := by
  simp only [intRemainder, NumericOption.Refuses, Int.bmod_def, maxMaxconn]
  omega

/-- No lower end is tested: half of the remainders are negative and accepted. -/
theorem refused_T_iff (value : Int) :
    maxConntimeout < intRemainder value ↔ NumericOption.T.Refuses value := by
  simp only [intRemainder, NumericOption.Refuses, Int.bmod_def, maxConntimeout]
  omega

theorem getopt_accepts (option : NumericOption) : getopt option.letter = true := by
  cases option with
  | v => decide +kernel
  | C => decide +kernel
  | T => decide +kernel

theorem parse_numeric_option (option : NumericOption) (cfg : CfgT) (optarg : List Byte)
    (terminated : (0 : Byte) ∉ optarg) :
      parseOption 64 cfg ⟨option.letter, optarg, terminated⟩ =
        if option.Refuses (leadingInteger optarg) then none
        else some (cfg.set option.field (option.remainder (leadingInteger optarg))) := by
  unfold parseOption
  rw [if_neg (by simp [getopt_accepts])]
  cases option with
  | v =>
      simp only [NumericOption.letter, char_of_strtol, refused_v_iff]
      rfl
  | C =>
      simp only [NumericOption.letter, int_of_strtoul, refused_C_iff]
      rfl
  | T =>
      simp only [NumericOption.letter, int_of_strtoul, refused_T_iff]
      rfl

theorem remainder_in_range (option : NumericOption) (value : Int) (above : option.lowest ≤ value)
    (below : value ≤ option.highest) :
      ¬option.Refuses value ∧ option.remainder value = value := by
  cases option with
  | v =>
      simp only [NumericOption.lowest, NumericOption.highest] at above below
      simp only [NumericOption.remainder, charRemainder, NumericOption.Refuses, Int.bmod_def]
      omega
  | C =>
      simp only [NumericOption.lowest, NumericOption.highest, maxMaxconn] at above below
      simp only [NumericOption.remainder, intRemainder, NumericOption.Refuses, Int.bmod_def]
      omega
  | T =>
      simp only [NumericOption.lowest, NumericOption.highest, maxConntimeout] at above below
      simp only [NumericOption.remainder, intRemainder, NumericOption.Refuses, Int.bmod_def]
      omega

theorem documented_in_range (option : NumericOption) (cfg : CfgT) (optarg : List Byte)
    (inside : option.InRange optarg) :
      option.documented cfg optarg = some (cfg.set option.field (leadingInteger optarg)) := by
  obtain ⟨value, literal, above, below⟩ := inside
  rw [leading_of_literal optarg value literal, NumericOption.documented, literal,
    Option.bind_some, if_pos ⟨above, below⟩]

theorem documented_outside (option : NumericOption) (cfg : CfgT) (optarg : List Byte)
    (outside : ¬option.InRange optarg) : option.documented cfg optarg = none := by
  unfold NumericOption.documented
  cases literal : integerLiteral optarg with
  | none => rfl
  | some value =>
      rw [Option.bind_some]
      apply if_neg
      intro inside
      exact outside ⟨value, literal, inside⟩

/-- The options do what is documented on literals in the range, and on all
texts whose leading number is refused; every other text is accepted though it should not be. -/
theorem numeric_option_exact_iff (option : NumericOption) (cfg : CfgT) (optarg : List Byte)
    (terminated : (0 : Byte) ∉ optarg) :
      parseOption 64 cfg ⟨option.letter, optarg, terminated⟩ = option.documented cfg optarg ↔
        option.InRange optarg ∨ option.Refuses (leadingInteger optarg) := by
  rw [parse_numeric_option]
  by_cases inside : option.InRange optarg
  · have documented := documented_in_range option cfg optarg inside
    obtain ⟨value, literal, above, below⟩ := inside
    have read := leading_of_literal optarg value literal
    obtain ⟨accepted, kept⟩ := remainder_in_range option value above below
    rw [documented, read, if_neg accepted, kept]
    exact iff_of_true rfl (Or.inl ⟨value, literal, above, below⟩)
  · rw [documented_outside option cfg optarg inside]
    by_cases refused : option.Refuses (leadingInteger optarg)
    · simp [refused]
    · simp [refused, inside]

theorem numeric_option_exact_iff_on_five :
    parseOption 64 zeroed ⟨.v, ascii "5", by decide⟩ =
        NumericOption.v.documented zeroed (ascii "5") ↔
      NumericOption.v.InRange (ascii "5") ∨ NumericOption.v.Refuses (leadingInteger (ascii "5")) :=
  numeric_option_exact_iff .v zeroed (ascii "5") (by decide)

/-- A word is level 0, 2^32 + 1 connections are one, and a timeout of -1 is stored. -/
theorem loose_numbers_are_accepted :
    (parseOption 64 zeroed ⟨.v, ascii "abc", by decide⟩ = some (zeroed.set .dbglvl 0) ∧
        NumericOption.v.documented zeroed (ascii "abc") = none) ∧
      (parseOption 64 zeroed ⟨.C, ascii "4294967297", by decide⟩ = some (zeroed.set .maxconn 1) ∧
        NumericOption.C.documented zeroed (ascii "4294967297") = none) ∧
      parseOption 64 zeroed ⟨.T, ascii "-1", by decide⟩ = some (zeroed.set .conntimeout (-1)) ∧
        NumericOption.T.documented zeroed (ascii "-1") = none := by
  have word := parse_numeric_option .v zeroed (ascii "abc") (by decide)
  have wide := parse_numeric_option .C zeroed (ascii "4294967297") (by decide)
  have negative := parse_numeric_option .T zeroed (ascii "-1") (by decide)
  rw [show leadingInteger (ascii "abc") = 0 by decide +kernel] at word
  rw [show leadingInteger (ascii "4294967297") = 4294967297 by decide +kernel] at wide
  rw [show leadingInteger (ascii "-1") = -1 by decide +kernel] at negative
  have noNumber : integerLiteral (ascii "abc") = none := by decide +kernel
  have tooLarge : integerLiteral (ascii "4294967297") = some 4294967297 := by decide +kernel
  have belowZero : integerLiteral (ascii "-1") = some (-1) := by decide +kernel
  refine ⟨⟨word, ?_⟩, ⟨wide, ?_⟩, negative, ?_⟩
  · rw [NumericOption.documented, noNumber, Option.bind_none]
  · rw [NumericOption.documented, tooLarge]
    rfl
  · rw [NumericOption.documented, belowZero]
    rfl

end GlRs485.NumericOptions
