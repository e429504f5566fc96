import Mathlib.Data.Nat.Digits.Defs

/-!
# Parsing numbers

`Integer.parseInt`, `Long.parseLong` and commons-lang's `NumberUtils.toInt`, of
which the first two throw on other texts. They read a digit with
`Character.digit(c, radix)`, which knows more digits than those of ASCII,
depending on the version of the JDK.
-/
namespace GitvTime.Source.Numbers

/-- `Character.digit(c, 10)`, `none` for -1. -/
structure CharacterDigit where
  digit : Char → Option Nat
  ascii : ∀ d < 10, digit (Nat.digitChar d) = some d

/-- 0 to 9 alone. -/
def asciiDigit : CharacterDigit where
  digit c := if '0' ≤ c ∧ c ≤ '9' then some (c.toNat - '0'.toNat) else none
  ascii := by decide

variable (digits : CharacterDigit)

/-- The value of a digit sequence behind those read. -/
def readDigits : List Char → Nat → Option Nat
  | [], value => some value
  | c :: rest, value => (digits.digit c).bind fun d => readDigits rest (10 * value + d)

def parseUnsigned : List Char → Option Nat
  | [] => none
  | c :: rest => readDigits digits (c :: rest) 0

/-- A number with an optional sign, of any size. -/
def parseSigned (text : List Char) : Option Int :=
  match text with
  | '-' :: rest => (parseUnsigned digits rest).map fun value : Nat => -(value : Int)
  | '+' :: rest => (parseUnsigned digits rest).map Int.ofNat
  | _ => (parseUnsigned digits text).map Int.ofNat

def intMin : Int := -2 ^ 31
def intMax : Int := 2 ^ 31 - 1
def longMin : Int := -2 ^ 63
def longMax : Int := 2 ^ 63 - 1

/-- `Integer.parseInt`, `none` for a `NumberFormatException`. -/
def parseInt (text : String) : Option Int :=
  (parseSigned digits text.toList).filter fun value => intMin ≤ value ∧ value ≤ intMax

/-- `Long.parseLong`, `none` for a `NumberFormatException`. -/
def parseLong (text : String) : Option Int :=
  (parseSigned digits text.toList).filter fun value => longMin ≤ value ∧ value ≤ longMax

/-- `NumberUtils.toInt(str, defaultValue)`. -/
def toInt (text : String) (defaultValue : Int) : Int := (parseInt digits text).getD defaultValue

/-! ### Hexadecimal numbers -/

/-- `Character.digit(c, 16)`, `none` for -1. -/
structure HexDigit where
  digit : Char → Option Nat
  ascii : ∀ d < 16, digit (Nat.digitChar d) = some d

/-- 0 to 9, a to f and A to F alone. -/
def asciiHexDigit : HexDigit where
  digit c :=
    if '0' ≤ c ∧ c ≤ '9' then some (c.toNat - '0'.toNat)
    else if 'a' ≤ c ∧ c ≤ 'f' then some (c.toNat - 'a'.toNat + 10)
    else if 'A' ≤ c ∧ c ≤ 'F' then some (c.toNat - 'A'.toNat + 10)
    else none
  ascii := by decide

/-- A sequence of at least one digit. -/
def parseHexDigits (hex : HexDigit) : List Char → Option Nat
  | [] => none
  | c :: rest => (c :: rest).foldlM (fun value c => (hex.digit c).map (16 * value + ·)) 0

/-- `Long.parseLong(text, 16)`, `none` for a `NumberFormatException`. -/
def parseLongHex (hex : HexDigit) (text : String) : Option Int :=
  let value : Option Int := match text.toList with
    | '-' :: rest => (parseHexDigits hex rest).map fun value : Nat => -(value : Int)
    | '+' :: rest => (parseHexDigits hex rest).map Int.ofNat
    | chars => (parseHexDigits hex chars).map Int.ofNat
  value.filter fun value => longMin ≤ value ∧ value ≤ longMax

/-! ### Printed numbers -/

theorem readDigits_append (front back : List Char) (value : Nat) :
    readDigits digits (front ++ back) value =
      (readDigits digits front value).bind (readDigits digits back) := by
  induction front generalizing value with
  | nil => rfl
  | cons c rest ih =>
    rw [List.cons_append, readDigits, readDigits]
    cases digits.digit c with
    | none => rfl
    | some d => exact ih _

theorem readDigits_toDigits (n : Nat) : readDigits digits (Nat.toDigits 10 n) 0 = some n := by
  induction n using Nat.strong_induction_on with
  | h n ih =>
    rcases Nat.lt_or_ge n 10 with small | large
    · rw [Nat.toDigits_of_lt_base small, readDigits, digits.ascii n small]
      simp [readDigits]
    · have shorter : n / 10 < n := Nat.div_lt_self (by omega) (by omega)
      rw [Nat.toDigits_of_base_le (by omega) large, readDigits_append, ih _ shorter,
        Option.bind_some, readDigits, digits.ascii _ (Nat.mod_lt n (by omega)), Option.bind_some,
        readDigits, Nat.div_add_mod]

theorem parseUnsigned_toDigits (n : Nat) :
    parseUnsigned digits (Nat.toDigits 10 n) = some n := by
  have read := readDigits_toDigits digits n
  cases chars : Nat.toDigits 10 n with
  | nil => exact absurd chars Nat.toDigits_ne_nil
  | cons c rest => rwa [chars] at read

theorem isDigit_of_mem_toDigits {n : Nat} {c : Char} (member : c ∈ Nat.toDigits 10 n) :
    c.isDigit :=
  Nat.isDigit_of_mem_toDigits (by omega) (by omega) member

/-- The characters of a printed number. -/
theorem toList_toString (x : Int) :
    (toString x).toList =
      if 0 ≤ x then Nat.toDigits 10 x.toNat else '-' :: Nat.toDigits 10 (-x).toNat := by
  have printed : toString x = x.repr := rfl
  rw [printed, Int.repr_eq_if]
  split
  · exact Nat.toList_repr
  · rw [String.toList_append, Nat.toList_repr]
    rfl

theorem parseSigned_toString (x : Int) : parseSigned digits (toString x).toList = some x := by
  rw [toList_toString]
  split
  · rename_i nonneg
    have unsigned := parseUnsigned_toDigits digits x.toNat
    have sign : ∀ c rest, Nat.toDigits 10 x.toNat = c :: rest → c ≠ '-' ∧ c ≠ '+' := by
      intro c rest chars
      have member : c ∈ Nat.toDigits 10 x.toNat := chars ▸ List.mem_cons_self
      have digit := isDigit_of_mem_toDigits member
      constructor
      · rintro rfl
        revert digit
        decide
      · rintro rfl
        revert digit
        decide
    unfold parseSigned
    split
    · rename_i rest chars
      exact absurd rfl (sign '-' rest chars).1
    · rename_i rest chars
      exact absurd rfl (sign '+' rest chars).2
    · rw [unsigned, Option.map_some, Int.ofNat_eq_natCast, Int.toNat_of_nonneg nonneg]
  · rename_i negative
    rw [parseSigned, parseUnsigned_toDigits, Option.map_some, Int.toNat_of_nonneg (by omega),
      Int.neg_neg]

theorem parseInt_toString {x : Int} (low : intMin ≤ x) (high : x ≤ intMax) :
    parseInt digits (toString x) = some x := by
  rw [parseInt, parseSigned_toString, Option.filter_some, if_pos (by simp [low, high])]

theorem parseLong_toString {x : Int} (low : longMin ≤ x) (high : x ≤ longMax) :
    parseLong digits (toString x) = some x := by
  rw [parseLong, parseSigned_toString, Option.filter_some, if_pos (by simp [low, high])]

theorem toString_inj {x y : Int} (same : toString x = toString y) : x = y := by
  have parsed := parseSigned_toString asciiDigit x
  rw [same, parseSigned_toString] at parsed
  exact (Option.some.inj parsed).symm

theorem parseInt_range {text : String} {x : Int} (parsed : parseInt digits text = some x) :
    intMin ≤ x ∧ x ≤ intMax := by
  obtain ⟨_, range⟩ := Option.filter_eq_some_iff.mp parsed
  simpa using range

/-- A printed number has digits and perhaps a minus sign. -/
theorem mem_toString {x : Int} {c : Char} (member : c ∈ (toString x).toList) :
    c.isDigit ∨ c = '-' := by
  rw [toList_toString] at member
  split at member
  · exact .inl (isDigit_of_mem_toDigits member)
  · rcases List.mem_cons.mp member with rfl | rest
    · exact .inr rfl
    · exact .inl (isDigit_of_mem_toDigits rest)

theorem toString_ne_empty (x : Int) : (toString x).toList ≠ [] := by
  rw [toList_toString]
  split
  · exact Nat.toDigits_ne_nil
  · exact List.cons_ne_nil _ _

end GitvTime.Source.Numbers
