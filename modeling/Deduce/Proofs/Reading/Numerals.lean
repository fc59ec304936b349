import Deduce.Proofs.Quantity
import Deduce.Proofs.Reading.Overlong
import Mathlib.Data.List.DropRight
import Mathlib.Data.Nat.Digits.Defs

/-!
# Numeric literals

Between blanks, the literal of an integer is an optional sign and digits, and that of a decimal may
have a point among the digits. It reads as the number that is spelled, and the places behind the point
are the scale of a decimal. Any other literal leaves the value unset.
-/

namespace Deduce

namespace Text

/-- `core` is what remains of a text without the blanks at its two ends. -/
structure StripsTo (cs core : List Char) : Prop where
  around : ∃ front back, cs = front ++ core ++ back ∧
    (∀ c ∈ front, isBlank c = true) ∧ ∀ c ∈ back, isBlank c = true
  first : ∀ c ∈ core.head?, isBlank c = false
  last : ∀ c ∈ core.getLast?, isBlank c = false

end Text

def IsDigits (cs : List Char) : Prop := ∀ c ∈ cs, c.isDigit = true

instance (cs : List Char) : Decidable (IsDigits cs) :=
  decidable_of_iff (cs.all Char.isDigit = true) List.all_eq_true

def digitsValue (digits : List Char) : Nat :=
  Nat.ofDigits 10 (digits.reverse.map fun c => c.toNat - '0'.toNat)

inductive SpellsSign : List Char → Bool → Prop where
  | none : SpellsSign [] false
  | plus : SpellsSign ['+'] false
  | minus : SpellsSign ['-'] true

inductive SpellsInteger : List Char → Int → Prop where
  | digits {sign negative whole} : SpellsSign sign negative → IsDigits whole → whole ≠ [] →
      SpellsInteger (sign ++ whole)
        (if negative then -(digitsValue whole : Int) else digitsValue whole)

/-- Digits up to a point and behind it, or no point at all. -/
inductive SpellsPlaces : List Char → List Char → List Char → Prop where
  | whole {whole} : IsDigits whole → whole ≠ [] → SpellsPlaces whole whole []
  | point {whole fraction} : IsDigits whole → IsDigits fraction → whole ≠ [] ∨ fraction ≠ [] →
      SpellsPlaces (whole ++ '.' :: fraction) whole fraction

inductive SpellsDecimal : List Char → Decimal → Prop where
  | places {sign negative places whole fraction} : SpellsSign sign negative →
      SpellsPlaces places whole fraction →
      SpellsDecimal (sign ++ places)
        (.finite negative (digitsValue (whole ++ fraction)) (-fraction.length))

/-- A literal of a numeric type spells the datum, with nothing but blanks around it. -/
inductive SpellsDatum : ScalarType → List Char → Datum → Prop where
  | int {cs core i} : Text.StripsTo cs core → SpellsInteger core i → SpellsDatum .int cs (.int i)
  | decimal {cs core d} : Text.StripsTo cs core → SpellsDecimal core d →
      SpellsDatum .decimal cs (.decimal d)

namespace Text

variable {cs core front back : List Char}

theorem strip_append (front' : ∀ c ∈ front, isBlank c = true) (back' : ∀ c ∈ back, isBlank c = true)
    (cs : List Char) : strip (front ++ cs ++ back) = strip cs := by
  have ends (rest : List Char) : stripEnd (rest ++ back) = stripEnd rest := by
    rw [stripEnd, stripEnd, List.reverse_append, List.dropWhile_append_of_pos (by simpa using back')]
  rw [strip, List.append_assoc, List.dropWhile_append_of_pos front', List.dropWhile_append]
  split
  · rename_i blank
    rw [List.isEmpty_iff] at blank
    rw [strip, blank, List.dropWhile_eq_nil_iff.mpr back']
  · rw [ends, strip]

theorem isBlank_head?_dropWhile {c : Char} (h : c ∈ (cs.dropWhile isBlank).head?) :
    isBlank c = false := by
  have stopped := List.head?_dropWhile_not isBlank cs
  rwa [Option.mem_def.mp h] at stopped

theorem stripsTo_strip (cs : List Char) : StripsTo cs (strip cs) := by
  have begins : cs.takeWhile isBlank ++ cs.dropWhile isBlank = cs := List.takeWhile_append_dropWhile
  have ends : strip cs ++ ((cs.dropWhile isBlank).reverse.takeWhile isBlank).reverse =
      cs.dropWhile isBlank := by
    rw [strip, stripEnd, ← List.reverse_append, List.takeWhile_append_dropWhile,
      List.reverse_reverse]
  constructor
  case around =>
    refine ⟨_, _, begins.symm.trans (ends ▸ (List.append_assoc ..).symm), ?_, ?_⟩
    · exact fun c member => List.mem_takeWhile_imp member
    · exact fun c member => List.mem_takeWhile_imp (List.mem_reverse.mp member)
  case first =>
    intro c member
    have begin : c ∈ (cs.dropWhile isBlank).head? := by
      rw [← ends, List.head?_append, Option.mem_def.mp member]
      rfl
    exact isBlank_head?_dropWhile begin
  case last =>
    intro c member
    rw [strip, stripEnd, List.getLast?_reverse] at member
    exact isBlank_head?_dropWhile member

theorem strip_eq_iff : strip cs = core ↔ StripsTo cs core := by
  constructor
  · rintro rfl
    exact stripsTo_strip cs
  · rintro ⟨⟨front, back, rfl, front', back'⟩, first, last⟩
    rw [strip_append front' back', strip_eq_self first last]

end Text

theorem digitsValue_eq (digits : List Char) : Nat.ofDigitChars 10 digits 0 = digitsValue digits := by
  induction digits using List.reverseRecOn with
  | nil => rfl
  | append_singleton digits last ih =>
    rw [Nat.ofDigitChars_append, ih, Nat.ofDigitChars_cons, Nat.ofDigitChars_nil, digitsValue,
      digitsValue, List.reverse_append, List.reverse_singleton, List.singleton_append,
      List.map_cons, Nat.ofDigits_cons]
    omega

theorem SpellsPlaces.mem {places whole fraction : List Char} (h : SpellsPlaces places whole fraction) :
    ∀ c ∈ places, c.isDigit = true ∨ c = '.' := by
  intro c member
  cases h with
  | whole digits _ => exact .inl (digits c member)
  | point digits digits' _ =>
    rcases List.mem_append.mp member with before | behind
    · exact .inl (digits c before)
    · rcases List.mem_cons.mp behind with rfl | behind
      · exact .inr rfl
      · exact .inl (digits' c behind)

namespace Decimal

theorem splitSign_eq {cs rest : List Char} {negative : Bool} (h : splitSign cs = (negative, rest)) :
    ∃ sign, SpellsSign sign negative ∧ cs = sign ++ rest := by
  unfold splitSign at h
  split at h <;> cases h
  · exact ⟨['-'], .minus, rfl⟩
  · exact ⟨['+'], .plus, rfl⟩
  · exact ⟨[], .none, rfl⟩

theorem splitSign_of_spells {sign rest : List Char} {negative : Bool}
    (signed : SpellsSign sign negative) (unsigned : ∀ c ∈ rest, c.isDigit = true ∨ c = '.') :
    splitSign (sign ++ rest) = (negative, rest) := by
  cases signed with
  | plus | minus => rfl
  | none =>
    rw [List.nil_append]
    unfold splitSign
    split
    · exact absurd (unsigned '-' List.mem_cons_self) (by decide)
    · exact absurd (unsigned '+' List.mem_cons_self) (by decide)
    · rfl

theorem isDigits_behind {whole fraction : List Char} :
    (fraction.all Char.isDigit && !(whole.isEmpty && fraction.isEmpty)) = true ↔
      IsDigits fraction ∧ (whole ≠ [] ∨ fraction ≠ []) := by
  simp only [Bool.and_eq_true, List.all_eq_true, Bool.not_eq_true', Bool.and_eq_false_iff,
    List.isEmpty_eq_false_iff, IsDigits]

theorem splitPoint?_eq_some {cs whole fraction : List Char} :
    splitPoint? cs = some (whole, fraction) ↔ SpellsPlaces cs whole fraction := by
  constructor
  · intro h
    have split : cs.takeWhile Char.isDigit ++ cs.dropWhile Char.isDigit = cs :=
      List.takeWhile_append_dropWhile
    have digits : IsDigits (cs.takeWhile Char.isDigit) :=
      fun c member => List.mem_takeWhile_imp member
    unfold splitPoint? at h
    simp only at h
    split at h
    · rename_i rest
      rw [rest, List.append_nil] at split
      rw [split] at h digits
      split at h
      · cases h
      · rename_i filled
        cases h
        exact .whole digits (by simpa using filled)
    · rename_i behind rest
      rw [rest] at split
      split at h
      · rename_i plain
        cases h
        obtain ⟨digits', filled⟩ := isDigits_behind.mp plain
        have spelled := SpellsPlaces.point digits digits' filled
        rwa [split] at spelled
      · cases h
    · cases h
  · intro spelled
    cases spelled with
    | whole digits filled =>
      have all : cs.takeWhile Char.isDigit = cs := List.takeWhile_eq_self_iff.mpr digits
      have none : cs.dropWhile Char.isDigit = [] := List.dropWhile_eq_nil_iff.mpr digits
      simp [splitPoint?, all, none, filled]
    | point digits digits' filled =>
      have all : (whole ++ '.' :: fraction).takeWhile Char.isDigit = whole := by
        simp [List.takeWhile_append_of_pos digits, List.takeWhile]
      have rest : (whole ++ '.' :: fraction).dropWhile Char.isDigit = '.' :: fraction := by
        simp [List.dropWhile_append_of_pos digits, List.dropWhile]
      simp only [splitPoint?, all, rest, if_pos (isDigits_behind.mpr ⟨digits', filled⟩)]

theorem ofPlain?_eq_some_iff {cs : List Char} {d : Decimal} :
    ofPlain? cs = some d ↔ SpellsDecimal cs d := by
  constructor
  · intro h
    cases split : splitSign cs with
    | mk negative rest =>
      simp only [ofPlain?, split, Option.map_eq_some_iff] at h
      obtain ⟨⟨whole, fraction⟩, places, rfl⟩ := h
      obtain ⟨sign, signed, rfl⟩ := splitSign_eq split
      have spelled := SpellsDecimal.places signed (splitPoint?_eq_some.mp places)
      simpa only [ofDigits, digitsValue_eq, zero_sub] using spelled
  · rintro ⟨signed, places⟩
    simp only [ofPlain?, splitSign_of_spells signed places.mem, splitPoint?_eq_some.mpr places,
      Option.map_some, ofDigits, digitsValue_eq, zero_sub]

end Decimal

theorem readDecimal?_eq_some {cs : List Char} {d : Decimal} :
    readDecimal? cs = some d ↔ ∃ core, Text.StripsTo cs core ∧ SpellsDecimal core d := by
  rw [readDecimal?, Decimal.ofPlain?_eq_some_iff]
  simp only [← Text.strip_eq_iff, exists_eq_left']

theorem integerOf_eq_some {cs : List Char} {i : Int} :
    (splitInteger? cs).map (fun (negative, digits) => integerOf negative digits) = some i ↔
      SpellsInteger cs i := by
  rw [Option.map_eq_some_iff]
  constructor
  · rintro ⟨⟨negative, whole⟩, split, rfl⟩
    obtain ⟨signed, filled, digits⟩ := splitInteger?_eq_some.mp split
    obtain ⟨sign, spelled, rfl⟩ := Decimal.splitSign_eq signed
    simp only [integerOf, digitsValue_eq]
    exact .digits spelled digits filled
  · rintro ⟨signed, digits, filled⟩
    have split := Decimal.splitSign_of_spells signed fun c member => .inl (digits c member)
    refine ⟨_, splitInteger?_eq_some.mpr ⟨split, filled, digits⟩, ?_⟩
    simp only [integerOf, digitsValue_eq]

theorem readInteger_of_fits {text : String} (fits : ∀ digits, ¬ IsOverlong text digits) :
    readInteger text.toList = .ok ((splitInteger? (Text.strip text.toList)).map
      fun (negative, digits) => integerOf negative digits) := by
  cases split : splitInteger? (Text.strip text.toList) with
  | none => simp only [readInteger, split, Option.map_none]
  | some parts =>
    have short : ¬ maxIntDigits < parts.2.length := by
      intro many
      have failed : readInteger text.toList = .error (.tooManyDigits (some parts.2.length)) := by
        simp only [readInteger, split, if_pos many]
      obtain ⟨digits, overlong, _⟩ := readInteger_eq_error.mp failed
      exact fits digits overlong
    simp only [readInteger, split, if_neg short, Option.map_some]

/-- The empty text is no exception among the numeric literals. -/
theorem Value.ofLiteral_of_isNumeric {type : ScalarType} (numeric : type.IsNumeric) (text : String) :
    Value.ofLiteral type text = (type.read text).map (Value.mk type) := by
  unfold ofLiteral
  split
  · rename_i empty
    rw [String.isEmpty_iff.mp empty]
    rcases numeric with rfl | rfl <;> rfl
  · rfl

theorem Value.exists_ofLiteral {type : ScalarType} (numeric : type.IsNumeric) (text : String)
    (fits : type = .int → ∀ digits, ¬ IsOverlong text digits) :
    ∃ data, Value.ofLiteral type text = .ok ⟨type, data⟩ ∧
      ∀ datum, data = some datum ↔ SpellsDatum type text.toList datum := by
  rw [ofLiteral_of_isNumeric numeric]
  rcases numeric with rfl | rfl
  · rw [ScalarType.read, readInteger_of_fits (fits rfl)]
    refine ⟨_, rfl, fun datum => ?_⟩
    simp only [Option.map_eq_some_iff]
    constructor
    · rintro ⟨i, read, rfl⟩
      exact .int (Text.stripsTo_strip _) (integerOf_eq_some.mp (Option.map_eq_some_iff.mpr read))
    · intro spelled
      cases spelled with
      | int stripped spelled =>
        rw [← Text.strip_eq_iff.mpr stripped] at spelled
        exact ⟨_, Option.map_eq_some_iff.mp (integerOf_eq_some.mpr spelled), rfl⟩
  · refine ⟨_, rfl, fun datum => ?_⟩
    simp only [Option.map_eq_some_iff, readDecimal?_eq_some]
    constructor
    · rintro ⟨d, ⟨core, stripped, spelled⟩, rfl⟩
      exact .decimal stripped spelled
    · intro spelled
      cases spelled with
      | decimal stripped spelled => exact ⟨_, ⟨_, stripped, spelled⟩, rfl⟩

namespace SpellsDatum

variable {type : ScalarType} {text : String} {datum : Datum}

theorem isNumeric {cs : List Char} (h : SpellsDatum type cs datum) : type.IsNumeric := by
  cases h with
  | int => exact .inl rfl
  | decimal => exact .inr rfl

theorem ofLiteral (h : SpellsDatum type text.toList datum)
    (fits : type = .int → ∀ digits, ¬ IsOverlong text digits) :
    Value.ofLiteral type text = .ok ⟨type, some datum⟩ := by
  obtain ⟨data, read, exact⟩ := Value.exists_ofLiteral h.isNumeric text fits
  rw [read, (exact datum).mpr h]

theorem of_ofLiteral (numeric : type.IsNumeric)
    (h : Value.ofLiteral type text = .ok ⟨type, some datum⟩) :
    SpellsDatum type text.toList datum := by
  have fits (isInt : type = .int) (digits : Nat) : ¬ IsOverlong text digits := by
    intro overlong
    rw [Value.ofLiteral_eq_error.mpr ⟨isInt, digits, overlong, rfl⟩] at h
    cases h
  obtain ⟨data, read, exact⟩ := Value.exists_ofLiteral numeric text fits
  rw [read] at h
  cases h
  exact (exact datum).mp rfl

end SpellsDatum

/-- An integer is spelled as a decimal of the same number is, one without places behind the point. -/
theorem SpellsInteger.exists_decimal {cs : List Char} {i : Int} (h : SpellsInteger cs i) :
    ∃ negative coefficient, SpellsDecimal cs (.finite negative coefficient 0) ∧
      (Decimal.finite negative coefficient 0).number = i := by
  cases h with
  | @digits sign negative whole signed digits filled =>
    have spelled := SpellsDecimal.places signed (.whole digits filled)
    rw [List.append_nil] at spelled
    exact ⟨_, _, spelled, by simp [Decimal.number, Decimal.magnitude]⟩

structure NumeralsExact (text : String) : Prop where
  /-- The value is set to what the text spells, and unset if it spells nothing. -/
  exact : ∀ type : ScalarType, type.IsNumeric →
    (type = .int → ∀ digits, ¬ IsOverlong text digits) →
      ∃ data, Value.ofLiteral type text = .ok ⟨type, data⟩ ∧
        ∀ datum, data = some datum ↔ SpellsDatum type text.toList datum
  padded : ∀ type : ScalarType, type.IsNumeric → ∀ front back : String,
    (∀ c ∈ front.toList, Text.isBlank c = true) → (∀ c ∈ back.toList, Text.isBlank c = true) →
      Value.ofLiteral type (front ++ text ++ back) = Value.ofLiteral type text
  /-- An integer is a decimal of the same number as well, without places behind the point. -/
  widened : ∀ i, Value.ofLiteral .int text = .ok ⟨.int, some (.int i)⟩ →
    ∃ negative coefficient,
      Value.ofLiteral .decimal text =
        .ok ⟨.decimal, some (.decimal (.finite negative coefficient 0))⟩ ∧
      (Decimal.finite negative coefficient 0).number = i

theorem numerals_exact (text : String) : NumeralsExact text := by
  constructor
  case exact =>
    intro type numeric fits
    exact Value.exists_ofLiteral numeric text fits
  case padded =>
    intro type numeric front back front' back'
    rw [Value.ofLiteral_of_isNumeric numeric, Value.ofLiteral_of_isNumeric numeric]
    have core := Text.strip_append front' back' text.toList
    rcases numeric with rfl | rfl <;>
      simp only [ScalarType.read, readInteger, readDecimal?, String.toList_append, core]
  case widened =>
    intro i read
    cases SpellsDatum.of_ofLiteral (.inl rfl) read with
    | int stripped spelled =>
      obtain ⟨negative, coefficient, decimal, number⟩ := spelled.exists_decimal
      refine ⟨negative, coefficient, ?_, number⟩
      exact (SpellsDatum.decimal stripped decimal).ofLiteral fun isInt => absurd isInt (by decide)

example : Value.ofLiteral .decimal "\u3000-.50\n" =
    .ok ⟨.decimal, some (.decimal (.finite true 50 (-2)))⟩ := rfl

end Deduce
