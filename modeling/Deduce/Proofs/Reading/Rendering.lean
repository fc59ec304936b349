import Deduce.Proofs.Reading.Numerals
import Deduce.Proofs.Reading.WellFormed

/-!
# Facts as lines

A fact that was read from a line is read again from the line that it is shown as, unless its value is a
decimal whose leading digit stands more than six places behind the point. Such a decimal is shown with
a power of ten, and no literal has one.
-/

namespace Deduce

/-- The leading digit of the decimal stands more than six places behind the point. -/
def Value.IsTiny (v : Value) : Prop :=
  ∃ negative coefficient exponent, v.data = some (.decimal (.finite negative coefficient exponent)) ∧
    Decimal.adjusted coefficient exponent < -6

/-- A digit, more of them behind a point unless it is the only one, and a negative power of ten. -/
inductive SpellsScientific : List Char → Decimal → Prop where
  | power {sign negative lead rest power} : SpellsSign sign negative → IsDigits (lead :: rest) →
      IsDigits power → power ≠ [] →
      SpellsScientific
        (sign ++ (lead :: if rest = [] then [] else '.' :: rest) ++ 'E' :: '-' :: power)
        (.finite negative (digitsValue (lead :: rest)) (-digitsValue power - rest.length))

def isNumeral (c : Char) : Bool := c.isDigit || c == '.' || c == '-' || c == '+'

theorem toNat_of_isDigit {c : Char} (h : c.isDigit = true) : 48 ≤ c.toNat ∧ c.toNat ≤ 57 := by
  simpa [Char.isDigit, UInt32.le_iff_toNat_le] using h

theorem isBlank_of_isNumeral {c : Char} (h : isNumeral c = true) : Text.isBlank c = false := by
  simp only [isNumeral, Bool.or_eq_true, beq_iff_eq] at h
  rcases h with ((digit | rfl) | rfl) | rfl
  · have range := toNat_of_isDigit digit
    simp only [Text.isBlank, Bool.or_eq_false_iff, Bool.and_eq_false_iff, decide_eq_false_iff_not,
      beq_eq_false_iff_ne]
    omega
  · rfl
  · rfl
  · rfl

theorem SpellsSign.isNumeral {sign : List Char} {negative : Bool} (h : SpellsSign sign negative) :
    ∀ c ∈ sign, isNumeral c = true := by
  cases h <;> simp [Deduce.isNumeral]

theorem SpellsDecimal.isNumeral {cs : List Char} {d : Decimal} (h : SpellsDecimal cs d) :
    ∀ c ∈ cs, isNumeral c = true := by
  intro c member
  cases h with
  | places signed places =>
    rcases List.mem_append.mp member with inSign | inPlaces
    · exact signed.isNumeral c inSign
    · rcases places.mem c inPlaces with digit | rfl
      · simp [Deduce.isNumeral, digit]
      · rfl

theorem Text.StripsTo.mem {cs core : List Char} (h : StripsTo cs core) {c : Char} (member : c ∈ cs)
    (visible : isBlank c = false) : c ∈ core := by
  obtain ⟨front, back, rfl, front', back'⟩ := h.around
  rcases List.mem_append.mp member with before | behind
  · rcases List.mem_append.mp before with blank | within
    · exact absurd (front' c blank) (by simp [visible])
    · exact within
  · exact absurd (back' c behind) (by simp [visible])

theorem Text.StripsTo.of_isNumeral {cs : List Char} (h : ∀ c ∈ cs, isNumeral c = true) :
    StripsTo cs cs where
  around := ⟨[], [], by simp, nofun, nofun⟩
  first c member := isBlank_of_isNumeral (h c (List.mem_of_mem_head? member))
  last c member := isBlank_of_isNumeral (h c (List.mem_of_mem_getLast? member))

theorem isDigits_toDigits (n : Nat) : IsDigits (Nat.toDigits 10 n) :=
  fun _ member => Nat.isDigit_of_mem_toDigits (by decide) (by decide) member

theorem digitsValue_toDigits (n : Nat) : digitsValue (Nat.toDigits 10 n) = n := by
  rw [← digitsValue_eq, Nat.ofDigitChars_ten_toDigits]

theorem digitsValue_lt {digits : List Char} (all : IsDigits digits) :
    digitsValue digits < 10 ^ digits.length := by
  have below (n : Nat) (member : n ∈ digits.reverse.map fun c => c.toNat - '0'.toNat) : n < 10 := by
    obtain ⟨c, among, rfl⟩ := List.mem_map.mp member
    have range := toNat_of_isDigit (all c (List.mem_reverse.mp among))
    have zero : '0'.toNat = 48 := rfl
    omega
  have bound := Nat.ofDigits_lt_base_pow_length (by decide) below
  rwa [List.length_map, List.length_reverse] at bound

theorem exists_intText (i : Int) :
    ∃ sign negative, SpellsSign sign negative ∧
      (intText i).toList = sign ++ Nat.toDigits 10 i.natAbs ∧
      (if negative then -(i.natAbs : Int) else i.natAbs) = i := by
  rw [intText, String.toList_ofList]
  split
  · exact ⟨_, _, .minus, rfl, by simp only [if_true]; omega⟩
  · exact ⟨_, _, .none, rfl, by simp only [Bool.false_eq_true, if_false]; omega⟩

theorem spells_intText (i : Int) : SpellsInteger (intText i).toList i := by
  obtain ⟨sign, negative, signed, text, value⟩ := exists_intText i
  have spelled := SpellsInteger.digits signed (isDigits_toDigits i.natAbs) Nat.toDigits_ne_nil
  rwa [digitsValue_toDigits, value, ← text] at spelled

theorem SpellsInteger.isNumeral {cs : List Char} {i : Int} (h : SpellsInteger cs i) :
    ∀ c ∈ cs, isNumeral c = true := by
  obtain ⟨_, _, spelled, _⟩ := h.exists_decimal
  exact spelled.isNumeral

theorem SpellsSign.either {sign : List Char} {negative : Bool} (h : SpellsSign sign negative) :
    sign = [] ∨ sign = ['+'] ∨ sign = ['-'] := by
  cases h <;> decide

theorem natAbs_lt_of_read {literal : String} {i : Int}
    (read : Value.ofLiteral .int literal = .ok ⟨.int, some (.int i)⟩) :
    i.natAbs < 10 ^ maxIntDigits := by
  cases SpellsDatum.of_ofLiteral (.inl rfl) read with
  | int stripped spelled =>
    cases spelled with
    | @digits sign negative whole signed all filled =>
      have short : whole.length ≤ maxIntDigits := by
        by_contra many
        have overlong : IsOverlong literal whole.length :=
          ⟨sign, whole, Text.strip_eq_iff.mpr stripped, signed.either, all, rfl, not_le.mp many⟩
        rw [Value.ofLiteral_eq_error.mpr ⟨rfl, _, overlong, rfl⟩] at read
        cases read
      calc
        _ = digitsValue whole := by split <;> omega
        _ < 10 ^ whole.length := digitsValue_lt all
        _ ≤ 10 ^ maxIntDigits := Nat.pow_le_pow_right (by decide) short

theorem Schema.Reads.isWritable {schema : Schema} {id literal : String} {value : Value}
    (read : schema.Reads id literal value) : value.isWritable = true := by
  by_cases isInt : value.type = .int
  · have denoted := read.read
    obtain ⟨datum, set, suits⟩ := read.admits.wellFormed
    obtain ⟨type, data⟩ := value
    simp only at isInt set
    subst isInt set
    cases datum <;> try contradiction
    have fits := natAbs_lt_of_read denoted
    simpa [Value.isWritable, Datum.isWritable] using (Decimal.width_le_iff (by decide)).mpr fits
  · exact read.admits.wellFormed.isWritable isInt

/-- What the rules of a table assert was read, and so it can be written out. -/
theorem RuleTable.isWritable_of_asserted {schema : Schema} {tree : Tree} {table : RuleTable}
    (h : ofTree schema tree = .ok table) {rule : Rule} (member : rule ∈ table) {fact : Fact}
    (asserted : fact ∈ rule.asserted) : fact.value.isWritable = true := by
  obtain ⟨items, _, each, _⟩ := ofTree_eq_ok_iff.mp h
  obtain ⟨item, _, read⟩ := exists_left_of_forall₂ each member
  obtain ⟨_, _, from'⟩ := readRule_eq_ok read
  obtain ⟨_, line⟩ := from'.asserted.2 fact asserted
  obtain ⟨_, _, _, reads⟩ := readFact_eq_ok.mp line
  exact reads.isWritable

theorem intText_fits {i : Int} (short : i.natAbs < 10 ^ maxIntDigits) (digits : Nat) :
    ¬ IsOverlong (intText i) digits := by
  rintro ⟨sign, number, stripped, signed, all, rfl, many⟩
  obtain ⟨sign', negative, signed', text, _⟩ := exists_intText i
  have own : Text.strip (intText i).toList = (intText i).toList :=
    Text.strip_eq_iff.mpr (.of_isNumeral (spells_intText i).isNumeral)
  -- the digits are counted rather than their value, which zeros in front would not change
  have same : number = Nat.toDigits 10 i.natAbs := by
    rw [← Decimal.splitSign_append signed all, ← stripped, own, text,
      Decimal.splitSign_of_spells signed' fun c member => .inl (isDigits_toDigits _ c member)]
  have fits : Decimal.width i.natAbs ≤ maxIntDigits :=
    (Decimal.width_le_iff (by decide)).mpr short
  rw [same] at many
  exact absurd fits (not_le.mpr many)

theorem digitsValue_zeros (n : Nat) (digits : List Char) :
    digitsValue (List.replicate n '0' ++ digits) = digitsValue digits := by
  rw [← digitsValue_eq, Nat.ofDigitChars_append, Nat.ofDigitChars_replicate_zero, Nat.mul_zero,
    digitsValue_eq]

/-- With a point among them or behind, or zeros and a point in front, digits spell the same. -/
theorem exists_spellsPlaces {digits : List Char} (all : IsDigits digits) (filled : digits ≠ [])
    (place : Int) (within : place ≤ digits.length) :
    ∃ whole fraction, SpellsPlaces (Decimal.pointAt digits place) whole fraction ∧
      digitsValue (whole ++ fraction) = digitsValue digits ∧
      (fraction.length : Int) = digits.length - place := by
  unfold Decimal.pointAt
  split
  · rename_i front
    have zeros : IsDigits (List.replicate (-place).toNat '0' ++ digits) := by
      intro c member
      rcases List.mem_append.mp member with zero | own
      · rw [List.eq_of_mem_replicate zero]
        rfl
      · exact all c own
    have zero : IsDigits ['0'] := by decide
    refine ⟨['0'], List.replicate (-place).toNat '0' ++ digits,
      .point zero zeros (.inl (by decide)), ?_, ?_⟩
    · exact digitsValue_zeros ((-place).toNat + 1) digits
    · rw [List.length_append, List.length_replicate]
      omega
  · split
    · rename_i inside behind
      have none : place.toNat - digits.length = 0 := by omega
      rw [none, List.replicate_zero, List.append_nil]
      refine ⟨digits, [], .whole all filled, by rw [List.append_nil], ?_⟩
      rw [List.length_nil]
      omega
    · rename_i inside among
      have some : digits.take place.toNat ≠ [] := by
        rw [← List.length_pos_iff, List.length_take]
        omega
      refine ⟨_, _, .point (fun c member => all c (List.mem_of_mem_take member))
        (fun c member => all c (List.mem_of_mem_drop member)) (.inl some), ?_, ?_⟩
      · rw [List.take_append_drop]
      · rw [List.length_drop]
        omega

theorem Decimal.toList_text (d : Decimal) : d.text.toList = d.chars := String.toList_ofList

theorem spellsSign_signText (negative : Bool) :
    SpellsSign (Decimal.signText negative) negative := by
  cases negative
  · exact .none
  · exact .minus

/-- A decimal that is neither tiny nor large is shown in digits alone. -/
theorem spells_text (negative : Bool) {coefficient : Nat} {exponent : Int} (scale : exponent ≤ 0)
    (near : -6 ≤ Decimal.adjusted coefficient exponent) :
    SpellsDecimal (Decimal.finite negative coefficient exponent).text.toList
      (.finite negative coefficient exponent) := by
  have width : ((Nat.toDigits 10 coefficient).length : Int) = Decimal.width coefficient := rfl
  obtain ⟨whole, fraction, places, value, length⟩ :=
    exists_spellsPlaces (isDigits_toDigits coefficient) Nat.toDigits_ne_nil
      (Decimal.adjusted coefficient exponent + 1) (by rw [Decimal.adjusted]; omega)
  have spelled := SpellsDecimal.places (spellsSign_signText negative) places
  have exponents : -(fraction.length : Int) = exponent := by
    rw [length, Decimal.adjusted]
    omega
  rw [value, digitsValue_toDigits, exponents] at spelled
  rwa [Decimal.toList_text, Decimal.chars, Decimal.finiteText, if_pos ⟨scale, near⟩]

theorem pointAt_one (lead : Char) (rest : List Char) :
    Decimal.pointAt (lead :: rest) 1 = lead :: if rest = [] then [] else '.' :: rest := by
  cases rest with
  | nil => rfl
  | cons next rest =>
    have more : ¬ ((lead :: next :: rest).length : Int) ≤ 1 := by
      rw [List.length_cons, List.length_cons]
      omega
    rw [Decimal.pointAt, if_neg (by decide), if_neg more, if_neg (List.cons_ne_nil next rest)]
    rfl

theorem spellsScientific_text {negative : Bool} {coefficient : Nat} {exponent : Int}
    (tiny : Decimal.adjusted coefficient exponent < -6) :
    SpellsScientific (Decimal.finite negative coefficient exponent).text.toList
      (.finite negative coefficient exponent) := by
  obtain ⟨lead, rest, digits⟩ :=
    List.exists_cons_of_ne_nil (Nat.toDigits_ne_nil (n := coefficient) (b := 10))
  have all := isDigits_toDigits coefficient
  have value := digitsValue_toDigits coefficient
  rw [digits] at all value
  have spelled := SpellsScientific.power (spellsSign_signText negative) all
    (isDigits_toDigits (Decimal.adjusted coefficient exponent).natAbs) Nat.toDigits_ne_nil
  have leading : Decimal.adjusted coefficient exponent = exponent + rest.length := by
    rw [Decimal.adjusted, Decimal.width, digits, List.length_cons]
    omega
  have exponents : -((exponent + rest.length).natAbs : Int) - rest.length = exponent := by omega
  rw [value, digitsValue_toDigits, leading, exponents] at spelled
  have other : ¬ (exponent ≤ 0 ∧ -6 ≤ exponent + rest.length) := by omega
  have below : exponent + rest.length < 0 := by omega
  rwa [Decimal.toList_text, Decimal.chars, Decimal.finiteText, leading, if_neg other, if_pos below,
    digits, pointAt_one, ← List.append_assoc]

/-- No literal has a power of ten. -/
theorem SpellsScientific.not_spellsDatum {cs : List Char} {d : Decimal} {datum : Datum}
    (h : SpellsScientific cs d) : ¬ SpellsDatum .decimal cs datum := by
  intro spelled
  -- the letter in front of the power is no blank, so it would have to be part of the number
  have marked : 'E' ∈ cs := by
    cases h
    simp
  cases spelled with
  | decimal stripped spelled =>
    have within := stripped.mem marked (by decide)
    exact absurd (spelled.isNumeral 'E' within) (by decide)

namespace Value

/-- Unless it is tiny, the value of a literal reads again from its text. -/
theorem ofLiteral_text {v : Value} {literal : String} (read : Value.ofLiteral v.type literal = .ok v)
    (set : v.isUnset = false) (normal : ¬ v.IsTiny) : Value.ofLiteral v.type v.text = .ok v := by
  obtain ⟨type, data⟩ := v
  cases data with
  | none => cases set
  | some datum =>
    obtain ⟨filled, denoted⟩ := (Value.ofLiteral_eq_ok read).2 datum rfl
    have suits := ScalarType.read_suits filled denoted
    cases type with
    | string =>
      cases datum <;> try contradiction
      have filled' := String.isEmpty_eq_false_iff.mpr suits
      simp only [Value.text, Datum.text, ofLiteral, filled', ScalarType.read]
      rfl
    | int =>
      cases datum <;> try contradiction
      rename_i i
      have spelled := spells_intText i
      have fits := intText_fits (natAbs_lt_of_read read)
      exact (SpellsDatum.int (.of_isNumeral spelled.isNumeral) spelled).ofLiteral fun _ => fits
    | decimal =>
      cases datum <;> try contradiction
      rename_i d
      cases d <;> try contradiction
      rename_i negative coefficient exponent
      have near : -6 ≤ Decimal.adjusted coefficient exponent := by
        by_contra far
        exact normal ⟨_, _, _, rfl, by omega⟩
      have spelled := spells_text negative (ScalarType.exponent_of_read denoted) near
      exact (SpellsDatum.decimal (.of_isNumeral spelled.isNumeral) spelled).ofLiteral
        fun isInt => absurd isInt (by decide)
    | bool =>
      cases datum <;> try contradiction
      rename_i b
      cases b <;> rfl

theorem IsTiny.exists_scientific {v : Value} (tiny : v.IsTiny) :
    ∃ d, v.data = some (.decimal d) ∧ SpellsScientific v.text.toList d := by
  obtain ⟨negative, coefficient, exponent, set, far⟩ := tiny
  refine ⟨_, set, ?_⟩
  simp only [text, set, Datum.text]
  exact spellsScientific_text far

theorem IsTiny.ofLiteral_text {v : Value} (tiny : v.IsTiny) :
    Value.ofLiteral .decimal v.text = .ok ⟨.decimal, none⟩ := by
  have numeric : ScalarType.decimal.IsNumeric := .inr rfl
  obtain ⟨data, read, exact⟩ :=
    Value.exists_ofLiteral numeric v.text fun isInt => absurd isInt (by decide)
  obtain ⟨d, _, shown⟩ := tiny.exists_scientific
  cases data with
  | none => exact read
  | some datum => exact absurd ((exact datum).mp rfl) shown.not_spellsDatum

end Value

structure Fact.ReadsBack (schema : Schema) (fact : Fact) : Prop where
  normal : ¬ fact.value.IsTiny → readFact schema (.scalar fact.text) = .ok fact
  /-- The line of a tiny value is refused. -/
  tiny : fact.value.IsTiny →
    (∃ d, fact.value.data = some (.decimal d) ∧ SpellsScientific fact.value.text.toList d) ∧
    ∃ e, readFact schema (.scalar fact.text) = .error (.error e) ∧
      e.message = "Failed to parse decimal value in fact: " ++ fact.text ∧
      e.details = [("fact_id", fact.id), ("literal", fact.value.text)]

theorem Value.IsTiny.type_eq {v : Value} (tiny : v.IsTiny) (wellFormed : v.IsWellFormed) :
    v.type = .decimal := by
  obtain ⟨_, _, _, set, _⟩ := tiny
  obtain ⟨datum, set', suits⟩ := wellFormed
  rw [set] at set'
  cases set'
  cases type : v.type <;> rw [type] at suits <;> first | rfl | cases suits

theorem readFact_of_unset {schema : Schema} {id literal : String} {type : ScalarType}
    (spaceless : ' ' ∉ id.toList) (declared : schema.get? id = some type)
    (unset : Value.ofLiteral type literal = .ok ⟨type, none⟩) :
    readFact schema (.scalar (id ++ " = " ++ literal)) =
      .error (.error ((Error.unreadableLiteral type id literal).within
        (.factLine (id ++ " = " ++ literal)))) := by
  have line : Line.ofText (id ++ " = " ++ literal) = .three id "=" literal :=
    Line.ofText_eq_three.mpr ⟨by simp [String.append_assoc], spaceless, by decide⟩
  have filled : ¬ (id ++ " = " ++ literal).isEmpty = true := by simp
  simp only [readFact, Tree.text?, if_neg filled, readFactText, line, Schema.fact,
    Schema.lookup_eq_ok.mpr declared, unset]
  rfl

theorem readFact_readsBack {schema : Schema} {tree : Tree} {fact : Fact}
    (read : readFact schema tree = .ok fact) : fact.ReadsBack schema := by
  obtain ⟨parts, _, denoted⟩ := readFact_eq_ok.mp read
  cases denoted with
  | @fact id literal value spaceless reads =>
    constructor
    case normal =>
      intro normal
      have again := Value.ofLiteral_text reads.read reads.set normal
      apply readFact_eq_ok.mpr
      exact ⟨⟨id, value.text⟩, rfl, .fact spaceless ⟨reads.declared, again, reads.set⟩⟩
    case tiny =>
      intro tiny
      have declared := reads.declared
      rw [tiny.type_eq reads.admits.wellFormed] at declared
      have refused := readFact_of_unset spaceless declared tiny.ofLiteral_text
      exact ⟨tiny.exists_scientific, _, refused, rfl, rfl⟩

/-- A number with seven places behind the point, the first six of them zeros. -/
theorem tinyRate_readsBack :
    ∃ fact, readFact ⟨"facts", [("rate", .decimal)], by decide⟩ (.scalar "rate = +.0000001") =
        .ok fact ∧
      fact.value.IsTiny ∧ fact.ReadsBack ⟨"facts", [("rate", .decimal)], by decide⟩ := by
  have read : readFact ⟨"facts", [("rate", .decimal)], by decide⟩ (.scalar "rate = +.0000001") =
      .ok ⟨"rate", ⟨.decimal, some (.decimal (.finite false 1 (-7)))⟩⟩ := rfl
  have tiny : Decimal.adjusted 1 (-7) < -6 := by decide
  exact ⟨_, read, ⟨_, _, _, rfl, tiny⟩, readFact_readsBack read⟩

example : Fact.text ⟨"rate", ⟨.decimal, some (.decimal (.finite false 1 (-7)))⟩⟩ = "rate = 1E-7" ∧
    Fact.text ⟨"rate", ⟨.decimal, some (.decimal (.finite true 10 (-7)))⟩⟩ = "rate = -0.0000010" := by
  decide

end Deduce
