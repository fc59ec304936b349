import Deduce.Rule.Table
import Mathlib.Data.List.Infix

/-!
# Lines of a description

The description of a tree is meant for one line. A scalar by itself keeps to that, and so do texts that
are plain or in double quotes. Single quotes hold a line break as it is: a description has several lines
just if a text in a collection has a break and can stand in single quotes.
-/

namespace Deduce

namespace Text

def lineEnds : List Char :=
  ['\n', '\x0b', '\x0c', '\r', '\x1c', '\x1d', '\x1e', '\u0085', '\u2028', '\u2029']

def OnOneLine (s : String) : Prop := ∀ c ∈ lineEnds, c ∉ s.toList

/-- The space and the characters of ASCII that can be seen. -/
def IsVisible (c : Char) : Prop := 0x20 ≤ c.toNat ∧ c.toNat ≤ 0x7E

instance (c : Char) : Decidable (IsVisible c) := inferInstanceAs (Decidable (_ ∧ _))

variable {c d : Char}

/-- A decidable property of some characters is checked one by one, not over the whole type. -/
theorem forall_mem_of_all {p : Char → Prop} [DecidablePred p] {cs : List Char}
    (checked : cs.all (fun c => decide (p c)) = true) : ∀ c ∈ cs, p c := by
  simpa using checked

theorem not_isVisible : ∀ c ∈ lineEnds, ¬ IsVisible c := forall_mem_of_all (by decide)

theorem IsVisible.ne (visible : IsVisible d) (ends : c ∈ lineEnds) : c ≠ d :=
  fun same => not_isVisible c ends (same ▸ visible)

theorem exists_digit {n : Nat} : ∀ c ∈ Nat.toDigits 16 n, ∃ d < 16, c = Nat.digitChar d := by
  induction n using Nat.strongRecOn with
  | ind n ih =>
    intro c member
    by_cases single : n < 16
    · rw [Nat.toDigits_of_lt_base single, List.mem_singleton] at member
      exact ⟨n, single, member⟩
    · rw [Nat.toDigits_of_base_le (by decide) (not_lt.mp single), List.mem_append,
        List.mem_singleton] at member
      rcases member with high | low
      · exact ih (n / 16) (by omega) c high
      · exact ⟨n % 16, Nat.mod_lt n (by decide), low⟩

theorem exists_hexadecimal {width n : Nat} :
    ∀ c ∈ hexadecimal width n, ∃ d < 16, c = Nat.digitChar d := by
  intro c member
  rcases List.mem_append.mp member with zero | digit
  · exact ⟨0, by decide, List.eq_of_mem_replicate zero⟩
  · exact exists_digit c digit

theorem isVisible_hexadecimal {width n : Nat} : ∀ c ∈ hexadecimal width n, IsVisible c := by
  intro c member
  obtain ⟨d, small, rfl⟩ := exists_hexadecimal c member
  exact (by decide : ∀ d < 16, IsVisible (Nat.digitChar d)) d small

theorem isVisible_escape {mark : Char} (visible : IsVisible mark) {code : List Char}
    (digits : ∀ c ∈ code, IsVisible c) : ∀ c ∈ '\\' :: mark :: code, IsVisible c := by
  rw [List.forall_mem_cons, List.forall_mem_cons]
  exact ⟨by decide, visible, digits⟩

theorem isVisible_escapeCode (d : Char) : ∀ c ∈ escapeCode d, IsVisible c := by
  simp only [escapeCode]
  split_ifs
  · exact isVisible_escape (by decide : IsVisible 'x') isVisible_hexadecimal
  · exact isVisible_escape (by decide : IsVisible 'u') isVisible_hexadecimal
  · exact isVisible_escape (by decide : IsVisible 'U') isVisible_hexadecimal

theorem quoteChar_eq_or {quote : Char} (visible : IsVisible quote) (d : Char) :
    quoteChar quote d = [d] ∨ ∀ c ∈ quoteChar quote d, IsVisible c := by
  unfold quoteChar
  split_ifs with own
  · have itself : IsVisible d := by
      rcases Bool.or_eq_true_iff.mp own with same | same
      · exact beq_iff_eq.mp same ▸ visible
      · exact beq_iff_eq.mp same ▸ by decide
    exact .inr (isVisible_escape itself (List.forall_mem_nil _))
  · exact .inr (forall_mem_of_all (by decide))
  · exact .inr (forall_mem_of_all (by decide))
  · exact .inr (forall_mem_of_all (by decide))
  · exact .inl rfl
  · exact .inr (isVisible_escapeCode d)

theorem isVisible_quoteFor (cs : List Char) : IsVisible (quoteFor cs) := by
  unfold quoteFor
  split_ifs <;> decide

/-- A way of spelling characters by which no character that ends a line is left as it is. -/
structure HidesLineEnds (spell : Char → List Char) : Prop where
  spelled : ∀ d, spell d = [d] ∨ ∀ c ∈ spell d, IsVisible c
  ends : ∀ c ∈ lineEnds, spell c ≠ [c]

theorem HidesLineEnds.not_mem {spell : Char → List Char} (h : HidesLineEnds spell)
    (ends : c ∈ lineEnds) (cs : List Char) : c ∉ cs.flatMap spell := by
  intro member
  obtain ⟨d, _, written⟩ := List.mem_flatMap.mp member
  rcases h.spelled d with itself | visible
  · rw [itself, List.mem_singleton] at written
    subst written
    exact h.ends c ends itself
  · exact not_isVisible c ends (visible c written)

theorem hidesLineEnds_quoteChar {quote : Char} (visible : IsVisible quote) :
    HidesLineEnds (quoteChar quote) where
  spelled := quoteChar_eq_or visible
  ends := by
    intro c ends
    have other {mark : Char} (visible : IsVisible mark) : (c == mark) = false :=
      beq_eq_false_iff_ne.mpr (visible.ne ends)
    have same : quoteChar quote c = quoteChar '\'' c := by
      simp only [quoteChar, other visible, other (by decide : IsVisible '\'')]
    have spelled : ∀ c ∈ lineEnds, quoteChar '\'' c ≠ [c] := forall_mem_of_all (by decide +kernel)
    rw [same]
    exact spelled c ends

theorem mem_enclosed {mark : Char} (visible : IsVisible mark) (ends : c ∈ lineEnds)
    {cs : List Char} : c ∈ mark :: cs ++ [mark] ↔ c ∈ cs := by
  simp [visible.ne ends]

theorem onOneLine_quoted (s : String) : OnOneLine (quoted s) := by
  intro c ends
  have visible := isVisible_quoteFor s.toList
  rw [quoted, String.toList_ofList, mem_enclosed visible ends]
  exact (hidesLineEnds_quoteChar visible).not_mem ends s.toList

end Text

/-- The text has line breaks and nothing that keeps it out of single quotes: all characters are written
as they are, and no space stands beside a break. -/
structure Flow.Spreads (text : String) : Prop where
  breaks : ∃ c ∈ text.toList, isBreak c = true
  ordinary : ∀ c ∈ text.toList, isOrdinary c = true
  apart : ∀ a b, [a, b] <:+: text.toList →
    ¬ (isBreak a = true ∧ b = ' ') ∧ ¬ (a = ' ' ∧ isBreak b = true)

namespace Flow

open Text

variable {c : Char}

theorem isOrdinary_eq_isBreak : ∀ c ∈ lineEnds, isOrdinary c = isBreak c :=
  forall_mem_of_all (by decide)

theorem mem_lineEnds_of_isBreak (isBreak : isBreak c = true) : c ∈ lineEnds := by
  simp only [Flow.isBreak, Bool.or_eq_true, beq_iff_eq] at isBreak
  rcases isBreak with ((rfl | rfl) | rfl) | rfl <;> decide

theorem hasNeighbours_iff {test : Char → Char → Bool} {cs : List Char} :
    hasNeighbours test cs = true ↔ ∃ a b, [a, b] <:+: cs ∧ test a b = true := by
  fun_induction hasNeighbours test cs with
  | case1 a b rest ih =>
    simp only [Bool.or_eq_true, ih, List.infix_cons_iff (a := a), List.cons_prefix_cons,
      List.nil_prefix, and_true]
    constructor
    · rintro (first | ⟨a', b', inside, later⟩)
      · exact ⟨a, b, .inl ⟨rfl, rfl⟩, first⟩
      · exact ⟨a', b', .inr inside, later⟩
    · rintro ⟨a', b', ⟨rfl, rfl⟩ | inside, found⟩
      · exact .inl found
      · exact .inr ⟨a', b', inside, found⟩
  | case2 cs short =>
    refine iff_of_false (by simp) ?_
    rintro ⟨a, b, inside, _⟩
    obtain ⟨front, back, rfl⟩ := inside
    cases front with
    | nil => exact short a b back rfl
    | cons first front => cases front <;> exact short _ _ _ rfl

theorem isSingleQuotable_iff {cs : List Char} : isSingleQuotable cs = true ↔
    (∀ c ∈ cs, isOrdinary c = true) ∧ ∀ a b, [a, b] <:+: cs →
      ¬ (isBreak a = true ∧ b = ' ') ∧ ¬ (a = ' ' ∧ isBreak b = true) := by
  rw [isSingleQuotable, Bool.and_eq_true, List.all_eq_true, Bool.not_eq_true',
    ← Bool.not_eq_true, hasNeighbours_iff]
  simp only [Bool.or_eq_true, Bool.and_eq_true, beq_iff_eq, not_exists, not_and, not_or]

theorem isVisible_upperHex {width n : Nat} : ∀ c ∈ upperHex width n, IsVisible c := by
  intro c member
  obtain ⟨d, digit, rfl⟩ := List.mem_map.mp member
  obtain ⟨k, small, rfl⟩ := exists_hexadecimal d digit
  exact (by decide : ∀ k < 16, IsVisible (Nat.digitChar k).toUpper) k small

theorem isVisible_escapeLetter {letter : Char} {d : Char} (escape : escapeLetter? d = some letter) :
    IsVisible letter := by
  unfold escapeLetter? at escape
  split at escape <;> cases escape <;> decide

theorem hidesLineEnds_doubleQuotedChar : HidesLineEnds doubleQuotedChar where
  spelled := by
    intro d
    simp only [doubleQuotedChar]
    split
    · rename_i letter escape
      exact .inr (isVisible_escape (isVisible_escapeLetter escape) (List.forall_mem_nil _))
    · split_ifs
      · exact .inl rfl
      · exact .inr (isVisible_escape (by decide : IsVisible 'x') isVisible_upperHex)
      · exact .inr (isVisible_escape (by decide : IsVisible 'u') isVisible_upperHex)
      · exact .inr (isVisible_escape (by decide : IsVisible 'U') isVisible_upperHex)
  ends := forall_mem_of_all (by decide)

/-- Inside single quotes line breaks stand as they are. -/
theorem mem_singleQuotedBody (ends : c ∈ lineEnds) (indent : Nat) (afterBreak : Bool)
    (cs : List Char) : c ∈ singleQuotedBody indent afterBreak cs ↔ c ∈ cs := by
  have space : c ∉ List.replicate indent ' ' := fun member =>
    IsVisible.ne (by decide : IsVisible ' ') ends (List.eq_of_mem_replicate member)
  have quote : c ≠ '\'' := IsVisible.ne (by decide) ends
  induction cs generalizing afterBreak with
  | nil =>
    unfold singleQuotedBody
    split_ifs <;> simp [space]
  | cons d rest ih =>
    unfold singleQuotedBody
    split_ifs with lineBreak feed ended quoted quoted
    · have own : d = '\n' := by simpa using (Bool.and_eq_true_iff.mp feed).2
      simp [ih, own]
    · simp [ih]
    · simp [ih, space, quote, beq_iff_eq.mp quoted]
    · simp [ih, space]
    · simp [ih, quote, beq_iff_eq.mp quoted]
    · simp [ih]

/-- A text takes its line breaks along just if it is written in single quotes. -/
theorem mem_scalarText (ends : c ∈ lineEnds) (depth : Nat) (text : String) :
    c ∈ (scalarText depth text).toList ↔ isSingleQuotable text.toList = true ∧ c ∈ text.toList := by
  simp only [scalarText]
  split_ifs with plain single
  · simp only [isPlain, Bool.and_eq_true, List.all_eq_true, Bool.not_eq_true'] at plain
    obtain ⟨⟨⟨⟨⟨_, ordinary⟩, single⟩, _⟩, _⟩, _⟩ := plain
    have absent : c ∉ text.toList := by
      intro member
      have breaks := (isOrdinary_eq_isBreak c ends).symm.trans (ordinary c member)
      exact List.any_eq_false.mp single c member breaks
    simp [absent]
  · rw [String.toList_ofList, mem_enclosed (by decide) ends, mem_singleQuotedBody ends]
    simp [single]
  · rw [String.toList_ofList, mem_enclosed (by decide) ends]
    simp [single, hidesLineEnds_doubleQuotedChar.not_mem ends]

theorem spreads_iff {text : String} :
    Spreads text ↔ isSingleQuotable text.toList = true ∧ ∃ c ∈ lineEnds, c ∈ text.toList := by
  rw [isSingleQuotable_iff]
  constructor
  · rintro ⟨⟨c, member, breaks⟩, ordinary, apart⟩
    exact ⟨⟨ordinary, apart⟩, c, mem_lineEnds_of_isBreak breaks, member⟩
  · rintro ⟨⟨ordinary, apart⟩, c, ends, member⟩
    have breaks := (isOrdinary_eq_isBreak c ends).symm.trans (ordinary c member)
    exact ⟨⟨c, member, breaks⟩, ordinary, apart⟩

end Flow

mutual

def Plain.texts : Plain → List String
  | .text s => [s]
  | .list items => textsOfItems items
  | .entries pairs => textsOfPairs pairs

def Plain.textsOfItems : List Plain → List String
  | [] => []
  | item :: rest => item.texts ++ textsOfItems rest

def Plain.textsOfPairs : List (String × Plain) → List String
  | [] => []
  | (key, value) :: rest => key :: value.texts ++ textsOfPairs rest

end

namespace Flow

open Text

variable {c : Char}

/-- One of the texts takes the line break along. -/
def Carried (c : Char) (texts : List String) : Prop :=
  ∃ text ∈ texts, isSingleQuotable text.toList = true ∧ c ∈ text.toList

@[simp] theorem not_carried_nil : ¬ Carried c [] := by simp [Carried]

@[simp] theorem carried_cons {text : String} {rest : List String} : Carried c (text :: rest) ↔
    (isSingleQuotable text.toList = true ∧ c ∈ text.toList) ∨ Carried c rest := by
  simp [Carried]

@[simp] theorem carried_append {front back : List String} :
    Carried c (front ++ back) ↔ Carried c front ∨ Carried c back := by
  simp [Carried, or_and_right, exists_or]

theorem mem_separated (ends : c ∈ lineEnds) (parts : List String) :
    c ∈ (String.intercalate ", " parts).toList ↔ ∃ part ∈ parts, c ∈ part.toList := by
  have comma : c ≠ ',' := IsVisible.ne (by decide) ends
  have blank : c ≠ ' ' := IsVisible.ne (by decide) ends
  induction parts with
  | nil => simp
  | cons part rest ih =>
    cases rest with
    | nil => simp
    | cons next rest =>
      simp only [String.intercalate_cons_cons, String.toList_append, List.mem_append, ih]
      simp [comma, blank]

theorem mem_pairText (ends : c ∈ lineEnds) (depth : Nat) (key value : String) :
    c ∈ (pairText depth key value).toList ↔
      (isSingleQuotable key.toList = true ∧ c ∈ key.toList) ∨ c ∈ value.toList := by
  have colon : c ≠ ':' := IsVisible.ne (by decide) ends
  have blank : c ≠ ' ' := IsVisible.ne (by decide) ends
  have mark : c ≠ '?' := IsVisible.ne (by decide) ends
  simp only [pairText, ← mem_scalarText ends depth key]
  split_ifs <;> simp [colon, blank, mark]

theorem mem_bracketed {opening closing : String} (ends : c ∈ lineEnds)
    (visible : ∀ d ∈ opening.toList ++ closing.toList, IsVisible d) (inner : String) :
    c ∈ (opening ++ inner ++ closing).toList ↔ c ∈ inner.toList := by
  have outside : c ∉ opening.toList ++ closing.toList := fun member =>
    not_isVisible c ends (visible c member)
  rw [List.mem_append, not_or] at outside
  simp [outside]

mutual

/-- A description of a plain tree has the line breaks that its texts take along. -/
theorem mem_plainText (ends : c ∈ lineEnds) (depth : Nat) :
    ∀ tree : Plain, c ∈ (plainText depth tree).toList ↔ Carried c tree.texts
  | .text s => by
    rw [plainText, Plain.texts, mem_scalarText ends]
    simp
  | .list items => by
    rw [plainText, Plain.texts, mem_bracketed ends (forall_mem_of_all (by decide)), mem_separated ends]
    exact mem_itemTexts ends (depth + 1) items
  | .entries pairs => by
    rw [plainText, Plain.texts, mem_bracketed ends (forall_mem_of_all (by decide)), mem_separated ends]
    exact mem_pairTexts ends (depth + 1) pairs

theorem mem_itemTexts (ends : c ∈ lineEnds) (depth : Nat) : ∀ items : List Plain,
    (∃ part ∈ itemTexts depth items, c ∈ part.toList) ↔ Carried c (Plain.textsOfItems items)
  | [] => by simp [itemTexts, Plain.textsOfItems]
  | item :: rest => by
    rw [itemTexts, Plain.textsOfItems, carried_append, ← mem_plainText ends depth item,
      ← mem_itemTexts ends depth rest]
    simp

theorem mem_pairTexts (ends : c ∈ lineEnds) (depth : Nat) : ∀ pairs : List (String × Plain),
    (∃ part ∈ pairTexts depth pairs, c ∈ part.toList) ↔ Carried c (Plain.textsOfPairs pairs)
  | [] => by simp [pairTexts, Plain.textsOfPairs]
  | (key, value) :: rest => by
    rw [pairTexts, Plain.textsOfPairs, List.cons_append, carried_cons, carried_append,
      ← mem_plainText ends depth value, ← mem_pairTexts ends depth rest]
    simp [mem_pairText ends, or_assoc]

end

end Flow

namespace Tree

/-- A tree is described on one line just if it is a scalar, or none of its texts has a line break that
single quotes can hold. -/
theorem flowText_onOneLine_iff (tree : Tree) : Text.OnOneLine tree.flowText ↔
    (∃ text, tree = .scalar text) ∨ ∀ text ∈ tree.plain.texts, ¬ Flow.Spreads text := by
  have collected : Text.OnOneLine (Flow.plainText 0 tree.plain) ↔
      ∀ text ∈ tree.plain.texts, ¬ Flow.Spreads text := by
    simp only [Flow.spreads_iff]
    constructor
    · rintro single text among ⟨quotable, c, ends, member⟩
      exact single c ends ((Flow.mem_plainText ends 0 _).mpr ⟨text, among, quotable, member⟩)
    · intro none c ends member
      obtain ⟨text, among, quotable, own⟩ := (Flow.mem_plainText ends 0 _).mp member
      exact none text among ⟨quotable, c, ends, own⟩
  cases tree with
  | scalar text => exact iff_of_true (Text.onOneLine_quoted text) (.inl ⟨text, rfl⟩)
  | sequence items | mapping pairs =>
    exact collected.trans (or_iff_right (by simp)).symm

def unnamed : Tree := .mapping [(.scalar "description", .scalar "a\nb")]

/-- The rule is described on several lines, and so it stands in the error that its reading meets. -/
theorem unnamed_spans_lines :
    unnamed.flowText = "\x7bdescription: 'a\n\n    b'\x7d" ∧ ¬ Text.OnOneLine unnamed.flowText ∧
      RuleTable.ofTree (.empty "facts") (.sequence [unnamed]) =
        .error (.error (.missingName unnamed.flowText)) := by
  have described : unnamed.flowText = "\x7bdescription: 'a\n\n    b'\x7d" := by rfl
  refine ⟨described, ?_, rfl⟩
  rw [described]
  intro single
  exact single '\n' (by decide) (by decide)

end Tree

end Deduce
