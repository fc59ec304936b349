import Deduce.Proofs.Reading.Drafts
import Deduce.Proofs.Reading.Lines
import Deduce.Proofs.Results
import Deduce.Proofs.Typing.Supplied

/-!
# The grammar of lines

A condition, a fact or an action is accepted just if its line is put together of parts that say
something in the schema. No line is put together in two ways, and what is read is what the parts say.
-/

namespace Deduce

variable {schema : Schema}

/-- A reader of texts reads a node that is a text, and no empty one. -/
theorem readText_eq_ok {π α : Type} {read : String → Except Failure α} {compose : π → String}
    {Denotes : π → α → Prop}
    (reads : ∀ text a, read text = .ok a ↔ ∃ parts, text = compose parts ∧ Denotes parts a)
    (filled : ∀ parts a, Denotes parts a → compose parts ≠ "") {tree : Tree} {refusal : Failure}
    {a : α} :
    (match tree.text? with
      | none => Except.error refusal
      | some text => read text) = .ok a ↔
      ∃ parts, tree = .scalar (compose parts) ∧ Denotes parts a := by
  constructor
  · intro h
    split at h
    · cases h
    · rename_i text said
      obtain ⟨parts, rfl, denoted⟩ := (reads text a).mp h
      exact ⟨parts, (Tree.text?_eq_some.mp said).1, denoted⟩
  · rintro ⟨parts, rfl, denoted⟩
    rw [Tree.text?_eq_some.mpr ⟨rfl, filled parts a denoted⟩]
    exact (reads _ a).mpr ⟨parts, rfl, denoted⟩

theorem Value.ofLiteral_eq_ok {type : ScalarType} {text : String} {v : Value}
    (h : Value.ofLiteral type text = .ok v) :
    v.type = type ∧ ∀ datum, v.data = some datum → text ≠ "" ∧ type.read text = .ok (some datum) := by
  unfold Value.ofLiteral at h
  split at h
  · cases h
    exact ⟨rfl, fun datum set => by cases set⟩
  · rename_i filled
    obtain ⟨data, read, rfl⟩ := map_eq_ok.mp h
    refine ⟨rfl, fun datum set => ⟨by simpa using filled, ?_⟩⟩
    rw [read, ← set]

structure Schema.Reads (schema : Schema) (id literal : String) (value : Value) : Prop where
  declared : schema.get? id = some value.type
  read : Value.ofLiteral value.type literal = .ok value
  set : value.isUnset = false

theorem Schema.fact_eq_ok_iff {id literal : String} {fact : Fact} :
    schema.fact id literal = .ok fact ↔
      ∃ value, schema.Reads id literal value ∧ fact = ⟨id, value⟩ := by
  constructor
  · intro h
    unfold Schema.fact at h
    split at h
    · cases h
    · rename_i type declared
      split at h
      · cases h
      · rename_i value read
        split at h
        · cases h
        · rename_i set
          cases h
          obtain ⟨rfl, _⟩ := Value.ofLiteral_eq_ok read
          exact ⟨value, ⟨lookup_eq_ok.mp declared, read, by simpa using set⟩, rfl⟩
  · rintro ⟨value, ⟨declared, read, set⟩, rfl⟩
    simp only [Schema.fact, lookup_eq_ok.mpr declared, read, set, Bool.false_eq_true, if_false]

def Operator.sign? : Operator → Option Char
  | isDefined => some '&'
  | notDefined => some '!'
  | _ => none

theorem presenceCheck?_eq_some {sign : Char} {op : Operator} :
    presenceCheck? sign = some op ↔ op.sign? = some sign := by
  constructor
  · intro h
    unfold presenceCheck? at h
    split at h
    · rename_i isSign
      cases h
      rw [beq_iff_eq.mp isSign]
      rfl
    · split at h
      · rename_i isSign
        cases h
        rw [beq_iff_eq.mp isSign]
        rfl
      · cases h
  · intro h
    cases op <;> cases h <;> rfl

theorem Operator.ofToken?_eq_some {token : String} {op : Operator} :
    ofToken? token = some op ↔ op.token? = some token := by
  constructor
  · intro h
    simpa using List.find?_some h
  · intro h
    cases op <;> cases h <;> decide

theorem Operator.token_spaceless {token : String} {op : Operator} (h : op.token? = some token) :
    ' ' ∉ token.toList := by
  cases op <;> cases h <;> decide

/-- The word in any letter case; `word` itself is in lower case. -/
def Spells (spelled word : String) : Prop :=
  List.Forall₂ (fun c letter : Char => c = letter ∨ c = letter.toUpper) spelled.toList word.toList

def combinatorWord (isAnd : Bool) : String := if isAnd then "and" else "or"

theorem toLower_eq_iff {c letter : Char} (lower : 'a' ≤ letter ∧ letter ≤ 'z') :
    c.toLower = letter ↔ c = letter ∨ c = letter.toUpper := by
  have range : 'a'.val ≤ letter.val ∧ letter.val ≤ 'z'.val := lower
  have raised : letter.toUpper.val = letter.val + ('A'.val - 'a'.val) := by
    change Char.val (dite _ _ _) = _
    rw [dif_pos range]
  by_cases upper : 'A'.val ≤ c.val ∧ c.val ≤ 'Z'.val
  · have lowered : c.toLower.val = c.val + ('a'.val - 'A'.val) := by
      change Char.val (dite _ _ _) = _
      rw [dif_pos upper]
    -- 'A' minus 'a' wraps around, so the two shifts cancel
    simp only [Char.ext_iff, raised, lowered]
    grind
  · have same : c.toLower = c := dif_neg upper
    rw [same]
    simp only [Char.ext_iff, raised]
    grind

theorem map_toLower_eq_iff {cs letters : List Char}
    (lower : ∀ letter ∈ letters, 'a' ≤ letter ∧ letter ≤ 'z') :
    cs.map Char.toLower = letters ↔
      List.Forall₂ (fun c letter : Char => c = letter ∨ c = letter.toUpper) cs letters := by
  induction letters generalizing cs with
  | nil => simp
  | cons letter rest ih =>
    cases cs with
    | nil => simp
    | cons c cs =>
      rw [List.forall_mem_cons] at lower
      simp only [List.map_cons, List.cons.injEq, List.forall₂_cons, toLower_eq_iff lower.1,
        ih lower.2]

theorem combinator?_eq_some {word : String} {isAnd : Bool} :
    combinator? word = some isAnd ↔ Spells word (combinatorWord isAnd) := by
  have lower : ∀ letter ∈ (combinatorWord isAnd).toList, 'a' ≤ letter ∧ letter ≤ 'z' := by
    cases isAnd <;> simp [combinatorWord]
  rw [Spells, ← map_toLower_eq_iff lower]
  unfold combinator?
  generalize word.toList.map Char.toLower = cs
  by_cases first : cs = "and".toList
  · subst first
    cases isAnd <;> decide
  · by_cases second : cs = "or".toList
    · subst second
      cases isAnd <;> decide
    · rw [if_neg (by simpa using first), if_neg (by simpa using second)]
      cases isAnd with
      | true => exact iff_of_false nofun first
      | false => exact iff_of_false nofun second

theorem Spells.isAlpha {word : String} {isAnd : Bool} (spelled : Spells word (combinatorWord isAnd))
    {c : Char} (member : c ∈ word.toList) : c.isAlpha = true := by
  have alphabetic : ∀ letter ∈ (combinatorWord isAnd).toList,
      letter.isAlpha = true ∧ letter.toUpper.isAlpha = true := by
    cases isAnd <;> simp [combinatorWord]
  obtain ⟨letter, among, same⟩ := exists_left_of_forall₂ (List.Forall₂.flip spelled) member
  rcases same with rfl | rfl
  · exact (alphabetic _ among).1
  · exact (alphabetic letter among).2

theorem Operator.sign_ne_space {sign : Char} {op : Operator} (check : op.sign? = some sign) :
    sign ≠ ' ' := by
  cases op <;> cases check <;> decide

theorem Operator.sign_not_isAlpha {sign : Char} {op : Operator} (check : op.sign? = some sign) :
    sign.isAlpha = false := by
  cases op <;> cases check <;> decide

theorem readPresence?_eq_some {word id : String} {op : Operator} :
    readPresence? word = some (op, id) ↔
      ∃ sign, op.sign? = some sign ∧ word = String.singleton sign ++ id := by
  constructor
  · intro h
    unfold readPresence? at h
    split at h
    · cases h
    · rename_i sign rest chars
      obtain ⟨op', check, same⟩ := Option.map_eq_some_iff.mp h
      cases same
      refine ⟨sign, presenceCheck?_eq_some.mp check, ?_⟩
      rw [← String.toList_inj, chars]
      simp
  · rintro ⟨sign, check, rfl⟩
    simp [readPresence?, presenceCheck?_eq_some.mpr check]

theorem Spells.readPresence?_eq_none {word : String} {isAnd : Bool}
    (spelled : Spells word (combinatorWord isAnd)) : readPresence? word = none := by
  cases presence : readPresence? word with
  | none => rfl
  | some found =>
    obtain ⟨sign, check, rfl⟩ := readPresence?_eq_some.mp presence
    have letter : sign.isAlpha = true := spelled.isAlpha (by simp)
    rw [Operator.sign_not_isAlpha check] at letter
    cases letter

inductive ConditionParts where
  | presence (sign : Char) (id : String)
  | combinator (word : String)
  | comparison (id token literal : String)

namespace ConditionParts

def text : ConditionParts → String
  | presence sign id => String.singleton sign ++ id
  | combinator word => word
  | comparison id token literal => id ++ " " ++ token ++ " " ++ literal

/-- What the parts of a condition line say. The literal may hold spaces, nothing else may. -/
inductive Denotes (schema : Schema) : ConditionParts → ConditionLine → Prop
  | presence {sign : Char} {id : String} {op : Operator} (check : op.sign? = some sign)
      (spaceless : ' ' ∉ id.toList) (declared : id ∈ schema.ids) :
      Denotes schema (.presence sign id) (.condition ⟨id, op, none⟩)
  | combinator {word : String} {isAnd : Bool} (spelled : Spells word (combinatorWord isAnd)) :
      Denotes schema (.combinator word) (.combinator isAnd)
  | comparison {id token literal : String} {op : Operator} {value : Value}
      (known : op.token? = some token) (spaceless : ' ' ∉ id.toList)
      (read : schema.Reads id literal value) :
      Denotes schema (.comparison id token literal) (.condition ⟨id, op, some value⟩)

/-- The one way in which a line can be put together. -/
def ofText (text : String) : ConditionParts :=
  match Line.ofText text with
  | .three id token literal => comparison id token literal
  | _ =>
    match text.toList with
    | [] => combinator text
    | sign :: id => if sign.isAlpha then combinator text else presence sign (String.ofList id)

variable {parts : ConditionParts} {line : ConditionLine}

theorem line_presence {sign : Char} {id : String} {op : Operator} (check : op.sign? = some sign)
    (spaceless : ' ' ∉ id.toList) :
    Line.ofText (presence sign id).text = .one (presence sign id).text := by
  refine Line.ofText_eq_one.mpr ⟨rfl, ?_⟩
  simpa [text, spaceless] using (Operator.sign_ne_space check).symm

theorem line_combinator {word : String} {isAnd : Bool}
    (spelled : Spells word (combinatorWord isAnd)) :
    Line.ofText (combinator word).text = .one (combinator word).text :=
  Line.ofText_eq_one.mpr ⟨rfl, fun space => absurd (spelled.isAlpha space) (by decide)⟩

theorem line_comparison {id token : String} {op : Operator} (known : op.token? = some token)
    (spaceless : ' ' ∉ id.toList) (literal : String) :
    Line.ofText (comparison id token literal).text = .three id token literal :=
  Line.ofText_eq_three.mpr ⟨rfl, spaceless, Operator.token_spaceless known⟩

end ConditionParts

theorem readConditionText_eq_ok {text : String} {line : ConditionLine} :
    readConditionText schema text = .ok line ↔
      ∃ parts : ConditionParts, text = parts.text ∧ parts.Denotes schema line := by
  constructor
  · intro h
    unfold readConditionText at h
    split at h
    case h_1 word one =>
      obtain ⟨rfl, spaceless⟩ := Line.ofText_eq_one.mp one
      split at h
      · rename_i op id presence
        obtain ⟨sign, check, rfl⟩ := readPresence?_eq_some.mp presence
        split at h
        · rename_i type declared
          cases h
          refine ⟨.presence sign id, rfl, .presence check ?_ ?_⟩
          · exact fun space => spaceless (by simp [space])
          · exact schema.mem_ids.mpr ⟨type, Schema.lookup_eq_ok.mp declared⟩
        · cases h
      · split at h
        · rename_i isAnd spelled
          cases h
          exact ⟨.combinator text, rfl, .combinator (combinator?_eq_some.mp spelled)⟩
        · cases h
    case h_2 => cases h
    case h_3 id token literal three =>
      obtain ⟨rfl, spaceless, _⟩ := Line.ofText_eq_three.mp three
      split at h
      · cases h
      · rename_i fact read
        obtain ⟨value, denoted, rfl⟩ := Schema.fact_eq_ok_iff.mp (atPlace_eq_ok.mp read)
        split at h
        · rename_i op known
          cases h
          exact ⟨.comparison id token literal, rfl,
            .comparison (Operator.ofToken?_eq_some.mp known) spaceless denoted⟩
        · cases h
  · rintro ⟨parts, rfl, denoted⟩
    unfold readConditionText
    cases denoted with
    | @presence sign id op check spaceless declared =>
      obtain ⟨type, declared⟩ := schema.mem_ids.mp declared
      have presence : readPresence? (String.singleton sign ++ id) = some (op, id) :=
        readPresence?_eq_some.mpr ⟨sign, check, rfl⟩
      simp only [ConditionParts.line_presence check spaceless]
      simp only [ConditionParts.text, presence, Schema.lookup_eq_ok.mpr declared]
    | combinator spelled =>
      simp only [ConditionParts.line_combinator spelled]
      simp only [ConditionParts.text, spelled.readPresence?_eq_none,
        combinator?_eq_some.mpr spelled]
    | @comparison id token literal op value known spaceless read =>
      have accepted (place : Place) : atPlace place (schema.fact id literal) = .ok ⟨id, value⟩ :=
        atPlace_eq_ok.mpr (Schema.fact_eq_ok_iff.mpr ⟨value, read, rfl⟩)
      simp only [ConditionParts.line_comparison known spaceless, accepted,
        Operator.ofToken?_eq_some.mpr known]

theorem readCondition_eq_ok {tree : Tree} {line : ConditionLine} :
    readCondition schema tree = .ok line ↔
      ∃ parts : ConditionParts, tree = .scalar parts.text ∧ parts.Denotes schema line := by
  apply readText_eq_ok fun _ _ => readConditionText_eq_ok
  intro parts line denoted empty
  have read : readConditionText schema "" = .ok line :=
    readConditionText_eq_ok.mpr ⟨parts, empty.symm, denoted⟩
  cases read

@[ext]
structure FactParts where
  id : String
  literal : String

namespace FactParts

def text (parts : FactParts) : String := parts.id ++ " = " ++ parts.literal

inductive Denotes (schema : Schema) : FactParts → Fact → Prop
  | fact {id literal : String} {value : Value} (spaceless : ' ' ∉ id.toList)
      (read : schema.Reads id literal value) : Denotes schema ⟨id, literal⟩ ⟨id, value⟩

variable {parts parts' : FactParts} {fact fact' : Fact}

theorem line (denoted : parts.Denotes schema fact) :
    Line.ofText parts.text = .three parts.id "=" parts.literal := by
  obtain ⟨spaceless, _⟩ := denoted
  exact Line.ofText_eq_three.mpr ⟨by simp [text, String.append_assoc], spaceless, by decide⟩

end FactParts

theorem readFactText_eq_ok {text : String} {fact : Fact} :
    readFactText schema text = .ok fact ↔
      ∃ parts : FactParts, text = parts.text ∧ parts.Denotes schema fact := by
  constructor
  · intro h
    unfold readFactText at h
    split at h
    · rename_i id literal three
      obtain ⟨rfl, spaceless, _⟩ := Line.ofText_eq_three.mp three
      obtain ⟨value, denoted, rfl⟩ := Schema.fact_eq_ok_iff.mp (atPlace_eq_ok.mp h)
      refine ⟨⟨id, literal⟩, ?_, .fact spaceless denoted⟩
      simp [FactParts.text, String.append_assoc]
    · cases h
  · rintro ⟨parts, rfl, denoted⟩
    have line := FactParts.line denoted
    obtain ⟨_, read⟩ := denoted
    simp only [readFactText, line]
    exact atPlace_eq_ok.mpr (Schema.fact_eq_ok_iff.mpr ⟨_, read, rfl⟩)

theorem readFact_eq_ok {tree : Tree} {fact : Fact} :
    readFact schema tree = .ok fact ↔
      ∃ parts : FactParts, tree = .scalar parts.text ∧ parts.Denotes schema fact := by
  apply readText_eq_ok fun _ _ => readFactText_eq_ok
  simp [FactParts.text]

@[ext]
structure ActionParts where
  name : String
  id : String

theorem ActionKind.ofName_eq_ok {name : String} {kind : ActionKind} :
    ofName name = .ok kind ↔ kind.name = name := by
  constructor
  · intro h
    unfold ofName at h
    split at h
    · rename_i found
      cases h
      simpa using List.find?_some found
    · cases h
  · rintro rfl
    cases kind <;> decide

theorem ActionKind.name_spaceless (kind : ActionKind) : ' ' ∉ kind.name.toList := by
  cases kind <;> decide

namespace ActionParts

def text (parts : ActionParts) : String := parts.name ++ " " ++ parts.id

inductive Denotes : ActionParts → Action → Prop
  | action {kind : ActionKind} {id : String} (spaceless : ' ' ∉ id.toList) :
      Denotes ⟨kind.name, id⟩ ⟨kind, id⟩

variable {parts parts' : ActionParts} {action action' : Action}

theorem line (denoted : parts.Denotes action) :
    Line.ofText parts.text = .two parts.name parts.id := by
  obtain ⟨spaceless⟩ := denoted
  exact Line.ofText_eq_two.mpr ⟨rfl, ActionKind.name_spaceless _, spaceless⟩

end ActionParts

theorem readActionText_eq_ok {text : String} {action : Action} :
    readActionText text = .ok action ↔
      ∃ parts : ActionParts, text = parts.text ∧ parts.Denotes action := by
  constructor
  · intro h
    unfold readActionText at h
    split at h
    · rename_i name id two
      obtain ⟨rfl, _, spaceless⟩ := Line.ofText_eq_two.mp two
      split at h
      · rename_i kind named
        cases h
        rw [← ActionKind.ofName_eq_ok.mp named]
        exact ⟨⟨kind.name, id⟩, rfl, .action spaceless⟩
      · cases h
    · cases h
  · rintro ⟨parts, rfl, denoted⟩
    have line := ActionParts.line denoted
    obtain ⟨_⟩ := denoted
    simp only [readActionText, line, ActionKind.ofName_eq_ok.mpr rfl]

theorem readAction_eq_ok {tree : Tree} {action : Action} :
    readAction tree = .ok action ↔
      ∃ parts : ActionParts, tree = .scalar parts.text ∧ parts.Denotes action := by
  apply readText_eq_ok fun _ _ => readActionText_eq_ok
  simp [ActionParts.text]

example :
    readFact ⟨"facts", [("title", .string)], by decide⟩ (.scalar "title =  A = B ") =
      .ok ⟨"title", ⟨.string, some (.string " A = B ")⟩⟩ := rfl

end Deduce
