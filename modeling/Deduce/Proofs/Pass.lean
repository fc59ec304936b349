import Deduce.Proofs.Outcome

/-!
# Passes rule by rule

A pass that meets no failure is a sweep over the rules: each rule of the phase is decided or left
open on the facts known when its turn comes. What a pass gives is read off what was evaluated.
-/

namespace Deduce

def firedIn (evaluations : List Evaluation) : List Rule :=
  (evaluations.filter (·.outcome == .holds)).map Evaluation.rule

@[simp] theorem firedIn_append (front back : List Evaluation) :
    firedIn (front ++ back) = firedIn front ++ firedIn back := by
  simp [firedIn]

@[simp] theorem firedIn_cons_of_holds (rule : Rule) (known : Facts) (rest : List Evaluation) :
    firedIn (⟨rule, known, .holds⟩ :: rest) = rule :: firedIn rest := rfl

theorem firedIn_cons_of_ne {e : Evaluation} (notFired : e.outcome ≠ .holds)
    (rest : List Evaluation) : firedIn (e :: rest) = firedIn rest := by
  simp [firedIn, notFired]

theorem mem_firedIn {evaluations : List Evaluation} {rule : Rule} :
    rule ∈ firedIn evaluations ↔ ∃ e ∈ evaluations, e.outcome = .holds ∧ e.rule = rule := by
  simp [firedIn, and_assoc]

/-- What is known behind some evaluations: each rule that fired has added what it asserts. -/
def Facts.behind (known : Facts) (evaluations : List Evaluation) : Facts :=
  known.learnAll ((firedIn evaluations).flatMap Rule.asserted)

@[simp] theorem Facts.behind_nil (known : Facts) : known.behind [] = known := rfl

theorem Facts.behind_append (known : Facts) (front back : List Evaluation) :
    known.behind (front ++ back) = (known.behind front).behind back := by
  simp [behind, learnAll_append]

theorem Facts.behind_cons_of_holds (known seen : Facts) (rule : Rule) (rest : List Evaluation) :
    known.behind (⟨rule, seen, .holds⟩ :: rest) = (known.learnAll rule.asserted).behind rest := by
  simp [behind, learnAll_append]

theorem Facts.behind_cons_of_ne {e : Evaluation} (notFired : e.outcome ≠ .holds) (known : Facts)
    (rest : List Evaluation) : known.behind (e :: rest) = known.behind rest := by
  simp [behind, firedIn_cons_of_ne notFired]

theorem Facts.submap_behind (known : Facts) (evaluations : List Evaluation) :
    known.Submap (known.behind evaluations) :=
  submap_learnAll known _

namespace PassResult

def followedBy (first second : PassResult) : PassResult :=
  ⟨first.facts ++ second.facts, first.actions ++ second.actions, first.remaining ++ second.remaining⟩

theorem followedBy_empty : empty.followedBy = id := rfl

theorem followedBy_keep (rule : Rule) (first : PassResult) :
    (first.keep rule).followedBy = keep rule ∘ first.followedBy := rfl

theorem followedBy_fire (rule : Rule) (first : PassResult) :
    (first.fire rule).followedBy = fire rule ∘ first.followedBy := by
  funext second
  simp [followedBy, fire]

end PassResult

/-- The sweep of a pass over rules, with what is evaluated and what comes of it. -/
inductive Sweep (isFinal : Bool) : Facts → RuleTable → List Evaluation → PassResult → Prop where
  | finish {known} : Sweep isFinal known [] [] .empty
  | otherPhase {known rule rest evaluations result} : rule.isFinal ≠ isFinal →
      Sweep isFinal known rest evaluations result →
      Sweep isFinal known (rule :: rest) evaluations (result.keep rule)
  | leftOpen {known rule rest evaluations result} : rule.isFinal = isFinal →
      rule.outcome known = .ok .unknown → Sweep isFinal known rest evaluations result →
      Sweep isFinal known (rule :: rest) (⟨rule, known, .unknown⟩ :: evaluations) (result.keep rule)
  | dropped {known rule rest evaluations result} : rule.isFinal = isFinal →
      rule.outcome known = .ok .fails → Sweep isFinal known rest evaluations result →
      Sweep isFinal known (rule :: rest) (⟨rule, known, .fails⟩ :: evaluations) result
  | fired {known rule rest evaluations result} : rule.isFinal = isFinal →
      rule.outcome known = .ok .holds →
      Sweep isFinal (known.learnAll rule.asserted) rest evaluations result →
      Sweep isFinal known (rule :: rest) (⟨rule, known, .holds⟩ :: evaluations) (result.fire rule)

variable {isFinal : Bool} {known : Facts} {rules : RuleTable}

namespace Pass

theorem ofRules_sweep {result : PassResult}
    (h : (ofRules isFinal known rules).result = .ok result) :
    Sweep isFinal known rules (ofRules isFinal known rules).evaluations result := by
  induction rules generalizing known result with
  | nil =>
    cases h
    exact .finish
  | cons rule rest ih =>
    unfold ofRules at h ⊢
    split
    · rename_i other
      rw [if_pos other] at h
      obtain ⟨tail, swept, rfl⟩ := map_eq_ok.mp h
      exact .otherPhase (by simpa using other) (ih swept)
    · rename_i phase
      rw [if_neg phase] at h
      have phase : rule.isFinal = isFinal := by simpa using phase
      cases answered : rule.outcome known with
      | error failure =>
        rw [answered] at h
        cases h
      | ok o =>
        rw [answered] at h
        cases o with
        | unknown =>
          obtain ⟨tail, swept, rfl⟩ := map_eq_ok.mp h
          exact .leftOpen phase answered (ih swept)
        | fails =>
          obtain ⟨tail, swept, rfl⟩ := map_eq_ok.mp h
          exact .dropped phase answered (ih swept)
        | holds =>
          obtain ⟨tail, swept, rfl⟩ := map_eq_ok.mp h
          exact .fired phase answered (ih swept)

/-- A pass fails with the failure of a rule, on facts that rules before it may have added. -/
theorem ofRules_eq_error {failure : Failure}
    (h : (ofRules isFinal known rules).result = .error failure) :
    ∃ rule ∈ rules, rule.isFinal = isFinal ∧ ∃ learned,
      (∀ fact ∈ learned, ∃ r ∈ rules, fact ∈ r.asserted) ∧
      rule.outcome (known.learnAll learned) = .error failure := by
  induction rules generalizing known with
  | nil => cases h
  | cons rule rest ih =>
    have later (start : Facts) (failed : (ofRules isFinal start rest).result = .error failure) :
        ∃ r ∈ rule :: rest, r.isFinal = isFinal ∧ ∃ learned,
          (∀ fact ∈ learned, ∃ r ∈ rule :: rest, fact ∈ r.asserted) ∧
          r.outcome (start.learnAll learned) = .error failure := by
      obtain ⟨r, member, phase, learned, sources, failed⟩ := ih failed
      refine ⟨r, List.mem_cons_of_mem _ member, phase, learned, ?_, failed⟩
      intro fact new
      obtain ⟨source, member, asserted⟩ := sources fact new
      exact ⟨source, List.mem_cons_of_mem _ member, asserted⟩
    unfold ofRules at h
    split at h
    · exact later known (map_eq_error.mp h)
    · rename_i phase
      have phase : rule.isFinal = isFinal := by simpa using phase
      cases answered : rule.outcome known with
      | error failure' =>
        rw [answered] at h
        cases h
        refine ⟨rule, List.mem_cons_self, phase, [], ?_, answered⟩
        intro fact new
        cases new
      | ok o =>
        rw [answered] at h
        cases o with
        | unknown => exact later known (map_eq_error.mp h)
        | fails => exact later known (map_eq_error.mp h)
        | holds =>
          obtain ⟨r, member, phase, learned, sources, failed⟩ :=
            later (known.learnAll rule.asserted) (map_eq_error.mp h)
          refine ⟨r, member, phase, rule.asserted ++ learned, ?_, ?_⟩
          · intro fact new
            rcases List.mem_append.mp new with own | new
            · exact ⟨rule, List.mem_cons_self, own⟩
            · exact sources fact new
          · rw [Facts.learnAll_append]
            exact failed

/-- Rules behind the one on which a pass fails have no turn. -/
theorem ofRules_append_of_error {failure : Failure}
    (h : (ofRules isFinal known rules).result = .error failure) (more : RuleTable) :
    ofRules isFinal known (rules ++ more) = ofRules isFinal known rules := by
  induction rules generalizing known with
  | nil => cases h
  | cons rule rest ih =>
    simp only [List.cons_append]
    unfold ofRules at h ⊢
    split
    · rename_i other
      rw [if_pos other] at h
      rw [ih (map_eq_error.mp h)]
    · rename_i phase
      rw [if_neg phase] at h
      cases answered : rule.outcome known with
      | error failure' => rfl
      | ok o =>
        rw [answered] at h
        cases o <;> simp only [ih (map_eq_error.mp h)]

/-- A pass depends on the rules of its phase alone. -/
theorem ofRules_inPhase (isFinal : Bool) (known : Facts) (rules : RuleTable) :
    ofRules isFinal known (rules.filter (·.isFinal == isFinal)) =
      ⟨(ofRules isFinal known rules).evaluations, (ofRules isFinal known rules).result.map fun result =>
        { result with remaining := result.remaining.filter (·.isFinal == isFinal) }⟩ := by
  induction rules generalizing known with
  | nil => rfl
  | cons rule rest ih =>
    by_cases phase : rule.isFinal = isFinal
    · simp only [List.filter_cons, phase, BEq.rfl, if_true, ofRules, bne_self_eq_false,
        Bool.false_eq_true, if_false]
      cases rule.outcome known with
      | error failure => rfl
      | ok o =>
        cases o with
        | unknown | fails =>
          simp only [ih, after]
          cases (ofRules isFinal known rest).result <;> simp [Except.map, PassResult.keep, phase]
        | holds =>
          simp only [ih, after]
          cases (ofRules isFinal (known.learnAll rule.asserted) rest).result <;> rfl
    · simp only [List.filter_cons, beq_eq_false_iff_ne.mpr phase, Bool.false_eq_true, if_false,
        ofRules, bne_iff_ne.mpr phase, if_true, ih]
      cases (ofRules isFinal known rest).result <;> simp [Except.map, PassResult.keep, phase]

end Pass

namespace Sweep

variable {evaluations : List Evaluation} {result : PassResult}

theorem facts_eq (h : Sweep isFinal known rules evaluations result) :
    result.facts = (firedIn evaluations).flatMap Rule.asserted := by
  induction h with
  | finish => rfl
  | otherPhase _ _ ih => exact ih
  | leftOpen _ _ _ ih | dropped _ _ _ ih =>
    rw [firedIn_cons_of_ne (by simp)]
    exact ih
  | fired _ _ _ ih => simp [ih]

theorem actions_eq (h : Sweep isFinal known rules evaluations result) :
    result.actions = (firedIn evaluations).flatMap Rule.triggered := by
  induction h with
  | finish => rfl
  | otherPhase _ _ ih => exact ih
  | leftOpen _ _ _ ih | dropped _ _ _ ih =>
    rw [firedIn_cons_of_ne (by simp)]
    exact ih
  | fired _ _ _ ih => simp [ih]

theorem learnAll_facts (h : Sweep isFinal known rules evaluations result) :
    known.learnAll result.facts = known.behind evaluations := by
  rw [h.facts_eq]
  rfl

/-- Each rule sees what is known behind the evaluations before its own. -/
theorem known_at (h : Sweep isFinal known rules evaluations result)
    {front back : List Evaluation} {e : Evaluation} (split : evaluations = front ++ e :: back) :
    e.known = known.behind front := by
  induction h generalizing front with
  | finish => simp at split
  | otherPhase _ _ ih => exact ih split
  | leftOpen _ _ _ ih | dropped _ _ _ ih =>
    cases front with
    | nil =>
      cases split
      rfl
    | cons head front =>
      cases split
      rw [ih rfl, Facts.behind_cons_of_ne (by simp)]
  | fired _ _ _ ih =>
    cases front with
    | nil =>
      cases split
      rfl
    | cons head front =>
      cases split
      rw [ih rfl, Facts.behind_cons_of_holds]

/-- More rules see what is known behind all evaluations so far. -/
theorem ofRules_append (h : Sweep isFinal known rules evaluations result) (more : RuleTable) :
    Pass.ofRules isFinal known (rules ++ more) =
      ⟨evaluations ++ (Pass.ofRules isFinal (known.behind evaluations) more).evaluations,
        (Pass.ofRules isFinal (known.behind evaluations) more).result.map result.followedBy⟩ := by
  have twice (first second : PassResult → PassResult) (tail : Except Failure PassResult) :
      (tail.map first).map second = tail.map (second ∘ first) := by
    cases tail <;> rfl
  induction h with
  | @finish known =>
    have same (tail : Except Failure PassResult) : tail.map id = tail := by
      cases tail <;> rfl
    rw [List.nil_append, Facts.behind_nil, PassResult.followedBy_empty, same]
    rfl
  | otherPhase other _ ih =>
    simp only [List.cons_append, Pass.ofRules, bne_iff_ne.mpr other, if_true, ih, twice,
      PassResult.followedBy_keep]
  | leftOpen phase answered _ ih =>
    rw [Facts.behind_cons_of_ne (by simp)]
    simp only [List.cons_append, Pass.ofRules, phase, bne_self_eq_false, Bool.false_eq_true,
      if_false, answered, ih, Pass.after, twice, PassResult.followedBy_keep]
  | dropped phase answered _ ih =>
    rw [Facts.behind_cons_of_ne (by simp)]
    simp only [List.cons_append, Pass.ofRules, phase, bne_self_eq_false, Bool.false_eq_true,
      if_false, answered, ih, Pass.after, twice, Function.id_comp]
  | fired phase answered _ ih =>
    simp only [List.cons_append, Pass.ofRules, phase, bne_self_eq_false, Bool.false_eq_true,
      if_false, answered, ih, Pass.after, twice, PassResult.followedBy_fire,
      Facts.behind_cons_of_holds]

theorem ofRules_eq (h : Sweep isFinal known rules evaluations result) :
    Pass.ofRules isFinal known rules = ⟨evaluations, .ok result⟩ := by
  have whole := h.ofRules_append []
  simpa [Pass.ofRules, PassResult.followedBy, PassResult.empty, Except.map] using whole

/-- Each evaluation is of a rule of the phase, on the facts known at the start and those produced by
the rules before it. -/
theorem evaluated (h : Sweep isFinal known rules evaluations result) {e : Evaluation}
    (member : e ∈ evaluations) :
    e.rule ∈ rules ∧ e.rule.isFinal = isFinal ∧ e.rule.outcome e.known = .ok e.outcome ∧
      ∃ before after, result.facts = before ++ after ∧ e.known = known.learnAll before := by
  have turn : e.rule ∈ rules ∧ e.rule.isFinal = isFinal ∧
      e.rule.outcome e.known = .ok e.outcome := by
    induction h with
    | finish => cases member
    | otherPhase _ _ ih =>
      obtain ⟨present, rest⟩ := ih member
      exact ⟨List.mem_cons_of_mem _ present, rest⟩
    | leftOpen phase answered _ ih | dropped phase answered _ ih | fired phase answered _ ih =>
      rcases List.mem_cons.mp member with rfl | later
      · exact ⟨List.mem_cons_self, phase, answered⟩
      · obtain ⟨present, rest⟩ := ih later
        exact ⟨List.mem_cons_of_mem _ present, rest⟩
  obtain ⟨present, phase, answered⟩ := turn
  obtain ⟨front, back, split⟩ := List.append_of_mem member
  refine ⟨present, phase, answered, (firedIn front).flatMap Rule.asserted,
    (firedIn (e :: back)).flatMap Rule.asserted, ?_, h.known_at split⟩
  rw [h.facts_eq, split, firedIn_append, List.flatMap_append]

theorem submap (h : Sweep isFinal known rules evaluations result) {e : Evaluation}
    (member : e ∈ evaluations) :
    known.Submap e.known ∧ e.known.Submap (known.learnAll result.facts) := by
  obtain ⟨front, back, split⟩ := List.append_of_mem member
  rw [h.learnAll_facts, h.known_at split, split, Facts.behind_append]
  exact ⟨Facts.submap_behind _ _, Facts.submap_behind _ _⟩

theorem mem_facts (h : Sweep isFinal known rules evaluations result) {fact : Fact} :
    fact ∈ result.facts ↔ ∃ e ∈ evaluations, e.outcome = .holds ∧ fact ∈ e.rule.asserted := by
  simp [h.facts_eq, List.mem_flatMap, mem_firedIn, and_assoc]

theorem mem_actions (h : Sweep isFinal known rules evaluations result) {action : Action} :
    action ∈ result.actions ↔
      ∃ e ∈ evaluations, e.outcome = .holds ∧ action ∈ e.rule.triggered := by
  simp [h.actions_eq, List.mem_flatMap, mem_firedIn, and_assoc]

theorem sublist (h : Sweep isFinal known rules evaluations result) :
    result.remaining.Sublist rules := by
  induction h with
  | finish => exact List.Sublist.refl []
  | otherPhase _ _ ih | leftOpen _ _ _ ih => exact ih.cons_cons _
  | dropped _ _ _ ih | fired _ _ _ ih => exact ih.cons _

theorem open_of_remaining (h : Sweep isFinal known rules evaluations result) {rule : Rule}
    (member : rule ∈ result.remaining) :
    rule.isFinal ≠ isFinal ∨ ∃ e ∈ evaluations, e.rule = rule ∧ e.outcome = .unknown := by
  induction h with
  | finish => cases member
  | otherPhase other _ ih =>
    rcases List.mem_cons.mp member with rfl | later
    · exact .inl other
    · exact ih later
  | leftOpen _ _ _ ih =>
    rcases List.mem_cons.mp member with rfl | later
    · exact .inr ⟨_, List.mem_cons_self, rfl, rfl⟩
    · rcases ih later with other | ⟨e, present, rest⟩
      · exact .inl other
      · exact .inr ⟨e, List.mem_cons_of_mem _ present, rest⟩
  | dropped _ _ _ ih | fired _ _ _ ih =>
    rcases ih member with other | ⟨e, present, rest⟩
    · exact .inl other
    · exact .inr ⟨e, List.mem_cons_of_mem _ present, rest⟩

theorem evaluates (h : Sweep isFinal known rules evaluations result) {rule : Rule}
    (member : rule ∈ rules) (phase : rule.isFinal = isFinal) :
    ∃ e ∈ evaluations, e.rule = rule ∧ (e.outcome = .unknown → rule ∈ result.remaining) := by
  have later {head : Evaluation} {rest : List Evaluation} {remaining remaining' : RuleTable}
      (found : ∃ e ∈ rest, e.rule = rule ∧ (e.outcome = .unknown → rule ∈ remaining))
      (more : remaining ⊆ remaining') :
      ∃ e ∈ head :: rest, e.rule = rule ∧ (e.outcome = .unknown → rule ∈ remaining') := by
    obtain ⟨e, present, same, stays⟩ := found
    exact ⟨e, List.mem_cons_of_mem _ present, same, fun unknown => more (stays unknown)⟩
  induction h with
  | finish => cases member
  | otherPhase other _ ih =>
    rcases List.mem_cons.mp member with rfl | rest
    · exact absurd phase other
    · obtain ⟨e, present, same, stays⟩ := ih rest
      exact ⟨e, present, same, fun unknown => List.mem_cons_of_mem _ (stays unknown)⟩
  | leftOpen _ _ _ ih =>
    rcases List.mem_cons.mp member with rfl | rest
    · exact ⟨_, List.mem_cons_self, rfl, fun _ => List.mem_cons_self⟩
    · exact later (ih rest) (List.subset_cons_self _ _)
  | dropped _ _ _ ih | fired _ _ _ ih =>
    rcases List.mem_cons.mp member with rfl | rest
    · exact ⟨_, List.mem_cons_self, rfl, fun unknown => by cases unknown⟩
    · exact later (ih rest) (List.Subset.refl _)

/-- In a pass that adds nothing all rules see the same facts. -/
theorem known_eq (h : Sweep isFinal known rules evaluations result)
    (nothing : known.learnAll result.facts = known) {e : Evaluation} (member : e ∈ evaluations) :
    e.known = known := by
  obtain ⟨_, _, _, before, after, split, start⟩ := h.evaluated member
  rw [split, Facts.learnAll_append] at nothing
  have lower := Facts.isPrefix_learnAll known before
  have upper := Facts.isPrefix_learnAll (known.learnAll before) after
  rw [nothing] at upper
  rw [start]
  exact (lower.eq_of_length (Nat.le_antisymm lower.length_le upper.length_le)).symm

/-- A selection that has no decided rule loses nothing in a pass. -/
theorem remaining_filter (h : Sweep isFinal known rules evaluations result) {selected : Rule → Bool}
    (undecided : ∀ e ∈ evaluations, e.outcome ≠ .unknown → selected e.rule = false) :
    result.remaining.filter selected = rules.filter selected := by
  induction h with
  | finish => rfl
  | @otherPhase _ rule _ _ _ _ _ ih =>
    simp only [PassResult.remaining_keep, List.filter_cons, ih undecided]
  | leftOpen _ _ _ ih =>
    have tail := ih fun e member => undecided e (List.mem_cons_of_mem _ member)
    simp only [PassResult.remaining_keep, List.filter_cons, tail]
  | dropped _ _ _ ih | fired _ _ _ ih =>
    have tail := ih fun e member => undecided e (List.mem_cons_of_mem _ member)
    have head := undecided _ List.mem_cons_self (by simp)
    simp only [PassResult.remaining_fire, List.filter_cons, head, tail, Bool.false_eq_true,
      if_false]

theorem mem_remaining_of_open (h : Sweep isFinal known rules evaluations result) {rule : Rule}
    (member : rule ∈ rules) (leftOpen : ∀ e ∈ evaluations, e.rule = rule → e.outcome = .unknown) :
    rule ∈ result.remaining := by
  have same : result.remaining.filter (· = rule) = rules.filter (· = rule) := by
    apply h.remaining_filter
    intro e evaluated decided
    exact decide_eq_false fun is => decided (leftOpen e evaluated is)
  have kept : rule ∈ rules.filter (· = rule) := List.mem_filter.mpr ⟨member, by simp⟩
  rw [← same] at kept
  exact List.mem_of_mem_filter kept

/-- A pass that produces a fact decides a rule. -/
theorem length_lt_of_facts (h : Sweep isFinal known rules evaluations result)
    (produced : result.facts ≠ []) : result.remaining.length < rules.length := by
  induction h with
  | finish => exact absurd rfl produced
  | otherPhase _ _ ih | leftOpen _ _ _ ih => exact Nat.succ_lt_succ (ih produced)
  | dropped _ _ _ ih => exact Nat.lt_succ_of_lt (ih produced)
  | fired _ _ swept _ => exact Nat.lt_succ_of_le swept.sublist.length_le

end Sweep

end Deduce
