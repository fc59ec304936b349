import Deduce.Rule.Line

/-!
# Parts of a line

A line is divided at its first two spaces, so that its parts put together again give the line.
-/

namespace Deduce

theorem cutAtSpace_cons (c : Char) (cs : List Char) :
    cutAtSpace (c :: cs) =
      if c = ' ' then ([], some cs) else (c :: (cutAtSpace cs).1, (cutAtSpace cs).2) := by
  by_cases space : c = ' ' <;> simp [cutAtSpace, space]

theorem cutAtSpace_of_not_mem {cs : List Char} (h : ' ' ∉ cs) : cutAtSpace cs = (cs, none) := by
  induction cs with
  | nil => rfl
  | cons c rest ih =>
    simp only [List.mem_cons, not_or] at h
    rw [cutAtSpace_cons, if_neg (Ne.symm h.1), ih h.2]

theorem cutAtSpace_append {front : List Char} (h : ' ' ∉ front) (back : List Char) :
    cutAtSpace (front ++ ' ' :: back) = (front, some back) := by
  induction front with
  | nil => rw [List.nil_append, cutAtSpace_cons, if_pos rfl]
  | cons c rest ih =>
    simp only [List.mem_cons, not_or] at h
    rw [List.cons_append, cutAtSpace_cons, if_neg (Ne.symm h.1), ih h.2]

theorem cutAtSpace_eq_none {cs word : List Char} :
    cutAtSpace cs = (word, none) ↔ cs = word ∧ ' ' ∉ word := by
  constructor
  · intro h
    by_cases space : ' ' ∈ cs
    · obtain ⟨front, back, rfl, first⟩ := List.eq_append_cons_of_mem space
      rw [cutAtSpace_append first] at h
      cases h
    · rw [cutAtSpace_of_not_mem space] at h
      cases h
      exact ⟨rfl, space⟩
  · rintro ⟨rfl, spaceless⟩
    exact cutAtSpace_of_not_mem spaceless

theorem cutAtSpace_eq_some {cs front back : List Char} :
    cutAtSpace cs = (front, some back) ↔ cs = front ++ ' ' :: back ∧ ' ' ∉ front := by
  constructor
  · intro h
    by_cases space : ' ' ∈ cs
    · obtain ⟨front', back', rfl, first⟩ := List.eq_append_cons_of_mem space
      rw [cutAtSpace_append first] at h
      cases h
      exact ⟨rfl, first⟩
    · rw [cutAtSpace_of_not_mem space] at h
      cases h
  · rintro ⟨rfl, spaceless⟩
    exact cutAtSpace_append spaceless back

namespace Line

theorem ofText_eq_one {text a : String} : ofText text = .one a ↔ text = a ∧ ' ' ∉ a.toList := by
  constructor
  · intro h
    unfold ofText at h
    split at h
    · rename_i word cut
      cases h
      obtain ⟨chars, spaceless⟩ := cutAtSpace_eq_none.mp cut
      exact ⟨by rw [← chars, String.ofList_toList], by simpa using spaceless⟩
    · split at h <;> cases h
  · rintro ⟨rfl, spaceless⟩
    simp [ofText, cutAtSpace_of_not_mem spaceless]

theorem ofText_eq_two {text a b : String} :
    ofText text = .two a b ↔ text = a ++ " " ++ b ∧ ' ' ∉ a.toList ∧ ' ' ∉ b.toList := by
  constructor
  · intro h
    unfold ofText at h
    split at h
    · cases h
    · rename_i front rest cut
      split at h
      · rename_i back cut'
        cases h
        obtain ⟨chars, first⟩ := cutAtSpace_eq_some.mp cut
        obtain ⟨rfl, second⟩ := cutAtSpace_eq_none.mp cut'
        refine ⟨?_, by simpa using first, by simpa using second⟩
        rw [← String.toList_inj, chars]
        simp
      · cases h
  · rintro ⟨rfl, first, second⟩
    simp [ofText, cutAtSpace_append first, cutAtSpace_of_not_mem second]

theorem ofText_eq_three {text a b c : String} :
    ofText text = .three a b c ↔
      text = a ++ " " ++ b ++ " " ++ c ∧ ' ' ∉ a.toList ∧ ' ' ∉ b.toList := by
  constructor
  · intro h
    unfold ofText at h
    split at h
    · cases h
    · rename_i front rest cut
      split at h
      · cases h
      · rename_i middle back cut'
        cases h
        obtain ⟨chars, first⟩ := cutAtSpace_eq_some.mp cut
        obtain ⟨rfl, second⟩ := cutAtSpace_eq_some.mp cut'
        refine ⟨?_, by simpa using first, by simpa using second⟩
        rw [← String.toList_inj, chars]
        simp
  · rintro ⟨rfl, first, second⟩
    simp [ofText, cutAtSpace_append first, cutAtSpace_append second]

end Line

end Deduce
