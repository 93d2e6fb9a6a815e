import StructBridge.Text.Basic

/-!
Texts inside texts, and texts cut at a code point.
-/
namespace StructBridge.Text

def occursIn (part : Text) : Text → Bool
  | [] => part.isEmpty
  | c :: rest => part.isPrefixOf (c :: rest) || occursIn part rest

theorem occursIn_iff (part text : Text) : occursIn part text = true ↔ part <:+: text := by
  induction text with
  | nil => simp [occursIn]
  | cons c rest ih => simp [occursIn, ih, List.infix_cons_iff]

/-- The pieces between the occurrences of a code point. -/
def splitAt (separator : CodePoint) : Text → List Text
  | [] => [[]]
  | c :: rest =>
    if c = separator then [] :: splitAt separator rest
    else
      match splitAt separator rest with
      | [] => [[c]]
      | piece :: pieces => (c :: piece) :: pieces

theorem not_mem_of_mem_splitAt {separator : CodePoint} {cs piece : Text}
    (member : piece ∈ splitAt separator cs) : separator ∉ piece := by
  induction cs generalizing piece with
  | nil => simp_all [splitAt]
  | cons c rest ih =>
    rw [splitAt] at member
    by_cases here : c = separator
    · simp only [here, ↓reduceIte, List.mem_cons] at member
      rcases member with rfl | later
      · simp
      · exact ih later
    · simp only [here, ↓reduceIte] at member
      cases pieces : splitAt separator rest with
      | nil =>
        rw [pieces] at member
        simp only [List.mem_singleton] at member
        simp [member, Ne.symm here]
      | cons first others =>
        rw [pieces] at member
        simp only [List.mem_cons] at member
        rcases member with rfl | later
        · have absent : separator ∉ first := ih (by simp [pieces])
          simp [absent, Ne.symm here]
        · exact ih (by simp [pieces, later])

theorem splitAt_ne_nil (separator : CodePoint) (t : Text) : splitAt separator t ≠ [] := by
  cases t with
  | nil => simp [splitAt]
  | cons c rest =>
    rw [splitAt]
    split
    · simp
    · split <;> simp

/-- A separator ends the pieces before it. -/
theorem splitAt_joined (separator : CodePoint) (t u : Text) :
    splitAt separator (t ++ separator :: u) = splitAt separator t ++ splitAt separator u := by
  induction t with
  | nil => simp [splitAt]
  | cons c rest ih =>
    rw [List.cons_append, splitAt, splitAt, ih]
    split
    · rfl
    · cases pieces : splitAt separator rest with
      | nil => exact absurd pieces (splitAt_ne_nil separator rest)
      | cons first others => rfl

theorem splitAt_absent {separator : CodePoint} {t : Text} (absent : separator ∉ t) :
    splitAt separator t = [t] := by
  induction t with
  | nil => rfl
  | cons c rest ih =>
    have other : separator ≠ c := List.ne_of_not_mem_cons absent
    rw [splitAt, if_neg (Ne.symm other), ih (List.not_mem_of_not_mem_cons absent)]

theorem splitAt_append {separator : CodePoint} {t : Text} (absent : separator ∉ t) (u : Text) :
    splitAt separator (t ++ separator :: u) = t :: splitAt separator u := by
  rw [splitAt_joined, splitAt_absent absent]
  rfl

end StructBridge.Text
