import StructBridge.Proofs.Brackets
import StructBridge.Text.Case

/-!
The upper case of a code point is itself or made of ordinary code points: no control characters, no
brackets and no surrogates.
-/
namespace StructBridge

namespace CodePoint

theorem value_ofNat (n : Nat) : (ofNat n).value = n ∨ (ofNat n).value = 0 := by
  unfold ofNat
  split
  · rename_i range
    left
    change firstSurrogate + (n - firstSurrogate) = n
    omega
  · by_cases valid : n.isValidChar
    · left
      rw [Char.ofNat, dif_pos valid]
      rfl
    · right
      rw [Char.ofNat, dif_neg valid]
      rfl

theorem ofNat_value (c : CodePoint) : ofNat c.value = c := by
  cases c with
  | char c =>
    have valid := c.valid
    have outside : ¬(firstSurrogate ≤ c.toNat ∧ c.toNat - firstSurrogate < 0x800) := by
      simp only [UInt32.isValidChar, Nat.isValidChar] at valid
      unfold firstSurrogate Char.toNat
      omega
    rw [value, ofNat, dif_neg outside, Char.ofNat_toNat]
  | surrogate i =>
    have inside : firstSurrogate ≤ firstSurrogate + i.val ∧
        firstSurrogate + i.val - firstSurrogate < 0x800 := by
      have bound := i.isLt
      omega
    rw [value, ofNat, dif_pos inside]
    simp only [Nat.add_sub_cancel_left]

end CodePoint

namespace Text

def bracketValues : List Nat := [0x28, 0x29, 0x3c, 0x3e, 0x5b, 0x5d, 0x7b, 0x7d]

theorem value_of_mark {c : CodePoint} {m : Mark} (marked : markOf? c = some m) :
    c.value ∈ bracketValues := by
  unfold markOf? at marked
  split at marked
  case h_9 => cases marked
  all_goals decide

theorem mark_ofNat {n : Nat} (apart : n ∉ bracketValues) : markOf? (.ofNat n) = none := by
  cases marked : markOf? (.ofNat n) with
  | none => rfl
  | some m =>
    have among := value_of_mark marked
    rcases CodePoint.value_ofNat n with same | zero
    · rw [same] at among
      exact absurd among apart
    · rw [zero] at among
      exact absurd among (by decide)

/-- Far from the control characters, the brackets and the surrogates. -/
structure Ordinary (n : Nat) : Prop where
  range : 0x20 ≤ n ∧ n < 0xd800 ∨ 0xe000 ≤ n
  unmarked : n ∉ bracketValues

theorem caseRuns_range : ∀ r ∈ caseRuns,
    0x20 ≤ (r.first : Int) + r.shift ∧
      ((r.last : Int) + r.shift < 0xd800 ∨ 0xe000 ≤ (r.first : Int) + r.shift) := by
  decide +kernel

theorem caseRuns_unmarked : ∀ r ∈ caseRuns, ∀ b ∈ bracketValues,
    (b : Int) < r.first + r.shift ∨ (r.last : Int) + r.shift < b := by
  decide +kernel

theorem caseExpansions_ordinary : ∀ entry ∈ caseExpansions, ∀ n ∈ entry.2, Ordinary n := by
  have each : ∀ entry ∈ caseExpansions, ∀ n ∈ entry.2,
      (0x20 ≤ n ∧ n < 0xd800 ∨ 0xe000 ≤ n) ∧ n ∉ bracketValues := by
    decide
  intro entry member n among
  obtain ⟨range, unmarked⟩ := each entry member n among
  exact ⟨range, unmarked⟩

theorem caseRun_ordinary {r : CaseRun} {c : Nat} (among : r ∈ caseRuns)
    (covers : r.covers c = true) : Ordinary (c + r.shift).toNat := by
  simp only [CaseRun.covers, Bool.and_eq_true, decide_eq_true_eq] at covers
  have bounds := caseRuns_range r among
  refine ⟨by omega, ?_⟩
  intro bracket
  have apart := caseRuns_unmarked r among _ bracket
  omega

/-- An upper case is the code point itself or made of results of the two tables. -/
theorem upper_cases {holds : Nat → Prop}
    (expanded : ∀ entry ∈ caseExpansions, ∀ n ∈ entry.2, holds n)
    (shifted : ∀ r ∈ caseRuns, ∀ c, r.covers c = true → holds (c + r.shift).toNat) (c : CodePoint) :
    upper c = [c] ∨ ∃ codes : List Nat, upper c = codes.map .ofNat ∧ ∀ n ∈ codes, holds n := by
  unfold upper upperCodes
  split
  · rename_i codes found
    obtain ⟨before, after, split, _⟩ := List.lookup_eq_some_iff.mp found
    have among : (c.value, codes) ∈ caseExpansions := by simp [split]
    exact .inr ⟨codes, rfl, expanded _ among⟩
  split
  · rename_i r found
    have covers := List.find?_some found
    have moved := shifted r (List.mem_of_find?_eq_some found) c.value covers
    exact .inr ⟨_, rfl, fun n member => List.mem_singleton.mp member ▸ moved⟩
  · exact .inl (congrArg (fun u => [u]) (CodePoint.ofNat_value c))

theorem mem_upper {c u : CodePoint} (member : u ∈ upper c) :
    u = c ∨ ∃ n, Ordinary n ∧ u = .ofNat n := by
  rcases upper_cases caseExpansions_ordinary (fun r among c => caseRun_ordinary among) c with
    same | ⟨codes, made, each⟩
  · rw [same] at member
    exact .inl (List.mem_singleton.mp member)
  · rw [made] at member
    obtain ⟨n, coded, rfl⟩ := List.mem_map.mp member
    exact .inr ⟨n, each n coded, rfl⟩

/-- No letter from a to z. -/
def IsRaised (n : Nat) : Prop := n < 0x61 ∨ 0x7a < n

theorem caseExpansions_raised : ∀ entry ∈ caseExpansions, ∀ n ∈ entry.2, IsRaised n := by
  unfold IsRaised
  decide

theorem caseRuns_raised : ∀ r ∈ caseRuns,
    (r.last : Int) + r.shift < 0x61 ∨ 0x7a < (r.first : Int) + r.shift := by
  decide +kernel

theorem caseRun_raised {r : CaseRun} {c : Nat} (among : r ∈ caseRuns)
    (covers : r.covers c = true) : IsRaised (c + r.shift).toNat := by
  simp only [CaseRun.covers, Bool.and_eq_true, decide_eq_true_eq] at covers
  have bounds := caseRuns_raised r among
  unfold IsRaised
  omega

/-- An upper case other than the code point itself holds no letter from a to z. -/
theorem upper_raised (c : CodePoint) : upper c = [c] ∨ ∀ u ∈ upper c, IsRaised u.value := by
  rcases upper_cases caseExpansions_raised (fun r among c => caseRun_raised among) c with
    same | ⟨codes, made, each⟩
  · exact .inl same
  · right
    intro u member
    rw [made] at member
    obtain ⟨n, coded, rfl⟩ := List.mem_map.mp member
    have raised := each n coded
    rcases CodePoint.value_ofNat n with same | zero
    · rwa [same]
    · rw [zero]
      exact .inl (by decide)

section Settled

/-- The code points that a run moves. -/
def CaseRun.codes (r : CaseRun) : List Nat :=
  (List.range ((r.last - r.first) / r.step + 1)).map fun k => r.first + k * r.step

def movedCodes : List Nat := caseExpansions.map (·.1) ++ caseRuns.flatMap (·.codes)

def reachedCodes : List Nat :=
  caseExpansions.flatMap (·.2) ++
    caseRuns.flatMap fun r => r.codes.map fun c : Nat => (c + r.shift).toNat

/-- A set of numbers as the number that has these binary digits. -/
def digits (codes : List Nat) : Nat := codes.foldr (fun c rest => 1 <<< c ||| rest) 0

theorem testBit_digits {codes : List Nat} {c : Nat} :
    (digits codes).testBit c = true ↔ c ∈ codes := by
  induction codes with
  | nil => simp [digits]
  | cons first rest ih =>
    have swap : first = c ↔ c = first := eq_comm
    rw [digits, List.foldr_cons, ← digits, Nat.testBit_or, Nat.one_shiftLeft, Nat.testBit_two_pow,
      List.mem_cons, ← ih]
    simp [swap]

/-- Compared digit by digit, the tables lead to no code point that they move. -/
theorem reached_unmoved : digits movedCodes &&& digits reachedCodes = 0 := by
  decide +kernel

theorem not_moved_of_reached {c : Nat} (reached : c ∈ reachedCodes) : c ∉ movedCodes := by
  intro moved
  have shared := Nat.testBit_and (digits movedCodes) (digits reachedCodes) c
  rw [reached_unmoved, testBit_digits.mpr moved, testBit_digits.mpr reached] at shared
  simp at shared

theorem mem_codes {r : CaseRun} {c : Nat} (covers : r.covers c = true) : c ∈ r.codes := by
  simp only [CaseRun.covers, Bool.and_eq_true, decide_eq_true_eq, beq_iff_eq] at covers
  obtain ⟨⟨after, before⟩, stepped⟩ := covers
  have split := Nat.div_add_mod (c - r.first) r.step
  have whole : (c - r.first) / r.step * r.step = c - r.first := by
    rw [Nat.mul_comm]
    omega
  have bound : (c - r.first) / r.step ≤ (r.last - r.first) / r.step :=
    Nat.div_le_div_right (by omega)
  refine List.mem_map.mpr ⟨(c - r.first) / r.step, List.mem_range.mpr (by omega), ?_⟩
  rw [whole]
  omega

theorem upperCodes_unmoved {c : Nat} (unmoved : c ∉ movedCodes) : upperCodes c = [c] := by
  simp only [movedCodes, List.mem_append, not_or] at unmoved
  obtain ⟨unexpanded, uncovered⟩ := unmoved
  have noEntry : caseExpansions.lookup c = none := by
    apply List.lookup_eq_none_iff.mpr
    intro entry member
    have apart : c ≠ entry.1 := fun same => unexpanded (List.mem_map.mpr ⟨entry, member, same.symm⟩)
    simpa using apart
  have noRun : caseRuns.find? (·.covers c) = none := by
    apply List.find?_eq_none.mpr
    intro r member covers
    exact uncovered (List.mem_flatMap.mpr ⟨r, member, mem_codes covers⟩)
  rw [upperCodes, noEntry]
  simp only [noRun]

/-- Where the upper case leads, it stays. -/
theorem upper_settled {c u : CodePoint} (member : u ∈ upper c) : upper u = [u] := by
  have expanded : ∀ entry ∈ caseExpansions, ∀ n ∈ entry.2, n ∈ reachedCodes := by
    intro entry among n coded
    exact List.mem_append_left _ (List.mem_flatMap.mpr ⟨entry, among, coded⟩)
  have shifted : ∀ r ∈ caseRuns, ∀ c, r.covers c = true → (c + r.shift).toNat ∈ reachedCodes := by
    intro r among c covers
    exact List.mem_append_right _
      (List.mem_flatMap.mpr ⟨r, among, List.mem_map.mpr ⟨c, mem_codes covers, rfl⟩⟩)
  rcases upper_cases expanded shifted c with same | ⟨codes, made, each⟩
  · rw [same] at member
    rw [List.mem_singleton.mp member, same]
  · rw [made] at member
    obtain ⟨n, coded, rfl⟩ := List.mem_map.mp member
    -- A number that is no code point is read as zero, which has no case.
    have unmoved : (CodePoint.ofNat n).value ∉ movedCodes := by
      rcases CodePoint.value_ofNat n with same | zero
      · rw [same]
        exact not_moved_of_reached (each n coded)
      · rw [zero]
        decide +kernel
    rw [upper, upperCodes_unmoved unmoved, List.map_singleton, CodePoint.ofNat_value]

end Settled

end Text
end StructBridge
