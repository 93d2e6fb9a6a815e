import Mathlib.Data.List.Induction
import StructBridge.Files.Disk

/-!
The texts of paths: how the components are joined and found again, and which texts the system can be
asked for.
-/
namespace StructBridge

namespace Text

theorem nameSize_append (t u : Text) :
    nameSize? (t ++ u) = (nameSize? t).bind fun m => (nameSize? u).map (m + ·) := by
  induction t with
  | nil => cases size : nameSize? u <;> simp [nameSize?, size]
  | cons c rest ih =>
    cases c with
    | char c =>
      rw [List.cons_append, nameSize?, nameSize?, ih]
      cases nameSize? rest <;> cases nameSize? u <;> simp [Nat.add_assoc]
    | surrogate i =>
      rw [List.cons_append, nameSize?, nameSize?, ih]
      cases standsForByte i <;> cases nameSize? rest <;> cases nameSize? u <;> simp [Nat.add_assoc]

/-- A text that the system can be asked for. -/
structure Askable (t : Text) : Prop where
  sized : t.nameSize? ≠ none
  clean : .char '\x00' ∉ t

theorem askable_append {t u : Text} : Askable (t ++ u) ↔ Askable t ∧ Askable u := by
  have sized : nameSize? (t ++ u) ≠ none ↔ nameSize? t ≠ none ∧ nameSize? u ≠ none := by
    rw [nameSize_append]
    cases nameSize? t <;> cases nameSize? u <;> simp
  constructor
  · rintro ⟨size, clean⟩
    rw [List.mem_append, not_or] at clean
    exact ⟨⟨(sized.mp size).1, clean.1⟩, (sized.mp size).2, clean.2⟩
  · rintro ⟨⟨size, clean⟩, size', clean'⟩
    exact ⟨sized.mpr ⟨size, size'⟩, fun member => (List.mem_append.mp member).elim clean clean'⟩

theorem intercalate_concat {separator t : Text} {ts : List Text} (present : ts ≠ []) :
    List.intercalate separator (ts ++ [t]) = List.intercalate separator ts ++ separator ++ t := by
  induction ts with
  | nil => exact absurd rfl present
  | cons first rest ih =>
    cases rest with
    | nil => simp
    | cons second others =>
      rw [List.cons_append, List.cons_append, List.intercalate_cons_cons, ← List.cons_append,
        ih (List.cons_ne_nil _ _), List.intercalate_cons_cons]
      simp only [List.append_assoc]

end Text

namespace Files

/-- What the component of a path can be. -/
structure IsComponent (part : Text) : Prop where
  whole : .char '/' ∉ part
  present : part ≠ ""
  telling : part ≠ "."

theorem isComponent_of_mem {t part : Text} (member : part ∈ componentsOf t) : IsComponent part := by
  have kept := of_decide_eq_true (List.mem_filter.mp member).2
  exact ⟨slash_not_mem_componentsOf member, kept.1, kept.2⟩

theorem componentsOf_component {part : Text} (component : IsComponent part) :
    componentsOf part = [part] := by
  simp [componentsOf, Text.splitAt_absent component.whole, component.present, component.telling]

theorem componentsOf_joined (t u : Text) :
    componentsOf (t ++ .char '/' :: u) = componentsOf t ++ componentsOf u := by
  rw [componentsOf, Text.splitAt_joined, List.filter_append]
  rfl

namespace Path

/-- What stands before the name in the text of a path. -/
def around (q : Path) : Text :=
  if q.parts = [] then q.root.text else q.text ++ "/"

theorem text_child (q : Path) (name : Text) : (q.child name).text = q.around ++ name := by
  obtain ⟨root, parts⟩ := q
  have named : ((⟨root, parts⟩ : Path).child name).text =
      root.text ++ List.intercalate "/" (parts ++ [name]) := by
    refine if_neg fun alone => ?_
    exact List.append_ne_nil_of_right_ne_nil parts (List.cons_ne_nil name []) alone.2
  rw [named, around]
  dsimp only
  by_cases empty : parts = []
  · rw [if_pos empty, empty, List.nil_append, List.intercalate_singleton]
  · have whole : (⟨root, parts⟩ : Path).text = root.text ++ List.intercalate "/" parts :=
      if_neg fun alone => empty alone.2
    rw [if_neg empty, whole, Text.intercalate_concat empty]
    simp only [List.append_assoc]

theorem around_child (q : Path) (name : Text) :
    (q.child name).around = q.around ++ name ++ "/" := by
  have present : (q.child name).parts ≠ [] :=
    List.append_ne_nil_of_right_ne_nil q.parts (List.cons_ne_nil name [])
  rw [around, if_neg present, text_child]

theorem child_parent {p : Path} (present : p.parts ≠ []) : p.parent.child p.name = p := by
  have last : p.parts.getLast? = some (p.parts.getLast present) :=
    List.getLast?_eq_some_getLast present
  unfold parent child name
  rw [last, Option.getD_some, List.dropLast_concat_getLast]

/-- The text before the name holds the components before it, and nothing else that could be
amiss. -/
theorem around_askable {q : Path} : q.around.Askable ↔ ∀ part ∈ q.parts, part.Askable := by
  obtain ⟨root, parts⟩ := q
  induction parts using List.reverseRecOn with
  | nil =>
    have plain : root.text.Askable := by cases root <;> exact ⟨by decide, by decide⟩
    exact ⟨fun _ => nofun, fun _ => plain⟩
  | append_singleton rest name ih =>
    have slash : Text.Askable "/" := ⟨by decide, by decide⟩
    have split : Path.around ⟨root, rest ++ [name]⟩ = Path.around ⟨root, rest⟩ ++ name ++ "/" :=
      around_child ⟨root, rest⟩ name
    rw [split, Text.askable_append, Text.askable_append, ih, List.forall_mem_append,
      List.forall_mem_singleton, and_iff_left slash]

theorem text_askable {q : Path} : q.text.Askable ↔ ∀ part ∈ q.parts, part.Askable := by
  rw [← around_askable, around]
  split
  · rename_i empty
    have whole : q.text.Askable := by
      unfold text
      rw [empty, List.intercalate_nil, List.append_nil]
      split
      · exact ⟨by decide, by decide⟩
      · cases q.root <;> exact ⟨by decide, by decide⟩
    have plain : q.root.text.Askable := by cases q.root <;> exact ⟨by decide, by decide⟩
    exact iff_of_true whole plain
  · rw [Text.askable_append, and_iff_left ⟨by decide, by decide⟩]

end Path

/-- The text of a location shows its last component as the name. -/
theorem name_of_text {before : Location} {part : Text} (component : IsComponent part) :
    (Path.ofText (absolutePath (before ++ [part])).text).name = part := by
  obtain ⟨t, ends⟩ : ∃ t : Text, (absolutePath before).around = t ++ [.char '/'] := by
    unfold Path.around
    split
    · exact ⟨[], rfl⟩
    · exact ⟨_, rfl⟩
  have split : (absolutePath (before ++ [part])).text = t ++ .char '/' :: part := by
    have text : (absolutePath (before ++ [part])).text = (absolutePath before).around ++ part :=
      Path.text_child (absolutePath before) part
    rw [text, ends, List.append_assoc, List.singleton_append]
  have last : (componentsOf (t ++ .char '/' :: part)).getLast? = some part := by
    rw [componentsOf_joined, componentsOf_component component, List.getLast?_concat]
  rw [split, Path.name, Path.ofText, last, Option.getD_some]

end Files
end StructBridge
