import StructBridge.Text.Search

/-!
The brackets of a text, read with a stack of those that are open. A text is well nested when every
closing one meets its own opening one and none stays open; such a text can stand anywhere.
-/
namespace StructBridge.Text

inductive Bracket where
  | round
  | square
  | brace
  | angle
  deriving DecidableEq, Repr

inductive Mark where
  | opens (k : Bracket)
  | closes (k : Bracket)
  deriving DecidableEq, Repr

def markOf? : CodePoint → Option Mark
  | .char '(' => some (.opens .round)
  | .char ')' => some (.closes .round)
  | .char '[' => some (.opens .square)
  | .char ']' => some (.closes .square)
  | .char '\x7b' => some (.opens .brace)
  | .char '\x7d' => some (.closes .brace)
  | .char '<' => some (.opens .angle)
  | .char '>' => some (.closes .angle)
  | _ => none

/-- Reads one code point with the brackets that are open, the innermost first. -/
def step (inside : List Bracket) (c : CodePoint) : Option (List Bracket) :=
  match markOf? c, inside with
  | none, _ => some inside
  | some (.opens k), _ => some (k :: inside)
  | some (.closes k), innermost :: around => if innermost = k then some around else none
  | some (.closes _), [] => none

def scan (inside : List Bracket) (t : Text) : Option (List Bracket) := t.foldlM step inside

def WellNested (t : Text) : Prop := scan [] t = some []

instance (t : Text) : Decidable (WellNested t) := inferInstanceAs (Decidable (scan [] t = some []))

theorem scan_nil (inside : List Bracket) : scan inside [] = some inside := rfl

theorem scan_append (inside : List Bracket) (t u : Text) :
    scan inside (t ++ u) = (scan inside t).bind fun reached => scan reached u :=
  List.foldlM_append

theorem step_around {inside reached : List Bracket} {c : CodePoint} (around : List Bracket)
    (run : step inside c = some reached) : step (inside ++ around) c = some (reached ++ around) := by
  unfold step at run ⊢
  cases mark : markOf? c with
  | none =>
    rw [mark] at run
    obtain rfl : inside = reached := Option.some.inj run
    rfl
  | some mark' =>
    rw [mark] at run
    cases mark' with
    | opens k =>
      obtain rfl : k :: inside = reached := Option.some.inj run
      rfl
    | closes k =>
      cases inside with
      | nil => cases run
      | cons innermost rest =>
        dsimp only at run
        split at run
        · rename_i same
          obtain rfl : rest = reached := Option.some.inj run
          exact if_pos same
        · cases run

/-- What is open around a text does not matter to it. -/
theorem scan_around {inside reached : List Bracket} {t : Text} (around : List Bracket)
    (run : scan inside t = some reached) : scan (inside ++ around) t = some (reached ++ around) := by
  induction t generalizing inside with
  | nil =>
    obtain rfl : inside = reached := Option.some.inj run
    rfl
  | cons c rest ih =>
    obtain ⟨next, here, later⟩ := Option.bind_eq_some_iff.mp run
    exact Option.bind_eq_some_iff.mpr ⟨_, step_around around here, ih later⟩

/-- A text that leaves the open brackets as they are, whichever they are. -/
def Neutral (t : Text) : Prop := ∀ inside, scan inside t = some inside

theorem neutral_iff {t : Text} : Neutral t ↔ WellNested t := by
  constructor
  · intro neutral
    exact neutral []
  · intro nested inside
    exact scan_around inside nested

theorem neutral_nil : Neutral [] := scan_nil

theorem neutral_literal {cs : List Char} (nested : WellNested (cs.map .char)) :
    Neutral (ofString (String.ofList cs)) := by
  rw [ofString_literal]
  exact neutral_iff.mpr nested

theorem Neutral.append {t u : Text} (first : Neutral t) (later : Neutral u) : Neutral (t ++ u) := by
  intro inside
  rw [scan_append, first]
  exact later inside

theorem neutral_intercalate {separator : Text} {ts : List Text} (between : Neutral separator)
    (each : ∀ t ∈ ts, Neutral t) : Neutral (List.intercalate separator ts) := by
  induction ts with
  | nil => exact neutral_nil
  | cons t rest ih =>
    have here := each t (by simp)
    have later := ih fun u member => each u (List.mem_cons_of_mem t member)
    cases rest with
    | nil => simpa using here
    | cons u others =>
      rw [List.intercalate_cons_cons]
      exact (here.append between).append later

theorem neutral_of_same {t u : Text} (nested : WellNested u)
    (same : ∀ inside, scan inside t = scan inside u) : Neutral t := by
  intro inside
  rw [same]
  exact neutral_iff.mpr nested inside

def Plain (t : Text) : Prop := ∀ c ∈ t, markOf? c = none

instance (t : Text) : Decidable (Plain t) :=
  inferInstanceAs (Decidable (∀ c ∈ t, markOf? c = none))

theorem Plain.neutral {t : Text} (plain : Plain t) : Neutral t := by
  intro inside
  induction t with
  | nil => rfl
  | cons c rest ih =>
    have here : step inside c = some inside := by
      unfold step
      rw [plain c (by simp)]
    refine Option.bind_eq_some_iff.mpr ⟨inside, here, ?_⟩
    exact ih fun c' member => plain c' (List.mem_cons_of_mem c member)

theorem opens_brace_iff {c : CodePoint} :
    markOf? c = some (.opens .brace) ↔ c = .char '\x7b' := by
  constructor
  · intro marked
    unfold markOf? at marked
    split at marked <;> first | rfl | cases marked
  · rintro rfl
    rfl

theorem closes_brace_iff {c : CodePoint} :
    markOf? c = some (.closes .brace) ↔ c = .char '\x7d' := by
  constructor
  · intro marked
    unfold markOf? at marked
    split at marked <;> first | rfl | cases marked
  · rintro rfl
    rfl

theorem step_count {inside reached : List Bracket} {c : CodePoint}
    (run : step inside c = some reached) :
    inside.count .brace + [c].count (.char '\x7b') =
      reached.count .brace + [c].count (.char '\x7d') := by
  have opened : [c].count (.char '\x7b') = if markOf? c = some (.opens .brace) then 1 else 0 := by
    simp [List.count_singleton, opens_brace_iff]
  have closed : [c].count (.char '\x7d') = if markOf? c = some (.closes .brace) then 1 else 0 := by
    simp [List.count_singleton, closes_brace_iff]
  rw [opened, closed]
  unfold step at run
  cases mark : markOf? c with
  | none =>
    rw [mark] at run
    obtain rfl : inside = reached := Option.some.inj run
    simp
  | some mark' =>
    rw [mark] at run
    cases mark' with
    | opens k =>
      obtain rfl : k :: inside = reached := Option.some.inj run
      simp [List.count_cons]
    | closes k =>
      cases inside with
      | nil => cases run
      | cons innermost rest =>
        dsimp only at run
        split at run
        · rename_i same
          obtain rfl : rest = reached := Option.some.inj run
          simp [List.count_cons, same]
        · cases run

theorem scan_count {inside reached : List Bracket} {t : Text} (run : scan inside t = some reached) :
    inside.count .brace + t.count (.char '\x7b') =
      reached.count .brace + t.count (.char '\x7d') := by
  induction t generalizing inside with
  | nil =>
    obtain rfl : inside = reached := Option.some.inj run
    rfl
  | cons c rest ih =>
    obtain ⟨next, here, later⟩ := Option.bind_eq_some_iff.mp run
    have now := step_count here
    have after := ih later
    rw [← List.singleton_append, List.count_append, List.count_append]
    omega

theorem WellNested.braces {t : Text} (nested : WellNested t) :
    t.count (.char '\x7b') = t.count (.char '\x7d') := by
  have counted := scan_count nested
  simpa using counted

end StructBridge.Text
