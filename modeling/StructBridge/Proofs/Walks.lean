import StructBridge.Files.Disk
import StructBridge.Proofs.Traversal

/-!
What following a path takes: each component but two dots has to lead to a directory, and the last
one may be a name that is still free.
-/
namespace StructBridge.Files.Disk

variable {d : Disk} {p : Path} {path part : Text} {rest : List Text} {l l' : Location}

theorem follow_cons_ok :
    d.follow path l (part :: rest) = .ok l' ↔
      part = ".." ∧ d.follow path l.dropLast rest = .ok l' ∨
      part ≠ ".." ∧ longerThan nameLimit part = false ∧
        d.entry? (l ++ [part]) = some .directory ∧ d.follow path (l ++ [part]) rest = .ok l' := by
  rw [follow]
  by_cases up : part = ".."
  · simp [up]
  cases long : longerThan nameLimit part with
  | true => simp [up]
  | false =>
    cases present : d.entry? (l ++ [part]) with
    | none => simp [up]
    | some e => cases e <;> simp [up]

/-- The text of a path is one that the system can read. -/
structure Readable (p : Path) : Prop where
  encodes : p.text.nameSize?.isNone = false
  clean : p.text.contains (.char '\x00') = false
  short : longerThan pathLimit p.text = false

/-- The way to a place. A path of no components calls a directory by no name, and so does one that
ends in two dots. -/
inductive LeadsTo (d : Disk) (p : Path) : Place → Prop
  | here (empty : p.parts.getLast? = none) : LeadsTo d p (.unnamed (d.start p))
  | around (directory : Location) (last : p.parts.getLast? = some (Text.ofString ".."))
      (led : d.follow p.text (d.start p) p.parts = .ok directory) : LeadsTo d p (.unnamed directory)
  | named (directory : Location) (name : Text) (last : p.parts.getLast? = some name)
      (down : name ≠ "..") (short : longerThan nameLimit name = false)
      (led : d.follow p.text (d.start p) p.parts.dropLast = .ok directory) :
      LeadsTo d p (.named directory name)

theorem locate_ok {place : Place} : d.locate p = .ok place ↔ Readable p ∧ LeadsTo d p place := by
  constructor
  · intro located
    unfold locate at located
    split at located
    · cases located
    split at located
    · cases located
    split at located
    · cases located
    rename_i encodes clean short
    refine ⟨⟨Bool.eq_false_iff.mpr encodes, Bool.eq_false_iff.mpr clean,
      Bool.eq_false_iff.mpr short⟩, ?_⟩
    cases last : p.parts.getLast? with
    | none =>
      rw [last] at located
      obtain rfl := Except.ok.inj located
      exact .here last
    | some name =>
      rw [last] at located
      dsimp only at located
      by_cases up : name = ".."
      · rw [if_pos up] at located
        obtain ⟨directory, led, rfl⟩ := ok_of_map located
        exact .around directory (up ▸ last) led
      · rw [if_neg up] at located
        obtain ⟨directory, led, located⟩ := ok_of_bind located
        split at located
        · cases located
        rename_i short
        obtain rfl := Except.ok.inj located
        exact .named directory name last up (Bool.eq_false_iff.mpr short) led
  · rintro ⟨readable, leads⟩
    unfold locate
    simp only [readable.encodes, readable.clean, readable.short, Bool.false_eq_true, ↓reduceIte]
    cases leads with
    | here empty => rw [empty]
    | around directory last led =>
      rw [last]
      dsimp only
      rw [if_pos rfl, led]
      rfl
    | named directory name last down short led =>
      rw [last]
      dsimp only
      rw [if_neg down, led, ok_bind, if_neg (Bool.eq_false_iff.mp short)]
      rfl

theorem locate_named {directory : Location} {name : Text}
    (located : d.locate p = .ok (.named directory name)) :
    p.parts.getLast? = some name ∧ d.follow p.text (d.start p) p.parts.dropLast = .ok directory := by
  obtain ⟨_, leads⟩ := locate_ok.mp located
  cases leads with
  | named _ _ last _ _ led => exact ⟨last, led⟩

/-- The location that a path names, where it leads anywhere. -/
def target? (d : Disk) (p : Path) : Option Location :=
  match d.locate p with
  | .ok (.named directory name) => some (directory ++ [name])
  | _ => none

theorem target_eq_some_iff :
    d.target? p = some l ↔
      ∃ directory name, d.locate p = .ok (.named directory name) ∧ l = directory ++ [name] := by
  unfold target?
  split
  · rename_i directory name located
    constructor
    · intro same
      exact ⟨directory, name, located, (Option.some.inj same).symm⟩
    · rintro ⟨directory', name', other, rfl⟩
      rw [located] at other
      cases other
      rfl
  · rename_i unnamed
    constructor
    · intro same
      cases same
    · rintro ⟨directory, name, located, _⟩
      exact absurd located (unnamed directory name)

end StructBridge.Files.Disk
