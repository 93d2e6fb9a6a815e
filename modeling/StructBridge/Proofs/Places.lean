import StructBridge.Proofs.Growth
import StructBridge.Proofs.PathText

/-!
Where a call stands: in a directory that its own path leads to, through directories alone. What a
path of the call names by its words is one of these directories or has its name from the path, and a
directory that is found along a path is found along the absolute one too.
-/
namespace StructBridge.Files.Disk

variable {d : Disk} {p : Path} {path part : Text} {parts : List Text} {k l l' : Location}

/-- A name that a directory can have. -/
structure IsName (name : Text) : Prop where
  askable : name.Askable
  short : longerThan nameLimit name = false
  down : name ≠ ".."

/-- A place that can be stood in: a directory in directories, each under a name. -/
structure Stands (d : Disk) (l : Location) : Prop where
  around : Open d l
  names : ∀ part ∈ l, IsName part

section Following

theorem follow_resolves (led : d.follow path l parts = .ok l') : l' = parts.foldl advance l := by
  induction parts generalizing l with
  | nil => exact (Except.ok.inj led).symm
  | cons part rest ih =>
    rw [List.foldl_cons, advance]
    rcases follow_cons_ok.mp led with ⟨up, led⟩ | ⟨down, _, _, led⟩
    · rw [if_pos up]
      exact ih led
    · rw [if_neg down]
      exact ih led

theorem foldl_advance (down : ∀ part ∈ parts, part ≠ "..") :
    parts.foldl advance l = l ++ parts := by
  induction parts generalizing l with
  | nil => exact (List.append_nil l).symm
  | cons part rest ih =>
    obtain ⟨first, others⟩ := List.forall_mem_cons.mp down
    rw [List.foldl_cons, advance, if_neg first, ih others, List.append_assoc, List.singleton_append]

/-- The location that an absolute path without two dots leads to, on whatever disk. -/
theorem target_absolutePath (down : ∀ part ∈ l, part ≠ "..")
    (named : d.target? (absolutePath l) = some l') : l' = l := by
  obtain ⟨directory, name, located, rfl⟩ := target_eq_some_iff.mp named
  obtain ⟨last, led⟩ := locate_named located
  obtain ⟨before, split⟩ := List.getLast?_eq_some_iff.mp last
  obtain rfl : l = before ++ [name] := split
  have way : d.follow (absolutePath (before ++ [name])).text []
      (before ++ [name]).dropLast = .ok directory := led
  rw [List.dropLast_concat] at way
  rw [follow_resolves way,
    foldl_advance fun part member => down part (List.mem_append_left _ member), List.nil_append]

end Following

namespace Stands

theorem root (d : Disk) : Stands d [] := ⟨open_root, nofun⟩

theorem follow (path : Text) {rest : Location} (stands : Stands d (l ++ rest)) :
    d.follow path l rest = .ok (l ++ rest) := by
  induction rest generalizing l with
  | nil => rw [List.append_nil, Disk.follow]
  | cons part rest ih =>
    have name := stands.names part (by simp)
    have split : l ++ part :: rest = l ++ [part] ++ rest := by simp
    have present := stands.around (l ++ [part]) (split ▸ List.prefix_append _ _)
    rw [split] at stands ⊢
    exact follow_cons_ok.mpr (.inr ⟨name.down, name.short, present, ih stands⟩)

theorem of_follow (askable : ∀ part ∈ parts, part.Askable) (stands : Stands d l)
    (led : d.follow path l parts = .ok l') : Stands d l' := by
  refine ⟨follow_open stands.around led, ?_⟩
  have names := stands.names
  clear stands
  induction parts generalizing l with
  | nil =>
    obtain rfl := Except.ok.inj led
    exact names
  | cons part rest ih =>
    obtain ⟨first, others⟩ := List.forall_mem_cons.mp askable
    rcases follow_cons_ok.mp led with ⟨_, led⟩ | ⟨down, short, _, led⟩
    · exact ih others led fun part member => names part (List.dropLast_subset l member)
    · refine ih others led (List.forall_mem_append.mpr ⟨names, ?_⟩)
      exact List.forall_mem_singleton.mpr ⟨first, short, down⟩

theorem start (working : Stands d d.workingDirectory) (p : Path) : Stands d (d.start p) := by
  unfold Disk.start
  split
  · exact working
  · exact .root d

end Stands

section Naming

variable {suits : Text → Prop}

/-- Where the paths of a call lead by their words: from a directory on the way to where it stands,
by components that suit. -/
def Placed (d : Disk) (suits : Text → Prop) (l : Location) : Prop :=
  ∃ base named, l = base ++ named ∧ base <+: d.workingDirectory ∧ ∀ part ∈ named, suits part

/-- A location whose last component suits. -/
def NamedBy (suits : Text → Prop) (l : Location) : Prop :=
  ∃ before part, l = before ++ [part] ∧ suits part

theorem NamedBy.imp {suits' : Text → Prop} (weaker : ∀ part, suits part → suits' part)
    (named : NamedBy suits l) : NamedBy suits' l := by
  obtain ⟨before, part, split, suit⟩ := named
  exact ⟨before, part, split, weaker part suit⟩

theorem placed_root : Placed d suits [] := ⟨[], [], rfl, List.nil_prefix, nofun⟩

theorem advance_placed (suit : suits part) (placed : Placed d suits l) :
    Placed d suits (advance l part) := by
  obtain ⟨base, named, rfl, begins, each⟩ := placed
  unfold advance
  split
  · rcases List.eq_nil_or_concat' named with rfl | ⟨before, last, rfl⟩
    · refine ⟨base.dropLast, [], by simp, (List.dropLast_prefix base).trans begins, nofun⟩
    · refine ⟨base, before, ?_, begins, fun part member => ?_⟩
      · rw [← List.append_assoc, List.dropLast_concat]
      · exact each part (List.mem_append_left _ member)
  · refine ⟨base, named ++ [part], List.append_assoc .., begins, ?_⟩
    exact List.forall_mem_append.mpr ⟨each, List.forall_mem_singleton.mpr suit⟩

theorem resolve_placed (each : ∀ part ∈ p.parts, suits part) : Placed d suits (d.resolve p) := by
  have start : Placed d suits (d.start p) := by
    unfold Disk.start
    split
    · exact ⟨d.workingDirectory, [], by simp, List.prefix_rfl, nofun⟩
    · exact placed_root
  unfold resolve
  generalize p.parts = parts at each
  generalize d.start p = l at start
  induction parts generalizing l with
  | nil => exact start
  | cons part rest ih =>
    obtain ⟨first, others⟩ := List.forall_mem_cons.mp each
    exact ih others (advance l part) (advance_placed first start)

/-- What is found under the absolute path of such a location, and was no directory, has its name
from the paths of the call. -/
theorem Placed.named {d' : Disk} (working : Stands d d.workingDirectory) (placed : Placed d suits l)
    (target : d'.target? (absolutePath l) = some l') (room : d.entry? l' ≠ some .directory) :
    NamedBy suits l := by
  obtain ⟨base, named, rfl, begins, each⟩ := placed
  rcases List.eq_nil_or_concat' named with rfl | ⟨before, last, rfl⟩
  · rw [List.append_nil] at target
    have down : ∀ part ∈ base, part ≠ ".." := fun part member =>
      (working.names part (begins.subset member)).down
    rw [target_absolutePath down target] at room
    exact absurd (working.around base begins) room
  · refine ⟨base ++ before, last, by simp, each last (by simp)⟩

end Naming

end StructBridge.Files.Disk
