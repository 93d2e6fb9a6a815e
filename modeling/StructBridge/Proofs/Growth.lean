import Mathlib.Data.List.Induction
import StructBridge.Proofs.Walks

/-!
Trees that gain directories and lose none. A path leads in the larger tree where it led before, and
making the directories of a path adds only such as its beginnings name.
-/
namespace StructBridge.Files
namespace Disk

structure Keeps (d d' : Disk) : Prop where
  working : d'.workingDirectory = d.workingDirectory
  directories : ∀ l, d.entry? l = some .directory → d'.entry? l = some .directory

variable {d d' : Disk}

theorem follow_kept (keeps : Keeps d d') {path : Text} {l l' : Location} {parts : List Text}
    (leads : d.follow path l parts = .ok l') : d'.follow path l parts = .ok l' := by
  induction parts generalizing l with
  | nil => exact leads
  | cons part rest ih =>
    rcases follow_cons_ok.mp leads with ⟨up, leads⟩ | ⟨down, short, present, leads⟩
    · exact follow_cons_ok.mpr (.inl ⟨up, ih leads⟩)
    · exact follow_cons_ok.mpr (.inr ⟨down, short, keeps.directories _ present, ih leads⟩)

theorem locate_kept (keeps : Keeps d d') {p : Path} {place : Place}
    (located : d.locate p = .ok place) : d'.locate p = .ok place := by
  have same : d'.start p = d.start p := by rw [start, start, keeps.working]
  obtain ⟨readable, leads⟩ := locate_ok.mp located
  refine locate_ok.mpr ⟨readable, ?_⟩
  cases leads with
  | here empty =>
    rw [← same]
    exact .here empty
  | around directory last led => exact .around directory last (same ▸ follow_kept keeps led)
  | named directory name last down short led =>
    exact .named directory name last down short (same ▸ follow_kept keeps led)

theorem target_kept (keeps : Keeps d d') {p : Path} {l : Location}
    (named : d.target? p = some l) : d'.target? p = some l := by
  obtain ⟨directory, name, located, rfl⟩ := target_eq_some_iff.mp named
  exact target_eq_some_iff.mpr ⟨directory, name, locate_kept keeps located, rfl⟩

/-- A path on the way to another one, or that one itself. -/
def Begins (q p : Path) : Prop := q.root = p.root ∧ q.parts <+: p.parts

/-- A place is as it was, or there was nothing and a beginning of a path names a directory there. -/
def KeptOrMade (p : Path) (d d' : Disk) (l : Location) : Prop :=
  d'.entry? l = d.entry? l ∨
    d.entry? l = none ∧ d'.entry? l = some .directory ∧ ∃ q, Begins q p ∧ d'.target? q = some l

theorem KeptOrMade.of_entry {p : Path} {d'' : Disk} {l : Location} (kept : KeptOrMade p d d' l)
    (keeps : Keeps d' d'') (same : d''.entry? l = d'.entry? l) : KeptOrMade p d d'' l := by
  rcases kept with same' | ⟨absent, made, q, begins, named⟩
  · exact .inl (same.trans same')
  · exact .inr ⟨absent, same.trans made, q, begins, target_kept keeps named⟩

/-- Directories on the way to a path have been made, and nothing else has changed. -/
structure Grown (p : Path) (d d' : Disk) : Prop where
  working : d'.workingDirectory = d.workingDirectory
  entries : ∀ l, KeptOrMade p d d' l

namespace Grown

variable {p : Path}

theorem refl (p : Path) (d : Disk) : Grown p d d := ⟨rfl, fun _ => .inl rfl⟩

theorem keeps (grown : Grown p d d') : Keeps d d' := by
  refine ⟨grown.working, ?_⟩
  intro l present
  rcases grown.entries l with same | ⟨absent, _⟩
  · exact same.trans present
  · rw [absent] at present
    cases present

theorem trans {d'' : Disk} (first : Grown p d d') (later : Grown p d' d'') : Grown p d d'' := by
  refine ⟨later.working.trans first.working, ?_⟩
  intro l
  rcases first.entries l with same | ⟨absent, made, q, begins, named⟩
  · rcases later.entries l with same' | ⟨absent, made, reached⟩
    · exact .inl (same'.trans same)
    · exact .inr ⟨same ▸ absent, made, reached⟩
  · -- The name still leads there, since every directory on its way is kept.
    exact .inr ⟨absent, later.keeps.directories l made, q, begins, target_kept later.keeps named⟩

end Grown

theorem makeDirectory_grown {p q : Path} {made : Disk} (begins : Begins q p)
    (run : d.makeDirectory q = .ok made) : Grown p d made := by
  obtain ⟨place, located, run⟩ := ok_of_bind run
  cases place with
  | unnamed directory => cases run
  | named directory name =>
    cases absent : d.entry? (directory ++ [name]) with
    | some e => simp [absent] at run
    | none =>
      simp only [absent] at run
      obtain rfl := (Except.ok.inj run).symm
      have below : directory ++ [name] ≠ [] := by simp
      have kept : Keeps d (d.put (directory ++ [name]) .directory) := by
        refine ⟨rfl, ?_⟩
        intro l present
        rw [entry_put below]
        split <;> first | rfl | exact present
      refine ⟨rfl, ?_⟩
      intro l
      unfold KeptOrMade
      rw [entry_put below]
      by_cases here : l = directory ++ [name]
      · subst here
        rw [if_pos rfl]
        exact .inr ⟨absent, rfl, q, begins,
          target_kept kept (target_eq_some_iff.mpr ⟨directory, name, located, rfl⟩)⟩
      · exact .inl (if_neg here)

theorem keepDirectory_grown {p q : Path} {made : Disk} (begins : Begins q p)
    (run : d.keepDirectory q = .ok made) : Grown p d made := by
  unfold keepDirectory at run
  cases created : d.makeDirectory q with
  | ok complete =>
    rw [created] at run
    obtain rfl : complete = made := Except.ok.inj run
    exact makeDirectory_grown begins created
  | error fault =>
    rw [created] at run
    have stays (hopeless present : Bool)
        (run : (if hopeless then .error fault else if present then .ok d else .error fault) =
          (.ok made : Except SystemFault Disk)) : d = made := by
      cases hopeless <;> cases present <;> simp_all
    obtain rfl := stays _ _ run
    exact .refl p d

theorem ensureChain_grown {p : Path} (chain : List Path) (d : Disk)
    (begin : ∀ q ∈ chain, Begins q p) : Grown p d (d.ensureChain chain).1 := by
  induction chain generalizing d with
  | nil => exact .refl p d
  | cons q around ih =>
    have begins := begin q (by simp)
    have outside := fun d => ih d fun q' member => begin q' (List.mem_cons_of_mem q member)
    unfold ensureChain
    split
    · rename_i made kept
      exact keepDirectory_grown begins kept
    · exact .refl p d
    · have grown := outside d
      split
      · rename_i made done
        rw [done] at grown
        split
        · rename_i complete kept
          exact grown.trans (keepDirectory_grown begins kept)
        · exact grown
      · rename_i made fault stopped
        rw [stopped] at grown
        exact grown
    · exact .refl p d

theorem mem_beginnings {xs ys : List Text} : xs ∈ Path.beginnings ys ↔ xs <+: ys := by
  induction ys generalizing xs with
  | nil => simp [Path.beginnings]
  | cons y rest ih =>
    rw [Path.beginnings, List.mem_cons, List.mem_map, List.prefix_cons_iff]
    simp only [ih]
    constructor
    · rintro (rfl | ⟨zs, begins, rfl⟩)
      · exact .inl rfl
      · exact .inr ⟨zs, rfl, begins⟩
    · rintro (rfl | ⟨zs, rfl, begins⟩)
      · exact .inl rfl
      · exact .inr ⟨zs, begins, rfl⟩

theorem begins_of_mem_chain {p q : Path} (member : q ∈ p.chain) : Begins q p := by
  obtain ⟨parts, among, rfl⟩ := List.mem_map.mp member
  exact ⟨rfl, mem_beginnings.mp (List.mem_reverse.mp among)⟩

theorem beginnings_last (parts : List Text) :
    ∃ rest, (Path.beginnings parts).reverse = parts :: rest := by
  induction parts with
  | nil => exact ⟨[], rfl⟩
  | cons part others ih =>
    obtain ⟨rest, made⟩ := ih
    refine ⟨rest.map (part :: ·) ++ [[]], ?_⟩
    rw [Path.beginnings, List.reverse_cons, ← List.map_reverse, made]
    rfl

theorem chain_head (p : Path) : ∃ rest, p.chain = p :: rest := by
  obtain ⟨rest, made⟩ := beginnings_last p.parts
  exact ⟨_, by rw [Path.chain, made]; rfl⟩

theorem look_directory {q : Path} (present : d.isDirectory q = true) :
    d.look q = .ok .directory := by
  unfold isDirectory at present
  split at present
  · assumption
  · cases present

/-- A directory that is there already need not be made. -/
theorem ensureDirectory_present {q : Path} (present : d.isDirectory q = true) :
    d.ensureDirectory q = (d, .ok ()) := by
  have occupied : d.makeDirectory q = .error (.occupied q.text) := by
    obtain ⟨place, located, looked⟩ := ok_of_bind (look_directory present)
    rw [makeDirectory, located, ok_bind]
    cases place with
    | unnamed directory => rfl
    | named directory name =>
      dsimp only at looked ⊢
      split at looked
      · rfl
      · cases looked
  have kept : d.keepDirectory q = .ok d := by
    rw [keepDirectory, occupied]
    dsimp only
    rw [present]
    rfl
  obtain ⟨rest, chain⟩ := chain_head q
  rw [ensureDirectory, chain]
  unfold ensureChain
  rw [kept]

theorem ensureDirectory_grown (d : Disk) (p : Path) : Grown p d (d.ensureDirectory p).1 :=
  ensureChain_grown p.chain d fun _ => begins_of_mem_chain

/-- The root and the place of the run are directories, and so is the place of every entry. -/
structure IsTree (d : Disk) : Prop where
  working : d.entry? d.workingDirectory = some .directory
  parents : ∀ l name, d.entry? (l ++ [name]) ≠ none → d.entry? l = some .directory

/-- A place from which two dots lead to directories, up to the root. -/
def Open (d : Disk) (l : Location) : Prop := ∀ k, k <+: l → d.entry? k = some .directory

theorem IsTree.open_of_directory (tree : IsTree d) {l : Location}
    (present : d.entry? l = some .directory) : Open d l := by
  rintro k ⟨rest, rfl⟩
  induction rest using List.reverseRecOn with
  | nil => simpa using present
  | append_singleton rest name ih =>
    have above : d.entry? (k ++ rest ++ [name]) ≠ none := by
      rw [List.append_assoc, present]
      simp
    exact ih (tree.parents _ _ above)

theorem open_root : Open d [] := by
  intro k begins
  rw [List.prefix_nil.mp begins]
  exact if_pos rfl

theorem Open.begun {k l : Location} (around : Open d l) (begins : k <+: l) : Open d k :=
  fun j within => around j (within.trans begins)

theorem Open.concat {l : Location} {part : Text} (around : Open d l)
    (present : d.entry? (l ++ [part]) = some .directory) : Open d (l ++ [part]) := by
  intro k begins
  rcases List.prefix_concat_iff.mp begins with rfl | within
  · exact present
  · exact around k within

theorem follow_open {path : Text} {l l' : Location} {parts : List Text} (start : Open d l)
    (leads : d.follow path l parts = .ok l') : Open d l' := by
  induction parts generalizing l with
  | nil =>
    obtain rfl : l = l' := Except.ok.inj leads
    exact start
  | cons part rest ih =>
    rcases follow_cons_ok.mp leads with ⟨_, leads⟩ | ⟨_, _, present, leads⟩
    · exact ih (start.begun (List.dropLast_prefix l)) leads
    · exact ih (start.concat present) leads

theorem start_open (working : Open d d.workingDirectory) (p : Path) : Open d (d.start p) := by
  unfold start
  split
  · exact working
  · exact open_root

theorem target_parent {p : Path} {l : Location} {name : Text}
    (working : Open d d.workingDirectory) (named : d.target? p = some (l ++ [name])) :
    d.entry? l = some .directory := by
  obtain ⟨directory, name', located, same⟩ := target_eq_some_iff.mp named
  obtain ⟨rfl, _⟩ := List.append_inj' same rfl
  exact follow_open (start_open working p) (locate_named located).2 l (List.prefix_refl _)

theorem Keeps.open_working (keeps : Keeps d d') (tree : IsTree d) :
    Open d' d'.workingDirectory := by
  intro k begins
  rw [keeps.working] at begins
  exact keeps.directories k (tree.open_of_directory tree.working k begins)

theorem Grown.isTree {p : Path} (grown : Grown p d d') (tree : IsTree d) : IsTree d' := by
  constructor
  · rw [grown.working]
    exact grown.keeps.directories _ tree.working
  · intro l name present
    rcases grown.entries (l ++ [name]) with same | ⟨_, _, q, _, named⟩
    · exact grown.keeps.directories l (tree.parents l name (same ▸ present))
    · exact target_parent (grown.keeps.open_working tree) named

end Disk
end StructBridge.Files
