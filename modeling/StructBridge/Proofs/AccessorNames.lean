import Mathlib.Data.List.Nodup
import StructBridge.Proofs.Reading
import StructBridge.Proofs.TypeGrammar

/-!
The accessors of a struct. Two names get one accessor only when they are equal or when one is a
reserved word and the other that word with an underscore. A struct is read exactly when no two of its
properties meet so; else the fault tells of the first that takes an accessor again.
-/
namespace StructBridge

namespace Name

theorem reservedWords_end : ∀ w ∈ reservedWords, w.getLast? ≠ some (.char '_') := by
  unfold reservedWords
  repeat rw [Text.ofString_literal]
  decide

theorem underscored_not_reserved (t : Text) : t ++ "_" ∉ reservedWords := by
  intro member
  apply reservedWords_end _ member
  rw [Text.ofString_literal]
  exact List.getLast?_concat

theorem accessorText_reserved {t : Text} (reserved : t ∈ reservedWords) :
    accessorText t = t ++ "_" := if_pos reserved

theorem accessorText_plain {t : Text} (plain : t ∉ reservedWords) : accessorText t = t :=
  if_neg plain

theorem accessorText_not_reserved (t : Text) : accessorText t ∉ reservedWords := by
  by_cases reserved : t ∈ reservedWords
  · rw [accessorText_reserved reserved]
    exact underscored_not_reserved t
  · rw [accessorText_plain reserved]
    exact reserved

/-- The one way in which two different names get the same accessor. -/
theorem accessorText_meets {t u : Text} (shared : accessorText t = accessorText u) :
    t = u ∨ (t ∈ reservedWords ∧ u = t ++ "_") ∨ (u ∈ reservedWords ∧ t = u ++ "_") := by
  by_cases reserved : t ∈ reservedWords
  · rw [accessorText_reserved reserved] at shared
    by_cases reserved' : u ∈ reservedWords
    · rw [accessorText_reserved reserved'] at shared
      exact .inl (List.append_cancel_right shared)
    · rw [accessorText_plain reserved'] at shared
      exact .inr (.inl ⟨reserved, shared.symm⟩)
  · rw [accessorText_plain reserved] at shared
    by_cases reserved' : u ∈ reservedWords
    · rw [accessorText_reserved reserved'] at shared
      exact .inr (.inr ⟨reserved', shared⟩)
    · rw [accessorText_plain reserved'] at shared
      exact .inl shared

theorem accessorText_underscored {r : Text} (reserved : r ∈ reservedWords) :
    accessorText (r ++ "_") = accessorText r := by
  rw [accessorText_plain (underscored_not_reserved r), accessorText_reserved reserved]

theorem accessors_nodup_iff {names : List Text} :
    (names.map accessorText).Nodup ↔
      names.Nodup ∧ ∀ r ∈ reservedWords, r ∈ names → r ++ "_" ∉ names := by
  constructor
  · intro distinct
    refine ⟨distinct.of_map, ?_⟩
    intro r reserved member member'
    have same := List.inj_on_of_nodup_map distinct member' member (accessorText_underscored reserved)
    apply underscored_not_reserved r
    rw [same]
    exact reserved
  · rintro ⟨distinct, apart⟩
    refine distinct.map_on ?_
    intro t member u member' shared
    rcases accessorText_meets shared with same | ⟨reserved, rfl⟩ | ⟨reserved, rfl⟩
    · exact same
    · exact absurd member' (apart t reserved member)
    · exact absurd member (apart u reserved member')

end Name

namespace Schema
open Name

/-- Two properties with one accessor, the later of which is the first to take an accessor again. -/
structure FirstClash (names : List Text) (i j : Nat) (a b : Text) : Prop where
  before : i < j
  earlier : names[i]? = some a
  later : names[j]? = some b
  shared : accessorText a = accessorText b
  least : ∀ k < j, ∀ h < k, ∀ c d, names[h]? = some c → names[k]? = some d →
    accessorText c ≠ accessorText d
  unique : ∀ h < j, ∀ c, names[h]? = some c → accessorText c = accessorText b → h = i

theorem index_inj {names : List Text} (distinct : (names.map accessorText).Nodup) {h k : Nat}
    {c d : Text} (first : names[h]? = some c) (second : names[k]? = some d)
    (shared : accessorText c = accessorText d) : h = k := by
  have inside : h < (names.map accessorText).length := by
    rw [List.length_map]
    exact (List.getElem?_eq_some_iff.mp first).1
  apply (List.getElem?_inj inside distinct).mp
  rw [List.getElem?_map, List.getElem?_map, first, second, Option.map_some, Option.map_some, shared]

theorem firstClash_of_split {before after : List Text} {a b : Text}
    (distinct : (before.map accessorText).Nodup) (member : a ∈ before)
    (shared : accessorText a = accessorText b) :
    ∃ i, FirstClash (before ++ b :: after) i before.length a b := by
  obtain ⟨i, inside, found⟩ := List.getElem_of_mem member
  have earlier : before[i]? = some a := List.getElem?_eq_some_iff.mpr ⟨inside, found⟩
  have within {k : Nat} (short : k < before.length) : (before ++ b :: after)[k]? = before[k]? :=
    List.getElem?_append_left short
  have later : (before ++ b :: after)[before.length]? = some b := by
    rw [List.getElem?_append_right (Nat.le_refl _), Nat.sub_self]
    rfl
  refine ⟨i, inside, (within inside).trans earlier, later, shared, ?_, ?_⟩
  · intro k short h lower c d first second meets
    rw [within (Nat.lt_trans lower short)] at first
    rw [within short] at second
    have same := index_inj distinct first second meets
    omega
  · intro h short c first meets
    rw [within short] at first
    exact index_inj distinct first earlier (meets.trans shared.symm)

section Check

/-- The accessors of the names met so far, the last one first. -/
def takenBy (met : List Text) : Accessors :=
  met.map fun t => (.str (accessorText t), .str t)

theorem owner_takenBy (met : List Text) (accessor : Text) :
    (takenBy met).owner? (.str accessor) =
      (met.find? fun t => accessorText t = accessor).map .str := by
  have same : (fun entry : Json × Json => entry.1.same (.str accessor)) ∘
      (fun t => (Json.str (accessorText t), Json.str t)) = fun t => accessorText t = accessor := by
    funext t
    simp [Json.same_str, Bool.beq_eq_decide_eq]
  rw [Accessors.owner?, takenBy, List.find?_map, same, Option.map_map]
  rfl

theorem checkAccessors_owned {taken : Accessors} {i : Nat} {p : Property} {rest : List Property}
    {t : Text} (named : p.name = .str t) :
    checkAccessors taken i (p :: rest) =
      match taken.owner? (.str (accessorText t)) with
      | some earlier => .error (.wrong (.accessorClash earlier (.str t) (.str (accessorText t)))
          [.key "properties", .index i])
      | none => checkAccessors ((.str (accessorText t), .str t) :: taken) (i + 1) rest := by
  rw [checkAccessors, named, accessor_str]
  rfl

theorem checkAccessors_cons {met : List Text} {i : Nat} {p : Property} {rest : List Property}
    {t : Text} (named : p.name = .str t) :
    checkAccessors (takenBy met) i (p :: rest) =
      match met.find? fun u => accessorText u = accessorText t with
      | some a => .error (.wrong (.accessorClash (.str a) (.str t) (.str (accessorText t)))
          [.key "properties", .index i])
      | none => checkAccessors (takenBy (t :: met)) (i + 1) rest := by
  rw [checkAccessors_owned named, owner_takenBy]
  cases met.find? fun u => accessorText u = accessorText t <;> rfl

/-- How the check of the names that are left goes when those met so far have distinct accessors. -/
theorem checkAccessors_goes {met left : List Text} {i : Nat} {properties : List Property}
    (named : properties.map (·.name) = left.map .str) (distinct : (met.map accessorText).Nodup) :
    (checkAccessors (takenBy met) i properties = .ok () ∧
        ((left.reverse ++ met).map accessorText).Nodup) ∨
      ∃ before b after a, left = before ++ b :: after ∧
        ((before.reverse ++ met).map accessorText).Nodup ∧ a ∈ before.reverse ++ met ∧
        accessorText a = accessorText b ∧
        checkAccessors (takenBy met) i properties =
          .error (.wrong (.accessorClash (.str a) (.str b) (.str (accessorText b)))
            [.key "properties", .index (i + before.length)]) := by
  induction left generalizing met i properties with
  | nil =>
    obtain rfl : properties = [] := List.map_eq_nil_iff.mp named
    exact .inl ⟨rfl, distinct⟩
  | cons t rest ih =>
    obtain ⟨p, others, rfl, first, later⟩ := List.map_eq_cons_iff.mp named
    rw [checkAccessors_cons first]
    cases found : met.find? fun u => accessorText u = accessorText t with
    | some a =>
      have shared : accessorText a = accessorText t := by simpa using List.find?_some found
      exact .inr ⟨[], t, rest, a, rfl, distinct, List.mem_of_find?_eq_some found, shared, rfl⟩
    | none =>
      have fresh : accessorText t ∉ met.map accessorText := by
        intro taken
        obtain ⟨u, member, shared⟩ := List.mem_map.mp taken
        simpa [shared] using List.find?_eq_none.mp found u member
      have distinct' : ((t :: met).map accessorText).Nodup :=
        List.nodup_cons.mpr ⟨fresh, distinct⟩
      rcases ih (i := i + 1) later distinct' with
        ⟨passes, whole⟩ | ⟨before, b, after, a, rfl, apart, member, shared, stops⟩
      · refine .inl ⟨passes, ?_⟩
        rw [List.reverse_cons, List.append_assoc]
        exact whole
      · refine .inr ⟨t :: before, b, after, a, rfl, ?_, ?_, shared, ?_⟩
        · rw [List.reverse_cons, List.append_assoc]
          exact apart
        · rw [List.reverse_cons, List.append_assoc]
          exact member
        · dsimp only
          rw [stops, List.length_cons, Nat.add_assoc, Nat.add_comm 1]

/-- The check of a whole struct. -/
theorem checkAccessors_all {names : List Text} {properties : List Property}
    (named : properties.map (·.name) = names.map .str) :
    (checkAccessors [] 0 properties = .ok () ∧ (names.map accessorText).Nodup) ∨
      ¬(names.map accessorText).Nodup ∧ ∃ i j a b, FirstClash names i j a b ∧
        checkAccessors [] 0 properties =
          .error (.wrong (.accessorClash (.str a) (.str b) (.str (accessorText b)))
            [.key "properties", .index j]) := by
  rcases @checkAccessors_goes [] names 0 properties named List.nodup_nil with
    ⟨passes, distinct⟩ | ⟨before, b, after, a, rfl, distinct, member, shared, stops⟩
  · rw [List.append_nil, List.map_reverse, List.nodup_reverse] at distinct
    exact .inl ⟨passes, distinct⟩
  · rw [List.append_nil] at distinct member
    rw [List.map_reverse, List.nodup_reverse] at distinct
    obtain ⟨i, clash⟩ : ∃ i, FirstClash (before ++ b :: after) i before.length a b :=
      firstClash_of_split distinct (List.mem_reverse.mp member) shared
    rw [Nat.zero_add] at stops
    refine .inr ⟨?_, i, before.length, a, b, clash, stops⟩
    intro whole
    have same := index_inj whole clash.earlier clash.later shared
    have lower := clash.before
    omega

end Check

section Read

variable {v : Json} {items : List Json} {properties : List Property} {names : List Text}

theorem property_path (path : Text) (j : Nat) :
    pathText path [.key "properties", .index j] = path ++ "/properties/" ++ toString j := by
  have key : Text.ofString "/properties/" =
      Text.ofString "/" ++ Text.ofString "properties" ++ Text.ofString "/" := rfl
  rw [pathText_item, key]

theorem clash_message (path a b accessor : Text) (j : Nat) :
    (Fault.schema (.accessorClash (.str a) (.str b) (.str accessor))
      (path ++ "/properties/" ++ toString j)).message =
    "Properties '" ++ a ++ "' and '" ++ b ++ "' both map to accessor '" ++ accessor ++ "' (at " ++
      path ++ "/properties/" ++ toString j ++ ")" := by
  have present : (path ++ "/properties/" ++ toString j : Text) ≠ [] := by simp [Text.ofString]
  have close : Text.ofString "' (at " = Text.ofString "'" ++ Text.ofString " (at " := rfl
  rw [Fault.schema_message _ present, close]
  simp only [SchemaCause.message, Json.shown, List.append_assoc]

/-- Which structs are read, and the fault of the others, when each property is. -/
theorem accessors_unique_exactly (path : Text) (object : v.isObject = true)
    (named : (v.fieldD "name" .null).truthy = true)
    (listed : v.fieldD "properties" (.arr []) = .arr items)
    (read : List.Forall₂ (fun item p => Property.ofJson item = .ok p) items properties)
    (texts : properties.map (·.name) = names.map .str) :
    ((∃ s, startingAt path (Struct.ofJson v) = .ok s) ↔
        names.Nodup ∧ ∀ r ∈ reservedWords, r ∈ names → r ++ "_" ∉ names) ∧
      (∀ s, startingAt path (Struct.ofJson v) = .ok s →
        s = ⟨.regular, v.fieldD "name" .null, properties⟩ ∧
          (names.map accessorText).Nodup ∧ ∀ t ∈ names, accessorText t ∉ reservedWords) ∧
      ∀ fault, startingAt path (Struct.ofJson v) = .error fault →
        ∃ i j a b, FirstClash names i j a b ∧
          fault = .schema (.accessorClash (.str a) (.str b) (.str (accessorText b)))
            (path ++ "/properties/" ++ toString j) ∧
          fault.message = "Properties '" ++ a ++ "' and '" ++ b ++ "' both map to accessor '" ++
            accessorText b ++ "' (at " ++ path ++ "/properties/" ++ toString j ++ ")" := by
  rw [ofJson_of_properties object named listed read, ← accessors_nodup_iff]
  rcases checkAccessors_all texts with ⟨passes, distinct⟩ | ⟨repeated, i, j, a, b, clash, stops⟩
  · rw [passes]
    refine ⟨⟨fun _ => distinct, fun _ => ⟨_, rfl⟩⟩, ?_, nofun⟩
    intro s made
    obtain rfl := Except.ok.inj made
    exact ⟨rfl, distinct, fun t _ => accessorText_not_reserved t⟩
  · rw [stops]
    refine ⟨⟨nofun, fun distinct => absurd distinct repeated⟩, nofun, ?_⟩
    intro fault failed
    obtain rfl := Except.error.inj failed
    refine ⟨i, j, a, b, clash, congrArg _ (property_path path j), ?_⟩
    rw [← clash_message, ← property_path]
    rfl

end Read

def textProperty (name : Text) : Json :=
  .obj [("name", .str name), ("typeAnnotation", .obj [("type", .str "StringTypeAnnotation")])]

def labelNames : List Text := ["id", "count", "id_"]

/-- A reserved word beside the accessor that it would get. -/
def labelObject : Json :=
  .obj [("name", .str "label"), ("properties", .arr (labelNames.map textProperty))]

theorem label_refused :
    ∃ i j a b, FirstClash labelNames i j a b ∧
      startingAt "#/structs/3" (Struct.ofJson labelObject) =
        .error (.schema (.accessorClash (.str a) (.str b) (.str (accessorText b)))
          ("#/structs/3" ++ "/properties/" ++ toString j)) := by
  have read : List.Forall₂ (fun item p => Property.ofJson item = .ok p)
      (labelNames.map textProperty) (labelNames.map fun t => ⟨.str t, .leaf .string, false⟩) := by
    refine .cons ?_ (.cons ?_ (.cons ?_ .nil)) <;> with_unfolding_all rfl
  have texts : List.map Property.name (labelNames.map fun t => ⟨.str t, .leaf .string, false⟩) =
      labelNames.map .str := rfl
  obtain ⟨accepts, _, refuses⟩ := accessors_unique_exactly "#/structs/3" (v := labelObject)
    rfl (by decide) (by with_unfolding_all rfl) read texts
  cases result : startingAt "#/structs/3" (Struct.ofJson labelObject) with
  | ok s =>
    obtain ⟨_, apart⟩ := accepts.mp ⟨s, result⟩
    exact absurd (apart "id" (by decide) (by decide)) (by decide)
  | error fault =>
    obtain ⟨i, j, a, b, clash, rfl, _⟩ := refuses fault result
    exact ⟨i, j, a, b, clash, rfl⟩

end Schema
end StructBridge
