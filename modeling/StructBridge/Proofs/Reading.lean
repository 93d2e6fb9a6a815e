import StructBridge.Proofs.Traversal
import StructBridge.Schema.Reader

/-!
Which properties, structs and modules are read from a model, said key by key. Every part of a module
was read from some part of the model, and all its structs are regular.
-/
namespace StructBridge.Schema

theorem readEach_ok_iff {α : Type} {read : Json → Read α} {i : Nat} {items : List Json}
    {xs : List α} :
    readEach read i items = .ok xs ↔ List.Forall₂ (fun v x => read v = .ok x) items xs := by
  constructor
  · intro run
    induction items generalizing i xs with
    | nil =>
      obtain rfl : xs = [] := (Except.ok.inj run).symm
      exact .nil
    | cons v rest ih =>
      obtain ⟨first, here, run⟩ := ok_of_bind run
      obtain ⟨others, later, run⟩ := ok_of_bind run
      obtain rfl : xs = first :: others := (Except.ok.inj run).symm
      exact .cons (ok_of_mapError here) (ih later)
  · intro each
    induction each generalizing i with
    | nil => rfl
    | cons here _ ih =>
      rw [readEach, here, ih]
      rfl

theorem listUnder_ok_iff {key : Text} {notList : SchemaCause} {v : Json} {items : List Json} :
    listUnder key notList v = .ok items ↔ v.fieldD key (.arr []) = .arr items := by
  unfold listUnder
  split
  · rename_i found given
    rw [given]
    exact ⟨fun run => congrArg Json.arr (Except.ok.inj run),
      fun same => congrArg Except.ok (Json.arr.inj same)⟩
  · rename_i other
    exact ⟨fun run => (nomatch run), fun same => absurd same (other items)⟩

theorem Property.ofJson_ok_iff {v : Json} {p : Property} :
    Property.ofJson v = .ok p ↔
      v.isObject = true ∧ p.name = v.fieldD "name" .null ∧ p.name.truthy = true ∧
        v.fieldD "optional" (.bool false) = .bool p.optional ∧
        ∃ type, v.field? "typeAnnotation" = some type ∧ FieldType.ofJson type = .ok p.type := by
  unfold Property.ofJson
  constructor
  · intro run
    split at run
    · cases run
    rename_i object
    split at run
    · cases run
    rename_i named
    split at run
    · cases run
    · rename_i type optional found flag
      obtain ⟨t, read, run⟩ := ok_of_bind run
      obtain rfl := Except.ok.inj run
      exact ⟨by simpa using object, rfl, by simpa using named, flag, type, found,
        ok_of_mapError read⟩
    · cases run
  · obtain ⟨name, t, optional⟩ := p
    rintro ⟨object, rfl, named, flag, type, found, read⟩
    rw [object, named, found, flag]
    simp only [read]
    rfl

/-- A struct whose properties are read is left to the check of their accessors. -/
theorem ofJson_of_properties {v : Json} {items : List Json} {properties : List Property}
    (object : v.isObject = true) (named : (v.fieldD "name" .null).truthy = true)
    (listed : v.fieldD "properties" (.arr []) = .arr items)
    (read : List.Forall₂ (fun item p => Property.ofJson item = .ok p) items properties) :
    Struct.ofJson v = (checkAccessors [] 0 properties).map fun _ =>
      ⟨.regular, v.fieldD "name" .null, properties⟩ := by
  unfold Struct.ofJson
  rw [object, named, listUnder_ok_iff.mpr listed, ok_bind, readEach_ok_iff.mpr read]
  change (checkAccessors [] 0 properties >>= fun _ => pure _) = _
  cases checkAccessors [] 0 properties <;> rfl

theorem Struct.ofJson_ok_iff {v : Json} {s : Struct} :
    Struct.ofJson v = .ok s ↔
      v.isObject = true ∧ s.kind = .regular ∧ s.name = v.fieldD "name" .null ∧
        s.name.truthy = true ∧ checkAccessors [] 0 s.properties = .ok () ∧
        ∃ items, v.fieldD "properties" (.arr []) = .arr items ∧
          List.Forall₂ (fun item p => Property.ofJson item = .ok p) items s.properties := by
  constructor
  · intro run
    unfold Struct.ofJson at run
    split at run
    · cases run
    rename_i object
    split at run
    · cases run
    rename_i named
    obtain ⟨items, listed, run⟩ := ok_of_bind run
    obtain ⟨properties, each, run⟩ := ok_of_bind run
    obtain ⟨_, checked, run⟩ := ok_of_bind run
    obtain rfl := Except.ok.inj run
    exact ⟨by simpa using object, rfl, rfl, by simpa using named, checked, items,
      listUnder_ok_iff.mp listed, readEach_ok_iff.mp (ok_of_mapError each)⟩
  · obtain ⟨kind, name, properties⟩ := s
    rintro ⟨object, rfl, rfl, named, checked, items, listed, each⟩
    rw [ofJson_of_properties object named listed each, checked]
    rfl

theorem Module.ofJson_ok_iff {v nameGiven : Json} {m : Module} :
    Module.ofJson v nameGiven = .ok m ↔
      v.isObject = true ∧
        m.name = (if nameGiven.truthy then nameGiven else v.fieldD "moduleName" .null) ∧
        m.name.truthy = true ∧
        ∃ items, v.fieldD "structs" (.arr []) = .arr items ∧
          List.Forall₂ (fun item s => Struct.ofJson item = .ok s) items m.structs := by
  unfold Module.ofJson
  dsimp only
  generalize (if nameGiven.truthy then nameGiven else v.fieldD "moduleName" .null) = chosen
  constructor
  · intro run
    split at run
    · cases run
    rename_i object
    split at run
    · cases run
    rename_i named
    obtain ⟨items, listed, run⟩ := ok_of_bind run
    obtain ⟨structs, each, run⟩ := ok_of_bind run
    obtain rfl := Except.ok.inj run
    exact ⟨by simpa using object, rfl, by simpa using named, items, listUnder_ok_iff.mp listed,
      readEach_ok_iff.mp (ok_of_mapError each)⟩
  · obtain ⟨name, structs⟩ := m
    rintro ⟨object, rfl, named, items, listed, each⟩
    rw [object, named, listUnder_ok_iff.mpr listed, ok_bind, readEach_ok_iff.mpr each]
    rfl

theorem Module.ofJson_regular {v name : Json} {m : Module} (run : Module.ofJson v name = .ok m) :
    ∀ s ∈ m.structs, s.kind = .regular := by
  obtain ⟨_, _, _, items, _, each⟩ := Module.ofJson_ok_iff.mp run
  intro s member
  obtain ⟨item, _, read⟩ := members_of_forall₂ each s member
  exact (Struct.ofJson_ok_iff.mp read).2.1

end StructBridge.Schema
