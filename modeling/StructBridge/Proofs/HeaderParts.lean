import StructBridge.Generator
import StructBridge.Proofs.Selection

/-!
What a header that exists is made of: the code of the selected structs, each with its name and one
accessor for each of its properties.
-/
namespace StructBridge
open Schema Code Command

theorem accessorOf_parts {naming : Naming} {moduleName : Text} {p : Property} {a : Accessor}
    (made : accessorOf naming moduleName p = .ok a) :
    naming.accessor p.name = .ok a.name ∧
      declaredType naming moduleName p.type p.optional = .ok a.type ∧
      conversion naming moduleName p.type rawValue 0 p.optional = .ok a.conversion ∧
      keyText p.name = .ok a.key := by
  obtain ⟨name, called, made⟩ := ok_of_bind made
  obtain ⟨type, typed, made⟩ := ok_of_bind made
  obtain ⟨value, converted, made⟩ := ok_of_bind made
  obtain ⟨key, keyed, made⟩ := ok_of_bind made
  obtain rfl := Except.ok.inj made
  exact ⟨ok_of_mapError called, typed, converted, ok_of_mapError keyed⟩

theorem ofRegular_ok {style : OptionalStyle} {moduleName : Text} {s : Struct} {code : StructCode}
    (made : StructCode.ofRegular (.standard style) moduleName s = .ok code) :
    ∃ name accessors, Name.capitalize s.name = .ok name ∧
      s.properties.mapM (accessorOf (.standard style) moduleName) = .ok accessors ∧
      code.declaration = declarationText moduleName name (accessors.map (·.declaration style)) ∧
      code.methods = List.intercalate "\n"
        (accessors.map (·.definition style (Name.qualified moduleName name))) := by
  unfold StructCode.ofRegular at made
  split at made
  case h_2 => cases made
  obtain ⟨name, capitalized, made⟩ := ok_of_bind made
  obtain ⟨accessors, coded, made⟩ := ok_of_bind made
  obtain rfl := Except.ok.inj made
  exact ⟨name, accessors, ok_of_mapError capitalized, coded, rfl, rfl⟩

/-- Tasks that run on their own code the structs as one after another would. -/
theorem Generator.structCodes_eq (g : Generator) :
    g.structCodes = g.selected >>= (·.mapM g.structCode) := by
  unfold Generator.structCodes
  simp only [gather_map, ite_self]

theorem Generator.structCode_resolved {g : Generator} {style : OptionalStyle}
    (resolved : g.style.resolve = .ok style) :
    g.structCode = StructCode.ofRegular (.standard style) g.module.name.shown := by
  funext s
  rw [Generator.structCode, resolved]

theorem header_ok {g : Generator} {invocation : Option Invocation} {content : Text}
    (made : g.header invocation = .ok content) :
    ∃ structs style codes, g.selected = .ok structs ∧ structs ⊆ g.module.structs ∧
      g.style.resolve = .ok style ∧
      structs.mapM (StructCode.ofRegular (.standard style) g.module.name.shown) = .ok codes ∧
      headerText style codes (g.comment invocation) = content := by
  obtain ⟨codes, coded, made⟩ := ok_of_bind made
  obtain ⟨style, resolved, made⟩ := ok_of_bind made
  obtain rfl := Except.ok.inj made
  have resolved := ok_of_mapError resolved
  rw [g.structCodes_eq, Generator.structCode_resolved resolved] at coded
  obtain ⟨structs, selected, coded⟩ := ok_of_bind coded
  exact ⟨structs, style, codes, selected, selectStructs_subset (ok_of_mapError selected), resolved,
    coded, rfl⟩

end StructBridge
