import StructBridge.Generator
import StructBridge.Proofs.FieldUpdate
import StructBridge.Proofs.Reading
import StructBridge.Proofs.TypeGrammar

/-!
The ways to a generator: from a model that is still to be read, or from the module that was read
from it. A name given beside either of them takes the place of its own name, after the reading or
during it, and a name put into the model does the same. All these ways lead to one generator, so
they give one selection and one header or fault.
-/
namespace StructBridge
open Schema

namespace Schema

/-- A name given beside a model takes the place of the name of the module that is read. -/
theorem Module.ofJson_named {model : Json} {m : Module} (read : Module.ofJson model .null = .ok m)
    (nameGiven : Json) :
    Module.ofJson model nameGiven =
      .ok (if nameGiven.truthy then { m with name := nameGiven } else m) := by
  obtain ⟨object, called, named, items, listed, each⟩ := Module.ofJson_ok_iff.mp read
  apply Module.ofJson_ok_iff.mpr
  cases given : nameGiven.truthy with
  | true => exact ⟨object, rfl, given, items, listed, each⟩
  | false => exact ⟨object, called, named, items, listed, each⟩

/-- A name put into a model takes the place of the name of the module that is read. -/
theorem Module.ofJson_withName {model : Json} {m : Module}
    (read : Module.ofJson model .null = .ok m) {name : Json} (present : name.truthy = true) :
    Module.ofJson (model.withField "moduleName" name) .null = .ok { m with name } := by
  have apart : Text.ofString "structs" ≠ Text.ofString "moduleName" := by decide
  obtain ⟨object, _, _, items, listed, each⟩ := Module.ofJson_ok_iff.mp read
  apply Module.ofJson_ok_iff.mpr
  refine ⟨(Json.isObject_withField name model _).trans object, ?_, present, items, ?_, each⟩
  · exact (Json.fieldD_withField name object .null).symm
  · exact (Json.fieldD_withField_ne name apart _).trans listed

end Schema

/-- With any name and any settings, a model and the module read from it make the same generator.
A name that is given makes the generator that it would make inside the model. -/
theorem routes_agree {model : Json} {m : Schema.Module}
    (read : (Source.model model).resolve .null = .ok m) (nameGiven : Json) (config : Config) :
    (∃ g, Generator.make (.model model) nameGiven config = .ok g ∧
      Generator.make (.module m) nameGiven config = .ok g ∧
      g.module = { m with name := if nameGiven.truthy then nameGiven else m.name }) ∧
    (nameGiven.truthy = true → ∃ g, Generator.make (.model model) nameGiven config = .ok g ∧
      Generator.make (.model (model.withField "moduleName" nameGiven)) .null config = .ok g) := by
  have read : Module.ofJson model .null = .ok m := startingAt_ok_iff.mp read
  have direct : (Source.model model).resolve nameGiven =
      .ok (if nameGiven.truthy then { m with name := nameGiven } else m) :=
    startingAt_ok_iff.mpr (Module.ofJson_named read nameGiven)
  constructor
  · refine ⟨_, Generator.make_ok_iff.mpr ⟨_, direct, rfl⟩,
      Generator.make_ok_iff.mpr ⟨_, rfl, rfl⟩, ?_⟩
    cases nameGiven.truthy <;> rfl
  · intro present
    have inside : (Source.model (model.withField "moduleName" nameGiven)).resolve .null =
        .ok { m with name := nameGiven } :=
      startingAt_ok_iff.mpr (Module.ofJson_withName read present)
    rw [present, if_pos rfl] at direct
    exact ⟨_, Generator.make_ok_iff.mpr ⟨_, direct, rfl⟩,
      Generator.make_ok_iff.mpr ⟨_, inside, rfl⟩⟩

def harbourModel : Json :=
  .obj [("moduleName", .str "Harbour"),
    ("structs", .arr [.obj [("name", .str "pier")], .obj [("name", .str "crane")]])]

def harbour : Schema.Module :=
  ⟨.str "Harbour", [⟨.regular, .str "pier", []⟩, ⟨.regular, .str "crane", []⟩]⟩

theorem harbour_renamed :
    ∃ g, Generator.make (.model harbourModel) (.str "Port") .standard = .ok g ∧
      Generator.make (.module harbour) (.str "Port") .standard = .ok g ∧
      g.module = { harbour with name := .str "Port" } ∧
      Generator.make (.model (harbourModel.withField "moduleName" (.str "Port"))) .null .standard =
        .ok g := by
  have read : (Source.model harbourModel).resolve .null = .ok harbour := by with_unfolding_all rfl
  have present : Json.truthy (.str "Port") = true := by decide
  obtain ⟨⟨g, direct, parsed, same⟩, renamed⟩ := routes_agree read (.str "Port") .standard
  obtain ⟨g', direct', inside⟩ := renamed present
  obtain rfl := Except.ok.inj (direct.symm.trans direct')
  rw [present, if_pos rfl] at same
  exact ⟨g, direct, parsed, same, inside⟩

end StructBridge
