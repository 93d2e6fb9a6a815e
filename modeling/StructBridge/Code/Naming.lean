import StructBridge.Code.Style
import StructBridge.Name

/-!
How names of a model become names in generated code, and in which style optional types are spelled.
-/
namespace StructBridge.Code

structure Naming where
  /-- The name of the struct that a name in the model stands for. -/
  capitalize : Json → Except Misuse Text
  /-- The name of a property's accessor. -/
  accessor : Json → Except Misuse Text
  /-- The full name of a struct of a module. -/
  qualify : Text → Text → Text
  style : OptionalStyle

/-- Capitalised structs in the module's namespace, accessors that avoid reserved words. -/
def Naming.standard (style : OptionalStyle) : Naming :=
  ⟨Name.capitalize, fun name => (Name.accessor name).map Json.shown, Name.qualified, style⟩

def Naming.structName (naming : Naming) (moduleName : Text) (name : Json) :
    Except Fault Text :=
  (ofUse (naming.capitalize name)).map (naming.qualify moduleName)

end StructBridge.Code
