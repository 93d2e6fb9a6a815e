import StructBridge.Fault
import StructBridge.Text.Case

/-!
Names in generated code. A model may put any value where a name is expected; a value that is not
text passes through until it is put to a use that needs text.
-/
namespace StructBridge.Name

def reservedWords : List Text :=
  ["id", "bool", "char", "class", "const", "default", "delete", "double", "float", "int", "long",
   "namespace", "new", "nil", "operator", "private", "public", "short", "struct", "template",
   "this", "union", "void"]

def capitalizeText : Text → Text
  | [] => []
  | c :: rest => Text.upper c ++ rest

def capitalize (name : Json) : Except Misuse Text :=
  match name with
  | .str t => .ok (capitalizeText t)
  | v =>
    if v.truthy then
      match v with
      | .arr (.str _ :: _) => .error (.unsliceable v)
      | .arr _ => .error (.notText v)
      | .obj _ => .error (.noEntry v)
      | _ => .error (.unsliceable v)
    else .ok []

def accessorText (t : Text) : Text := if t ∈ reservedWords then t ++ "_" else t

def accessor (name : Json) : Except Misuse Json :=
  match name with
  | .str t => .ok (.str (accessorText t))
  | v => if v.isKey then .ok v else .error (.unkeyable v)

def qualified (moduleName struct : Text) : Text := "JS::" ++ moduleName ++ "::" ++ struct

theorem capitalize_str (t : Text) : capitalize (.str t) = .ok (capitalizeText t) := rfl

theorem accessor_str (t : Text) : accessor (.str t) = .ok (.str (accessorText t)) := rfl

example : capitalizeText "spec_item" = "Spec_item" ∧ capitalizeText "" = "" ∧
    accessorText "id" = "id_" ∧ accessorText "id_" = "id_" := by decide +kernel

end StructBridge.Name
