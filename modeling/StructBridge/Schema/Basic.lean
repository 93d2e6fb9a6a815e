import StructBridge.Schema.FieldType

/-!
The model of a native module: its structs in declaration order, each with its properties.
-/
namespace StructBridge.Schema

structure Property where
  name : Json
  type : FieldType
  optional : Bool

/-- Accessors are generated for regular structs alone. -/
inductive StructKind where
  | regular
  | bare
  deriving DecidableEq, Repr

def StructKind.label : StructKind → Text
  | regular => "RegularStruct"
  | bare => "Struct"

structure Struct where
  kind : StructKind
  name : Json
  properties : List Property

structure Module where
  name : Json
  structs : List Struct

end StructBridge.Schema
