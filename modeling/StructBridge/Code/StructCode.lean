import StructBridge.Code.Conversion
import StructBridge.Schema.Basic
import StructBridge.Text.Literal

/-!
The code of one struct: the declaration of its type and the definitions of its accessors.
-/
namespace StructBridge.Code
open Schema

structure Accessor where
  name : Text
  type : DeclaredType
  conversion : Conversion
  /-- The dictionary key, written as the inside of a string literal. -/
  key : Text

structure StructCode where
  declaration : Text
  methods : Text
  deriving DecidableEq, Repr

/-- The variable that holds the raw value in an accessor. -/
def rawValue : Text := "p"

def keyText : Json → Except Misuse Text
  | .str t => .ok (Text.escape t)
  | v => .error (.notText v)

def accessorOf (naming : Naming) (moduleName : Text) (p : Property) : Except Fault Accessor := do
  let name ← ofUse (naming.accessor p.name)
  let type ← declaredType naming moduleName p.type p.optional
  let value ← conversion naming moduleName p.type rawValue 0 p.optional
  let key ← ofUse (keyText p.name)
  return ⟨name, type, value, key⟩

def accessorsOf (naming : Naming) (moduleName : Text) (properties : List Property) :
    Except Fault (List Accessor) := properties.mapM (accessorOf naming moduleName)

/-- A pointer type binds its star to the accessor. -/
def padding (type : Text) : Text := if type.getLast? = some (.char '*') then "" else " "

def Accessor.paddedType (style : OptionalStyle) (a : Accessor) : Text :=
  let type := a.type.text style
  type ++ padding type

def Accessor.declaration (style : OptionalStyle) (a : Accessor) : Text :=
  a.paddedType style ++ a.name ++ "() const;"

def Accessor.definition (style : OptionalStyle) (struct : Text) (a : Accessor) : Text :=
  "inline " ++ a.paddedType style ++ struct ++ "::" ++ a.name ++ "() const\n" ++
  "\x7b\n" ++
  "  id const p = _v[@\"" ++ a.key ++ "\"];\n" ++
  "  return " ++ a.conversion.text style ++ ";\n" ++
  "\x7d"

def declarationText (moduleName name : Text) (accessors : List Text) : Text :=
  "namespace JS \x7b\n" ++
  "  namespace " ++ moduleName ++ " \x7b\n" ++
  "    struct " ++ name ++ " \x7b\n" ++
  "      " ++ List.intercalate "\n      " accessors ++ "\n" ++
  "\n" ++
  "      " ++ name ++ "(NSDictionary *const v) : _v(v) \x7b\x7d\n" ++
  "    private:\n" ++
  "      NSDictionary *_v;\n" ++
  "    \x7d;\n" ++
  "  \x7d\n" ++
  "\x7d\n" ++
  "\n" ++
  "@interface RCTCxxConvert (" ++ moduleName ++ "_" ++ name ++ ")\n" ++
  "+ (RCTManagedPointer *)JS_" ++ moduleName ++ "_" ++ name ++ ":(id)json;\n" ++
  "@end"

def StructCode.of (naming : Naming) (moduleName : Text) (s : Struct) :
    Except Fault StructCode := do
  let name ← ofUse (naming.capitalize s.name)
  let full := naming.qualify moduleName name
  let accessors ← accessorsOf naming moduleName s.properties
  return {
    declaration := declarationText moduleName name (accessors.map (·.declaration naming.style))
    methods := List.intercalate "\n" (accessors.map (·.definition naming.style full)) }

/-- The code of a regular struct; a struct of another kind is refused. -/
def StructCode.ofRegular (naming : Naming) (moduleName : Text) (s : Struct) :
    Except Fault StructCode :=
  match s.kind with
  | .regular => StructCode.of naming moduleName s
  | kind => .error (.unsupportedStruct kind.label s.name)

end StructBridge.Code
