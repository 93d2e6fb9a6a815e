import StructBridge.Code.Naming
import StructBridge.Schema.FieldType

/-!
The type that an accessor is declared with. One nullable wrapper or the property's own flag makes a
value optional; strings and opaque objects carry that in their own type instead of a wrapper.
-/
namespace StructBridge.Code
open Schema

inductive DeclaredType where
  | string
  | double
  | bool
  | object (nullable : Bool)
  | struct (name : Text)
  | vector (element : DeclaredType)
  | optional (inner : DeclaredType)
  deriving DecidableEq, Repr

namespace DeclaredType

def text (style : OptionalStyle) : DeclaredType → Text
  | string => "NSString *"
  | double => "double"
  | bool => "bool"
  | object nullable => if nullable then "id<NSObject> _Nullable" else "id<NSObject> "
  | struct name => name
  | vector element => "facebook::react::LazyVector<" ++ element.text style ++ ">"
  | optional inner => style.wrapper ++ "<" ++ inner.text style ++ ">"

def unlessRequired (required : Bool) (t : DeclaredType) : DeclaredType :=
  if required then t else .optional t

/-- Whether the text of a type depends on the optional style. -/
def isStyled : DeclaredType → Bool
  | vector element => element.isStyled
  | optional _ => true
  | _ => false

end DeclaredType

/-- The one platform marker that has a type. -/
def rootTag : Text := "RootTag"

def isRootTag (name : Json) : Except Fault Bool :=
  if name.isKey then .ok (name.text? == some rootTag) else .error (.misuse (.unkeyable name))

/-- The declared type of a type that has lost its nullable wrapper. -/
def bareType (naming : Naming) (moduleName : Text) (required : Bool) :
    FieldType → Except Fault DeclaredType
  | .leaf .string => .ok .string
  | .leaf .boolean => .ok (DeclaredType.bool.unlessRequired required)
  | .leaf .genericObject => .ok (.object !required)
  | .leaf _ => .ok (DeclaredType.double.unlessRequired required)
  | .reserved name => do
    if ← isRootTag name then return DeclaredType.double.unlessRequired required
    else .error (.unmappableType name)
  | .named name => do
    let name ← naming.structName moduleName name
    return (DeclaredType.struct name).unlessRequired required
  | .untypedArray => .ok (.object !required)
  | .array (.nullable inner) => do
    let element ← bareType naming moduleName false inner
    return (DeclaredType.vector element).unlessRequired required
  | .array element => do
    let element ← bareType naming moduleName true element
    return (DeclaredType.vector element).unlessRequired required
  | t => .error (.unmappableType t.reportedTag)

def declaredType (naming : Naming) (moduleName : Text) (t : FieldType) (optional : Bool) :
    Except Fault DeclaredType :=
  bareType naming moduleName (!t.unwrap.2 && !optional) t.unwrap.1

/-- An element is declared as it would be on its own. -/
theorem bareType_array (naming : Naming) (moduleName : Text) (required : Bool)
    (element : FieldType) :
    bareType naming moduleName required (.array element) =
      (declaredType naming moduleName element false).map
        (fun e => (DeclaredType.vector e).unlessRequired required) := by
  cases element <;> rfl

end StructBridge.Code
