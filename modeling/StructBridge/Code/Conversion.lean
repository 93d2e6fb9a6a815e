import StructBridge.Code.DeclaredType

/-!
The expression that turns a raw value read from a dictionary into the declared type. The elements
of an array are converted in a block whose parameter is numbered by the nesting depth.
-/
namespace StructBridge.Code
open Schema

inductive BridgedKind where
  | string
  | double
  | bool
  deriving DecidableEq, Repr

def BridgedKind.label : BridgedKind → Text
  | string => "String"
  | double => "Double"
  | bool => "Bool"

inductive Conversion where
  | raw (value : Text)
  | bridged (kind : BridgedKind) (required : Bool) (value : Text)
  | construct (struct value : Text)
  | constructOptional (struct value : Text)
  | vector (required : Bool) (value : Text) (element : DeclaredType) (item : Text)
      (body : Conversion)
  deriving DecidableEq, Repr

/-- A call of a bridging function; an empty argument is left out. -/
def bridgingCall (kind : Text) (required : Bool) (args : List Text) : Text :=
  (if required then "RCTBridgingTo" else "RCTBridgingToOptional") ++ kind ++ "(" ++
    List.intercalate ", " (args.filter (!·.isEmpty)) ++ ")"

def constructCall (struct value : Text) : Text := struct ++ "(" ++ value ++ ")"

def blockText (element item body : Text) : Text :=
  "^" ++ element ++ "(id " ++ item ++ ") \x7b return " ++ body ++ "; \x7d"

def Conversion.text (style : OptionalStyle) : Conversion → Text
  | raw value => value
  | bridged kind required value => bridgingCall kind.label required [value]
  | construct struct value => constructCall struct value
  | constructOptional struct value =>
    "(" ++ value ++ " == nil ? " ++ style.empty ++ " : " ++ style.factory ++ "(" ++
      constructCall struct value ++ "))"
  | vector required value element item body =>
    bridgingCall "Vec" required [value, blockText (element.text style) item (body.text style)]

def itemName (depth : Int) : Text := "itemValue_" ++ toString depth

/-- The conversion of a type that has lost its nullable wrapper. -/
def bareConversion (naming : Naming) (moduleName : Text) (required : Bool) (value : Text)
    (depth : Int) : FieldType → Except Fault Conversion
  | .leaf .string => .ok (.bridged .string required value)
  | .leaf .boolean => .ok (.bridged .bool required value)
  | .leaf .genericObject => .ok (.raw value)
  | .leaf _ => .ok (.bridged .double required value)
  | .reserved name => do
    if ← isRootTag name then return .bridged .double required value
    else .error (.unmappableValue name)
  | .named name => do
    let name ← naming.structName moduleName name
    return if required then .construct name value else .constructOptional name value
  | .untypedArray => .ok (.raw value)
  | .array (.nullable inner) => do
    let element ← declaredType naming moduleName (.nullable inner) false
    let item := itemName depth
    let body ← bareConversion naming moduleName false item (depth + 1) inner
    return .vector required value element item body
  | .array element => do
    let type ← declaredType naming moduleName element false
    let item := itemName depth
    let body ← bareConversion naming moduleName true item (depth + 1) element
    return .vector required value type item body
  | t => .error (.unmappableValue t.reportedTag)

def conversion (naming : Naming) (moduleName : Text) (t : FieldType) (value : Text)
    (depth : Int) (optional : Bool) : Except Fault Conversion :=
  bareConversion naming moduleName (!t.unwrap.2 && !optional) value depth t.unwrap.1

/-- The declared type of an element is found before its conversion. -/
theorem bareConversion_array (naming : Naming) (moduleName : Text) (required : Bool)
    (value : Text) (depth : Int) (element : FieldType) :
    bareConversion naming moduleName required value depth (.array element) = (do
      let type ← declaredType naming moduleName element false
      let body ← conversion naming moduleName element (itemName depth) (depth + 1) false
      return .vector required value type (itemName depth) body) := by
  cases element <;> rfl

end StructBridge.Code
