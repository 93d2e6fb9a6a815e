import StructBridge.Json.Display

/-!
Everything that can stop a run, as causes; `message` words each of them once. A schema fault says
where in the model it lies.
-/
namespace StructBridge

/-- A value put to a use that it cannot serve. -/
inductive Misuse where
  /-- A list or an object taken as a key. -/
  | unkeyable (v : Json)
  /-- A setting searched for a name, or walked, that holds none. -/
  | unsearchable (v : Json)
  /-- A value capitalised that has no first part and rest. -/
  | unsliceable (v : Json)
  /-- A value taken as text that is none. -/
  | notText (v : Json)
  /-- A value looked up where it names nothing. -/
  | noEntry (v : Json)
  /-- A value taken as a group of settings that is none. -/
  | notSettings (v : Json)
  /-- A value taken as a whole record of settings that is none. -/
  | notRecord (v : Json)
  /-- A value given as the kind of a record. -/
  | notKind (v : Json)
  /-- A value given to what cannot be set. -/
  | fixed (v : Json)
  /-- A setting used that has no value. -/
  | settingMissing (key : Text)
  /-- A value used as an operation. -/
  | notCallable (key : Text)

inductive SchemaCause where
  | modelNotObject
  | moduleNameMissing
  | structsNotList
  | structNotObject
  | structNameMissing
  | propertiesNotList
  | propertyNotObject
  | propertyNameMissing
  | propertyTypeMissing
  | optionalNotBoolean
  | typeNotTagged
  | nullableEmpty
  | aliasNameMissing
  | unknownType (tag : Json)
  | accessorClash (earlier later accessor : Json)

inductive Rejection where
  | importMissing
  | structOutsideNamespace
  | unbalancedBraces (opened closed : Nat)
  | other (reason : Text)
  deriving DecidableEq, Repr

inductive SystemFault where
  | occupied (path : Text)
  | missing (path : Text)
  | notDirectory (path : Text)
  | isDirectory (path : Text)
  | nameTooLong (path : Text)
  | busy (path : Text)
  /-- A path with a null character names nothing. -/
  | nullInPath
  /-- A text with a surrogate that stands alone has no encoding. -/
  | unencodable
  deriving DecidableEq, Repr

inductive Choice where
  | optionalStyle
  | outputMode
  deriving DecidableEq, Repr

inductive Fault where
  | schema (cause : SchemaCause) (path : Text)
  | unmappableType (tag : Json)
  | unmappableValue (tag : Json)
  | unsupportedStruct (kind : Text) (name : Json)
  | rejected (reason : Rejection)
  | unknownChoice (choice : Choice) (value : Json)
  | misuse (use : Misuse)
  | outputExists (path : Text)
  | system (fault : SystemFault)

def Misuse.message : Misuse → Text
  | unkeyable v => "not usable as a key: " ++ v.literal
  | unsearchable v => "not searchable: " ++ v.literal
  | unsliceable v => "not capitalizable: " ++ v.literal
  | notText v => "not text: " ++ v.literal
  | noEntry v => "no entry: " ++ v.literal
  | notSettings v => "not settings: " ++ v.literal
  | notRecord v => "not a record of settings: " ++ v.literal
  | notKind v => "not a kind of record: " ++ v.literal
  | fixed v => "not settable to: " ++ v.literal
  | settingMissing key => "no value for setting " ++ key
  | notCallable key => "not an operation: " ++ key

def SchemaCause.message : SchemaCause → Text
  | modelNotObject => "Model must be a JSON object"
  | moduleNameMissing => "Missing module name"
  | structsNotList => "'structs' must be a list"
  | structNotObject => "Struct must be a JSON object"
  | structNameMissing => "Struct is missing 'name'"
  | propertiesNotList => "'properties' must be a list"
  | propertyNotObject => "Property must be a JSON object"
  | propertyNameMissing => "Property is missing 'name'"
  | propertyTypeMissing => "Property is missing 'typeAnnotation'"
  | optionalNotBoolean => "'optional' must be a boolean"
  | typeNotTagged => "Type annotation must be an object with a 'type'"
  | nullableEmpty => "Nullable annotation is missing 'typeAnnotation'"
  | aliasNameMissing => "Type alias is missing 'name'"
  | unknownType tag => "Unknown type annotation: " ++ tag.shown
  | accessorClash earlier later accessor =>
    "Properties '" ++ earlier.shown ++ "' and '" ++ later.shown ++ "' both map to accessor '" ++
      accessor.shown ++ "'"

def Rejection.message : Rejection → Text
  | importMissing => "Generated header is missing the Foundation import"
  | structOutsideNamespace => "Generated header declares structs outside namespace JS"
  | unbalancedBraces opened closed =>
    "Generated header has unbalanced braces: " ++ toString opened ++ " open, " ++
      toString closed ++ " close"
  | other reason => reason

def SystemFault.message : SystemFault → Text
  | occupied path => "[Errno 17] File exists: " ++ Json.quoted path
  | missing path => "[Errno 2] No such file or directory: " ++ Json.quoted path
  | notDirectory path => "[Errno 20] Not a directory: " ++ Json.quoted path
  | isDirectory path => "[Errno 21] Is a directory: " ++ Json.quoted path
  | nameTooLong path => "[Errno 36] File name too long: " ++ Json.quoted path
  | busy path => "[Errno 16] Device or resource busy: " ++ Json.quoted path
  | nullInPath => "embedded null byte"
  | unencodable => "surrogates not allowed"

def Choice.label : Choice → String
  | optionalStyle => "OptionalStyle"
  | outputMode => "OutputMode"

def Fault.message : Fault → Text
  | schema cause path =>
    if path.isEmpty then cause.message else cause.message ++ " (at " ++ path ++ ")"
  | unmappableType tag => "Couldn't convert into ObjC type: " ++ tag.shown
  | unmappableValue tag => "Couldn't convert into ObjC value: " ++ tag.shown
  | unsupportedStruct kind name =>
    "Unsupported struct kind " ++ kind ++ " for struct '" ++ name.shown ++ "'"
  | rejected reason => reason.message
  | unknownChoice choice value => value.literal ++ " is not a valid " ++ choice.label
  | misuse use => use.message
  | outputExists path =>
    "Output file already exists: " ++ path ++ ". Use force mode to overwrite."
  | system fault => fault.message

theorem Fault.schema_message (cause : SchemaCause) {path : Text} (present : path ≠ []) :
    (Fault.schema cause path).message = cause.message ++ " (at " ++ path ++ ")" := by
  have full : path.isEmpty = false := by simpa using present
  rw [Fault.message, full]
  rfl

/-- A use of a value, as a step of a run. -/
def ofUse {α : Type} : Except Misuse α → Except Fault α := Except.mapError .misuse

end StructBridge
