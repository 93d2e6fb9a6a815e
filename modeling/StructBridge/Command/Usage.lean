import StructBridge.Command.Arguments

/-!
What a caller is told about the command line: the options, and why a call was not understood.
-/
namespace StructBridge.Command
open Code

def usageText : Text := "Usage: objc_struct_codegen [OPTIONS] PATH OUTPUT"

def Switch.description : Switch → Text
  | name => "-n, --name TEXT  Module name (defaults to the model's moduleName, then the file stem)"
  | config => "-c, --config PATH"
  | optionalStyle =>
    "--optional-style [std|folly]  Optional type of non-required accessors (overrides the config)"
  | force => "-f, --force  Overwrite the output file if it exists"
  | verbose => "-v, --verbose"
  | help => "--help  Show this message and exit."

def helpText : Text :=
  List.intercalate "\n  " ((usageText ++ "\n\nOptions:") :: Switch.all.map Switch.description)

def UsageFault.message : UsageFault → Text
  | unknownOption text => "No such option: " ++ text
  | valueMissing s => "Option '" ++ s.label ++ "' requires an argument."
  | valueUnexpected s => "Option '" ++ s.label ++ "' does not take a value."
  | styleUnknown text =>
    "Invalid value for '--optional-style': " ++ Json.quoted text ++ " is not one of 'std', 'folly'."
  | fileMissing text => "Path " ++ Json.quoted text ++ " does not exist."
  | argumentMissing => "Missing argument."
  | argumentUnexpected => "Got unexpected extra arguments."

end StructBridge.Command
