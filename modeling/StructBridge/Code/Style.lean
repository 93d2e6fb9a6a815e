import StructBridge.Json.Basic

/-!
The two optional types of C++ that generated code can use, and how each is spelled.
-/
namespace StructBridge.Code

inductive OptionalStyle where
  | folly
  | std
  deriving DecidableEq, Repr

namespace OptionalStyle

def label : OptionalStyle → Text
  | folly => "folly"
  | std => "std"

def ofLabel? (label : Text) : Option OptionalStyle := [folly, std].find? (·.label = label)

/-- The type around the type of a value that may be absent. -/
def wrapper : OptionalStyle → Text
  | folly => "folly::Optional"
  | std => "std::optional"

def empty : OptionalStyle → Text
  | folly => "folly::none"
  | std => "std::nullopt"

/-- The function that makes a present value. -/
def factory : OptionalStyle → Text
  | folly => "folly::make_optional"
  | std => "std::make_optional"

def importName : OptionalStyle → Text
  | folly => "folly/Optional.h"
  | std => "optional"

end OptionalStyle
end StructBridge.Code
