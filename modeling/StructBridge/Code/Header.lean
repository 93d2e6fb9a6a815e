import StructBridge.Code.StructCode
import StructBridge.Text.Search

/-!
A whole header: fixed imports, the declarations of all structs, then the definitions of their
accessors. `rejection?` is the check that a header has to pass before it is written.
-/
namespace StructBridge.Code

/-- The imports that depend on the style, in alphabetical order. -/
def requiredImports (style : OptionalStyle) : List Text := [style.importName, "vector"]

def commentText (comment : Text) : Text := if comment.isEmpty then "" else comment ++ "\n\n"

def importText (name : Text) : Text := "#import <" ++ name ++ ">\n"

def opening (style : OptionalStyle) (comment : Text) : Text :=
  commentText comment ++
  "#ifndef __cplusplus\n" ++
  "#error This file must be compiled as Obj-C++. If you are importing it, " ++
  "you must change your file extension to .mm.\n" ++
  "#endif\n" ++
  importText "Foundation/Foundation.h" ++
  importText "RCTRequired/RCTRequired.h" ++
  importText "RCTTypeSafety/RCTConvertHelpers.h" ++
  importText "React/RCTBridgeModule.h" ++
  importText "React/RCTCxxConvert.h" ++
  importText "React/RCTManagedPointer.h" ++
  importText "ReactCommon/RCTTurboModule.h" ++
  (requiredImports style).flatMap importText ++
  "\n" ++
  "NS_ASSUME_NONNULL_BEGIN\n"

def closing : Text := "\nNS_ASSUME_NONNULL_END"

/-- Every declaration stands before every definition; a struct without accessors defines none. -/
def sections (structs : List StructCode) : List Text :=
  structs.map (·.declaration) ++ (structs.map (·.methods)).filter (!·.isEmpty)

def bodyText (sections : List Text) : Text :=
  if sections.isEmpty then "" else "\n" ++ List.intercalate "\n\n" sections ++ "\n"

def headerText (style : OptionalStyle) (structs : List StructCode) (comment : Text) : Text :=
  opening style comment ++ bodyText (sections structs) ++ closing ++ "\n"

/-- The first of three faults that a text has as a header, if any. -/
def rejection? (content : Text) : Option Rejection :=
  if !Text.occursIn "#import <Foundation/Foundation.h>" content then some .importMissing
  else if Text.occursIn "struct " content && !Text.occursIn "namespace JS" content then
    some .structOutsideNamespace
  else
    let opened := content.count (.char '\x7b')
    let closed := content.count (.char '\x7d')
    if opened = closed then none else some (.unbalancedBraces opened closed)

end StructBridge.Code
