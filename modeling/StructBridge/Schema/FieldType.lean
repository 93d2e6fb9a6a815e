import StructBridge.Json.Basic

/-!
The types that a model gives to properties. A property may also carry no type at all or one that no
rule covers; both are values here, so that each use of a type says what it does with them.
-/
namespace StructBridge.Schema

inductive Leaf where
  | string
  | number
  | float
  | int32
  | double
  | boolean
  | genericObject
  deriving DecidableEq, Repr

inductive FieldType where
  | leaf (kind : Leaf)
  | reserved (name : Json)
  | named (name : Json)
  | untypedArray
  | array (element : FieldType)
  | nullable (inner : FieldType)
  | missing
  /-- A type of a kind that the format does not have. -/
  | unknown (kind : Text) (tag : Json)
  deriving Inhabited

def Leaf.all : List Leaf := [string, number, float, int32, double, boolean, genericObject]

def Leaf.tag : Leaf → Text
  | string => "StringTypeAnnotation"
  | number => "NumberTypeAnnotation"
  | float => "FloatTypeAnnotation"
  | int32 => "Int32TypeAnnotation"
  | double => "DoubleTypeAnnotation"
  | boolean => "BooleanTypeAnnotation"
  | genericObject => "GenericObjectTypeAnnotation"

def Leaf.ofTag? (tag : Text) : Option Leaf := Leaf.all.find? (·.tag = tag)

def reservedTag : Text := "ReservedTypeAnnotation"
def reservedFunctionTag : Text := "ReservedFunctionValueTypeAnnotation"
def namedTag : Text := "TypeAliasTypeAnnotation"
def arrayTag : Text := "ArrayTypeAnnotation"
def nullableTag : Text := "NullableTypeAnnotation"

namespace FieldType

/-- The type inside one nullable wrapper, and whether there was one. -/
def unwrap : FieldType → FieldType × Bool
  | nullable inner => (inner, true)
  | t => (t, false)

/-- How a type is called where it cannot be used: by its tag, or by its kind when it has none. -/
def reportedTag : FieldType → Json
  | leaf kind => .str kind.tag
  | reserved _ => .str reservedTag
  | named _ => .str namedTag
  | untypedArray => .str arrayTag
  | array _ => .str arrayTag
  | nullable _ => .str nullableTag
  | missing => .str "NoneType"
  | unknown kind tag => if tag.truthy then tag else .str kind

/-- Walks over types go from an array to its element without the element's wrapper, and not into a
wrapper that they meet otherwise. -/
@[elab_as_elim]
theorem bareInduction {holds : FieldType → Prop} (leaf : ∀ kind, holds (.leaf kind))
    (reserved : ∀ name, holds (.reserved name)) (named : ∀ name, holds (.named name))
    (untypedArray : holds .untypedArray)
    (array : ∀ element, holds element.unwrap.1 → holds (.array element))
    (nullable : ∀ inner, holds (.nullable inner)) (missing : holds .missing)
    (unknown : ∀ kind tag, holds (.unknown kind tag)) (t : FieldType) : holds t := by
  have both : holds t ∧ holds t.unwrap.1 := by
    induction t with
    | leaf kind => exact ⟨leaf kind, leaf kind⟩
    | reserved name => exact ⟨reserved name, reserved name⟩
    | named name => exact ⟨named name, named name⟩
    | untypedArray => exact ⟨untypedArray, untypedArray⟩
    | array element ih => exact ⟨array element ih.2, array element ih.2⟩
    | nullable inner ih => exact ⟨nullable inner, ih.1⟩
    | missing => exact ⟨missing, missing⟩
    | unknown kind tag => exact ⟨unknown kind tag, unknown kind tag⟩
  exact both.1

end FieldType

theorem Leaf.ofTag_tag (k : Leaf) : Leaf.ofTag? k.tag = some k := by
  unfold Leaf.ofTag? Leaf.all Leaf.tag
  repeat rw [Text.ofString_literal]
  cases k <;> decide

theorem Leaf.tag_of_ofTag {t : Text} {k : Leaf} (found : Leaf.ofTag? t = some k) : k.tag = t := by
  simpa using List.find?_some found

end StructBridge.Schema
