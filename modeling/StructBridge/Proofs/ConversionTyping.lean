import StructBridge.Code.Conversion

/-!
Generated expressions have the type that their accessor is declared with. `HasType` reads an
expression and a type by their texts alone. An expression exists exactly when a type does, whatever
the nesting, since the two walks over a type agree at every array level.
-/
namespace StructBridge.Code
open Schema

/-- A name that a type of the module can refer to. -/
def Naming.IsStruct (naming : Naming) (moduleName struct : Text) : Prop :=
  ∃ name, naming.structName moduleName name = .ok struct

def OptionalStyle.around (style : OptionalStyle) (type : Text) : Text :=
  style.wrapper ++ "<" ++ type ++ ">"

/-- The text of an expression has the text of a type, where one raw value is in scope. -/
inductive HasType (naming : Naming) (moduleName : Text) : Text → Text → Text → Prop where
  | double (x : Text) : HasType naming moduleName x ("RCTBridgingToDouble(" ++ x ++ ")") "double"
  | bool (x : Text) : HasType naming moduleName x ("RCTBridgingToBool(" ++ x ++ ")") "bool"
  | string (x : Text) : HasType naming moduleName x ("RCTBridgingToString(" ++ x ++ ")") "NSString *"
  | optionalString (x : Text) :
      HasType naming moduleName x ("RCTBridgingToOptionalString(" ++ x ++ ")") "NSString *"
  | object (x : Text) : HasType naming moduleName x x "id<NSObject> "
  | nullableObject (x : Text) : HasType naming moduleName x x "id<NSObject> _Nullable"
  | struct (x s : Text) (named : naming.IsStruct moduleName s) :
      HasType naming moduleName x (s ++ "(" ++ x ++ ")") s
  | vector (x y e t : Text) (element : HasType naming moduleName y e t) :
      HasType naming moduleName x
        ("RCTBridgingToVec(" ++ x ++ ", ^" ++ t ++ "(id " ++ y ++ ") \x7b return " ++ e ++ "; \x7d)")
        ("facebook::react::LazyVector<" ++ t ++ ">")
  | optionalDouble (x : Text) :
      HasType naming moduleName x ("RCTBridgingToOptionalDouble(" ++ x ++ ")")
        (naming.style.around "double")
  | optionalBool (x : Text) :
      HasType naming moduleName x ("RCTBridgingToOptionalBool(" ++ x ++ ")")
        (naming.style.around "bool")
  | optionalVector (x y e t : Text) (element : HasType naming moduleName y e t) :
      HasType naming moduleName x
        ("RCTBridgingToOptionalVec(" ++ x ++ ", ^" ++ t ++ "(id " ++ y ++ ") \x7b return " ++ e ++
          "; \x7d)")
        (naming.style.around ("facebook::react::LazyVector<" ++ t ++ ">"))
  | optionalStruct (x s : Text) (named : naming.IsStruct moduleName s) :
      HasType naming moduleName x
        ("(" ++ x ++ " == nil ? " ++ naming.style.empty ++ " : " ++ naming.style.factory ++ "(" ++
          s ++ "(" ++ x ++ ")))")
        (naming.style.around s)

theorem bridgingCall_one {x : Text} (kind : Text) (required : Bool) (present : x ≠ []) :
    bridgingCall kind required [x] =
      (if required then "RCTBridgingTo" else "RCTBridgingToOptional") ++ kind ++ "(" ++ x ++ ")" := by
  have kept : (!x.isEmpty) = true := by simpa using present
  simp [bridgingCall, kept, List.intercalate]

theorem bridgingCall_two {x y : Text} (kind : Text) (required : Bool) (present : x ≠ [])
    (present' : y ≠ []) :
    bridgingCall kind required [x, y] =
      (if required then "RCTBridgingTo" else "RCTBridgingToOptional") ++ kind ++ "(" ++ x ++ ", " ++
        y ++ ")" := by
  have kept : (!x.isEmpty) = true := by simpa using present
  have kept' : (!y.isEmpty) = true := by simpa using present'
  simp [bridgingCall, kept, kept', List.intercalate]

variable {naming : Naming} {moduleName x : Text}

theorem string_hasType (required : Bool) (present : x ≠ []) :
    HasType naming moduleName x ((Conversion.bridged .string required x).text naming.style)
      (DeclaredType.string.text naming.style) := by
  have plain : HasType naming moduleName x _ _ := .string x
  have optional : HasType naming moduleName x _ _ := .optionalString x
  rw [Conversion.text, bridgingCall_one _ _ present, BridgedKind.label, DeclaredType.text]
  repeat rw [Text.ofString_literal] at *
  cases required with
  | true => exact plain
  | false => exact optional

theorem double_hasType (required : Bool) (present : x ≠ []) :
    HasType naming moduleName x ((Conversion.bridged .double required x).text naming.style)
      ((DeclaredType.double.unlessRequired required).text naming.style) := by
  have plain : HasType naming moduleName x _ _ := .double x
  have optional : HasType naming moduleName x _ _ := .optionalDouble x
  rw [Conversion.text, bridgingCall_one _ _ present, BridgedKind.label]
  repeat rw [Text.ofString_literal] at *
  cases required with
  | true => exact plain
  | false => exact optional

theorem bool_hasType (required : Bool) (present : x ≠ []) :
    HasType naming moduleName x ((Conversion.bridged .bool required x).text naming.style)
      ((DeclaredType.bool.unlessRequired required).text naming.style) := by
  have plain : HasType naming moduleName x _ _ := .bool x
  have optional : HasType naming moduleName x _ _ := .optionalBool x
  rw [Conversion.text, bridgingCall_one _ _ present, BridgedKind.label]
  repeat rw [Text.ofString_literal] at *
  cases required with
  | true => exact plain
  | false => exact optional

theorem object_hasType (required : Bool) :
    HasType naming moduleName x ((Conversion.raw x).text naming.style)
      ((DeclaredType.object !required).text naming.style) := by
  cases required with
  | true => exact .object x
  | false => exact .nullableObject x

theorem struct_hasType {s : Text} (required : Bool) (named : naming.IsStruct moduleName s) :
    HasType naming moduleName x
      ((if required then Conversion.construct s x else .constructOptional s x).text naming.style)
      (((DeclaredType.struct s).unlessRequired required).text naming.style) := by
  cases required with
  | true => exact .struct x s named
  | false =>
    have made := HasType.optionalStruct x s named
    have closed : Text.ofString ")))" = ")" ++ "))" := rfl
    rw [closed] at made
    simpa [Conversion.text, constructCall, DeclaredType.unlessRequired, DeclaredType.text,
      OptionalStyle.around] using made

theorem vector_hasType {item : Text} {type : DeclaredType} {body : Conversion} (required : Bool)
    (present : x ≠ [])
    (element : HasType naming moduleName item (body.text naming.style) (type.text naming.style)) :
    HasType naming moduleName x ((Conversion.vector required x type item body).text naming.style)
      (((DeclaredType.vector type).unlessRequired required).text naming.style) := by
  have block : blockText (type.text naming.style) item (body.text naming.style) ≠ [] := by
    simp [blockText, Text.ofString]
  have head : Text.ofString "RCTBridgingToVec(" = "RCTBridgingTo" ++ "Vec" ++ "(" := by
    repeat rw [Text.ofString_literal]
    rfl
  have optionalHead : Text.ofString "RCTBridgingToOptionalVec(" =
      "RCTBridgingToOptional" ++ "Vec" ++ "(" := by
    repeat rw [Text.ofString_literal]
    rfl
  have opened : Text.ofString ", ^" = ", " ++ "^" := rfl
  have closed : Text.ofString "; \x7d)" = "; \x7d" ++ ")" := rfl
  rw [Conversion.text, bridgingCall_two _ _ present block]
  cases required with
  | true =>
    have made := HasType.vector x item _ _ element
    rw [head, opened, closed] at made
    simpa [blockText, DeclaredType.unlessRequired, DeclaredType.text] using made
  | false =>
    have made := HasType.optionalVector x item _ _ element
    rw [optionalHead, opened, closed] at made
    simpa [blockText, DeclaredType.unlessRequired, DeclaredType.text, OptionalStyle.around]
      using made

/-- The fault of the conversion of a type that cannot be declared. Of an array the declaration of
the element is what fails. -/
def conversionFault (bare : FieldType) (fault : Fault) : Fault :=
  match bare, fault with
  | .array _, fault => fault
  | _, .unmappableType tag => .unmappableValue tag
  | _, fault => fault

/-- A conversion goes with a type, a fault with a fault. -/
def Agrees (naming : Naming) (moduleName x : Text) (bare : FieldType)
    (declared : Except Fault DeclaredType) (converted : Except Fault Conversion) : Prop :=
  match declared with
  | .ok type => ∃ e, converted = .ok e ∧
      HasType naming moduleName x (e.text naming.style) (type.text naming.style)
  | .error fault => converted = .error (conversionFault bare fault)

def BareAgrees (naming : Naming) (moduleName : Text) (t : FieldType) : Prop :=
  ∀ (required : Bool) (x : Text) (depth : Int), x ≠ [] →
    Agrees naming moduleName x t (bareType naming moduleName required t)
      (bareConversion naming moduleName required x depth t)

theorem itemName_present (depth : Int) : itemName depth ≠ [] := by
  simp [itemName, Text.ofString]

theorem leaf_agrees (kind : Leaf) : BareAgrees naming moduleName (.leaf kind) := by
  intro required x depth present
  cases kind with
  | string => exact ⟨_, rfl, string_hasType required present⟩
  | boolean => exact ⟨_, rfl, bool_hasType required present⟩
  | genericObject => exact ⟨_, rfl, object_hasType required⟩
  | number => exact ⟨_, rfl, double_hasType required present⟩
  | float => exact ⟨_, rfl, double_hasType required present⟩
  | int32 => exact ⟨_, rfl, double_hasType required present⟩
  | double => exact ⟨_, rfl, double_hasType required present⟩

theorem reserved_agrees (name : Json) : BareAgrees naming moduleName (.reserved name) := by
  intro required x depth present
  rw [bareType, bareConversion]
  cases known : isRootTag name with
  | error fault =>
    have misused : ∃ use, fault = .misuse use := by
      unfold isRootTag at known
      split at known
      · simp at known
      · exact ⟨_, (Except.error.inj known).symm⟩
    obtain ⟨use, rfl⟩ := misused
    rfl
  | ok isTag =>
    cases isTag with
    | true => exact ⟨_, rfl, double_hasType required present⟩
    | false => rfl

theorem named_agrees (name : Json) : BareAgrees naming moduleName (.named name) := by
  intro required x depth _
  rw [bareType, bareConversion]
  cases found : naming.structName moduleName name with
  | error fault =>
    have misused : ∃ use, fault = .misuse use := by
      unfold Naming.structName ofUse at found
      cases made : naming.capitalize name with
      | error use =>
        rw [made] at found
        exact ⟨use, (Except.error.inj found).symm⟩
      | ok text =>
        rw [made] at found
        cases found
    obtain ⟨use, rfl⟩ := misused
    rfl
  | ok s =>
    have typed := struct_hasType (x := x) required ⟨name, found⟩
    exact ⟨_, rfl, typed⟩

theorem array_agrees (element : FieldType) (inner : BareAgrees naming moduleName element.unwrap.1) :
    BareAgrees naming moduleName (.array element) := by
  intro required x depth present
  rw [bareType_array, bareConversion_array]
  have agreed := inner (!element.unwrap.2 && !false) (itemName depth) (depth + 1)
    (itemName_present depth)
  rw [← declaredType, ← conversion] at agreed
  cases declared : declaredType naming moduleName element false with
  | error fault => rfl
  | ok type =>
    rw [declared] at agreed
    obtain ⟨body, converted, typed⟩ := agreed
    refine ⟨.vector required x type (itemName depth) body, ?_, vector_hasType required present typed⟩
    simp [converted]
    rfl

theorem bare_agrees (naming : Naming) (moduleName : Text) (t : FieldType) :
    BareAgrees naming moduleName t := by
  induction t using FieldType.bareInduction with
  | leaf kind => exact leaf_agrees kind
  | reserved name => exact reserved_agrees name
  | named name => exact named_agrees name
  | untypedArray => exact fun required x depth _ => ⟨_, rfl, object_hasType required⟩
  | array element inner => exact array_agrees element inner
  | nullable inner => exact fun _ _ _ _ => rfl
  | missing => exact fun _ _ _ _ => rfl
  | unknown kind tag => exact fun _ _ _ _ => rfl

theorem declared_agrees (naming : Naming) (moduleName : Text) (t : FieldType) (optional : Bool)
    (depth : Int) (present : x ≠ []) :
    Agrees naming moduleName x t.unwrap.1 (declaredType naming moduleName t optional)
      (conversion naming moduleName t x depth optional) :=
  bare_agrees naming moduleName t.unwrap.1 _ x depth present

/-- An expression is generated exactly when a type is declared, and it has that type. -/
theorem conversion_has_declared_type (naming : Naming) (moduleName : Text) (t : FieldType)
    (optional : Bool) (depth : Int) (x : Text) (present : x ≠ []) :
    (∀ type, declaredType naming moduleName t optional = .ok type →
      ∃ e, conversion naming moduleName t x depth optional = .ok e ∧
        HasType naming moduleName x (e.text naming.style) (type.text naming.style)) ∧
    (∀ fault, declaredType naming moduleName t optional = .error fault →
      conversion naming moduleName t x depth optional =
        .error (conversionFault t.unwrap.1 fault)) := by
  have agreed := declared_agrees naming moduleName t optional depth present
  constructor
  · intro type declared
    rw [declared] at agreed
    exact agreed
  · intro fault refused
    rw [refused] at agreed
    exact agreed

theorem nested_array_has_declared_type :
    ∃ e, conversion (.standard .folly) "Maps" (.array (.nullable (.array (.named (.str "point")))))
        "p" 0 true = .ok e ∧
      HasType (.standard .folly) "Maps" "p" (e.text .folly)
        ((DeclaredType.optional (.vector (.optional (.vector (.struct "JS::Maps::Point"))))).text
          .folly) :=
  (conversion_has_declared_type (.standard .folly) "Maps"
    (.array (.nullable (.array (.named (.str "point"))))) true 0 "p" (by decide)).1 _ rfl

end StructBridge.Code
