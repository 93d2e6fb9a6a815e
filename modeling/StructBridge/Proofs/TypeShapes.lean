import StructBridge.Proofs.NamesInCode
import StructBridge.Proofs.Refusal

/-!
What of a type is left in generated code. Its shape keeps the names of structs as they are spelled
in code, one kind of number and one kind of object, and at each level whether the value may be absent.
Both walks over a type depend on its shape alone. The text of a declaration can be read in one way
only, so it tells the whole shape but for the strings, which never say whether they are optional.
-/
namespace StructBridge
open Schema Code

inductive Shape where
  | string (optional : Bool)
  | number (optional : Bool)
  | boolean (optional : Bool)
  | object (optional : Bool)
  | struct (optional : Bool) (name : Text)
  | list (optional : Bool) (element : Shape)
  deriving DecidableEq, Repr

namespace Schema.FieldType

/-- The shape of a type that has lost its nullable wrapper; what cannot be mapped has none. -/
def bareShape? (optional : Bool) : FieldType → Option Shape
  | leaf .string => some (.string optional)
  | leaf .boolean => some (.boolean optional)
  | leaf .genericObject => some (.object optional)
  | leaf _ => some (.number optional)
  | reserved name =>
    if name.text? = some (Text.ofString "RootTag") then some (.number optional) else none
  | named name => name.text?.map fun t => .struct optional (Name.capitalizeText t)
  | untypedArray => some (.object optional)
  | array (nullable inner) => (bareShape? true inner).map (.list optional)
  | array element => (bareShape? false element).map (.list optional)
  | _ => none

/-- The shape of a type, where a flag says that the value may be absent. One wrapper says so too. -/
def shape? (t : FieldType) (optional : Bool) : Option Shape :=
  bareShape? (t.unwrap.2 || optional) t.unwrap.1

theorem bareShape_array (optional : Bool) (element : FieldType) :
    bareShape? optional (array element) = (element.shape? false).map (.list optional) := by
  cases element <;> rfl

end Schema.FieldType

namespace Shape

/-- The shape with no strings said to be optional. -/
def plain : Shape → Shape
  | string _ => string false
  | list optional element => list optional element.plain
  | s => s

/-- The type that a shape is declared as. -/
def declared (moduleName : Text) : Shape → DeclaredType
  | string _ => .string
  | number optional => DeclaredType.double.unlessRequired !optional
  | boolean optional => DeclaredType.bool.unlessRequired !optional
  | object optional => .object optional
  | struct optional name =>
    (DeclaredType.struct (Name.qualified moduleName name)).unlessRequired !optional
  | list optional element =>
    (DeclaredType.vector (element.declared moduleName)).unlessRequired !optional

/-- The expression that makes a shape out of a raw value. -/
def converted (moduleName x : Text) (depth : Int) : Shape → Conversion
  | string optional => .bridged .string (!optional) x
  | number optional => .bridged .double (!optional) x
  | boolean optional => .bridged .bool (!optional) x
  | object _ => .raw x
  | struct optional name =>
    let name := Name.qualified moduleName name
    if optional then .constructOptional name x else .construct name x
  | list optional element =>
    .vector (!optional) x (element.declared moduleName) (itemName depth)
      (element.converted moduleName (itemName depth) (depth + 1))

def asOptional : Shape → Shape
  | string _ => string true
  | number _ => number true
  | boolean _ => boolean true
  | object _ => object true
  | struct _ name => struct true name
  | list _ element => list true element

/-- The shape that a declared type is read as. -/
def ofDeclared (moduleName : Text) : DeclaredType → Shape
  | .string => string false
  | .double => number false
  | .bool => boolean false
  | .object nullable => object nullable
  | .struct name => struct false (name.drop (Name.qualified moduleName []).length)
  | .vector element => list false (ofDeclared moduleName element)
  | .optional inner => (ofDeclared moduleName inner).asOptional

variable {moduleName : Text}

theorem declared_plain (s : Shape) : s.plain.declared moduleName = s.declared moduleName := by
  induction s with
  | list optional element ih => rw [plain, declared, declared, ih]
  | _ => rfl

theorem drop_qualified (moduleName name : Text) :
    (Name.qualified moduleName name).drop (Name.qualified moduleName []).length = name := by
  have parts : Name.qualified moduleName name = Name.qualified moduleName [] ++ name := by
    simp only [Name.qualified, List.append_assoc, List.nil_append]
  rw [parts, List.drop_left]

theorem ofDeclared_declared (s : Shape) :
    ofDeclared moduleName (s.declared moduleName) = s.plain := by
  induction s with
  | string optional => rfl
  | number optional => cases optional <;> rfl
  | boolean optional => cases optional <;> rfl
  | object optional => rfl
  | struct optional name =>
    have required : ofDeclared moduleName (.struct (Name.qualified moduleName name)) =
        struct false name := congrArg (struct false) (drop_qualified moduleName name)
    cases optional with
    | false => exact required
    | true => exact congrArg asOptional required
  | list optional element ih =>
    have required : ofDeclared moduleName (.vector (element.declared moduleName)) =
        list false element.plain := congrArg (list false) ih
    cases optional with
    | false => exact required
    | true => exact congrArg asOptional required

theorem declared_eq_iff {s s' : Shape} :
    s.declared moduleName = s'.declared moduleName ↔ s.plain = s'.plain := by
  constructor
  · intro same
    have read := congrArg (ofDeclared moduleName) same
    rwa [ofDeclared_declared, ofDeclared_declared] at read
  · intro same
    rw [← declared_plain, same, declared_plain]

end Shape

section Walks

variable {style : OptionalStyle} {moduleName : Text} {t : FieldType} {optional : Bool} {s : Shape}

/-- The two walks over a type that has lost its wrapper go by its shape. -/
theorem bare_shaped (shaped : t.bareShape? optional = some s) :
    bareType (.standard style) moduleName (!optional) t = .ok (s.declared moduleName) ∧
      ∀ x depth, bareConversion (.standard style) moduleName (!optional) x depth t =
        .ok (s.converted moduleName x depth) := by
  induction t using FieldType.bareInduction generalizing optional s with
  | leaf kind =>
    cases kind <;> obtain rfl := Option.some.inj shaped <;> cases optional <;>
      exact ⟨rfl, fun _ _ => rfl⟩
  | reserved name =>
    cases name with
    | str tag =>
      unfold FieldType.bareShape? at shaped
      split at shaped
      · rename_i root
        obtain rfl : tag = rootTag := Option.some.inj root
        obtain rfl := Option.some.inj shaped
        exact ⟨rfl, fun _ _ => rfl⟩
      · cases shaped
    | _ => cases shaped
  | named name =>
    cases name with
    | str tag =>
      obtain rfl := Option.some.inj shaped
      refine ⟨rfl, fun _ _ => ?_⟩
      cases optional <;> rfl
    | _ => cases shaped
  | untypedArray =>
    obtain rfl := Option.some.inj shaped
    refine ⟨?_, fun _ _ => rfl⟩
    cases optional <;> rfl
  | array element inner =>
    rw [FieldType.bareShape_array] at shaped
    obtain ⟨inside, found, rfl⟩ := Option.map_eq_some_iff.mp shaped
    obtain ⟨declared, converted⟩ := inner found
    rw [Bool.not_or] at declared converted
    have type : declaredType (.standard style) moduleName element false = _ := declared
    constructor
    · rw [bareType_array, type]
      rfl
    · intro x depth
      have body : conversion (.standard style) moduleName element (itemName depth) (depth + 1) false =
          _ := converted (itemName depth) (depth + 1)
      rw [bareConversion_array, type, body]
      rfl
  | nullable inner => cases shaped
  | missing => cases shaped
  | unknown kind tag => cases shaped

theorem declaredType_shaped (shaped : t.shape? optional = some s) :
    declaredType (.standard style) moduleName t optional = .ok (s.declared moduleName) := by
  have walk : bareType (.standard style) moduleName (!(t.unwrap.2 || optional)) t.unwrap.1 =
      .ok (s.declared moduleName) := (bare_shaped shaped).1
  rw [Bool.not_or] at walk
  exact walk

theorem conversion_shaped (shaped : t.shape? optional = some s) (x : Text) (depth : Int) :
    conversion (.standard style) moduleName t x depth optional =
      .ok (s.converted moduleName x depth) := by
  have walk : bareConversion (.standard style) moduleName (!(t.unwrap.2 || optional)) x depth
      t.unwrap.1 = .ok (s.converted moduleName x depth) := (bare_shaped shaped).2 x depth
  rw [Bool.not_or] at walk
  exact walk

/-- A type whose names are texts has a shape as soon as it can be declared. -/
theorem bareShape_of_declared (texts : TypeNamed t) {required : Bool} {type : DeclaredType}
    (declared : bareType (.standard style) moduleName required t = .ok type) (optional : Bool) :
    ∃ s, t.bareShape? optional = some s := by
  induction t using FieldType.bareInduction generalizing required type optional with
  | leaf kind => cases kind <;> exact ⟨_, rfl⟩
  | reserved name =>
    obtain ⟨tag, rfl⟩ := texts
    obtain ⟨root, known, declared⟩ := ok_of_bind declared
    cases root with
    | true =>
      have root : (Json.str tag).text? = some rootTag := by simpa using Except.ok.inj known
      exact ⟨.number optional, if_pos root⟩
    | false => cases declared
  | named name =>
    obtain ⟨tag, rfl⟩ := texts
    exact ⟨_, rfl⟩
  | untypedArray => exact ⟨_, rfl⟩
  | array element inner =>
    have inside : TypeNamed element := texts
    rw [bareType_array] at declared
    obtain ⟨type, declared, _⟩ := ok_of_map declared
    obtain ⟨s, shaped⟩ := inner inside.unwrap declared (element.unwrap.2 || false)
    have found : element.shape? false = some s := shaped
    exact ⟨.list optional s, by rw [FieldType.bareShape_array, found, Option.map_some]⟩
  | nullable inner => cases declared
  | missing => cases declared
  | unknown kind tag => cases declared

theorem shape_of_declared (texts : TypeNamed t) {type : DeclaredType}
    (declared : declaredType (.standard style) moduleName t optional = .ok type) :
    ∃ s, t.shape? optional = some s ∧ type = s.declared moduleName := by
  obtain ⟨s, shaped⟩ := bareShape_of_declared texts.unwrap declared (t.unwrap.2 || optional)
  exact ⟨s, shaped, Except.ok.inj (declared.symm.trans (declaredType_shaped shaped))⟩

end Walks

section Texts

/-- The forms that the text of a declared type can have. -/
inductive TextForm where
  | string
  | double
  | bool
  | object
  | struct
  | vector
  | optional

/-- The form of a text, which its first two letters tell. -/
def TextForm.of : Text → TextForm
  | .char 'N' :: _ => string
  | .char 'd' :: _ => double
  | .char 'b' :: _ => bool
  | .char 'i' :: _ => object
  | .char 'J' :: _ => struct
  | .char 'f' :: .char 'a' :: _ => vector
  | _ => optional

def Code.DeclaredType.form : DeclaredType → TextForm
  | .string => .string
  | .double => .double
  | .bool => .bool
  | .object _ => .object
  | .struct _ => .struct
  | .vector _ => .vector
  | .optional _ => .optional

def IsQualified (moduleName name : Text) : Prop := ∃ t, name = Name.qualified moduleName t

variable {style : OptionalStyle} {moduleName : Text} {type other : DeclaredType}

theorem form_text (names : type.Names (IsQualified moduleName)) :
    TextForm.of (type.text style) = type.form := by
  cases type with
  | object nullable => cases nullable <;> rfl
  | struct name =>
    obtain ⟨t, rfl⟩ := names
    rfl
  | optional inner => cases style <;> rfl
  | _ => rfl

theorem form_eq_of_text (names : type.Names (IsQualified moduleName))
    (names' : other.Names (IsQualified moduleName)) (same : type.text style = other.text style) :
    type.form = other.form := by
  calc type.form = TextForm.of (type.text style) := (form_text names).symm
    _ = TextForm.of (other.text style) := congrArg TextForm.of same
    _ = other.form := form_text names'

theorem nullable_of_text {nullable nullable' : Bool}
    (same : (DeclaredType.object nullable).text style =
      (DeclaredType.object nullable').text style) : nullable = nullable' := by
  have apart : Text.ofString "id<NSObject> _Nullable" ≠ Text.ofString "id<NSObject> " := by
    rw [ne_eq, Text.ofString_inj]
    decide
  cases nullable with
  | true => cases nullable' with
    | true => rfl
    | false => exact absurd same apart
  | false => cases nullable' with
    | true => exact absurd same.symm apart
    | false => rfl

/-- The text of a type is read in one way only, whatever the names of structs and of the module. -/
theorem text_injective (names : type.Names (IsQualified moduleName))
    (names' : other.Names (IsQualified moduleName)) (same : type.text style = other.text style) :
    type = other := by
  -- Texts that are equal begin alike, so the types have one form; what differs is told inside of it.
  have forms := form_eq_of_text names names' same
  induction type generalizing other with
  | string => cases other with
    | string => rfl
    | _ => cases forms
  | double => cases other with
    | double => rfl
    | _ => cases forms
  | bool => cases other with
    | bool => rfl
    | _ => cases forms
  | object nullable => cases other with
    | object nullable' => exact congrArg DeclaredType.object (nullable_of_text same)
    | _ => cases forms
  | struct name => cases other with
    | struct name' => exact congrArg DeclaredType.struct same
    | _ => cases forms
  | vector element ih => cases other with
    | vector element' =>
      have inside := List.append_cancel_left (List.append_cancel_right same)
      have alike : element.form = element'.form := form_eq_of_text names names' inside
      exact congrArg DeclaredType.vector (ih names names' inside alike)
    | _ => cases forms
  | optional inner ih => cases other with
    | optional inner' =>
      have inside := List.append_cancel_left (List.append_cancel_right same)
      have alike : inner.form = inner'.form := form_eq_of_text names names' inside
      exact congrArg DeclaredType.optional (ih names names' inside alike)
    | _ => cases forms

theorem declared_names (s : Shape) : (s.declared moduleName).Names (IsQualified moduleName) := by
  induction s with
  | string optional => trivial
  | number optional => exact unlessRequired_names _ trivial
  | boolean optional => exact unlessRequired_names _ trivial
  | object optional => trivial
  | struct optional name => exact unlessRequired_names _ ⟨name, rfl⟩
  | list optional element ih => exact unlessRequired_names _ ih

theorem declared_text_iff {s s' : Shape} :
    (s.declared moduleName).text style = (s'.declared moduleName).text style ↔
      s.plain = s'.plain := by
  constructor
  · intro same
    exact Shape.declared_eq_iff.mp (text_injective (declared_names s) (declared_names s') same)
  · intro same
    exact congrArg _ (Shape.declared_eq_iff.mpr same)

end Texts

section Distinctions

variable {style : OptionalStyle} {moduleName : Text} {t u : FieldType} {optional optional' : Bool}
  {type type' : DeclaredType}

/-- Two types are declared by one text exactly when their shapes agree but for strings that may be
absent. With the same shape they are also converted alike. A wrapper around a type that has none is
worth as much as the flag, and both together are worth no more. -/
theorem declarations_tell_shapes (texts : TypeNamed t) (texts' : TypeNamed u)
    (declared : declaredType (.standard style) moduleName t optional = .ok type)
    (declared' : declaredType (.standard style) moduleName u optional' = .ok type') :
    ∃ s s', t.shape? optional = some s ∧ u.shape? optional' = some s' ∧
      (type.text style = type'.text style ↔ s.plain = s'.plain) ∧
      (s = s' → ∀ x depth, ∃ e,
        conversion (.standard style) moduleName t x depth optional = .ok e ∧
          conversion (.standard style) moduleName u x depth optional' = .ok e) ∧
      (t.unwrap.2 = false → ∀ flag,
        (FieldType.nullable t).shape? flag = t.shape? true ∧
        declaredType (.standard style) moduleName (.nullable t) flag =
          declaredType (.standard style) moduleName t true ∧
        ∀ x depth, conversion (.standard style) moduleName (.nullable t) x depth flag =
          conversion (.standard style) moduleName t x depth true) := by
  obtain ⟨s, shaped, rfl⟩ := shape_of_declared texts declared
  obtain ⟨s', shaped', rfl⟩ := shape_of_declared texts' declared'
  refine ⟨s, s', shaped, shaped', declared_text_iff, ?_, ?_⟩
  · rintro rfl x depth
    exact ⟨_, conversion_shaped shaped x depth, conversion_shaped shaped' x depth⟩
  · intro bare flag
    cases t with
    | nullable inner => cases bare
    | _ => exact ⟨rfl, rfl, fun _ _ => rfl⟩

def flaggedPoints : FieldType := .array (.nullable (.named (.str "point")))

def wrappedPoints : FieldType := .nullable (.array (.nullable (.named (.str "Point"))))

/-- Points behind the flag are those behind a wrapper; labels that may be absent are declared like
others, but they have another shape. -/
theorem points_and_labels_declared :
    TypeNamed flaggedPoints ∧ TypeNamed wrappedPoints ∧
      (∃ type type', declaredType (.standard .std) "Maps" flaggedPoints true = .ok type ∧
        declaredType (.standard .std) "Maps" wrappedPoints false = .ok type' ∧
        type.text .std = type'.text .std ∧
        ∃ e, conversion (.standard .std) "Maps" flaggedPoints "p" 0 true = .ok e ∧
          conversion (.standard .std) "Maps" wrappedPoints "p" 0 false = .ok e) ∧
      ∃ type type', declaredType (.standard .std) "Maps" (.array (.leaf .string)) false = .ok type ∧
        declaredType (.standard .std) "Maps" (.array (.nullable (.leaf .string))) false = .ok type' ∧
        type.text .std = type'.text .std ∧
        FieldType.shape? (.array (.leaf .string)) false ≠
          FieldType.shape? (.array (.nullable (.leaf .string))) false := by
  have texts : TypeNamed flaggedPoints := ⟨_, rfl⟩
  have texts' : TypeNamed wrappedPoints := ⟨_, rfl⟩
  refine ⟨texts, texts', ⟨_, _, rfl, rfl, ?_⟩, _, _, rfl, rfl, ?_⟩
  · have flagged : declaredType (.standard .std) "Maps" flaggedPoints true = .ok _ := rfl
    have wrapped : declaredType (.standard .std) "Maps" wrappedPoints false = .ok _ := rfl
    obtain ⟨s, s', shaped, shaped', declared, converted, _⟩ :=
      declarations_tell_shapes texts texts' flagged wrapped
    have alike : flaggedPoints.shape? true = wrappedPoints.shape? false := by decide
    have same : s = s' := Option.some.inj (shaped.symm.trans (alike.trans shaped'))
    exact ⟨declared.mpr (congrArg Shape.plain same), converted same "p" 0⟩
  · have unnamed : TypeNamed (.array (.leaf .string)) := trivial
    have unnamed' : TypeNamed (.array (.nullable (.leaf .string))) := trivial
    have labels : declaredType (.standard .std) "Maps" (.array (.leaf .string)) false = .ok _ := rfl
    have spare : declaredType (.standard .std) "Maps" (.array (.nullable (.leaf .string))) false =
      .ok _ := rfl
    obtain ⟨s, s', shaped, shaped', declared, _⟩ :=
      declarations_tell_shapes unnamed unnamed' labels spare
    obtain rfl := Option.some.inj shaped
    obtain rfl := Option.some.inj shaped'
    exact ⟨declared.mpr rfl, by decide⟩

end Distinctions
end StructBridge
