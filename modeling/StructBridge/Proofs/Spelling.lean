import StructBridge.Proofs.HeaderLines
import StructBridge.Proofs.HeaderParts

/-!
What the optional style changes in a header. The walks over types do not look at the style; it comes
in where code is written out, and there four words depend on it. So a text of each style is one
sequence of pieces, in which these words stand as placeholders.
-/
namespace StructBridge
open Schema Code Command Text

namespace Code

/-- The words that each style spells its own way. -/
inductive Placeholder where
  | wrapper
  | empty
  | factory
  | importName
  deriving DecidableEq, Repr

def Placeholder.text (style : OptionalStyle) : Placeholder → Text
  | wrapper => style.wrapper
  | empty => style.empty
  | factory => style.factory
  | importName => style.importName

inductive Piece where
  | fixed (t : Text)
  | spelled (word : Placeholder)
  deriving DecidableEq, Repr

def Piece.text (style : OptionalStyle) : Piece → Text
  | fixed t => t
  | spelled word => word.text style

def spell (style : OptionalStyle) (pieces : List Piece) : Text := pieces.flatMap (Piece.text style)

/-- A text of each style that is one sequence of pieces, spelled in the style. -/
def Spelled (t : OptionalStyle → Text) : Prop := ∃ pieces, ∀ style, t style = spell style pieces

namespace Spelled

variable {t u : OptionalStyle → Text}

theorem fixed (t : Text) : Spelled fun _ => t :=
  ⟨[.fixed t], fun _ => (List.append_nil t).symm⟩

theorem word (word : Placeholder) : Spelled fun style => word.text style :=
  ⟨[.spelled word], fun style => (List.append_nil (word.text style)).symm⟩

theorem append (first : Spelled t) (later : Spelled u) : Spelled fun style => t style ++ u style := by
  obtain ⟨pieces, first⟩ := first
  obtain ⟨others, later⟩ := later
  refine ⟨pieces ++ others, ?_⟩
  intro style
  simp only [first, later, spell, List.flatMap_append]

theorem intercalate {α : Type} {text : OptionalStyle → α → Text} (separator : Text) {xs : List α}
    (each : ∀ x ∈ xs, Spelled fun style => text style x) :
    Spelled fun style => List.intercalate separator (xs.map (text style)) := by
  induction xs with
  | nil => exact fixed []
  | cons x rest ih =>
    have here := each x (by simp)
    have later := ih fun y member => each y (List.mem_cons_of_mem x member)
    cases rest with
    | nil => simpa using here
    | cons y others =>
      simp only [List.map_cons, List.intercalate_cons_cons] at later ⊢
      exact (here.append (fixed separator)).append later

theorem flatMap {α : Type} {text : OptionalStyle → α → Text} {xs : List α}
    (each : ∀ x ∈ xs, Spelled fun style => text style x) :
    Spelled fun style => xs.flatMap (text style) := by
  induction xs with
  | nil => exact fixed []
  | cons x rest ih =>
    have here := each x (by simp)
    have later := ih fun y member => each y (List.mem_cons_of_mem x member)
    simp only [List.flatMap_cons]
    exact here.append later

end Spelled

section Styleless

variable {naming naming' : Naming} {moduleName : Text}

/-- The walks over a type that has lost its wrapper look at names of structs alone. -/
def BareAlike (naming naming' : Naming) (moduleName : Text) (t : FieldType) : Prop :=
  (∀ required, bareType naming moduleName required t = bareType naming' moduleName required t) ∧
    ∀ required value depth, bareConversion naming moduleName required value depth t =
      bareConversion naming' moduleName required value depth t

theorem bare_alike (same : naming.structName = naming'.structName) (t : FieldType) :
    BareAlike naming naming' moduleName t := by
  induction t using FieldType.bareInduction with
  | leaf kind => cases kind <;> exact ⟨fun _ => rfl, fun _ _ _ => rfl⟩
  | reserved name => exact ⟨fun _ => rfl, fun _ _ _ => rfl⟩
  | named name =>
    constructor
    · intro required
      rw [bareType, bareType, same]
    · intro required value depth
      rw [bareConversion, bareConversion, same]
  | untypedArray => exact ⟨fun _ => rfl, fun _ _ _ => rfl⟩
  | array element inner =>
    constructor
    · intro required
      rw [bareType_array, bareType_array, declaredType, declaredType, inner.1]
    · intro required value depth
      simp only [bareConversion_array, declaredType, conversion, inner.1, inner.2]
  | nullable inner => exact ⟨fun _ => rfl, fun _ _ _ => rfl⟩
  | missing => exact ⟨fun _ => rfl, fun _ _ _ => rfl⟩
  | unknown kind tag => exact ⟨fun _ => rfl, fun _ _ _ => rfl⟩

theorem accessorOf_style (style style' : OptionalStyle) (moduleName : Text) :
    accessorOf (.standard style) moduleName = accessorOf (.standard style') moduleName := by
  have same : (Naming.standard style).structName = (Naming.standard style').structName := rfl
  funext p
  have alike : BareAlike _ _ moduleName p.type.unwrap.1 := bare_alike same p.type.unwrap.1
  obtain ⟨types, conversions⟩ := alike
  unfold accessorOf declaredType conversion
  simp only [types, conversions]
  rfl

end Styleless

section Texts

theorem declared_spelled (t : DeclaredType) : Spelled fun style => t.text style := by
  induction t with
  | vector element ih =>
    exact ((Spelled.fixed "facebook::react::LazyVector<").append ih).append (.fixed ">")
  | optional inner ih =>
    exact (((Spelled.word .wrapper).append (.fixed "<")).append ih).append (.fixed ">")
  | _ => exact .fixed _

/-- Where a type is styled at all, its text ends in a bracket in each style. -/
theorem padding_style (t : DeclaredType) (style style' : OptionalStyle) :
    padding (t.text style) = padding (t.text style') := by
  have closed (u : Text) : padding (u ++ ">") = " " := by
    have last : (u ++ ofString ">").getLast? = some (.char '>') := List.getLast?_concat
    rw [padding, last]
    rfl
  cases t with
  | vector element => simp only [DeclaredType.text, closed]
  | optional inner => simp only [DeclaredType.text, closed]
  | _ => rfl

theorem paddedType_spelled (a : Accessor) : Spelled fun style => a.paddedType style := by
  have padded (style : OptionalStyle) :
      a.paddedType style = a.type.text style ++ padding (a.type.text .folly) := by
    rw [Accessor.paddedType, padding_style a.type style .folly]
  simp only [padded]
  exact (declared_spelled a.type).append (.fixed _)

/-- The call of an array's conversion up to its block. -/
def vectorHead (required : Bool) (value : Text) : Text :=
  ofString (if required then "RCTBridgingTo" else "RCTBridgingToOptional") ++ ofString "Vec" ++
    ofString "(" ++ (if value.isEmpty then [] else value ++ ofString ", ")

theorem vectorCall_text (required : Bool) (value : Text) {block : Text} (present : block ≠ []) :
    bridgingCall "Vec" required [value, block] = vectorHead required value ++ block ++ ")" := by
  have kept : (!block.isEmpty) = true := by simpa using present
  cases empty : value.isEmpty <;> simp [bridgingCall, vectorHead, kept, empty, List.intercalate]

theorem conversion_spelled (e : Conversion) : Spelled fun style => e.text style := by
  induction e with
  | constructOptional struct value =>
    have choice : Spelled fun style =>
        "(" ++ value ++ " == nil ? " ++ style.empty ++ " : " ++ style.factory ++ "(" :=
      ((((((Spelled.fixed "(").append (.fixed value)).append (.fixed " == nil ? ")).append
        (.word .empty)).append (.fixed " : ")).append (.word .factory)).append (.fixed "(")
    exact (choice.append (.fixed (constructCall struct value))).append (.fixed "))")
  | vector required value element item body ih =>
    have block : Spelled fun style => blockText (element.text style) item (body.text style) :=
      ((((((Spelled.fixed "^").append (declared_spelled element)).append (.fixed "(id ")).append
        (.fixed item)).append (.fixed ") \x7b return ")).append ih).append (.fixed "; \x7d")
    have present (style : OptionalStyle) :
        blockText (element.text style) item (body.text style) ≠ [] := by
      simp [blockText, Text.ofString]
    have call (style : OptionalStyle) :
        (Conversion.vector required value element item body).text style =
          vectorHead required value ++ blockText (element.text style) item (body.text style) ++
            ")" := vectorCall_text required value (present style)
    simp only [call]
    exact ((Spelled.fixed _).append block).append (.fixed ")")
  | _ => exact .fixed _

theorem declaration_spelled (a : Accessor) : Spelled fun style => a.declaration style :=
  ((paddedType_spelled a).append (.fixed a.name)).append (.fixed "() const;")

theorem definition_spelled (struct : Text) (a : Accessor) :
    Spelled fun style => a.definition style struct := by
  have signature : Spelled fun style =>
      "inline " ++ a.paddedType style ++ struct ++ "::" ++ a.name ++ "() const\n" :=
    (((((Spelled.fixed "inline ").append (paddedType_spelled a)).append (.fixed struct)).append
      (.fixed "::")).append (.fixed a.name)).append (.fixed "() const\n")
  have start : Spelled fun style =>
      "inline " ++ a.paddedType style ++ struct ++ "::" ++ a.name ++ "() const\n" ++ "\x7b\n" ++
        "  id const p = _v[@\"" ++ a.key ++ "\"];\n" ++ "  return " :=
    ((((signature.append (.fixed "\x7b\n")).append (.fixed "  id const p = _v[@\"")).append
      (.fixed a.key)).append (.fixed "\"];\n")).append (.fixed "  return ")
  exact ((start.append (conversion_spelled a.conversion)).append (.fixed ";\n")).append
    (.fixed "\x7d")

end Texts

/-- The parts of a struct's code, before a style is chosen. -/
structure StructParts where
  name : Text
  full : Text
  accessors : List Accessor

def partsOf (moduleName : Text) (s : Struct) : Except Fault StructParts := do
  if s.kind ≠ .regular then .error (.unsupportedStruct s.kind.label s.name)
  let name ← ofUse (Name.capitalize s.name)
  let accessors ← accessorsOf (.standard .folly) moduleName s.properties
  return ⟨name, Name.qualified moduleName name, accessors⟩

def StructParts.code (moduleName : Text) (style : OptionalStyle) (parts : StructParts) :
    StructCode where
  declaration := declarationText moduleName parts.name (parts.accessors.map (·.declaration style))
  methods := List.intercalate "\n" (parts.accessors.map (·.definition style parts.full))

theorem ofRegular_parts (style : OptionalStyle) (moduleName : Text) (s : Struct) :
    StructCode.ofRegular (.standard style) moduleName s =
      (partsOf moduleName s).map (StructParts.code moduleName style) := by
  obtain ⟨kind, name, properties⟩ := s
  cases kind with
  | bare => rfl
  | regular =>
    unfold StructCode.ofRegular StructCode.of partsOf
    simp only [accessorsOf, accessorOf_style style .folly]
    change (ofUse (Name.capitalize name) >>= fun _ => _) = _
    cases ofUse (Name.capitalize name) with
    | error fault => rfl
    | ok name =>
      simp only [ok_bind]
      cases properties.mapM (accessorOf (.standard .folly) moduleName) <;> rfl

def declarationBefore (moduleName name : Text) : Text :=
  unlines (namespaceLines moduleName ++ [blockStart name]) ++ "      "

def declarationAfter (moduleName name : Text) : Text :=
  "\n" ++ unlines (innerLines name ++ [blockEnd]) ++ unlines (tailLines moduleName name) ++
    declarationEnd

theorem declarationText_around (moduleName name : Text) (accessors : List Text) :
    declarationText moduleName name accessors = declarationBefore moduleName name ++
      List.intercalate "\n      " accessors ++ declarationAfter moduleName name := by
  unfold declarationText declarationBefore declarationAfter declarationEnd
  simp only [headLines_text, innerLines_text, tailLines_text, List.append_assoc]

section Headers

variable {moduleName : Text}

theorem code_declaration_spelled (parts : StructParts) :
    Spelled fun style => (parts.code moduleName style).declaration := by
  simp only [StructParts.code, declarationText_around]
  have accessors : Spelled fun style =>
      List.intercalate "\n      " (parts.accessors.map (·.declaration style)) :=
    .intercalate "\n      " fun a _ => declaration_spelled a
  exact ((Spelled.fixed _).append accessors).append (.fixed _)

theorem code_methods_spelled (parts : StructParts) :
    Spelled fun style => (parts.code moduleName style).methods :=
  .intercalate "\n" fun a _ => definition_spelled parts.full a

theorem methods_isEmpty (parts : StructParts) (style : OptionalStyle) :
    (parts.code moduleName style).methods.isEmpty = parts.accessors.isEmpty := by
  obtain ⟨name, full, accessors⟩ := parts
  cases accessors with
  | nil => rfl
  | cons a rest =>
    cases rest <;>
      simp [StructParts.code, Accessor.definition, List.intercalate_cons_cons, Text.ofString]

/-- The body of a header, part by part. -/
theorem body_parts (parts : List StructParts) (style : OptionalStyle) :
    bodyText (sections (parts.map (StructParts.code moduleName style))) =
      (parts.flatMap fun p => between (p.code moduleName style).declaration) ++
        (parts.filter (!·.accessors.isEmpty)).flatMap fun p =>
          between (p.code moduleName style).methods := by
  have defining : (fun t : Text => !t.isEmpty) ∘ (fun code : StructCode => code.methods) ∘
      StructParts.code moduleName style = fun p => !p.accessors.isEmpty := by
    funext p
    simp only [Function.comp_apply, methods_isEmpty]
  rw [bodyText_eq, sections, List.flatMap_append, List.map_map, List.map_map, List.filter_map,
    defining, List.flatMap_map, List.flatMap_map]
  rfl

theorem headerText_spelled (parts : List StructParts) (comment : Text) :
    Spelled fun style =>
      headerText style (parts.map (StructParts.code moduleName style)) comment := by
  have framed {t : OptionalStyle → Text} (inner : Spelled t) :
      Spelled fun style => between (t style) :=
    ((Spelled.fixed "\n").append inner).append (.fixed "\n")
  have declarations : Spelled fun style =>
      parts.flatMap fun p => between (p.code moduleName style).declaration :=
    .flatMap fun p _ => framed (code_declaration_spelled p)
  have definitions : Spelled fun style => (parts.filter (!·.accessors.isEmpty)).flatMap fun p =>
      between (p.code moduleName style).methods :=
    .flatMap fun p _ => framed (code_methods_spelled p)
  have imports : Spelled fun style => (requiredImports style).flatMap importText := by
    simp only [requiredImports, List.flatMap_cons, List.flatMap_nil]
    exact (((Spelled.fixed "#import <").append (.word .importName)).append (.fixed ">\n")).append
      (.fixed _)
  have opens : Spelled fun style => opening style comment :=
    (((Spelled.fixed _).append imports).append (.fixed "\n")).append
      (.fixed "NS_ASSUME_NONNULL_BEGIN\n")
  simp only [headerText, body_parts]
  exact ((opens.append (declarations.append definitions)).append (.fixed closing)).append
    (.fixed "\n")

end Headers

end Code

/-- The parts of the selected structs. -/
def Generator.parts (g : Generator) : Except Fault (List StructParts) := do
  let structs ← g.selected
  structs.mapM (partsOf g.module.name.shown)

/-- The style of a generator comes in when its parts are there. -/
theorem header_eq_parts {g : Generator} {style : OptionalStyle} (invocation : Option Invocation)
    (resolved : g.style.resolve = .ok style) :
    g.header invocation = g.parts.map fun parts =>
      headerText style (parts.map (StructParts.code g.module.name.shown style))
        (g.comment invocation) := by
  have coding : g.structCode = fun s =>
      (partsOf g.module.name.shown s).map (StructParts.code g.module.name.shown style) :=
    (Generator.structCode_resolved resolved).trans
      (funext (ofRegular_parts style g.module.name.shown))
  unfold Generator.header Generator.parts
  rw [g.structCodes_eq, resolved]
  cases g.selected with
  | error fault => rfl
  | ok structs =>
    simp only [ok_bind, coding, mapM_map]
    cases structs.mapM (partsOf g.module.name.shown) <;> rfl

end StructBridge
