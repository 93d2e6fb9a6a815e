import Mathlib.Data.List.Nodup
import StructBridge.Proofs.ConversionTyping
import StructBridge.Proofs.Numerals
import StructBridge.Proofs.Traversal

/-!
The parameters of blocks. The conversion of an array binds one parameter for each level of arrays,
numbered from the depth that it starts at, and each block converts its own parameter alone. So the
value that is converted stands in fixed places of the text, and another depth to start at gives the
parameters other numbers and changes nothing else.
-/
namespace StructBridge
open Schema Code

namespace Schema.FieldType

/-- How many arrays of typed elements lie inside one another, wrappers aside. -/
def levels : FieldType → Nat
  | array element => element.levels + 1
  | nullable inner => inner.levels
  | _ => 0

theorem levels_unwrap (t : FieldType) : t.unwrap.1.levels = t.levels := by
  cases t <;> rfl

def isNamed : FieldType → Bool
  | named _ => true
  | _ => false

end Schema.FieldType

namespace Code

namespace Conversion

/-- The raw values that an expression uses, those inside of its block aside. -/
def uses : Conversion → List Text
  | raw value => [value]
  | bridged _ _ value => [value]
  | construct _ value => [value]
  | constructOptional _ value => [value, value]
  | vector _ value _ _ _ => [value]

/-- The blocks of an expression, outermost first: the parameter and what is made of it. -/
def blocks : Conversion → List (Text × Conversion)
  | vector _ _ _ item body => (item, body) :: body.blocks
  | _ => []

def parameters (e : Conversion) : List Text := e.blocks.map Prod.fst

def bridgingHead (kind : Text) (required : Bool) : Text :=
  (if required then "RCTBridgingTo" else "RCTBridgingToOptional") ++ kind ++ "("

/-- The parts of an expression between the raw values that it uses. -/
def fragments (style : OptionalStyle) : Conversion → List Text
  | raw _ => [[], []]
  | bridged kind required _ => [bridgingHead kind.label required, ")"]
  | construct struct _ => [struct ++ "(", ")"]
  | constructOptional struct _ =>
    ["(", " == nil ? " ++ style.empty ++ " : " ++ style.factory ++ "(" ++ struct ++ "(", ")))"]
  | vector required _ element item body =>
    [bridgingHead "Vec" required, ", " ++ blockText (element.text style) item (body.text style) ++ ")"]

def mapUses (f : Text → Text) : Conversion → Conversion
  | raw value => raw (f value)
  | bridged kind required value => bridged kind required (f value)
  | construct struct value => construct struct (f value)
  | constructOptional struct value => constructOptional struct (f value)
  | vector required value element item body => vector required (f value) element item body

/-- The parameters renamed, where blocks bind them and where their bodies use them. -/
def renameItems (f : Text → Text) : Conversion → Conversion
  | vector required value element item body =>
    vector required value element (f item) ((body.renameItems f).mapUses f)
  | e => e

theorem uses_mapUses (f : Text → Text) (e : Conversion) : (e.mapUses f).uses = e.uses.map f := by
  cases e <;> rfl

theorem fragments_mapUses (f : Text → Text) (e : Conversion) (style : OptionalStyle) :
    (e.mapUses f).fragments style = e.fragments style := by
  cases e <;> rfl

/-- An expression is its fragments, joined by the one raw value that it uses. -/
theorem text_joined {e : Conversion} {x : Text} (present : x ≠ []) (used : ∀ u ∈ e.uses, u = x)
    (style : OptionalStyle) : e.text style = List.intercalate x (e.fragments style) := by
  cases e with
  | raw value =>
    obtain rfl : value = x := used value (by simp [uses])
    simp [text, fragments, List.intercalate]
  | bridged kind required value =>
    obtain rfl : value = x := used value (by simp [uses])
    rw [text, bridgingCall_one _ _ present]
    simp [fragments, bridgingHead, List.intercalate]
  | construct struct value =>
    obtain rfl : value = x := used value (by simp [uses])
    simp [text, constructCall, fragments, List.intercalate]
  | constructOptional struct value =>
    obtain rfl : value = x := used value (by simp [uses])
    have closed : Text.ofString ")))" = ")" ++ "))" := rfl
    simp [text, constructCall, fragments, List.intercalate, closed]
  | vector required value element item body =>
    obtain rfl : value = x := used value (by simp [uses])
    have block : blockText (element.text style) item (body.text style) ≠ [] := by
      simp [blockText, Text.ofString]
    rw [text, bridgingCall_two _ _ present block]
    simp [fragments, bridgingHead, List.intercalate]

end Conversion

variable {naming : Naming} {moduleName x : Text} {required : Bool} {depth : Int} {t : FieldType}
  {e : Conversion}

/-- The value that is converted goes into the expression and decides nothing. -/
theorem bareConversion_mapUses (f : Text → Text) (t : FieldType) :
    bareConversion naming moduleName required (f x) depth t =
      (bareConversion naming moduleName required x depth t).map (·.mapUses f) := by
  cases t with
  | leaf kind => cases kind <;> rfl
  | reserved name =>
    rw [bareConversion, bareConversion]
    cases isRootTag name with
    | error fault => rfl
    | ok isTag => cases isTag <;> rfl
  | named name =>
    rw [bareConversion, bareConversion]
    cases naming.structName moduleName name with
    | error fault => rfl
    | ok struct => cases required <;> rfl
  | array element =>
    rw [bareConversion_array, bareConversion_array]
    cases declaredType naming moduleName element false with
    | error fault => rfl
    | ok type => cases conversion naming moduleName element (itemName depth) (depth + 1) false <;> rfl
  | _ => rfl

theorem conversion_mapUses (f : Text → Text) (t : FieldType) (optional : Bool) :
    conversion naming moduleName t (f x) depth optional =
      (conversion naming moduleName t x depth optional).map (·.mapUses f) :=
  bareConversion_mapUses f t.unwrap.1

theorem converted_mapUses (f : Text → Text) {optional : Bool}
    (converted : conversion naming moduleName t x depth optional = .ok e) :
    conversion naming moduleName t (f x) depth optional = .ok (e.mapUses f) := by
  rw [conversion_mapUses, converted]
  rfl

theorem uses_conversion {optional : Bool}
    (converted : conversion naming moduleName t x depth optional = .ok e) : ∀ u ∈ e.uses, u = x := by
  have again := converted_mapUses (fun _ => x) converted
  have same : e.mapUses (fun _ => x) = e := Except.ok.inj (again.symm.trans converted)
  intro u member
  rw [← same, Conversion.uses_mapUses] at member
  obtain ⟨_, _, rfl⟩ := List.mem_map.mp member
  rfl

theorem fragments_length (e : Conversion) (style : OptionalStyle) :
    (e.fragments style).length = e.uses.length + 1 := by
  cases e <;> rfl

theorem renameItems_flat {f : Text → Text} (flat : e.blocks = []) : e.renameItems f = e := by
  cases e with
  | vector required value element item body => cases flat
  | _ => rfl

section Flat

/-- What is converted without a block. -/
def Flat (t : FieldType) : Prop := ∀ element, t ≠ .array element

/-- Only the expression for an optional name asks for its value before it uses it. -/
theorem flat_ok (flat : Flat t)
    (converted : bareConversion naming moduleName required x depth t = .ok e) :
    e.blocks = [] ∧ t.levels = 0 ∧ e.uses.length = if t.isNamed && !required then 2 else 1 := by
  cases t with
  | leaf kind => cases kind <;> obtain rfl := Except.ok.inj converted <;> exact ⟨rfl, rfl, rfl⟩
  | reserved name =>
    obtain ⟨isTag, _, converted⟩ := ok_of_bind converted
    cases isTag with
    | true => obtain rfl := Except.ok.inj converted; exact ⟨rfl, rfl, rfl⟩
    | false => cases converted
  | named name =>
    obtain ⟨struct, _, converted⟩ := ok_of_bind converted
    obtain rfl := Except.ok.inj converted
    cases required <;> exact ⟨rfl, rfl, rfl⟩
  | untypedArray => obtain rfl := Except.ok.inj converted; exact ⟨rfl, rfl, rfl⟩
  | array element => exact absurd rfl (flat element)
  | nullable inner => cases converted
  | missing => cases converted
  | unknown kind tag => cases converted

theorem flat_depth (flat : Flat t) (depth other : Int) :
    bareConversion naming moduleName required x other t =
      bareConversion naming moduleName required x depth t := by
  cases t with
  | leaf kind => cases kind <;> rfl
  | array element => exact absurd rfl (flat element)
  | _ => rfl

theorem flat_renamed (flat : Flat t) (f : Text → Text) (other : Int) :
    bareConversion naming moduleName required x other t =
      (bareConversion naming moduleName required x depth t).map (·.renameItems f) := by
  rw [flat_depth flat depth other]
  cases converted : bareConversion naming moduleName required x depth t with
  | error fault => rfl
  | ok e => exact congrArg Except.ok (renameItems_flat (flat_ok flat converted).1).symm

end Flat

theorem array_ok {element : FieldType}
    (converted : bareConversion naming moduleName required x depth (.array element) = .ok e) :
    ∃ type body,
      conversion naming moduleName element (itemName depth) (depth + 1) false = .ok body ∧
      e = .vector required x type (itemName depth) body := by
  rw [bareConversion_array] at converted
  obtain ⟨type, _, converted⟩ := ok_of_bind converted
  obtain ⟨body, inner, converted⟩ := ok_of_bind converted
  obtain rfl := Except.ok.inj converted
  exact ⟨type, body, inner, rfl⟩

theorem uses_count (converted : bareConversion naming moduleName required x depth t = .ok e) :
    e.uses.length = if t.isNamed && !required then 2 else 1 := by
  by_cases flat : Flat t
  · exact (flat_ok flat converted).2.2
  · obtain ⟨element, rfl⟩ : ∃ element, t = .array element := by simpa [Flat] using flat
    obtain ⟨type, body, _, rfl⟩ := array_ok converted
    rfl

/-- The names of the items of some levels, the outermost at the depth that is given. -/
def itemNames (depth : Int) (levels : Nat) : List Text :=
  (List.range levels).map fun k : Nat => itemName (depth + k)

theorem itemNames_succ (depth : Int) (levels : Nat) :
    itemNames depth (levels + 1) = itemName depth :: itemNames (depth + 1) levels := by
  have further (k : Nat) : depth + (k + 1 : Nat) = depth + 1 + k := by omega
  simp only [itemNames, List.range_succ_eq_map, List.map_cons, List.map_map, Function.comp_def,
    Nat.succ_eq_add_one, further, Int.natCast_zero, Int.add_zero]

theorem itemName_injective : Function.Injective itemName := by
  intro j k same
  exact Text.numeral_injective (List.append_cancel_left same)

theorem itemNames_nodup (depth : Int) (levels : Nat) : (itemNames depth levels).Nodup := by
  apply List.Nodup.map _ List.nodup_range
  intro j k same
  have numbers := itemName_injective same
  omega

/-- Blocks bind the items of their levels, and each body uses the item of its block alone. -/
def Numbered (depth : Int) (levels : Nat) (e : Conversion) : Prop :=
  e.parameters = itemNames depth levels ∧ ∀ block ∈ e.blocks, ∀ u ∈ block.2.uses, u = block.1

theorem bare_numbered (t : FieldType) (required : Bool) (x : Text) (depth : Int) (e : Conversion)
    (converted : bareConversion naming moduleName required x depth t = .ok e) :
    Numbered depth t.levels e := by
  induction t using FieldType.bareInduction generalizing required x depth e with
  | array element inner =>
    obtain ⟨type, body, inside, rfl⟩ := array_ok converted
    obtain ⟨numbers, own⟩ := inner _ _ _ _ inside
    rw [FieldType.levels_unwrap] at numbers
    constructor
    · rw [FieldType.levels, itemNames_succ, ← numbers]
      rfl
    · intro block member
      rcases List.mem_cons.mp member with rfl | member
      · exact uses_conversion inside
      · exact own block member
  | _ =>
    obtain ⟨none, zero, _⟩ := flat_ok (by intro _ same; cases same) converted
    rw [Numbered, Conversion.parameters, none, zero]
    exact ⟨rfl, List.forall_mem_nil _⟩

/-- Another depth to start at renames the parameters. -/
theorem bare_renamed {rename : Text → Text} {n : Int}
    (renames : ∀ j, rename (itemName j) = itemName (j + n)) (t : FieldType) (required : Bool)
    (x : Text) (depth : Int) :
    bareConversion naming moduleName required x (depth + n) t =
      (bareConversion naming moduleName required x depth t).map (·.renameItems rename) := by
  induction t using FieldType.bareInduction generalizing required x depth with
  | array element inner =>
    have next : depth + n + 1 = depth + 1 + n := by omega
    have body : conversion naming moduleName element (itemName (depth + n)) (depth + n + 1) false =
        (conversion naming moduleName element (itemName depth) (depth + 1) false).map
          fun body => (body.renameItems rename).mapUses rename := by
      rw [← renames, conversion_mapUses, next]
      unfold conversion
      rw [inner]
      cases bareConversion naming moduleName (!element.unwrap.2 && !false) (itemName depth)
        (depth + 1) element.unwrap.1 <;> rfl
    rw [bareConversion_array, bareConversion_array, body]
    cases declaredType naming moduleName element false with
    | error fault => rfl
    | ok type =>
      cases conversion naming moduleName element (itemName depth) (depth + 1) false with
      | error fault => rfl
      | ok inside =>
        rw [← renames]
        rfl
  | _ =>
    refine flat_renamed ?_ rename _
    intro _ same
    cases same

/-- The expression for any other value has the same fragments. -/
theorem conversion_joined {optional : Bool}
    (converted : conversion naming moduleName t x depth optional = .ok e) (style : OptionalStyle)
    {y : Text} (present : y ≠ []) :
    ∃ e', conversion naming moduleName t y depth optional = .ok e' ∧
      e'.text style = List.intercalate y (e.fragments style) := by
  have other := converted_mapUses (fun _ => y) converted
  refine ⟨e.mapUses fun _ => y, other, ?_⟩
  rw [Conversion.text_joined present (uses_conversion other), Conversion.fragments_mapUses]

/-- The blocks of an expression bind the numbered items from its depth on, one for each level, and
use nothing but what they bind. The value itself joins two fragments that do not depend on it, or
three for an optional name, and the depth numbers the parameters and does nothing else. -/
theorem block_parameters_numbered {optional : Bool} (present : x ≠ [])
    (converted : conversion naming moduleName t x depth optional = .ok e) :
    e.parameters = (List.range t.levels).map (fun k : Nat => itemName (depth + k)) ∧
      e.parameters.Nodup ∧
      (∀ block ∈ e.blocks, (∀ u ∈ block.2.uses, u = block.1) ∧
        block.2.text naming.style = List.intercalate block.1 (block.2.fragments naming.style)) ∧
      (∃ fragments : List Text,
        fragments.length = (if t.unwrap.1.isNamed && (t.unwrap.2 || optional) then 3 else 2) ∧
        e.text naming.style = List.intercalate x fragments ∧
        ∀ y, y ≠ [] → ∃ e', conversion naming moduleName t y depth optional = .ok e' ∧
          e'.text naming.style = List.intercalate y fragments) ∧
      ∀ n : Int, ∃ rename : Text → Text, (∀ j, rename (itemName j) = itemName (j + n)) ∧
        conversion naming moduleName t x (depth + n) optional = .ok (e.renameItems rename) := by
  obtain ⟨numbers, own⟩ := bare_numbered _ _ _ _ _ converted
  rw [FieldType.levels_unwrap] at numbers
  have present_item : ∀ block ∈ e.blocks, block.1 ≠ [] := by
    intro block member
    have among : block.1 ∈ e.parameters := List.mem_map_of_mem member
    rw [numbers] at among
    obtain ⟨k, _, same⟩ := List.mem_map.mp among
    exact same ▸ itemName_present (depth + k)
  refine ⟨numbers, numbers ▸ itemNames_nodup depth t.levels, ?_, ⟨e.fragments naming.style, ?_, ?_, ?_⟩,
    ?_⟩
  · intro block member
    exact ⟨own block member, Conversion.text_joined (present_item block member) (own block member) _⟩
  · rw [fragments_length, uses_count converted]
    cases t.unwrap.1.isNamed <;> cases t.unwrap.2 <;> cases optional <;> rfl
  · exact Conversion.text_joined present (uses_conversion converted) naming.style
  · intro y present
    exact conversion_joined converted naming.style present
  · intro n
    have renames (j : Int) : Function.extend itemName (fun j => itemName (j + n)) id (itemName j) =
        itemName (j + n) := itemName_injective.extend_apply _ _ j
    refine ⟨_, renames, ?_⟩
    rw [conversion, bare_renamed renames, ← conversion, converted]
    rfl

/-- Rows of cells, any of which may be missing. -/
def rows : FieldType := .nullable (.array (.array (.nullable (.named (.str "cell")))))

theorem rows_parameters :
    ∃ e, conversion (.standard .folly) "Maps" rows "p" (-1) true = .ok e ∧
      e.parameters = ["itemValue_-1", "itemValue_0"] ∧
      ∃ fragments : List Text, fragments.length = 2 ∧ e.text .folly = List.intercalate "p" fragments := by
  obtain ⟨e, converted⟩ :
      ∃ e, conversion (.standard .folly) "Maps" rows "p" (-1) true = .ok e := ⟨_, rfl⟩
  obtain ⟨numbers, _, _, ⟨fragments, two, joined, _⟩, _⟩ :=
    block_parameters_numbered (by decide) converted
  have names : (List.range rows.levels).map (fun k : Nat => itemName (-1 + k)) =
      ["itemValue_-1", "itemValue_0"] := by decide
  exact ⟨e, converted, numbers.trans names, fragments, two, joined⟩

end Code
end StructBridge
