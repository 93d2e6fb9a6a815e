import StructBridge.Code.Header
import StructBridge.Proofs.Alphabet

/-!
Generated code made of names without brackets. The texts of types and expressions are neutral, each
by its own recursion; the templates around them read as they would with nothing between their parts.
-/
namespace StructBridge
open Schema Code Text

def PlainName (name : Json) : Prop := Plain name.shown

section Templates

variable {style : OptionalStyle} {moduleName : Text}

theorem vector_neutral {element : DeclaredType} (inner : Neutral (element.text style)) :
    Neutral ((DeclaredType.vector element).text style) := by
  have hollow : WellNested ((DeclaredType.vector (.struct [])).text style) := by
    rw [DeclaredType.text, DeclaredType.text]
    repeat rw [ofString_literal]
    decide
  apply neutral_of_same hollow
  intro inside
  simp only [DeclaredType.text, scan_append, inner _, scan_nil]

theorem optional_neutral {t : DeclaredType} (inner : Neutral (t.text style)) :
    Neutral ((DeclaredType.optional t).text style) := by
  have hollow : WellNested ((DeclaredType.optional (.struct [])).text style) := by
    rw [DeclaredType.text, DeclaredType.text]
    unfold OptionalStyle.wrapper
    repeat rw [ofString_literal]
    cases style <;> decide
  apply neutral_of_same hollow
  intro inside
  simp only [DeclaredType.text, scan_append, inner _, scan_nil]

theorem bridgingCall_neutral {kind : Text} {args : List Text} (required : Bool)
    (named : Neutral kind) (each : ∀ a ∈ args, Neutral a) :
    Neutral (bridgingCall kind required args) := by
  have hollow : WellNested (bridgingCall [] required []) := by
    cases required
    all_goals
      unfold bridgingCall
      repeat rw [ofString_literal]
      decide
  have comma : Neutral ", " := neutral_literal (by decide)
  have joined := neutral_intercalate comma fun a (member : a ∈ args.filter (!·.isEmpty)) =>
    each a (List.mem_filter.mp member).1
  apply neutral_of_same hollow
  intro inside
  simp only [bridgingCall, scan_append, named _, joined _, scan_nil, List.filter_nil,
    List.intercalate_nil]

theorem constructCall_neutral {struct value : Text} (named : Neutral struct)
    (given : Neutral value) : Neutral (constructCall struct value) := by
  have hollow : WellNested (constructCall [] []) := by
    unfold constructCall
    repeat rw [ofString_literal]
    decide
  apply neutral_of_same hollow
  intro inside
  simp only [constructCall, scan_append, named _, given _, scan_nil]

theorem constructOptional_neutral {struct value : Text} (named : Neutral struct)
    (given : Neutral value) :
    Neutral ((Conversion.constructOptional struct value).text style) := by
  have hollow : WellNested ((Conversion.constructOptional [] []).text style) := by
    rw [Conversion.text, constructCall]
    unfold OptionalStyle.empty OptionalStyle.factory
    repeat rw [ofString_literal]
    cases style <;> decide
  apply neutral_of_same hollow
  intro inside
  simp only [Conversion.text, constructCall, scan_append, named _, given _, scan_nil]

theorem block_neutral {element item body : Text} (type : Neutral element) (named : Neutral item)
    (inner : Neutral body) : Neutral (blockText element item body) := by
  have hollow : WellNested (blockText [] [] []) := by
    unfold blockText
    repeat rw [ofString_literal]
    decide
  apply neutral_of_same hollow
  intro inside
  simp only [blockText, scan_append, type _, named _, inner _, scan_nil]

theorem declarationText_neutral {name : Text} {accessors : List Text} (module : Neutral moduleName)
    (named : Neutral name) (each : ∀ a ∈ accessors, Neutral a) :
    Neutral (declarationText moduleName name accessors) := by
  have newline : Neutral "\n      " := neutral_literal (by decide)
  have joined := neutral_intercalate newline each
  have hollow : WellNested (declarationText [] [] []) := by
    unfold declarationText
    repeat rw [ofString_literal]
    decide +kernel
  apply neutral_of_same hollow
  intro inside
  unfold declarationText
  simp only [scan_append, module _, named _, joined _, scan_nil,
    List.intercalate_nil]

/-- An accessor none of whose parts matters to the brackets around it. -/
structure NeutralAccessor (style : OptionalStyle) (a : Accessor) : Prop where
  name : Neutral a.name
  type : Neutral (a.type.text style)
  conversion : Neutral (a.conversion.text style)
  key : Neutral a.key

def hollowAccessor : Accessor := ⟨[], .double, .raw [], []⟩

theorem hollow_neutral : NeutralAccessor style hollowAccessor :=
  ⟨neutral_nil, neutral_literal (by decide), neutral_nil, neutral_nil⟩

theorem paddedType_neutral {a : Accessor} (neutral : NeutralAccessor style a) :
    Neutral (a.paddedType style) := by
  apply neutral.type.append
  unfold padding
  split
  · exact neutral_nil
  · exact neutral_literal (by decide)

theorem declaration_neutral {a : Accessor} (neutral : NeutralAccessor style a) :
    Neutral (a.declaration style) := by
  have padded := paddedType_neutral neutral
  have tail : Neutral "() const;" := neutral_literal (by decide)
  exact (padded.append neutral.name).append tail

theorem definition_same {a b : Accessor} {struct struct' : Text} (neutral : NeutralAccessor style a)
    (neutral' : NeutralAccessor style b) (named : Neutral struct) (named' : Neutral struct')
    (inside : List Bracket) :
    scan inside (a.definition style struct) = scan inside (b.definition style struct') := by
  have padded := paddedType_neutral neutral
  have padded' := paddedType_neutral neutral'
  unfold Accessor.definition
  simp only [scan_append, padded _, named _, neutral.name _, neutral.key _, neutral.conversion _,
    padded' _, named' _, neutral'.name _, neutral'.key _, neutral'.conversion _]

theorem definition_neutral {a : Accessor} {struct : Text} (neutral : NeutralAccessor style a)
    (named : Neutral struct) : Neutral (a.definition style struct) := by
  have hollow : WellNested (hollowAccessor.definition style []) := by
    unfold Accessor.definition Accessor.paddedType hollowAccessor padding
    rw [DeclaredType.text, Conversion.text]
    repeat rw [ofString_literal]
    decide
  exact neutral_of_same hollow (definition_same neutral hollow_neutral named neutral_nil)

end Templates

theorem declared_neutral (style : OptionalStyle) {t : DeclaredType} (plain : t.Names Plain) :
    Neutral (t.text style) := by
  induction t with
  | string => exact neutral_literal (by decide)
  | double => exact neutral_literal (by decide)
  | bool => exact neutral_literal (by decide)
  | object nullable => cases nullable <;> exact neutral_literal (by decide)
  | struct name => exact Plain.neutral plain
  | vector element ih => exact vector_neutral (ih plain)
  | optional inner ih => exact optional_neutral (ih plain)

theorem bridgedKind_neutral (kind : BridgedKind) : Neutral kind.label := by
  cases kind <;> exact neutral_literal (by decide)

theorem conversion_neutral (style : OptionalStyle) {e : Conversion} (plain : e.Names Plain) :
    Neutral (e.text style) := by
  induction e with
  | raw value => exact Plain.neutral plain
  | bridged kind required value =>
    apply bridgingCall_neutral required (bridgedKind_neutral kind)
    intro a member
    obtain rfl := List.mem_singleton.mp member
    exact Plain.neutral plain
  | construct struct value => exact constructCall_neutral plain.1.neutral plain.2.neutral
  | constructOptional struct value =>
    exact constructOptional_neutral plain.1.neutral plain.2.neutral
  | vector required value element item body ih =>
    obtain ⟨given, type, named, inner⟩ := plain
    have vec : Neutral "Vec" := neutral_literal (by decide)
    apply bridgingCall_neutral required vec
    intro a member
    simp only [List.mem_cons, List.not_mem_nil, or_false] at member
    rcases member with rfl | rfl
    · exact given.neutral
    · exact block_neutral (declared_neutral style type) named.neutral (ih inner)

end StructBridge
