import StructBridge.Code.StructCode
import StructBridge.Proofs.NamesInCode
import StructBridge.Proofs.Numerals
import StructBridge.Proofs.UpperCase

/-!
Alphabets that generated code stays in. An alphabet holds what the program adds to names and, with a
code point, its upper case; one for code holds brackets too. Names, and with them types, expressions
and accessors, are written in an alphabet as soon as the names that they are made from are. Names
without brackets have one for names alone; all but the newline, and all characters but no surrogate,
are alphabets for code.
-/
namespace StructBridge
open Schema Code

namespace Text

def Over (holds : CodePoint → Prop) (t : Text) : Prop := ∀ c ∈ t, holds c

variable {holds : CodePoint → Prop}

theorem over_nil : Over holds [] := fun _ member => nomatch member

theorem over_append {t u : Text} : Over holds (t ++ u) ↔ Over holds t ∧ Over holds u := by
  simp only [Over, List.mem_append, or_imp, forall_and]

theorem over_cons {c : CodePoint} {t : Text} : Over holds (c :: t) ↔ holds c ∧ Over holds t := by
  simp only [Over, List.mem_cons, forall_eq_or_imp]

theorem over_intercalate {separator : Text} {ts : List Text} (between : Over holds separator)
    (each : ∀ t ∈ ts, Over holds t) : Over holds (List.intercalate separator ts) := by
  induction ts with
  | nil => exact over_nil
  | cons t rest ih =>
    have here := each t (by simp)
    have later := ih fun u member => each u (List.mem_cons_of_mem t member)
    cases rest with
    | nil => simpa using here
    | cons u others =>
      rw [List.intercalate_cons_cons]
      exact over_append.mpr ⟨over_append.mpr ⟨here, between⟩, later⟩

instance [DecidablePred holds] (t : Text) : Decidable (Over holds t) :=
  inferInstanceAs (Decidable (∀ c ∈ t, holds c))

/-- A blank or a character of ASCII that can be seen. -/
def isVisible : CodePoint → Bool
  | .char c => 0x20 ≤ c.toNat && c.toNat < 0x7f
  | .surrogate _ => false

/-- What the program adds to a name: a visible character, but no bracket. -/
def isWording (c : CodePoint) : Bool := isVisible c && (markOf? c).isNone

structure Alphabet (holds : CodePoint → Prop) : Prop where
  wording : ∀ c, isWording c = true → holds c
  upper : ∀ c, holds c → Over holds (upper c)

/-- An alphabet for more than names. -/
structure CodeAlphabet (holds : CodePoint → Prop) : Prop extends Alphabet holds where
  brackets : ∀ c, (markOf? c).isSome = true → holds c

theorem Alphabet.over (alphabet : Alphabet holds) {t : Text}
    (wording : Over (isWording · = true) t) : Over holds t :=
  fun c member => alphabet.wording c (wording c member)

theorem CodeAlphabet.over (alphabet : CodeAlphabet holds) {t : Text}
    (visible : Over (isVisible · = true) t) : Over holds t := by
  intro c member
  cases mark : markOf? c with
  | none =>
    have wording : isWording c = true := by rw [isWording, visible c member, mark]; rfl
    exact alphabet.wording c wording
  | some m => exact alphabet.brackets c (by rw [mark]; rfl)

theorem over_literal {cs : List Char} (each : Over holds (cs.map .char)) :
    Over holds (ofString (String.ofList cs)) := by
  rw [ofString_literal]
  exact each

theorem plainAlphabet : Alphabet (markOf? · = none) := by
  constructor
  · intro c wording
    simp only [isWording, Bool.and_eq_true, Option.isNone_iff_eq_none] at wording
    exact wording.2
  · intro c plain u member
    rcases mem_upper member with rfl | ⟨n, ordinary, rfl⟩
    · exact plain
    · exact mark_ofNat ordinary.unmarked

theorem lineAlphabet : CodeAlphabet (· ≠ .char '\n') := by
  refine ⟨⟨?_, ?_⟩, ?_⟩
  · rintro c wording rfl
    cases wording
  · intro c inside u member
    rcases mem_upper member with rfl | ⟨n, ordinary, rfl⟩
    · exact inside
    · intro newline
      have value := congrArg CodePoint.value newline
      have ten : CodePoint.value (.char '\n') = 10 := rfl
      have range := ordinary.range
      rcases CodePoint.value_ofNat n with same | zero <;> omega
  · rintro c marked rfl
    cases marked

def IsCharacter (c : CodePoint) : Prop := c.char? ≠ none

theorem characterAlphabet : CodeAlphabet IsCharacter := by
  refine ⟨⟨?_, ?_⟩, ?_⟩
  · intro c wording
    cases c with
    | char c => exact Option.some_ne_none c
    | surrogate i => cases wording
  · intro c inside u member
    rcases mem_upper member with rfl | ⟨n, ordinary, rfl⟩
    · exact inside
    · have outside : ¬(CodePoint.firstSurrogate ≤ n ∧ n - CodePoint.firstSurrogate < 0x800) := by
        have range := ordinary.range
        unfold CodePoint.firstSurrogate
        omega
      rw [CodePoint.ofNat, dif_neg outside]
      exact Option.some_ne_none _
  · intro c marked
    cases c with
    | char c => exact Option.some_ne_none c
    | surrogate i => cases marked

theorem mapM_char_eq_none_iff {t : Text} :
    t.mapM CodePoint.char? = none ↔ ∃ c ∈ t, c.char? = none := by
  induction t with
  | nil => simp
  | cons c rest ih =>
    rw [List.mapM_cons]
    simp only [List.mem_cons, exists_eq_or_imp, ← ih]
    cases c.char? with
    | none => simp
    | some c => cases rest.mapM CodePoint.char? <;> simp

/-- A text has an encoding exactly when it holds characters alone. -/
theorem string_ne_none_iff {t : Text} : t.string? ≠ none ↔ Over IsCharacter t := by
  rw [string?, Ne, Option.map_eq_none_iff, mapM_char_eq_none_iff]
  simp only [Over, IsCharacter, not_exists, not_and, Ne]

theorem wording_int (n : Int) : Over (isWording · = true) (toString n) := by
  intro c member
  rcases numeral_value member with rfl | ⟨low, high⟩
  · decide
  · have unmarked : markOf? c = none := by
      cases marked : markOf? c with
      | none => rfl
      | some m =>
        have among := value_of_mark marked
        simp only [bracketValues, List.mem_cons, List.not_mem_nil, or_false] at among
        omega
    cases c with
    | char c =>
      have bounds : 0x30 ≤ c.toNat ∧ c.toNat ≤ 0x39 := ⟨low, high⟩
      simp only [isWording, isVisible, unmarked, Bool.and_eq_true, decide_eq_true_eq,
        Option.isNone_none, and_true]
      omega
    | surrogate i =>
      have large : CodePoint.firstSurrogate ≤ 0x39 := Nat.le_trans (Nat.le_add_right _ i.val) high
      exact absurd large (by decide)

end Text

open Text

section Names

variable {holds : CodePoint → Prop} {style : OptionalStyle} {moduleName : Text}

/-- A value whose text, as a name, stays in the alphabet. -/
def NameOver (holds : CodePoint → Prop) (name : Json) : Prop := Over holds name.shown

theorem over_capitalize (alphabet : Alphabet holds) {t : Text} (inside : Over holds t) :
    Over holds (Name.capitalizeText t) := by
  cases t with
  | nil => exact over_nil
  | cons c rest =>
    obtain ⟨first, others⟩ := over_cons.mp inside
    exact over_append.mpr ⟨alphabet.upper c first, others⟩

theorem over_accessorText (alphabet : Alphabet holds) {t : Text} (inside : Over holds t) :
    Over holds (Name.accessorText t) := by
  unfold Name.accessorText
  split
  · exact over_append.mpr ⟨inside, alphabet.over (over_literal (by decide))⟩
  · exact inside

theorem over_escape (alphabet : Alphabet holds) {t : Text} (inside : Over holds t) :
    Over holds (escape t) := by
  intro u member
  obtain ⟨c, among, written⟩ := List.mem_flatMap.mp member
  unfold escapePoint at written
  have added (t : Text) (wording : Over (isWording · = true) t) (within : u ∈ t) : holds u :=
    alphabet.over wording u within
  split at written
  · exact added _ (by decide) written
  split at written
  · exact added _ (by decide) written
  split at written
  · exact added _ (by decide) written
  · obtain rfl := List.mem_singleton.mp written
    exact inside u among

theorem over_qualified (alphabet : Alphabet holds) {name : Text} (module : Over holds moduleName)
    (inside : Over holds name) : Over holds (Name.qualified moduleName name) := by
  have start : Over holds "JS::" := alphabet.over (over_literal (by decide))
  have colons : Over holds "::" := alphabet.over (over_literal (by decide))
  simp only [Name.qualified, over_append]
  exact ⟨⟨⟨start, module⟩, colons⟩, inside⟩

theorem over_itemName (alphabet : Alphabet holds) (depth : Int) : Over holds (itemName depth) :=
  over_append.mpr ⟨alphabet.over (over_literal (by decide)), alphabet.over (wording_int depth)⟩

theorem over_rawValue (alphabet : Alphabet holds) : Over holds rawValue :=
  alphabet.over (over_literal (by decide))

theorem Text.Alphabet.inherited (alphabet : Alphabet holds) : Inherited (Over holds) where
  empty := over_nil
  capitalized _ inside := over_capitalize alphabet inside
  accessor _ inside := over_accessorText alphabet inside
  escaped _ inside := over_escape alphabet inside
  qualified _ _ module inside := over_qualified alphabet module inside
  items := over_itemName alphabet
  raw := over_rawValue alphabet

theorem over_capitalized (alphabet : Alphabet holds) {name : Json} {t : Text}
    (inside : NameOver holds name) (made : Name.capitalize name = .ok t) : Over holds t :=
  alphabet.inherited.capitalize_ok inside made

end Names

section Code

variable {holds : CodePoint → Prop} {style : OptionalStyle} {moduleName : Text}

theorem over_declared (alphabet : CodeAlphabet holds) (style : OptionalStyle) {t : DeclaredType}
    (names : t.Names (Over holds)) : Over holds (t.text style) := by
  induction t with
  | string => exact alphabet.over (over_literal (by decide))
  | double => exact alphabet.over (over_literal (by decide))
  | bool => exact alphabet.over (over_literal (by decide))
  | object nullable => cases nullable <;> exact alphabet.over (over_literal (by decide))
  | struct name => exact names
  | vector element ih =>
    have start : Over holds "facebook::react::LazyVector<" :=
      alphabet.over (over_literal (by decide))
    have close : Over holds ">" := alphabet.over (over_literal (by decide))
    simp only [DeclaredType.text, over_append]
    exact ⟨⟨start, ih names⟩, close⟩
  | optional inner ih =>
    have wrapper : Over holds style.wrapper := by
      cases style <;> exact alphabet.over (over_literal (by decide))
    have angle : Over holds "<" := alphabet.over (over_literal (by decide))
    have close : Over holds ">" := alphabet.over (over_literal (by decide))
    simp only [DeclaredType.text, over_append]
    exact ⟨⟨⟨wrapper, angle⟩, ih names⟩, close⟩

theorem over_bridgingCall (alphabet : CodeAlphabet holds) {kind : Text} {args : List Text}
    (required : Bool) (named : Over holds kind) (each : ∀ a ∈ args, Over holds a) :
    Over holds (bridgingCall kind required args) := by
  have function : Over holds (ofString (if required then "RCTBridgingTo"
      else "RCTBridgingToOptional")) := by
    cases required <;> exact alphabet.over (over_literal (by decide))
  have paren : Over holds "(" := alphabet.over (over_literal (by decide))
  have close : Over holds ")" := alphabet.over (over_literal (by decide))
  have joined : Over holds (List.intercalate ", " (args.filter (!·.isEmpty))) :=
    over_intercalate (alphabet.over (over_literal (by decide))) fun a member =>
      each a (List.mem_filter.mp member).1
  simp only [bridgingCall, over_append]
  exact ⟨⟨⟨⟨function, named⟩, paren⟩, joined⟩, close⟩

theorem over_constructCall (alphabet : CodeAlphabet holds) {struct value : Text}
    (named : Over holds struct) (given : Over holds value) :
    Over holds (constructCall struct value) := by
  have hollow : Over holds (constructCall [] []) := by
    unfold constructCall
    repeat rw [ofString_literal]
    exact alphabet.over (by decide)
  simp only [constructCall, over_append] at hollow ⊢
  exact ⟨⟨⟨named, hollow.1.1.2⟩, given⟩, hollow.2⟩

theorem over_block (alphabet : CodeAlphabet holds) {element item body : Text}
    (type : Over holds element) (named : Over holds item) (inner : Over holds body) :
    Over holds (blockText element item body) := by
  have hollow : Over holds (blockText [] [] []) := by
    unfold blockText
    repeat rw [ofString_literal]
    exact alphabet.over (by decide)
  simp only [blockText, over_append, type, named, inner, over_nil] at hollow ⊢
  exact hollow

theorem over_conversion (alphabet : CodeAlphabet holds) (style : OptionalStyle) {e : Conversion}
    (names : e.Names (Over holds)) : Over holds (e.text style) := by
  induction e with
  | raw value => exact names
  | bridged kind required value =>
    have label : Over holds kind.label := by
      cases kind <;> exact alphabet.over (over_literal (by decide))
    apply over_bridgingCall alphabet required label
    intro a member
    obtain rfl := List.mem_singleton.mp member
    exact names
  | construct struct value => exact over_constructCall alphabet names.1 names.2
  | constructOptional struct value =>
    have hollow : Over holds ((Conversion.constructOptional [] []).text style) := by
      rw [Conversion.text, constructCall]
      unfold OptionalStyle.empty OptionalStyle.factory
      repeat rw [ofString_literal]
      cases style <;> exact alphabet.over (by decide)
    simp only [Conversion.text, constructCall, over_append, names.1, names.2, over_nil] at hollow ⊢
    exact hollow
  | vector required value element item body ih =>
    obtain ⟨given, type, named, inner⟩ := names
    apply over_bridgingCall alphabet required (alphabet.over (over_literal (by decide)))
    intro a member
    simp only [List.mem_cons, List.not_mem_nil, or_false] at member
    rcases member with rfl | rfl
    · exact given
    · exact over_block alphabet (over_declared alphabet style type) named (ih inner)

structure AccessorOver (holds : CodePoint → Prop) (style : OptionalStyle) (a : Accessor) :
    Prop where
  name : Over holds a.name
  type : Over holds (a.type.text style)
  conversion : Over holds (a.conversion.text style)
  key : Over holds a.key

theorem accessorOf_over (alphabet : CodeAlphabet holds) {p : Property} {a : Accessor}
    (module : Over holds moduleName) (name : NameOver holds p.name)
    (type : p.type.Refers (NameOver holds))
    (made : accessorOf (.standard style) moduleName p = .ok a) : AccessorOver holds style a := by
  obtain ⟨named, declared, converted, keyed⟩ :=
    alphabet.toAlphabet.inherited.accessorOf_ok module name type made
  exact ⟨named, over_declared alphabet style declared, over_conversion alphabet style converted,
    keyed⟩

theorem accessors_over (alphabet : CodeAlphabet holds) {properties : List Property}
    {accessors : List Accessor} (module : Over holds moduleName)
    (inside : ∀ p ∈ properties, NameOver holds p.name ∧ p.type.Refers (NameOver holds))
    (coded : properties.mapM (accessorOf (.standard style) moduleName) = .ok accessors) :
    ∀ a ∈ accessors, AccessorOver holds style a := by
  intro a member
  obtain ⟨p, among, made⟩ := members_of_mapM coded a member
  obtain ⟨name, type⟩ := inside p among
  exact accessorOf_over alphabet module name type made

theorem over_paddedType (alphabet : CodeAlphabet holds) {a : Accessor}
    (inside : AccessorOver holds style a) : Over holds (a.paddedType style) := by
  have space : Over holds (padding (a.type.text style)) := by
    unfold padding
    split
    · exact over_nil
    · exact alphabet.over (over_literal (by decide))
  exact over_append.mpr ⟨inside.type, space⟩

end Code
end StructBridge
