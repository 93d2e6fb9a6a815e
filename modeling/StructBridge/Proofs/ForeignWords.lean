import StructBridge.Proofs.Nesting
import StructBridge.Proofs.Spelling

/-!
The word of one optional style in code of the other. Fixed text keeps the names around it apart: it
starts and ends with characters that the word does not have. So the word stands in a header of the
other style only when it stands in a name.
-/
namespace StructBridge
open Schema Code Command Text

def Lacks (word t : Text) : Prop := ¬word <:+: t

instance (word t : Text) : Decidable (Lacks word t) :=
  decidable_of_iff (¬occursIn word t = true) (not_congr (occursIn_iff word t))

/-- A text after which nothing completes the word. -/
def Closed (word t : Text) : Prop := ∀ u, Lacks word u → Lacks word (t ++ u)

/-- A text across which nothing completes the word. -/
def Wall (word w : Text) : Prop := ∀ t, Lacks word t → Closed word (t ++ w)

section Occurrences

variable {word t u : Text} {c : CodePoint}

theorem Lacks.of_infix (lacks : Lacks word u) (inside : t <:+: u) : Lacks word t :=
  fun occurs => lacks (occurs.trans inside)

/-- No occurrence goes across a character that the word does not have. -/
theorem lacks_across (apart : c ∉ word) :
    Lacks word (t ++ c :: u) ↔ Lacks word t ∧ Lacks word u := by
  constructor
  · intro lacks
    have tail : u <:+: t ++ c :: u :=
      (List.suffix_append_of_suffix (List.suffix_cons c u)).isInfix
    exact ⟨lacks.of_infix (List.prefix_append t (c :: u)).isInfix, lacks.of_infix tail⟩
  · rintro ⟨before, after⟩ occurs
    have starts {part : Text} (begins : part <+: c :: u) (among : part ⊆ word) : part = [] := by
      cases part with
      | nil => rfl
      | cons d rest =>
        obtain ⟨rfl, _⟩ := List.cons_prefix_cons.mp begins
        exact absurd (among List.mem_cons_self) apart
    rcases List.infix_append_iff.mp occurs with inside | inside | ⟨first, second, rfl, ends, begins⟩
    · exact before inside
    · rcases List.infix_cons_iff.mp inside with begins | inside
      · obtain rfl := starts begins fun _ => id
        exact before List.nil_infix
      · exact after inside
    · obtain rfl := starts begins fun _ => List.mem_append_right first
      rw [List.append_nil] at before
      exact before ends.isInfix

theorem lacks_cons (apart : c ∉ word) (lacks : Lacks word u) : Lacks word (c :: u) := by
  have empty : Lacks word [] := lacks.of_infix List.nil_infix
  exact (lacks_across (t := []) apart).mpr ⟨empty, lacks⟩

theorem lacks_prepend (apart : ∀ c ∈ t, c ∉ word) (lacks : Lacks word u) :
    Lacks word (t ++ u) := by
  induction t with
  | nil => exact lacks
  | cons c rest ih =>
    have later := ih fun d member => apart d (List.mem_cons_of_mem c member)
    exact lacks_cons (apart c List.mem_cons_self) later

/-- Whether a text ends with a character that the word does not have. -/
def EndsApart (word t : Text) : Prop := ∃ c ∈ t.getLast?, c ∉ word

instance (word t : Text) : Decidable (EndsApart word t) :=
  inferInstanceAs (Decidable (∃ c ∈ t.getLast?, c ∉ word))

def StartsApart (word t : Text) : Prop := ∃ c ∈ t.head?, c ∉ word

instance (word t : Text) : Decidable (StartsApart word t) :=
  inferInstanceAs (Decidable (∃ c ∈ t.head?, c ∉ word))

theorem closed_nil : Closed word [] := fun _ lacks => lacks

theorem Closed.lacks (present : word ≠ []) (closed : Closed word t) : Lacks word t := by
  have empty : Lacks word [] := fun occurs => present (List.infix_nil.mp occurs)
  have whole := closed [] empty
  rwa [List.append_nil] at whole

theorem Closed.append (first : Closed word t) (later : Closed word u) : Closed word (t ++ u) := by
  intro v lacks
  rw [List.append_assoc]
  exact first _ (later v lacks)

theorem closed_of_ends (lacks : Lacks word t) (ends : EndsApart word t) : Closed word t := by
  obtain ⟨c, last, apart⟩ := ends
  obtain ⟨before, rfl⟩ := List.getLast?_eq_some_iff.mp last
  intro u later
  rw [List.append_assoc]
  exact (lacks_across apart).mpr ⟨lacks.of_infix (List.prefix_append before [c]).isInfix, later⟩

theorem lacks_of_starts (before : Lacks word u) (lacks : Lacks word t)
    (starts : StartsApart word t) : Lacks word (u ++ t) := by
  obtain ⟨c, first, apart⟩ := starts
  obtain ⟨rest, rfl⟩ := List.head?_eq_some_iff.mp first
  exact (lacks_across apart).mpr ⟨before, lacks.of_infix (List.suffix_cons c rest).isInfix⟩

theorem wall_of_apart (lacks : Lacks word t) (starts : StartsApart word t)
    (ends : EndsApart word t) : Wall word t := by
  intro before free
  apply closed_of_ends (lacks_of_starts free lacks starts)
  obtain ⟨c, last, apart⟩ := ends
  exact ⟨c, List.mem_getLast?_append_of_mem_getLast? last, apart⟩

theorem Wall.around {before after : Text} (start : Closed word before) (lacks : Lacks word t)
    (wall : Wall word after) : Closed word (before ++ t ++ after) := wall _ (start t lacks)

theorem lacks_intercalate {separator : Text} {ts : List Text} (present : word ≠ [])
    (wall : Wall word separator) (each : ∀ t ∈ ts, Lacks word t) :
    Lacks word (List.intercalate separator ts) := by
  induction ts with
  | nil => exact closed_nil.lacks present
  | cons t rest ih =>
    have here := each t List.mem_cons_self
    have later := ih fun u member => each u (List.mem_cons_of_mem t member)
    cases rest with
    | nil => simpa using here
    | cons u others =>
      rw [List.intercalate_cons_cons]
      exact wall t here _ later

end Occurrences

section Names

variable {other : OptionalStyle}

def bothStyles : List OptionalStyle := [.folly, .std]

theorem mem_bothStyles (style : OptionalStyle) : style ∈ bothStyles := by
  cases style <;> decide

/-- The labels of both styles, letter by letter. -/
def styleWords : List Text :=
  [['f', 'o', 'l', 'l', 'y'].map .char, ['s', 't', 'd'].map .char]

theorem label_mem_styleWords : other.label ∈ styleWords := by
  unfold OptionalStyle.label
  repeat rw [ofString_literal]
  cases other <;> decide

theorem lacks_text {t : Text} (both : ∀ word ∈ styleWords, Lacks word t) : Lacks other.label t :=
  both _ label_mem_styleWords

theorem lacks_literal {cs : List Char} (both : ∀ word ∈ styleWords, Lacks word (cs.map .char)) :
    Lacks other.label (ofString (String.ofList cs)) := by
  rw [ofString_literal]
  exact lacks_text both

theorem closed_text {t : Text} (both : ∀ word ∈ styleWords, Lacks word t ∧ EndsApart word t) :
    Closed other.label t := by
  obtain ⟨lacks, ends⟩ := both other.label label_mem_styleWords
  exact closed_of_ends lacks ends

theorem closed_literal {cs : List Char} (both : ∀ word ∈ styleWords,
    Lacks word (cs.map .char) ∧ EndsApart word (cs.map .char)) :
    Closed other.label (ofString (String.ofList cs)) := by
  rw [ofString_literal]
  exact closed_text both

theorem wall_text {t : Text}
    (both : ∀ word ∈ styleWords, Lacks word t ∧ StartsApart word t ∧ EndsApart word t) :
    Wall other.label t := by
  obtain ⟨lacks, starts, ends⟩ := both other.label label_mem_styleWords
  exact wall_of_apart lacks starts ends

theorem wall_literal {cs : List Char} (both : ∀ word ∈ styleWords, Lacks word (cs.map .char) ∧
    StartsApart word (cs.map .char) ∧ EndsApart word (cs.map .char)) :
    Wall other.label (ofString (String.ofList cs)) := by
  rw [ofString_literal]
  exact wall_text both

theorem label_present : other.label ≠ [] := by
  have each : ∀ word ∈ styleWords, word ≠ [] := by decide
  exact each _ label_mem_styleWords

theorem lacks_around {before t after : Text} (start : Closed other.label before)
    (lacks : Lacks other.label t) (wall : Wall other.label after) :
    Lacks other.label (before ++ t ++ after) := (wall.around start lacks).lacks label_present

theorem label_letters {c : CodePoint} (member : c ∈ other.label) : ¬IsRaised c.value := by
  have each : ∀ word ∈ styleWords, ∀ c ∈ word, ¬(c.value < 0x61 ∨ 0x7a < c.value) := by decide
  exact each _ label_mem_styleWords c member

theorem apart_of_both {c : CodePoint} (both : ∀ word ∈ styleWords, c ∉ word) : c ∉ other.label :=
  both _ label_mem_styleWords

theorem lacks_capitalize {t : Text} (lacks : Lacks other.label t) :
    Lacks other.label (Name.capitalizeText t) := by
  cases t with
  | nil => exact lacks
  | cons c rest =>
    rcases upper_raised c with same | raised
    · rw [Name.capitalizeText, same]
      exact lacks
    · apply lacks_prepend (fun u member among => label_letters among (raised u member))
      exact lacks.of_infix (List.suffix_cons c rest).isInfix

theorem lacks_accessorText {t : Text} (lacks : Lacks other.label t) :
    Lacks other.label (Name.accessorText t) := by
  have underscore : Wall other.label "_" := wall_literal (by decide)
  unfold Name.accessorText
  split
  · exact (underscore t lacks).lacks label_present
  · exact lacks

theorem escapePoint_apart (c : CodePoint) :
    escapePoint c = [c] ∨ c ∉ other.label ∧ Wall other.label (escapePoint c) := by
  unfold escapePoint
  split
  · rename_i same
    subst same
    exact .inr ⟨apart_of_both (by decide), wall_text (by decide)⟩
  split
  · rename_i same
    subst same
    exact .inr ⟨apart_of_both (by decide), wall_text (by decide)⟩
  split
  · rename_i same
    subst same
    exact .inr ⟨apart_of_both (by decide), wall_text (by decide)⟩
  · exact .inl rfl

/-- The induction takes what stands before the escaped text along. -/
theorem lacks_escape_behind {t : Text} (before : Text) (lacks : Lacks other.label (before ++ t)) :
    Lacks other.label (before ++ escape t) := by
  induction t generalizing before with
  | nil => exact lacks
  | cons c rest ih =>
    have unfolded : escape (c :: rest) = escapePoint c ++ escape rest := List.flatMap_cons
    rw [unfolded, ← List.append_assoc]
    rcases escapePoint_apart c with same | ⟨apart, wall⟩
    · rw [same]
      apply ih
      rwa [List.append_cons] at lacks
    · obtain ⟨front, back⟩ := (lacks_across apart).mp lacks
      exact wall before front _ (ih [] back)

theorem lacks_escape {t : Text} (lacks : Lacks other.label t) : Lacks other.label (escape t) :=
  lacks_escape_behind [] lacks

theorem numeral_raised {n : Int} {c : CodePoint} (member : c ∈ ofString (toString n)) :
    IsRaised c.value := by
  left
  rcases numeral_value member with rfl | ⟨_, high⟩
  · decide
  · omega

theorem lacks_itemName (depth : Int) : Lacks other.label (itemName depth) := by
  have start : Closed other.label "itemValue_" := closed_literal (by decide)
  have number : Lacks other.label (ofString (toString depth) ++ []) := by
    apply lacks_prepend (fun c member among => label_letters among (numeral_raised member))
    exact closed_nil.lacks label_present
  rw [List.append_nil] at number
  exact start _ number

theorem lacks_qualified {m t : Text} (module : Lacks other.label m) (lacks : Lacks other.label t) :
    Lacks other.label (Name.qualified m t) := by
  have start : Closed other.label "JS::" := closed_literal (by decide)
  have colons : Wall other.label "::" := wall_literal (by decide)
  exact colons.around start module _ lacks

theorem inherited_lacks : Inherited (Lacks other.label) where
  empty := closed_nil.lacks label_present
  capitalized _ := lacks_capitalize
  accessor _ := lacks_accessorText
  escaped _ := lacks_escape
  qualified _ _ := lacks_qualified
  items := lacks_itemName
  raw := lacks_literal (by decide)

end Names

section Code

variable {style other : OptionalStyle}

/-- Text that the style spells, in front of the other style's word. -/
theorem closed_styled {t : OptionalStyle → Text} (apart : other ≠ style)
    (both : ∀ style ∈ bothStyles, ∀ other ∈ bothStyles, other ≠ style →
      Lacks other.label (t style) ∧ EndsApart other.label (t style)) :
    Closed other.label (t style) := by
  obtain ⟨lacks, ends⟩ := both style (mem_bothStyles style) other (mem_bothStyles other) apart
  exact closed_of_ends lacks ends

theorem wall_styled {t : OptionalStyle → Text} (apart : other ≠ style)
    (both : ∀ style ∈ bothStyles, ∀ other ∈ bothStyles, other ≠ style →
      Lacks other.label (t style) ∧ StartsApart other.label (t style) ∧
        EndsApart other.label (t style)) :
    Wall other.label (t style) := by
  obtain ⟨lacks, starts, ends⟩ :=
    both style (mem_bothStyles style) other (mem_bothStyles other) apart
  exact wall_of_apart lacks starts ends

theorem lacks_declared (apart : other ≠ style) {t : DeclaredType}
    (names : t.Names (Lacks other.label)) : Lacks other.label (t.text style) := by
  have close : Wall other.label ">" := wall_literal (by decide)
  induction t with
  | object nullable => cases nullable <;> cases style <;> exact lacks_literal (by decide)
  | struct name => exact names
  | vector element ih =>
    have start : Closed other.label "facebook::react::LazyVector<" :=
      closed_literal (by decide)
    exact lacks_around start (ih names) close
  | optional inner ih =>
    have start : Closed other.label (style.wrapper ++ "<") :=
      closed_styled (t := fun style => style.wrapper ++ "<") apart (by decide)
    exact lacks_around start (ih names) close
  | _ => cases style <;> exact lacks_literal (by decide)

theorem closed_paddedType (apart : other ≠ style) {a : Accessor}
    (names : a.type.Names (Lacks other.label)) : Closed other.label (a.paddedType style) := by
  have type := lacks_declared apart names
  change Closed other.label (a.type.text style ++ padding (a.type.text style))
  unfold padding
  split
  · rename_i star
    have apart : CodePoint.char '*' ∉ other.label := apart_of_both (by decide)
    have nothing : ofString "" = [] := rfl
    rw [nothing, List.append_nil]
    exact closed_of_ends type ⟨_, star, apart⟩
  · have space : Wall other.label " " := wall_literal (by decide)
    exact space _ type

theorem lacks_bridgingCall {kind : Text} {required : Bool} {args : List Text}
    (start : Closed other.label
      (ofString (if required then "RCTBridgingTo" else "RCTBridgingToOptional") ++ kind ++ "("))
    (each : ∀ a ∈ args, Lacks other.label a) :
    Lacks other.label (bridgingCall kind required args) := by
  have comma : Wall other.label ", " := wall_literal (by decide)
  have close : Wall other.label ")" := wall_literal (by decide)
  have joined := lacks_intercalate label_present comma fun a member =>
    each a (List.mem_filter (p := (!·.isEmpty)).mp member).1
  exact lacks_around start joined close

theorem lacks_constructCall {struct value : Text} (named : Lacks other.label struct)
    (given : Lacks other.label value) : Lacks other.label (constructCall struct value) := by
  have paren : Wall other.label "(" := wall_literal (by decide)
  have close : Wall other.label ")" := wall_literal (by decide)
  exact lacks_around (paren _ named) given close

/-- What stands between the two uses of a value that may be absent. -/
def choiceText (style : OptionalStyle) : Text :=
  " == nil ? " ++ style.empty ++ " : " ++ style.factory ++ "("

theorem lacks_constructOptional (apart : other ≠ style) {struct value : Text}
    (named : Lacks other.label struct) (given : Lacks other.label value) :
    Lacks other.label ((Conversion.constructOptional struct value).text style) := by
  have paren : Closed other.label "(" := closed_literal (by decide)
  have choice : Wall other.label (choiceText style) := wall_styled apart (by decide)
  have close : Wall other.label "))" := wall_literal (by decide)
  have parts : (Conversion.constructOptional struct value).text style =
      "(" ++ value ++ choiceText style ++ constructCall struct value ++ "))" := by
    simp only [Conversion.text, choiceText, List.append_assoc]
  rw [parts]
  exact lacks_around (choice.around paren given) (lacks_constructCall named given) close

theorem lacks_block {element item body : Text} (type : Lacks other.label element)
    (named : Lacks other.label item) (inner : Lacks other.label body) :
    Lacks other.label (blockText element item body) := by
  have caret : Closed other.label "^" := closed_literal (by decide)
  have paren : Wall other.label "(id " := wall_literal (by decide)
  have opens : Wall other.label ") \x7b return " := wall_literal (by decide)
  have close : Wall other.label "; \x7d" := wall_literal (by decide)
  exact lacks_around (opens.around (paren.around caret type) named) inner close

theorem lacks_conversion (apart : other ≠ style) {e : Conversion}
    (names : e.Names (Lacks other.label)) : Lacks other.label (e.text style) := by
  induction e with
  | raw value => exact names
  | bridged kind required value =>
    apply lacks_bridgingCall
    · unfold BridgedKind.label
      repeat rw [ofString_literal]
      cases kind <;> cases required <;> exact closed_text (by decide)
    · intro a member
      obtain rfl := List.mem_singleton.mp member
      exact names
  | construct struct value => exact lacks_constructCall names.1 names.2
  | constructOptional struct value => exact lacks_constructOptional apart names.1 names.2
  | vector required value element item body ih =>
    obtain ⟨given, type, named, inner⟩ := names
    have block := lacks_block (lacks_declared apart type) named (ih inner)
    apply lacks_bridgingCall
    · repeat rw [ofString_literal]
      cases required <;> exact closed_text (by decide)
    · simp only [List.forall_mem_cons]
      exact ⟨given, block, List.forall_mem_nil _⟩

end Code

section Lines

variable {style other : OptionalStyle}

theorem closed_unlines {lines : List Text} (each : ∀ l ∈ lines, Lacks other.label l) :
    Closed other.label (unlines lines) := by
  have newline : Wall other.label "\n" := wall_literal (by decide)
  induction lines with
  | nil => exact closed_nil
  | cons l rest ih =>
    have here := newline l (each l List.mem_cons_self)
    exact here.append (ih fun m member => each m (List.mem_cons_of_mem l member))

theorem lacks_namespaceLines {moduleName : Text} (module : Lacks other.label moduleName) :
    ∀ l ∈ namespaceLines moduleName, Lacks other.label l := by
  simp only [namespaceLines, List.forall_mem_cons]
  refine ⟨lacks_literal (by decide), ?_, List.forall_mem_nil _⟩
  exact lacks_around (closed_literal (by decide)) module (wall_literal (by decide))

theorem lacks_blockStart {name : Text} (named : Lacks other.label name) :
    Lacks other.label (blockStart name) :=
  lacks_around (closed_literal (by decide)) named (wall_literal (by decide))

theorem lacks_accessorLines {accessors : List Text}
    (each : ∀ a ∈ accessors, Lacks other.label a) :
    ∀ l ∈ accessorLines accessors, Lacks other.label l := by
  have indent : Closed other.label "      " := closed_literal (by decide)
  unfold accessorLines
  split
  · simp only [List.forall_mem_cons]
    exact ⟨indent.lacks label_present, List.forall_mem_nil _⟩
  · intro l member
    obtain ⟨a, among, rfl⟩ := List.mem_map.mp member
    exact indent a (each a among)

theorem lacks_innerLines {name : Text} (named : Lacks other.label name) :
    ∀ l ∈ innerLines name, Lacks other.label l := by
  simp only [innerLines, List.forall_mem_cons]
  refine ⟨lacks_literal (by decide), ?_, lacks_literal (by decide),
    lacks_literal (by decide), List.forall_mem_nil _⟩
  exact lacks_around (closed_literal (by decide)) named (wall_literal (by decide))

theorem lacks_tailLines {moduleName name : Text} (module : Lacks other.label moduleName)
    (named : Lacks other.label name) : ∀ l ∈ tailLines moduleName name, Lacks other.label l := by
  have join : Wall other.label "_" := wall_literal (by decide)
  simp only [tailLines, List.forall_mem_cons]
  refine ⟨lacks_literal (by decide), lacks_literal (by decide),
    lacks_literal (by decide), ?_, ?_, List.forall_mem_nil _⟩
  · exact lacks_around (join.around (closed_literal (by decide)) module) named
      (wall_literal (by decide))
  · exact lacks_around (join.around (closed_literal (by decide)) module) named
      (wall_literal (by decide))

theorem lacks_declarationText {moduleName name : Text} {accessors : List Text}
    (module : Lacks other.label moduleName) (named : Lacks other.label name)
    (each : ∀ a ∈ accessors, Lacks other.label a) :
    Lacks other.label (declarationText moduleName name accessors) := by
  have last : Lacks other.label declarationEnd := lacks_literal (by decide)
  rw [declarationText_eq]
  apply closed_unlines _ declarationEnd last
  simp only [declarationLines, List.forall_mem_append, List.forall_mem_cons]
  exact ⟨⟨lacks_namespaceLines module, lacks_blockStart named,
    ⟨lacks_accessorLines each, lacks_innerLines named⟩, lacks_literal (by decide),
    List.forall_mem_nil _⟩, lacks_tailLines module named⟩

theorem lacks_declaration (apart : other ≠ style) {a : Accessor}
    (type : a.type.Names (Lacks other.label)) (named : Lacks other.label a.name) :
    Lacks other.label (a.declaration style) :=
  lacks_around (closed_paddedType apart type) named (wall_literal (by decide))

theorem lacks_definition (apart : other ≠ style) {a : Accessor} {struct : Text}
    (type : a.type.Names (Lacks other.label)) (named : Lacks other.label a.name)
    (conversion : a.conversion.Names (Lacks other.label)) (key : Lacks other.label a.key)
    (full : Lacks other.label struct) : Lacks other.label (a.definition style struct) := by
  have start : Closed other.label ("inline " ++ a.paddedType style) :=
    (closed_literal (by decide)).append (closed_paddedType apart type)
  have colons : Wall other.label "::" := wall_literal (by decide)
  -- The line ends with a letter that one of the words has, and only a newline follows.
  have rest : Lacks other.label "() const" := lacks_literal (by decide)
  have bracket : StartsApart other.label "() const" := by cases other <;> decide
  have signature : Lacks other.label (signatureLine style struct a) := by
    have line := lacks_of_starts (colons.around start full a.name named) rest bracket
    simpa only [signatureLine, List.append_assoc] using line
  have last : Lacks other.label definitionEnd := lacks_literal (by decide)
  rw [definition_eq]
  apply closed_unlines _ definitionEnd last
  simp only [bodyLines, List.forall_mem_cons]
  refine ⟨signature, lacks_literal (by decide), ?_, ?_, List.forall_mem_nil _⟩
  · exact lacks_around (closed_literal (by decide)) key (wall_literal (by decide))
  · exact lacks_around (closed_literal (by decide)) (lacks_conversion apart conversion)
      (wall_literal (by decide))

end Lines

section Headers

variable {style other : OptionalStyle}

theorem ofRegular_lacks (apart : other ≠ style) {moduleName : Text} {s : Struct}
    {code : StructCode} (module : Lacks other.label moduleName)
    (names : StructNames (Lacks other.label ·.shown) s)
    (made : StructCode.ofRegular (.standard style) moduleName s = .ok code) :
    Lacks other.label code.declaration ∧ Lacks other.label code.methods := by
  obtain ⟨name, accessors, capitalized, coded, declaration, methods⟩ := ofRegular_ok made
  have named := inherited_lacks.capitalize_ok names.name capitalized
  have full := lacks_qualified module named
  have newline : Wall other.label "\n" := wall_literal (by decide)
  constructor
  · rw [declaration]
    apply lacks_declarationText module named
    intro t member
    obtain ⟨a, among, rfl⟩ := List.mem_map.mp member
    obtain ⟨p, within, coded⟩ := members_of_mapM coded a among
    obtain ⟨given, refers⟩ := names.properties p within
    obtain ⟨called, type, _, _⟩ := inherited_lacks.accessorOf_ok module given refers coded
    exact lacks_declaration apart type called
  · rw [methods]
    apply lacks_intercalate label_present newline
    intro t member
    obtain ⟨a, among, rfl⟩ := List.mem_map.mp member
    obtain ⟨p, within, coded⟩ := members_of_mapM coded a among
    obtain ⟨given, refers⟩ := names.properties p within
    obtain ⟨called, type, conversion, key⟩ :=
      inherited_lacks.accessorOf_ok module given refers coded
    exact lacks_definition apart type called conversion key full

theorem closed_bodyText {parts : List Text} (each : ∀ part ∈ parts, Lacks other.label part) :
    Closed other.label (bodyText parts) := by
  have newline : Wall other.label "\n" := wall_literal (by decide)
  rw [bodyText_eq]
  induction parts with
  | nil => exact closed_nil
  | cons part rest ih =>
    have start : Closed other.label "\n" := closed_literal (by decide)
    have here := newline.around start (each part List.mem_cons_self)
    exact here.append (ih fun next member => each next (List.mem_cons_of_mem part member))

theorem closed_opening (apart : other ≠ style) {comment : Text} (quiet : comment ∈ quietComments) :
    Closed other.label (opening style comment) := by
  have both : ∀ comment ∈ quietComments, ∀ style ∈ bothStyles, ∀ other ∈ bothStyles,
      other ≠ style → Lacks other.label (opening style comment) ∧
        EndsApart other.label (opening style comment) := by
    unfold quietComments opening commentText importText requiredImports OptionalStyle.importName
      OptionalStyle.label lineText programName
    repeat rw [ofString_literal]
    decide +kernel
  exact closed_styled (t := (opening · comment)) apart (both comment quiet)

theorem headerText_lacks (apart : other ≠ style) {codes : List StructCode} {comment : Text}
    (quiet : comment ∈ quietComments)
    (each : ∀ code ∈ codes, Lacks other.label code.declaration ∧ Lacks other.label code.methods) :
    Lacks other.label (headerText style codes comment) := by
  have body : Closed other.label (bodyText (sections codes)) := by
    apply closed_bodyText
    intro part member
    rcases List.mem_append.mp member with declared | defined
    · obtain ⟨code, among, rfl⟩ := List.mem_map.mp declared
      exact (each code among).1
    · obtain ⟨code, among, rfl⟩ := List.mem_map.mp (List.mem_filter.mp defined).1
      exact (each code among).2
  have last : Lacks other.label (closing ++ "\n") := by
    unfold closing
    repeat rw [ofString_literal]
    exact lacks_text (by decide)
  have whole := (closed_opening apart quiet).append body _ last
  simpa only [headerText, List.append_assoc] using whole

theorem header_lacks (apart : other ≠ style) {g : Generator} {invocation : Option Invocation}
    {content : Text} (styled : g.style = .style style)
    (names : ModuleNames (Lacks other.label ·.shown) g.module)
    (quiet : g.config.addGenerationComment.truthy = false ∨ invocation = none)
    (made : g.header invocation = .ok content) : Lacks other.label content := by
  obtain ⟨structs, style', codes, selected, within, resolved, coded, rfl⟩ := header_ok made
  rw [styled] at resolved
  obtain rfl := Except.ok.inj resolved
  apply headerText_lacks apart (comment_quiet quiet)
  intro code member
  obtain ⟨s, among, made⟩ := members_of_mapM coded code member
  exact ofRegular_lacks apart names.name (names.structs s (within among)) made

end Headers

/-- The header of a source, generated in a style whatever style is configured. -/
def headerIn (style : OptionalStyle) (source : Source) (nameGiven : Json) (config : Config)
    (invocation : Option Invocation) : Except Fault Text := do
  let g ← Generator.make source nameGiven { config with optionalStyle := .style style }
  g.header invocation

/-- Both styles refuse a source for the same fault, or their headers are one sequence of pieces.
Unless the comment shows a call, each header has the word of the other style in names alone. -/
theorem styles_differ_in_spelling (source : Source) (nameGiven : Json) (config : Config)
    (invocation : Option Invocation) :
    (∃ fault, ∀ style, headerIn style source nameGiven config invocation = .error fault) ∨
      ∃ m pieces, source.resolve nameGiven = .ok m ∧
        (∀ style, headerIn style source nameGiven config invocation = .ok (spell style pieces)) ∧
        (config.addGenerationComment.truthy = false ∨ invocation = none →
          (ModuleNames (Lacks "folly" ·.shown) m → Lacks "folly" (spell .std pieces)) ∧
            (ModuleNames (Lacks "std" ·.shown) m → Lacks "std" (spell .folly pieces))) := by
  cases resolved : source.resolve nameGiven with
  | error fault =>
    refine .inl ⟨fault, fun style => ?_⟩
    rw [headerIn, Generator.make, resolved]
    rfl
  | ok m =>
    let g (style : OptionalStyle) : Generator :=
      ⟨m, .style style, { config with optionalStyle := .style style }⟩
    have made (style : OptionalStyle) : headerIn style source nameGiven config invocation =
        (g style).header invocation := by
      rw [headerIn, Generator.make, resolved]
      rfl
    -- Neither the choice of the structs nor the comment depends on the style.
    have header (style : OptionalStyle) : (g style).header invocation =
        (g .folly).parts.map fun parts => headerText style
          (parts.map (StructParts.code m.name.shown style)) ((g .folly).comment invocation) :=
      header_eq_parts invocation rfl
    cases coded : (g .folly).parts with
    | error fault =>
      refine .inl ⟨fault, fun style => ?_⟩
      rw [made, header, coded]
      rfl
    | ok parts =>
      obtain ⟨pieces, spelled⟩ := headerText_spelled parts ((g .folly).comment invocation)
      have whole (style : OptionalStyle) : (g style).header invocation =
          .ok (spell style pieces) := by
        rw [header, coded, ← spelled]
        rfl
      have lacks {style other : OptionalStyle} (apart : other ≠ style)
          (quiet : config.addGenerationComment.truthy = false ∨ invocation = none)
          (names : ModuleNames (Lacks other.label ·.shown) m) :
          Lacks other.label (spell style pieces) :=
        header_lacks (g := g style) apart rfl names quiet (whole style)
      refine .inr ⟨m, pieces, rfl, fun style => (made style).trans (whole style), fun quiet => ?_⟩
      have std : OptionalStyle.std ≠ .folly := by decide
      exact ⟨lacks std.symm quiet, lacks std quiet⟩

theorem maps_without_folly : ∃ content,
    headerIn .std (.module maps.module) .null .standard none = .ok content ∧
      Lacks "folly" content := by
  have names : ModuleNames (Lacks "folly" ·.shown) maps.module := by
    refine ⟨by decide, ?_⟩
    intro s member
    simp only [maps, List.mem_cons, List.not_mem_nil, or_false] at member
    rcases member with rfl | rfl
    · refine ⟨by decide, ?_⟩
      intro p among
      obtain rfl := List.mem_singleton.mp among
      refine ⟨by decide, ?_⟩
      have leg : Lacks "folly" "leg" := by decide
      exact leg
    · exact ⟨by decide, List.forall_mem_nil _⟩
  obtain ⟨content, made⟩ :
      ∃ content, headerIn .std (.module maps.module) .null .standard none = .ok content := ⟨_, rfl⟩
  rcases styles_differ_in_spelling (.module maps.module) .null .standard none with
    ⟨fault, refused⟩ | ⟨m, pieces, resolved, headers, leaks⟩
  · rw [refused .std] at made
    cases made
  · obtain rfl := Except.ok.inj resolved
    exact ⟨_, headers .std, (leaks (.inr rfl)).1 names⟩

end StructBridge
