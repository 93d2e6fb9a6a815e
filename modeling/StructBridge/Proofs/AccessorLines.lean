import Mathlib.Algebra.GroupWithZero.Nat
import StructBridge.Proofs.HeaderLines
import StructBridge.Proofs.Nesting

/-!
Every accessor that a header declares is defined in it, with the same type and name, and nothing else
is. This is said of the lines of the text alone: of what stands in the block of a struct, and of the
lines that start a definition.
-/
namespace StructBridge
open Schema Code Text Command

section Reading

/-- What a line holds between two texts, where it starts with the one and ends with the other. -/
def within? (first last line : Text) : Option Text :=
  (line.dropPrefix? first).bind (·.dropSuffix? last)

def opened? (line : Text) : Option Text := within? "    struct " " \x7b" line

def declared? (line : Text) : Option Text := within? "      " "() const;" line

def defined? (line : Text) : Option Text := within? "inline " "() const" line

/-- The declared accessors, each with the name of its struct, in lines that start in a block or
outside of all. -/
def declaredFrom : Option Text → List Text → List (Text × Text)
  | _, [] => []
  | none, line :: rest => declaredFrom (opened? line) rest
  | some struct, line :: rest =>
    if line = blockEnd then declaredFrom none rest
    else ((declared? line).map (struct, ·)).toList ++ declaredFrom (some struct) rest

def declaredIn (lines : List Text) : List (Text × Text) := declaredFrom none lines

def definedIn (lines : List Text) : List Text := lines.filterMap defined?

theorem within_eq_some_iff {first last line t : Text} :
    within? first last line = some t ↔ line = first ++ t ++ last := by
  simp only [within?, Option.bind_eq_some_iff, List.dropPrefix?_eq_some_iff,
    List.dropSuffix?_eq_some_iff, beq_iff_eq]
  constructor
  · rintro ⟨rest, ⟨_, rfl, rfl⟩, _, rfl, rfl⟩
    exact (List.append_assoc _ _ _).symm
  · rintro rfl
    exact ⟨t ++ last, ⟨first, List.append_assoc _ _ _, rfl⟩, last, rfl, rfl⟩

/-- Neither text is the start of the other. -/
def Apart (a b : Text) : Prop := ¬a <+: b ∧ ¬b <+: a

instance (a b : Text) : Decidable (Apart a b) :=
  inferInstanceAs (Decidable (¬a <+: b ∧ ¬b <+: a))

theorem within_of_apart {first last start : Text} (apart : Apart first start) (rest : Text) :
    within? first last (start ++ rest) = none := by
  rw [Option.eq_none_iff_forall_ne_some]
  intro t found
  rw [within_eq_some_iff, List.append_assoc] at found
  have before : first <+: start ++ rest := found ▸ List.prefix_append _ _
  rcases List.prefix_or_prefix_of_prefix before (List.prefix_append start rest) with left | right
  · exact apart.1 left
  · exact apart.2 right

/-- A line that counts for nothing outside of a block. -/
structure Idle (line : Text) : Prop where
  unopened : opened? line = none
  undefined : defined? line = none

theorem idle_iff {line : Text} : Idle line ↔ opened? line = none ∧ defined? line = none :=
  ⟨fun idle => ⟨idle.unopened, idle.undefined⟩, fun ⟨unopened, undefined⟩ => ⟨unopened, undefined⟩⟩

instance (line : Text) : Decidable (Idle line) := decidable_of_iff _ idle_iff.symm

/-- The lines of the templates that hold no name, but for those inside of a block. -/
def fixedLines : List Text :=
  ["", "namespace JS \x7b", "    \x7d;", "  \x7d", "\x7d", "@end", "\x7b"]

theorem idle_of_fixed {line : Text} (among : line ∈ fixedLines) : Idle line := by
  have each : ∀ l ∈ fixedLines, Idle l := by
    unfold fixedLines
    simp only [idle_iff, opened?, defined?]
    repeat rw [ofString_literal]
    decide
  exact each line among

/-- How the lines of the templates start that do hold a name. -/
def namedStarts : List Text :=
  ["  namespace ", "@interface RCTCxxConvert (", "+ (RCTManagedPointer *)JS_",
   "  id const p = _v[@\"", "  return "]

theorem idle_of_named {start : Text} (among : start ∈ namedStarts) (rest : Text) :
    Idle (start ++ rest) := by
  have each : ∀ start ∈ namedStarts, Apart "    struct " start ∧ Apart "inline " start := by
    unfold namedStarts
    repeat rw [ofString_literal]
    decide
  obtain ⟨unopened, undefined⟩ := each start among
  exact ⟨within_of_apart unopened rest, within_of_apart undefined rest⟩

/-- What is read in lines that stand outside of all blocks and leave none open. -/
structure Reads (lines : List Text) (declared : List (Text × Text)) (defined : List Text) :
    Prop where
  declares : ∀ rest, declaredFrom none (lines ++ rest) = declared ++ declaredFrom none rest
  defines : definedIn lines = defined

namespace Reads

variable {ls ms : List Text} {declared declared' : List (Text × Text)} {defined defined' : List Text}

theorem nil : Reads [] [] [] := ⟨fun _ => rfl, rfl⟩

theorem append (first : Reads ls declared defined) (second : Reads ms declared' defined') :
    Reads (ls ++ ms) (declared ++ declared') (defined ++ defined') := by
  constructor
  · intro rest
    rw [List.append_assoc, first.declares, second.declares, List.append_assoc]
  · rw [definedIn, List.filterMap_append]
    exact congrArg₂ _ first.defines second.defines

theorem cons {line : Text} (idle : Idle line) (reads : Reads ls declared defined) :
    Reads (line :: ls) declared defined := by
  constructor
  · intro rest
    rw [List.cons_append, declaredFrom, idle.unopened, reads.declares]
  · rw [definedIn, List.filterMap_cons, idle.undefined]
    exact reads.defines

theorem idle (each : ∀ l ∈ ls, Idle l) : Reads ls [] [] := by
  induction ls with
  | nil => exact nil
  | cons l rest ih =>
    have later := ih fun m member => each m (List.mem_cons_of_mem l member)
    exact later.cons (each l (by simp))

theorem declaredIn (reads : Reads ls declared defined) : declaredIn ls = declared := by
  have whole := reads.declares []
  rwa [List.append_nil, declaredFrom, List.append_nil] at whole

end Reads

theorem declaredFrom_block {struct : Text} {lines : List Text} (inside : blockEnd ∉ lines)
    (rest : List Text) :
    declaredFrom (some struct) (lines ++ blockEnd :: rest) =
      (lines.filterMap declared?).map (struct, ·) ++ declaredFrom none rest := by
  induction lines with
  | nil => simp [declaredFrom]
  | cons l others ih =>
    simp only [List.mem_cons, not_or] at inside
    obtain ⟨here, later⟩ := inside
    rw [List.cons_append, declaredFrom, if_neg (Ne.symm here), ih later, List.filterMap_cons]
    cases declared? l <;> simp

/-- A block, in which no line ends it early or defines an accessor. -/
theorem reads_block {line struct : Text} {inside : List Text} (opens : opened? line = some struct)
    (header : defined? line = none) (each : ∀ l ∈ inside, l ≠ blockEnd ∧ defined? l = none) :
    Reads (line :: (inside ++ [blockEnd])) ((inside.filterMap declared?).map (struct, ·)) [] := by
  have whole : blockEnd ∉ inside := fun member => (each _ member).1 rfl
  have last : defined? blockEnd = none :=
    (idle_of_fixed (by simp [fixedLines, blockEnd])).undefined
  constructor
  · intro rest
    rw [List.cons_append, declaredFrom, opens, List.append_assoc]
    exact declaredFrom_block whole rest
  · rw [definedIn, List.filterMap_eq_nil_iff]
    simp only [List.forall_mem_cons, List.forall_mem_append]
    exact ⟨header, fun l member => (each l member).2, last, List.forall_mem_nil _⟩

end Reading

/-- What a header says of an accessor: the struct it belongs to, its type with the space that
follows it, and its name. -/
structure Signature where
  struct : Text
  type : Text
  accessor : Text

namespace Signature

def declared (signature : Signature) : Text × Text :=
  (signature.struct, signature.type ++ signature.accessor)

def defined (moduleName : Text) (signature : Signature) : Text :=
  signature.type ++ "JS::" ++ moduleName ++ "::" ++ signature.struct ++ "::" ++ signature.accessor

/-- The signature that a property of a struct is to have. -/
structure Of (style : OptionalStyle) (moduleName : Text) (s : Struct) (p : Property)
    (signature : Signature) : Prop where
  struct : Name.capitalize s.name = .ok signature.struct
  accessor : (Name.accessor p.name).map Json.shown = .ok signature.accessor
  type : ∃ type, declaredType (.standard style) moduleName p.type p.optional = .ok type ∧
    signature.type = type.text style ++ padding (type.text style)

theorem Of.unique {style : OptionalStyle} {moduleName : Text} {s : Struct} {p : Property}
    {a b : Signature} (first : Of style moduleName s p a) (second : Of style moduleName s p b) :
    a = b := by
  obtain ⟨type, declared, typed⟩ := first.type
  obtain ⟨type', declared', typed'⟩ := second.type
  obtain rfl := Except.ok.inj (declared.symm.trans declared')
  have struct := Except.ok.inj (first.struct.symm.trans second.struct)
  have accessor := Except.ok.inj (first.accessor.symm.trans second.accessor)
  cases a
  cases b
  rw [Signature.mk.injEq]
  exact ⟨struct, typed.trans typed'.symm, accessor⟩

end Signature

section Structs

variable {style : OptionalStyle} {moduleName name : Text}

theorem idle_tail : ∀ l ∈ tailLines moduleName name ++ [declarationEnd], Idle l := by
  simp only [tailLines, List.forall_mem_append, List.forall_mem_cons, List.append_assoc]
  refine ⟨⟨idle_of_fixed ?_, idle_of_fixed ?_, idle_of_fixed ?_, idle_of_named ?_ _,
    idle_of_named ?_ _, List.forall_mem_nil _⟩, idle_of_fixed ?_, List.forall_mem_nil _⟩
  all_goals simp [fixedLines, namedStarts, declarationEnd]

/-- The line of the constructor ends in a brace, whatever name it starts with. -/
theorem constructor_undeclared (name : Text) :
    declared? ("      " ++ name ++ "(NSDictionary *const v) : _v(v) \x7b\x7d") = none := by
  rw [Option.eq_none_iff_forall_ne_some]
  intro t found
  rw [declared?, within_eq_some_iff] at found
  have brace : (ofString "(NSDictionary *const v) : _v(v) \x7b\x7d").getLast? =
      some (.char '\x7d') := by
    rw [ofString_literal]
    rfl
  have semicolon : (ofString "() const;").getLast? = some (.char ';') := by
    rw [ofString_literal]
    rfl
  have last := congrArg List.getLast? found
  simp only [List.getLast?_append, brace, semicolon, Option.some_or] at last
  exact absurd (Option.some.inj last) (by decide)

/-- The lines inside of a block that hold no name. -/
def blockLines : List Text := ["      ", "", "    private:", "      NSDictionary *_v;"]

theorem undeclared_of_block {line : Text} (among : line ∈ blockLines) : declared? line = none := by
  have each : ∀ l ∈ blockLines, declared? l = none := by
    unfold blockLines declared?
    repeat rw [ofString_literal]
    decide
  exact each line among

theorem inside_of_block {line : Text} (among : line ∈ blockLines) :
    line ≠ blockEnd ∧ defined? line = none := by
  have each : ∀ l ∈ blockLines, l ≠ blockEnd ∧ defined? l = none := by
    unfold blockLines blockEnd defined?
    repeat rw [ofString_literal]
    decide
  exact each line among

theorem declared_innerLines (name : Text) : (innerLines name).filterMap declared? = [] := by
  rw [List.filterMap_eq_nil_iff]
  simp only [innerLines, List.forall_mem_cons]
  refine ⟨undeclared_of_block ?_, constructor_undeclared name, undeclared_of_block ?_,
    undeclared_of_block ?_, List.forall_mem_nil _⟩
  all_goals simp [blockLines]

theorem declared_accessorLines (accessors : List Accessor) :
    (accessorLines (accessors.map (·.declaration style))).filterMap declared? =
      accessors.map fun a => a.paddedType style ++ a.name := by
  have each (a : Accessor) : declared? ("      " ++ a.declaration style) =
      some (a.paddedType style ++ a.name) := by
    rw [declared?, within_eq_some_iff, Accessor.declaration]
    simp only [List.append_assoc]
  cases accessors with
  | nil =>
    have blank : declared? "      " = none := undeclared_of_block (by simp [blockLines])
    simp [accessorLines, blank]
  | cons first rest =>
    have lines : accessorLines ((first :: rest).map (·.declaration style)) =
        ((first :: rest).map (·.declaration style)).map fun t : Text => "      " ++ t := rfl
    rw [lines, List.filterMap_map, List.filterMap_map]
    simp only [Function.comp_def, each, List.filterMap_eq_map']

theorem ne_of_apart {start t : Text} (apart : Apart start t) (rest : Text) : start ++ rest ≠ t := by
  rintro rfl
  exact apart.1 (List.prefix_append start rest)

/-- No line inside of a block ends it, and none defines an accessor. -/
theorem block_lines (name : Text) (accessors : List Text) :
    ∀ l ∈ accessorLines accessors ++ innerLines name, l ≠ blockEnd ∧ defined? l = none := by
  have deep : Apart "      " blockEnd ∧ Apart "inline " "      " := by
    unfold blockEnd
    repeat rw [ofString_literal]
    decide
  have indented (rest : Text) : "      " ++ rest ≠ blockEnd ∧ defined? ("      " ++ rest) = none :=
    ⟨ne_of_apart deep.1 rest, within_of_apart deep.2 rest⟩
  rw [List.forall_mem_append]
  constructor
  · unfold accessorLines
    split
    · rw [List.forall_mem_singleton]
      exact inside_of_block (by simp [blockLines])
    · rw [List.forall_mem_map]
      exact fun a _ => indented a
  · simp only [innerLines, List.forall_mem_cons, List.append_assoc]
    refine ⟨inside_of_block ?_, indented _, inside_of_block ?_, inside_of_block ?_, List.forall_mem_nil _⟩
    all_goals simp [blockLines]

theorem idle_namespaces : ∀ l ∈ namespaceLines moduleName, Idle l := by
  simp only [namespaceLines, List.forall_mem_cons, List.append_assoc]
  refine ⟨idle_of_fixed ?_, idle_of_named ?_ _, List.forall_mem_nil _⟩
  all_goals simp [fixedLines, namedStarts]

theorem reads_declaration (accessors : List Accessor) :
    Reads
      (declarationLines moduleName name (accessors.map (·.declaration style)) ++ [declarationEnd])
      (accessors.map fun a => (name, a.paddedType style ++ a.name)) [] := by
  have opens : opened? (blockStart name) = some name := within_eq_some_iff.mpr rfl
  have header : defined? (blockStart name) = none := by
    have apart : Apart "inline " "    struct " := by
      repeat rw [ofString_literal]
      decide
    rw [blockStart, List.append_assoc]
    exact within_of_apart apart _
  have block := reads_block opens header
    (block_lines name (accessors.map (·.declaration style)))
  rw [List.filterMap_append, declared_accessorLines, declared_innerLines, List.append_nil,
    List.map_map] at block
  have before : Reads (namespaceLines moduleName) [] [] := .idle idle_namespaces
  have after : Reads (tailLines moduleName name ++ [declarationEnd]) [] [] := .idle idle_tail
  have whole := (before.append block).append after
  rwa [List.nil_append, List.append_nil, ← List.append_assoc] at whole

theorem reads_definition (style : OptionalStyle) (struct : Text) (a : Accessor) :
    Reads (signatureLine style struct a :: bodyLines style a ++ [definitionEnd]) []
      [a.paddedType style ++ struct ++ "::" ++ a.name] := by
  have body : ∀ l ∈ bodyLines style a ++ [definitionEnd], Idle l := by
    simp only [bodyLines, List.forall_mem_append, List.forall_mem_cons, List.append_assoc]
    refine ⟨⟨idle_of_fixed ?_, idle_of_named ?_ _, idle_of_named ?_ _, List.forall_mem_nil _⟩,
      idle_of_fixed ?_, List.forall_mem_nil _⟩
    all_goals simp [fixedLines, namedStarts, definitionEnd]
  have unopened : opened? (signatureLine style struct a) = none := by
    have apart : Apart "    struct " "inline " := by
      repeat rw [ofString_literal]
      decide
    rw [signatureLine, List.append_assoc]
    exact within_of_apart apart _
  have found : defined? (signatureLine style struct a) =
      some (a.paddedType style ++ struct ++ "::" ++ a.name) := within_eq_some_iff.mpr rfl
  have rest := Reads.idle body
  constructor
  · intro after
    rw [List.cons_append, List.cons_append, declaredFrom, unopened, rest.declares]
  · rw [definedIn, List.cons_append, List.filterMap_cons, found]
    exact congrArg _ rest.defines

theorem reads_methods {struct : Text} {accessors : List Accessor} (named : OneLine struct)
    (each : ∀ a ∈ accessors, AccessorOver (· ≠ .char '\n') style a) :
    Reads (linesOf (List.intercalate "\n" (accessors.map (·.definition style struct)))) []
      (accessors.map fun a => a.paddedType style ++ struct ++ "::" ++ a.name) := by
  cases accessors with
  | nil =>
    have blank : Idle [] := idle_of_fixed (by simp [fixedLines, ofString])
    exact Reads.nil.cons blank
  | cons first rest =>
    rw [linesOf_intercalate (by simp)]
    generalize first :: rest = accessors at each
    induction accessors with
    | nil => exact Reads.nil
    | cons a others ih =>
      have here := reads_definition style struct a
      rw [← linesOf_definition named (each a (by simp))] at here
      exact here.append (ih fun b member => each b (List.mem_cons_of_mem a member))

/-- The signature that the code of an accessor shows. -/
def signature (style : OptionalStyle) (struct : Text) (a : Accessor) : Signature :=
  ⟨struct, a.paddedType style, a.name⟩

theorem signature_of {s : Struct} {p : Property} {a : Accessor}
    (named : Name.capitalize s.name = .ok name)
    (made : accessorOf (.standard style) moduleName p = .ok a) :
    Signature.Of style moduleName s p (signature style name a) := by
  obtain ⟨called, typed, _⟩ := accessorOf_parts made
  exact ⟨named, called, a.type, typed, rfl⟩

/-- The code of a struct declares one accessor for each property and defines the same. -/
structure Shows (moduleName : Text) (code : StructCode) (signatures : List Signature) : Prop where
  declaration : Reads (linesOf code.declaration) (signatures.map Signature.declared) []
  methods : Reads (linesOf code.methods) [] (signatures.map (Signature.defined moduleName))

theorem ofRegular_shows {s : Struct} {code : StructCode} (module : OneLine moduleName)
    (single : StructNames (NameOver (· ≠ .char '\n')) s)
    (made : StructCode.ofRegular (.standard style) moduleName s = .ok code) :
    ∃ signatures, List.Forall₂ (Signature.Of style moduleName s) s.properties signatures ∧
      Shows moduleName code signatures := by
  obtain ⟨name, accessors, capitalized, coded, declaration, methods⟩ := ofRegular_ok made
  have named : OneLine name := over_capitalized lineAlphabet.toAlphabet single.name capitalized
  have full : OneLine (Name.qualified moduleName name) :=
    over_qualified lineAlphabet.toAlphabet module named
  have each := accessors_over lineAlphabet module single.properties coded
  have declared : ∀ t ∈ accessors.map (·.declaration style), OneLine t := by
    intro t member
    obtain ⟨a, among, rfl⟩ := List.mem_map.mp member
    exact oneLine_declaration (each a among)
  refine ⟨accessors.map (signature style name), ?_, ?_, ?_⟩
  · rw [List.forall₂_map_right_iff]
    exact (forall₂_of_mapM coded).imp fun p a made => signature_of capitalized made
  · have shown : (accessors.map (signature style name)).map Signature.declared =
        accessors.map fun a => (name, a.paddedType style ++ a.name) := List.map_map
    have lines := linesOf_declarationText module named declared
    rw [shown, declaration, lines]
    exact reads_declaration accessors
  · have shown : (accessors.map (signature style name)).map (Signature.defined moduleName) =
        accessors.map fun a =>
          a.paddedType style ++ Name.qualified moduleName name ++ "::" ++ a.name := by
      simp only [List.map_map, Function.comp_def, signature, Signature.defined, Name.qualified,
        List.append_assoc]
    rw [shown, methods]
    exact reads_methods full each

end Structs

section Headers

variable {style : OptionalStyle} {moduleName : Text}

/-- The opening ends a line, and none of its lines counts. -/
theorem opening_lines : ∀ style ∈ [OptionalStyle.folly, .std], ∀ comment ∈ quietComments,
    opening style comment = (opening style comment).dropLast ++ "\n" ∧
      ∀ l ∈ linesOf (opening style comment).dropLast, Idle l := by
  simp only [idle_iff, opened?, defined?]
  unfold quietComments opening commentText importText requiredImports OptionalStyle.importName
    lineText programName
  repeat rw [ofString_literal]
  decide +kernel

theorem closing_lines : ∀ l ∈ linesOf (closing ++ "\n"), Idle l := by
  simp only [idle_iff, opened?, defined?]
  unfold closing
  repeat rw [ofString_literal]
  decide

/-- The two halves of a body: all declarations, then all definitions. -/
structure PartsShow (moduleName : Text) (codes : List StructCode) (signatures : List Signature) :
    Prop where
  declarations : Reads (partLines (codes.map (·.declaration)))
    (signatures.map Signature.declared) []
  methods : Reads (partLines ((codes.map (·.methods)).filter (!·.isEmpty))) []
    (signatures.map (Signature.defined moduleName))

theorem PartsShow.cons {code : StructCode} {codes : List StructCode}
    {signatures others : List Signature} (first : Shows moduleName code signatures)
    (rest : PartsShow moduleName codes others) :
    PartsShow moduleName (code :: codes) (signatures ++ others) := by
  have blank : Idle [] := idle_of_fixed (by simp [fixedLines, ofString])
  constructor
  · rw [List.map_append]
    exact (first.declaration.cons blank).append rest.declarations
  · rw [List.map_append, List.map_cons]
    cases present : code.methods with
    | nil =>
      -- Without accessors there is no part, so nothing of it can be missed.
      have reads := first.methods
      rw [present] at reads
      have none : signatures.map (Signature.defined moduleName) = [] := reads.defines.symm
      rw [none]
      exact rest.methods
    | cons c more =>
      have kept (later : List Text) : ((c :: more) :: later).filter (!·.isEmpty) =
          (c :: more) :: later.filter (!·.isEmpty) := rfl
      rw [kept, ← present]
      exact (first.methods.cons blank).append rest.methods

theorem codes_show {structs : List Struct} {codes : List StructCode} (module : OneLine moduleName)
    (single : ∀ s ∈ structs, StructNames (NameOver (· ≠ .char '\n')) s)
    (coded : List.Forall₂
      (fun s code => StructCode.ofRegular (.standard style) moduleName s = .ok code)
      structs codes) :
    ∃ signatures,
      List.Forall₂ (fun (s, p) signature => Signature.Of style moduleName s p signature)
        (structs.flatMap fun s => s.properties.map (s, ·)) signatures ∧
      PartsShow moduleName codes signatures := by
  induction coded with
  | nil => exact ⟨[], .nil, Reads.nil, Reads.nil⟩
  | @cons s code structs codes made coded ih =>
    obtain ⟨signatures, each, shows⟩ := ofRegular_shows module (single s (by simp)) made
    obtain ⟨others, later, rest⟩ := ih fun s' member => single s' (List.mem_cons_of_mem s member)
    refine ⟨signatures ++ others, ?_, .cons shows rest⟩
    rw [List.flatMap_cons]
    refine List.rel_append ?_ later
    exact List.forall₂_map_left_iff.mpr each

theorem linesOf_headerText (codes : List StructCode) {comment : Text}
    (quiet : comment ∈ quietComments) :
    linesOf (headerText style codes comment) =
      linesOf (opening style comment).dropLast ++ partLines (codes.map (·.declaration)) ++
        (partLines ((codes.map (·.methods)).filter (!·.isEmpty)) ++ linesOf (closing ++ "\n")) := by
  have styled : style ∈ [OptionalStyle.folly, .std] := by cases style <;> simp
  obtain ⟨ends, _⟩ := opening_lines style styled comment quiet
  have parts : partLines (sections codes) =
      partLines (codes.map (·.declaration)) ++
        partLines ((codes.map (·.methods)).filter (!·.isEmpty)) := List.flatMap_append
  have split : headerText style codes comment = (opening style comment).dropLast ++ "\n" ++
      (bodyText (sections codes) ++ (closing ++ "\n")) := by
    rw [← ends, headerText]
    simp only [List.append_assoc]
  rw [split, linesOf_ended, linesOf_bodyText, parts]
  simp only [List.append_assoc]

/-- What a header declares it defines, in the same order and after all declarations: one accessor for
each property of the selected structs. -/
theorem accessors_coincide {g : Generator} {invocation : Option Invocation} {content : Text}
    (single : ModuleNames (NameOver (· ≠ .char '\n')) g.module)
    (quiet : g.config.addGenerationComment.truthy = false ∨ invocation = none)
    (made : g.header invocation = .ok content) :
    ∃ structs style signatures,
      g.selected = .ok structs ∧ g.style.resolve = .ok style ∧
      List.Forall₂ (fun (s, p) signature => Signature.Of style g.module.name.shown s p signature)
        (structs.flatMap fun s => s.properties.map (s, ·)) signatures ∧
      declaredIn (linesOf content) = signatures.map Signature.declared ∧
      definedIn (linesOf content) = signatures.map (Signature.defined g.module.name.shown) ∧
      signatures.length = (structs.map (·.properties.length)).sum ∧
      ∃ front back, linesOf content = front ++ back ∧
        declaredIn front = declaredIn (linesOf content) ∧ definedIn front = [] := by
  obtain ⟨structs, style, codes, selected, within, resolved, coded, rfl⟩ := header_ok made
  have lined : ∀ s ∈ structs, StructNames (NameOver (· ≠ .char '\n')) s := fun s member =>
    single.structs s (within member)
  obtain ⟨signatures, each, shows⟩ := codes_show single.name lined (forall₂_of_mapM coded)
  have styled : style ∈ [OptionalStyle.folly, .std] := by cases style <;> simp
  have comment := comment_quiet quiet
  have opening := Reads.idle (opening_lines style styled _ comment).2
  have front := opening.append shows.declarations
  have whole := front.append (shows.methods.append (Reads.idle closing_lines))
  rw [← linesOf_headerText codes comment] at whole
  simp only [List.nil_append, List.append_nil] at front whole
  refine ⟨structs, style, signatures, selected, resolved, each, whole.declaredIn, whole.defines,
    ?_, _, _, linesOf_headerText codes comment, ?_, front.defines⟩
  · have same := each.length_eq
    rw [← same, List.length_flatMap]
    simp only [List.length_map]
  · rw [front.declaredIn, whole.declaredIn]

end Headers

def user : Struct :=
  ⟨.regular, .str "user", [⟨.str "id", .leaf .string, false⟩, ⟨.str "age", .leaf .double, true⟩]⟩

def users : Generator :=
  ⟨⟨.str "Users", [user, ⟨.regular, .str "nobody", []⟩]⟩, .style .folly, .standard⟩

theorem users_accessors : ModuleNames (NameOver (· ≠ .char '\n')) users.module ∧
    ∃ content, users.header none = .ok content ∧
      declaredIn (linesOf content) =
        [(ofString "User", ofString "NSString *id_"),
          (ofString "User", ofString "folly::Optional<double> age")] ∧
      definedIn (linesOf content) =
        ["NSString *JS::Users::User::id_", "folly::Optional<double> JS::Users::User::age"] := by
  have single : ModuleNames (NameOver (· ≠ .char '\n')) users.module := by
    have names : OneLine "Users" ∧ OneLine "user" ∧ OneLine "nobody" ∧ OneLine "id" ∧
        OneLine "age" := by decide
    obtain ⟨module, struct, empty, key, age⟩ := names
    refine ⟨module, ?_⟩
    simp only [users, List.forall_mem_cons]
    refine ⟨⟨struct, ?_⟩, ⟨empty, nofun⟩, nofun⟩
    simp only [user, List.forall_mem_cons]
    exact ⟨⟨key, trivial⟩, ⟨age, trivial⟩, nofun⟩
  obtain ⟨content, made⟩ : ∃ content, users.header none = .ok content := ⟨_, rfl⟩
  obtain ⟨structs, style, signatures, selected, resolved, each, declared, defined, _⟩ :=
    accessors_coincide single (.inr rfl) made
  obtain rfl : users.module.structs = structs := Except.ok.inj selected
  obtain rfl : OptionalStyle.folly = style := Except.ok.inj resolved
  rcases each with _ | ⟨first, _ | ⟨second, rest⟩⟩
  cases rest
  have named : Name.capitalize user.name = .ok "User" := congrArg Except.ok (by decide)
  have idOf : Signature.Of .folly "Users" user ⟨.str "id", .leaf .string, false⟩
      ⟨"User", "NSString *", "id_"⟩ :=
    ⟨named, congrArg Except.ok (by decide), .string, rfl, by decide⟩
  have ageOf : Signature.Of .folly "Users" user ⟨.str "age", .leaf .double, true⟩
      ⟨"User", "folly::Optional<double> ", "age"⟩ :=
    ⟨named, congrArg Except.ok (by decide), .optional .double, rfl, by decide⟩
  obtain rfl := first.unique idOf
  obtain rfl := second.unique ageOf
  refine ⟨single, content, made, ?_, ?_⟩
  · rw [declared, List.map_cons, List.map_cons, Signature.declared, Signature.declared]
    repeat rw [ofString_literal]
    rfl
  · rw [defined, List.map_cons, List.map_cons, Signature.defined, Signature.defined]
    repeat rw [ofString_literal]
    rfl

end StructBridge
