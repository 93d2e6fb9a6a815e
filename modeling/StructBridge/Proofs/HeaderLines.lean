import StructBridge.Code.Header
import StructBridge.Proofs.Alphabet

/-!
A header read line by line: which accessors it declares, each in the block of its struct, and which
it defines. The templates of generated code are given here as lists of lines; read back, each line
shows what was put into it, whatever names stand in it, as long as no name holds a newline.
-/
namespace StructBridge
open Schema Code Text

def linesOf (t : Text) : List Text := t.splitOn (.char '\n')

def OneLine (t : Text) : Prop := Over (· ≠ .char '\n') t

instance (t : Text) : Decidable (OneLine t) := inferInstanceAs (Decidable (∀ c ∈ t, c ≠ .char '\n'))

theorem oneLine_append {t u : Text} : OneLine (t ++ u) ↔ OneLine t ∧ OneLine u := over_append

/-- Lines, each ended by a newline. -/
def unlines (lines : List Text) : Text := lines.flatMap (· ++ "\n")

theorem linesOf_line {t : Text} (single : OneLine t) : linesOf t = [t] :=
  List.splitOn_eq_singleton fun member => single _ member rfl

theorem linesOf_ended (t u : Text) : linesOf (t ++ "\n" ++ u) = linesOf t ++ linesOf u := by
  rw [List.append_assoc]
  exact List.splitOn_append_cons_self t u

theorem linesOf_unlines {lines : List Text} (single : ∀ l ∈ lines, OneLine l) (t : Text) :
    linesOf (unlines lines ++ t) = lines ++ linesOf t := by
  induction lines with
  | nil => rfl
  | cons l rest ih =>
    have first := single l (by simp)
    have later := ih fun m member => single m (List.mem_cons_of_mem l member)
    have split : unlines (l :: rest) ++ t = l ++ "\n" ++ (unlines rest ++ t) := by
      simp only [unlines, List.flatMap_cons, List.append_assoc]
    rw [split, linesOf_ended, linesOf_line first, later]
    rfl

theorem unlines_append (ls ms : List Text) : unlines (ls ++ ms) = unlines ls ++ unlines ms :=
  List.flatMap_append

theorem linesOf_intercalate {ts : List Text} (some : ts ≠ []) :
    linesOf (List.intercalate "\n" ts) = ts.flatMap linesOf := by
  induction ts with
  | nil => exact absurd rfl some
  | cons t rest ih =>
    cases rest with
    | nil => simp
    | cons u others =>
      rw [List.intercalate_cons_cons, linesOf_ended, ih (List.cons_ne_nil u others)]
      rfl

section Templates

variable {style : OptionalStyle}

/-- Without accessors the line is there, but empty. -/
def accessorLines (accessors : List Text) : List Text :=
  if accessors.isEmpty then ["      "] else accessors.map ("      " ++ ·)

theorem accessorLines_text (accessors : List Text) :
    "      " ++ List.intercalate "\n      " accessors ++ "\n" = unlines (accessorLines accessors) := by
  cases accessors with
  | nil => rfl
  | cons a rest =>
    induction rest generalizing a with
    | nil => simp [accessorLines, unlines]
    | cons b others ih =>
      have gap : ofString "\n      " = ofString "\n" ++ ofString "      " := rfl
      have first : unlines (accessorLines (a :: b :: others)) =
          "      " ++ a ++ "\n" ++ unlines (accessorLines (b :: others)) := rfl
      rw [List.intercalate_cons_cons, first, ← ih b, gap]
      simp only [List.append_assoc]

def namespaceLines (moduleName : Text) : List Text :=
  ["namespace JS \x7b", "  namespace " ++ moduleName ++ " \x7b"]

def blockStart (name : Text) : Text := "    struct " ++ name ++ " \x7b"

/-- The lines after the accessors, up to the end of the block. -/
def innerLines (name : Text) : List Text :=
  ["",
   "      " ++ name ++ "(NSDictionary *const v) : _v(v) \x7b\x7d",
   "    private:",
   "      NSDictionary *_v;"]

def tailLines (moduleName name : Text) : List Text :=
  ["  \x7d",
   "\x7d",
   "",
   "@interface RCTCxxConvert (" ++ moduleName ++ "_" ++ name ++ ")",
   "+ (RCTManagedPointer *)JS_" ++ moduleName ++ "_" ++ name ++ ":(id)json;"]

def blockEnd : Text := "    \x7d;"

def declarationEnd : Text := "@end"

def definitionEnd : Text := "\x7d"

def declarationLines (moduleName name : Text) (accessors : List Text) : List Text :=
  namespaceLines moduleName ++
    blockStart name :: ((accessorLines accessors ++ innerLines name) ++ [blockEnd]) ++
    tailLines moduleName name

theorem headLines_text (moduleName name : Text) :
    unlines (namespaceLines moduleName ++ [blockStart name]) = "namespace JS \x7b\n" ++
      "  namespace " ++ moduleName ++ " \x7b\n" ++
      "    struct " ++ name ++ " \x7b\n" := by
  simp only [namespaceLines, blockStart, unlines, List.flatMap_append, List.flatMap_cons,
    List.flatMap_nil, List.append_assoc]
  repeat rw [ofString_literal]
  rfl

theorem innerLines_text (name : Text) :
    unlines (innerLines name ++ [blockEnd]) = "\n" ++
      "      " ++ name ++ "(NSDictionary *const v) : _v(v) \x7b\x7d\n" ++
      "    private:\n" ++
      "      NSDictionary *_v;\n" ++
      "    \x7d;\n" := by
  simp only [innerLines, blockEnd, unlines, List.flatMap_append, List.flatMap_cons,
    List.flatMap_nil, List.append_assoc]
  repeat rw [ofString_literal]
  rfl

theorem tailLines_text (moduleName name : Text) :
    unlines (tailLines moduleName name) = "  \x7d\n" ++
      "\x7d\n" ++
      "\n" ++
      "@interface RCTCxxConvert (" ++ moduleName ++ "_" ++ name ++ ")\n" ++
      "+ (RCTManagedPointer *)JS_" ++ moduleName ++ "_" ++ name ++ ":(id)json;\n" := by
  simp only [tailLines, unlines, List.flatMap_cons, List.flatMap_nil, List.append_assoc]
  repeat rw [ofString_literal]
  rfl

theorem declarationText_eq (moduleName name : Text) (accessors : List Text) :
    declarationText moduleName name accessors =
      unlines (declarationLines moduleName name accessors) ++ declarationEnd := by
  have parts : unlines (declarationLines moduleName name accessors) =
      unlines (namespaceLines moduleName ++ [blockStart name]) ++
        unlines (accessorLines accessors) ++ unlines (innerLines name ++ [blockEnd]) ++
        unlines (tailLines moduleName name) := by
    simp only [← unlines_append, declarationLines, List.append_assoc, List.cons_append,
      List.nil_append]
  unfold declarationText declarationEnd
  simp only [parts, headLines_text, ← accessorLines_text, innerLines_text, tailLines_text,
    List.append_assoc]

theorem linesOf_declarationText {moduleName name : Text} {accessors : List Text}
    (module : OneLine moduleName) (named : OneLine name) (each : ∀ a ∈ accessors, OneLine a) :
    linesOf (declarationText moduleName name accessors) =
      declarationLines moduleName name accessors ++ [declarationEnd] := by
  have middle : ∀ l ∈ accessorLines accessors, OneLine l := by
    unfold accessorLines
    split
    · repeat rw [ofString_literal]
      decide
    · intro l member
      obtain ⟨a, among, rfl⟩ := List.mem_map.mp member
      exact oneLine_append.mpr ⟨by decide, each a among⟩
  have single : ∀ l ∈ declarationLines moduleName name accessors, OneLine l := by
    simp only [declarationLines, namespaceLines, blockStart, innerLines, tailLines,
      List.forall_mem_append, List.forall_mem_cons, oneLine_append, module, named, and_true]
    repeat rw [ofString_literal]
    refine ⟨⟨?_, ?_, ⟨middle, ?_⟩, ?_⟩, ?_⟩ <;> decide
  have last : linesOf declarationEnd = [declarationEnd] := linesOf_line (by decide)
  rw [declarationText_eq, linesOf_unlines single, last]

/-- The line of a definition that names the accessor. -/
def signatureLine (style : OptionalStyle) (struct : Text) (a : Accessor) : Text :=
  "inline " ++ (a.paddedType style ++ struct ++ "::" ++ a.name) ++ "() const"

def bodyLines (style : OptionalStyle) (a : Accessor) : List Text :=
  ["\x7b",
   "  id const p = _v[@\"" ++ a.key ++ "\"];",
   "  return " ++ a.conversion.text style ++ ";"]

theorem definition_eq (struct : Text) (a : Accessor) :
    a.definition style struct =
      unlines (signatureLine style struct a :: bodyLines style a) ++ definitionEnd := by
  simp only [Accessor.definition, signatureLine, bodyLines, definitionEnd, unlines,
    List.flatMap_cons, List.flatMap_nil, List.append_assoc]
  repeat rw [ofString_literal]
  rfl

theorem oneLine_declaration {a : Accessor} (inside : AccessorOver (· ≠ .char '\n') style a) :
    OneLine (a.declaration style) := by
  have padded : OneLine (a.paddedType style) := over_paddedType lineAlphabet inside
  have tail : OneLine "() const;" := over_literal (by decide)
  exact oneLine_append.mpr ⟨oneLine_append.mpr ⟨padded, inside.name⟩, tail⟩

theorem linesOf_definition {struct : Text} {a : Accessor} (named : OneLine struct)
    (inside : AccessorOver (· ≠ .char '\n') style a) :
    linesOf (a.definition style struct) =
      signatureLine style struct a :: bodyLines style a ++ [definitionEnd] := by
  have type : OneLine (a.paddedType style) := over_paddedType lineAlphabet inside
  have name : OneLine a.name := inside.name
  have key : OneLine a.key := inside.key
  have conversion : OneLine (a.conversion.text style) := inside.conversion
  have single : ∀ l ∈ signatureLine style struct a :: bodyLines style a, OneLine l := by
    simp only [signatureLine, bodyLines, List.forall_mem_cons, oneLine_append, named, type, name,
      key, conversion, and_true]
    repeat rw [ofString_literal]
    decide
  have last : linesOf definitionEnd = [definitionEnd] := linesOf_line (by decide)
  rw [definition_eq, linesOf_unlines single, last]

def between (part : Text) : Text := "\n" ++ part ++ "\n"

/-- A body is its parts, each between two newlines. -/
theorem bodyText_eq (parts : List Text) :
    bodyText parts = parts.flatMap between := by
  cases parts with
  | nil => rfl
  | cons part rest =>
    have whole : "\n" ++ List.intercalate "\n\n" (part :: rest) ++ "\n" =
        (part :: rest).flatMap between := by
      induction rest generalizing part with
      | nil => simp [between]
      | cons next others ih =>
        have gap : ofString "\n\n" = ofString "\n" ++ ofString "\n" := rfl
        rw [List.intercalate_cons_cons, List.flatMap_cons, ← ih next, gap, between]
        simp only [List.append_assoc]
    exact whole

/-- The lines of the parts of a body, an empty line before each. -/
def partLines (parts : List Text) : List Text := parts.flatMap fun part => [] :: linesOf part

theorem linesOf_bodyText (parts : List Text) (t : Text) :
    linesOf (bodyText parts ++ t) = partLines parts ++ linesOf t := by
  rw [bodyText_eq]
  induction parts with
  | nil => rfl
  | cons part rest ih =>
    have split : (part :: rest).flatMap between ++ t =
        "\n" ++ (part ++ "\n" ++ (rest.flatMap between ++ t)) := by
      simp only [between, List.flatMap_cons, List.append_assoc]
    have newline (u : Text) : linesOf ("\n" ++ u) = [] :: linesOf u := linesOf_ended [] u
    rw [split, newline, linesOf_ended, ih, partLines, partLines, List.flatMap_cons,
      List.append_assoc, List.cons_append]

end Templates

end StructBridge
