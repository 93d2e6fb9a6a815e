import StructBridge.Proofs.ForeignWords

/-!
The comment that a header can start with. It shows the call with every word as it was given, so it
is one line only when the words are; and the check before a write reads it with the rest, so it
changes the verdict when its braces do not match, or when it alone speaks of a struct.
-/
namespace StructBridge
open Schema Code Command Text

/-- The comment of a call, where comments are generated. -/
def commentOf (invocation : Option Invocation) : Text :=
  "// Generated by objc_struct_codegen v1.0.0 : " ++ lineText programName invocation

/-- The words of a call that its comment shows after the program. -/
def shownWords (invocation : Option Invocation) : List Text :=
  (invocation.map Invocation.words).getD []

/-- The generator with comments or without. -/
def Generator.commenting (g : Generator) (shown : Bool) : Generator :=
  { g with config := { g.config with addGenerationComment := .bool shown } }

/-- A comment that does not sway the check of a header: its braces match, and it speaks of a struct
only where it names the namespace too or the header has structs, which do. -/
def Unnoticed (structs : List Struct) (comment : Text) : Prop :=
  comment.count (.char '\x7b') = comment.count (.char '\x7d') ∧
    (Lacks "struct " comment ∨ ¬Lacks "namespace JS" comment ∨ structs ≠ [])

section Lines

variable {invocation : Option Invocation}

theorem oneLine_of_linesOf {t : Text} (alone : linesOf t = [t]) : OneLine t := by
  intro c member same
  subst same
  obtain ⟨before, after, parts⟩ := List.append_of_mem member
  have twice : linesOf t = linesOf before ++ linesOf after := by
    rw [parts]
    exact List.splitOn_append_cons_self before after
  -- What stands before a newline has at least one line, and so does what follows it.
  have first : linesOf before ≠ [] := List.splitOn_ne_nil _ _
  have second : linesOf after ≠ [] := List.splitOn_ne_nil _ _
  have several : 1 + 1 ≤ (linesOf t).length := by
    rw [twice, List.length_append]
    exact Nat.add_le_add (List.length_pos_iff.mpr first) (List.length_pos_iff.mpr second)
  rw [alone, List.length_singleton] at several
  exact absurd several (by decide)

theorem lineText_words (invocation : Option Invocation) :
    lineText programName invocation =
      List.intercalate " " (programName :: shownWords invocation) := by
  cases invocation with
  | none => simp [lineText, shownWords]
  | some i => rfl

theorem oneLine_commentOf :
    OneLine (commentOf invocation) ↔ ∀ w ∈ shownWords invocation, OneLine w := by
  have start : OneLine "// Generated by objc_struct_codegen v1.0.0 : " := over_literal (by decide)
  have space : OneLine " " := over_literal (by decide)
  have program : OneLine programName := over_literal (by decide)
  rw [commentOf, lineText_words, oneLine_append]
  constructor
  · rintro ⟨_, line⟩ w member c among
    have inside : w <:+: List.intercalate (ofString " ") (programName :: shownWords invocation) :=
      infix_intercalate (List.mem_cons_of_mem programName member)
    exact line c (inside.subset among)
  · intro words
    refine ⟨start, over_intercalate space ?_⟩
    simp only [List.forall_mem_cons]
    exact ⟨program, words⟩

/-- A comment of one line stands on it, and the next line is empty. -/
theorem linesOf_commented (bare : Text) :
    linesOf (commentOf invocation ++ "\n\n" ++ bare) = commentOf invocation :: [] :: linesOf bare ↔
      ∀ w ∈ shownWords invocation, OneLine w := by
  have gap : ofString "\n\n" = ofString "\n" ++ ([] ++ ofString "\n") := by
    repeat rw [ofString_literal]
    rfl
  have lines : linesOf (commentOf invocation ++ "\n\n" ++ bare) =
      linesOf (commentOf invocation) ++ ([[]] ++ linesOf bare) := by
    have empty : linesOf [] = [[]] := rfl
    rw [gap, List.append_assoc, List.append_assoc, ← List.append_assoc (commentOf invocation),
      linesOf_ended, linesOf_ended, empty]
  rw [lines, ← oneLine_commentOf]
  constructor
  · intro same
    exact oneLine_of_linesOf (List.append_cancel_right same)
  · intro line
    rw [linesOf_line line]
    rfl

end Lines

section Checks

variable {style : OptionalStyle} {structs : List Struct} {codes : List StructCode} {t u : Text}

theorem accepted_iff_lacks (imported : ofString "#import <Foundation/Foundation.h>" <:+: t) :
    rejection? t = none ↔ (Lacks "struct " t ∨ ¬Lacks "namespace JS" t) ∧
      t.count (.char '\x7b') = t.count (.char '\x7d') := by
  rw [rejection_eq_none_iff imported, Lacks, Lacks, not_not]

/-- A word without newlines stands in a commented header when it stands in one of the two. -/
theorem lacks_commented {word : Text} (apart : CodePoint.char '\n' ∉ word) :
    Lacks word (t ++ "\n\n" ++ u) ↔ Lacks word t ∧ Lacks word u := by
  have parts : t ++ ofString "\n\n" ++ u = t ++ .char '\n' :: ([] ++ .char '\n' :: u) := by
    rw [ofString_literal, List.append_assoc]
    rfl
  rw [parts, lacks_across apart, lacks_across apart]
  constructor
  · rintro ⟨before, _, after⟩
    exact ⟨before, after⟩
  · rintro ⟨before, after⟩
    exact ⟨before, before.of_infix List.nil_infix, after⟩

theorem count_commented {c : CodePoint} (apart : c ≠ .char '\n') :
    (t ++ "\n\n" ++ u).count c = t.count c + u.count c := by
  have gap : (ofString "\n\n").count c = 0 := by
    rw [ofString_literal]
    exact List.count_eq_zero.mpr (by simpa using apart)
  rw [List.count_append, List.count_append, gap, Nat.add_zero]

theorem emptyHeader_speaks_of_none : ∀ style ∈ bothStyles,
    Lacks "struct " (headerText style [] "") ∧ Lacks "namespace JS" (headerText style [] "") := by
  unfold headerText opening commentText importText requiredImports OptionalStyle.importName bodyText
    closing
  repeat rw [ofString_literal]
  decide +kernel

theorem headerText_comment (style : OptionalStyle) (codes : List StructCode) {comment : Text}
    (present : comment ≠ []) :
    headerText style codes comment = comment ++ "\n\n" ++ headerText style codes "" := by
  have shown : commentText comment = comment ++ ofString "\n\n" := by
    have full : comment.isEmpty = false := by simpa using present
    rw [commentText, full]
    rfl
  have hidden : commentText (ofString "") = [] := rfl
  simp only [headerText, opening, shown, hidden, List.nil_append, List.append_assoc]

end Checks

section Headers

variable {g : Generator} {invocation : Option Invocation} {structs : List Struct} {bare : Text}

theorem header_commenting (g : Generator) (invocation : Option Invocation) :
    (g.commenting true).header invocation =
      ((g.commenting false).header invocation).map (commentOf invocation ++ "\n\n" ++ ·) := by
  have codes (shown : Bool) : (g.commenting shown).structCodes = g.structCodes := rfl
  have styled (shown : Bool) : (g.commenting shown).style = g.style := rfl
  have comment : (g.commenting true).comment invocation = commentOf invocation := rfl
  have hidden : (g.commenting false).comment invocation = ofString "" := rfl
  have present : commentOf invocation ≠ [] := by
    rw [commentOf, ofString_literal]
    exact List.cons_ne_nil _ _
  unfold Generator.header
  rw [codes, codes, styled, styled, comment, hidden]
  cases g.structCodes with
  | error fault => rfl
  | ok codes =>
    simp only [ok_bind]
    cases ofUse g.style.resolve with
    | error fault => rfl
    | ok style => exact congrArg Except.ok (headerText_comment style codes present)

/-- A header has the import that the check asks for, and speaks of the namespace as soon as it has
a struct; without structs it speaks of neither. -/
theorem bare_checked (selected : g.selected = .ok structs)
    (made : (g.commenting false).header invocation = .ok bare) :
    ofString "#import <Foundation/Foundation.h>" <:+: bare ∧
      (structs ≠ [] → ¬Lacks "namespace JS" bare) ∧
      (structs = [] → Lacks "struct " bare ∧ Lacks "namespace JS" bare) := by
  obtain ⟨structs', style, codes, selected', _, _, coded, rfl⟩ := header_ok made
  obtain rfl : structs = structs' := Except.ok.inj (selected.symm.trans selected')
  refine ⟨headerText_imports style codes _, ?_, ?_⟩
  · intro some lacks
    cases codes with
    | nil =>
      have empty := List.forall₂_nil_right_iff.mp (forall₂_of_mapM coded)
      exact some empty
    | cons code rest =>
      obtain ⟨s, _, made⟩ := members_of_mapM coded code List.mem_cons_self
      exact lacks (headerText_namespaced _ (ofRegular_namespaced made) List.mem_cons_self)
  · rintro rfl
    obtain rfl : codes = [] := (Except.ok.inj coded).symm
    exact emptyHeader_speaks_of_none style (mem_bothStyles style)

theorem accepted_iff (selected : g.selected = .ok structs)
    (made : (g.commenting false).header invocation = .ok bare) (comment : Text) :
    rejection? (comment ++ "\n\n" ++ bare) = none ↔
      (Lacks "struct " comment ∨ ¬Lacks "namespace JS" comment ∨ structs ≠ []) ∧
        comment.count (.char '\x7b') + bare.count (.char '\x7b') =
          comment.count (.char '\x7d') + bare.count (.char '\x7d') := by
  obtain ⟨imported, namespaced, silent⟩ := bare_checked selected made
  have struct : CodePoint.char '\n' ∉ ofString "struct " := by
    rw [ofString_literal]
    decide
  have namespace' : CodePoint.char '\n' ∉ ofString "namespace JS" := by
    rw [ofString_literal]
    decide
  rw [accepted_iff_lacks (List.infix_append_of_infix_right imported), lacks_commented struct,
    lacks_commented namespace', count_commented (by decide), count_commented (by decide)]
  apply and_congr_left'
  -- Only without structs does the header leave it to the comment to speak of them.
  by_cases some : structs = []
  · obtain ⟨quiet, quiet'⟩ := silent some
    simp [some, quiet, quiet']
  · simp [some, namespaced some]

/-- Of the check of a header without comments only the braces are open. -/
theorem accepted_bare_iff (selected : g.selected = .ok structs)
    (made : (g.commenting false).header invocation = .ok bare) :
    rejection? bare = none ↔ bare.count (.char '\x7b') = bare.count (.char '\x7d') := by
  obtain ⟨imported, namespaced, silent⟩ := bare_checked selected made
  rw [accepted_iff_lacks imported]
  by_cases some : structs = []
  · simp [(silent some).1]
  · simp [namespaced some]

theorem accepted_of_unnoticed (selected : g.selected = .ok structs)
    (made : (g.commenting false).header invocation = .ok bare) {comment : Text}
    (unnoticed : Unnoticed structs comment) :
    rejection? (comment ++ "\n\n" ++ bare) = none ↔ rejection? bare = none := by
  obtain ⟨matching, spoken⟩ := unnoticed
  rw [accepted_iff selected made, accepted_bare_iff selected made, matching,
    Nat.add_left_cancel_iff]
  exact and_iff_right spoken

theorem unnoticed_of_accepted (selected : g.selected = .ok structs)
    (made : (g.commenting false).header invocation = .ok bare) {comment : Text}
    (commented : rejection? (comment ++ "\n\n" ++ bare) = none) (alone : rejection? bare = none) :
    Unnoticed structs comment := by
  obtain ⟨spoken, total⟩ := (accepted_iff selected made comment).mp commented
  rw [(accepted_bare_iff selected made).mp alone] at total
  exact ⟨Nat.add_right_cancel total, spoken⟩

end Headers

/-- With comments, a header is the comment, an empty line and the header without comments. The
comment is one line when all words of the call are; when it is unnoticed, the check before a write
accepts the one header when it accepts the other; and any other comment keeps it from accepting
both. -/
theorem comment_is_inert_if_unnoticed (g : Generator) (invocation : Option Invocation) :
    ofString "//" <+: commentOf invocation ∧
    (g.commenting true).header invocation =
      ((g.commenting false).header invocation).map (commentOf invocation ++ "\n\n" ++ ·) ∧
    ∀ structs bare, g.selected = .ok structs →
      (g.commenting false).header invocation = .ok bare →
      (linesOf (commentOf invocation ++ "\n\n" ++ bare) =
          commentOf invocation :: [] :: linesOf bare ↔ ∀ w ∈ shownWords invocation, OneLine w) ∧
      (Unnoticed structs (commentOf invocation) →
        (rejection? (commentOf invocation ++ "\n\n" ++ bare) = none ↔ rejection? bare = none)) ∧
      (rejection? (commentOf invocation ++ "\n\n" ++ bare) = none → rejection? bare = none →
        Unnoticed structs (commentOf invocation)) := by
  have slashes : ofString "//" <+: commentOf invocation := by
    have start : ofString "//" <+: ofString "// Generated by objc_struct_codegen v1.0.0 : " := by
      repeat rw [ofString_literal]
      decide
    exact start.trans (List.prefix_append _ _)
  refine ⟨slashes, header_commenting g invocation, ?_⟩
  intro structs bare selected made
  exact ⟨linesOf_commented bare, accepted_of_unnoticed selected made,
    unnoticed_of_accepted selected made⟩

/-- A call with nothing but a model and an output. -/
def callOn (model : Text) : Invocation where
  name := .scalar .null
  config := .scalar .null
  optionalStyle := .scalar .null
  force := .scalar (.bool false)
  verbose := .scalar (.bool false)
  path := .path model
  output := .path "maps.h"

def draftCall : Invocation := callOn "drafts\x7bold\x7d/maps.json"

theorem maps_comment_unnoticed :
    Unnoticed maps.module.structs (commentOf draftCall) ∧
      ∃ bare, (maps.commenting false).header draftCall = .ok bare ∧
        linesOf (commentOf draftCall ++ "\n\n" ++ bare) =
          commentOf draftCall :: [] :: linesOf bare ∧
        (rejection? (commentOf draftCall ++ "\n\n" ++ bare) = none ↔ rejection? bare = none) := by
  have selected : maps.selected = .ok maps.module.structs := rfl
  have words : ∀ w ∈ shownWords draftCall, OneLine w := by decide
  have unnoticed : Unnoticed maps.module.structs (commentOf draftCall) :=
    ⟨by decide, .inl (by decide)⟩
  obtain ⟨bare, made⟩ : ∃ bare, (maps.commenting false).header draftCall = .ok bare := ⟨_, rfl⟩
  obtain ⟨_, _, checks⟩ := comment_is_inert_if_unnoticed maps draftCall
  obtain ⟨lines, agree, _⟩ := checks _ bare selected made
  exact ⟨unnoticed, bare, made, lines.mpr words, agree unnoticed⟩

def bracedCall : Invocation := callOn "\x7b.json"

def brokenCall : Invocation := callOn "maps\nold.json"

def blank : Generator := ⟨⟨.str "Blank", []⟩, .style .std, .standard⟩

/-- A brace in a file's name makes the check refuse a header that it accepts without comments, and a
newline there ends the comment early. -/
theorem names_break_comment :
    (∃ bare, (blank.commenting false).header bracedCall = .ok bare ∧ rejection? bare = none ∧
      (blank.commenting true).header bracedCall = .ok (commentOf bracedCall ++ "\n\n" ++ bare) ∧
      rejection? (commentOf bracedCall ++ "\n\n" ++ bare) ≠ none) ∧
    ∃ bare, (blank.commenting false).header brokenCall = .ok bare ∧
      (blank.commenting true).header brokenCall = .ok (commentOf brokenCall ++ "\n\n" ++ bare) ∧
      linesOf (commentOf brokenCall ++ "\n\n" ++ bare) ≠
        commentOf brokenCall :: [] :: linesOf bare := by
  have selected : blank.selected = .ok [] := rfl
  have made (call : Invocation) :
      (blank.commenting false).header call = .ok (headerText .std [] "") := rfl
  have shown (call : Invocation) : (blank.commenting true).header call =
      .ok (commentOf call ++ "\n\n" ++ headerText .std [] "") := header_commenting blank call
  refine ⟨⟨_, made bracedCall, ?_, shown bracedCall, ?_⟩,
    ⟨_, made brokenCall, shown brokenCall, ?_⟩⟩
  · exact (emptyHeader_checked .std (mem_bothStyles .std) [] List.mem_cons_self).2
  · have alone := (emptyHeader_checked .std (mem_bothStyles .std) [] List.mem_cons_self).2
    intro commented
    have unnoticed := unnoticed_of_accepted selected (made bracedCall) commented alone
    exact absurd unnoticed.1 (by decide)
  · rw [ne_eq, linesOf_commented]
    decide

end StructBridge
