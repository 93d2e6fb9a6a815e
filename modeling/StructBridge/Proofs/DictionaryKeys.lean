import Mathlib.Algebra.Ring.Parity
import Mathlib.Data.List.Induction
import StructBridge.Proofs.HeaderParts

/-!
The keys under which accessors read the dictionary. A name is escaped in one pass, which comes to the
same as three replacements in a row, backslashes first. Whatever it holds, its literal ends where the
accessor goes on, and denotes the name itself.
-/
namespace StructBridge
open Schema Code

namespace Text

def quote : CodePoint := .char '\x22'

def newline : CodePoint := .char '\n'

/-- The code points that are escaped, each with what follows the backslash. -/
def letters : List (CodePoint × CodePoint) :=
  [(backslash, backslash), (quote, quote), (newline, .char 'n')]

/-- A text with every occurrence of a code point replaced. -/
def replaced (c : CodePoint) (stead t : Text) : Text :=
  t.flatMap fun d => if d = c then stead else [d]

/-- How many backslashes a text ends in. -/
def backslashRun (t : Text) : Nat := (t.reverse.takeWhile (· = backslash)).length

/-- Reads on in a literal: what it denotes, and what stands behind the quote that closes it. -/
def readLiteral? : Text → Option (Text × Text)
  | [] => none
  | .char '\x22' :: rest => some ([], rest)
  | .char '\\' :: .char '\\' :: rest => (readLiteral? rest).map fun (t, after) => (backslash :: t, after)
  | .char '\\' :: .char '\x22' :: rest => (readLiteral? rest).map fun (t, after) => (quote :: t, after)
  | .char '\\' :: .char 'n' :: rest => (readLiteral? rest).map fun (t, after) => (newline :: t, after)
  | c :: rest =>
    if c = backslash ∨ c = newline then none
    else (readLiteral? rest).map fun (t, after) => (c :: t, after)

def Unescaped (c : CodePoint) : Prop := c ≠ backslash ∧ c ≠ quote ∧ c ≠ newline

/-- What becomes of one code point. -/
theorem escapePoint_cases (c : CodePoint) :
    (∃ letter, (c, letter) ∈ letters ∧ escapePoint c = [backslash, letter]) ∨
      (Unescaped c ∧ escapePoint c = [c]) := by
  by_cases slash : c = backslash
  · subst slash
    exact .inl ⟨backslash, by simp [letters], rfl⟩
  by_cases quoted : c = quote
  · subst quoted
    exact .inl ⟨quote, by simp [letters], rfl⟩
  by_cases broken : c = newline
  · subst broken
    exact .inl ⟨.char 'n', by simp [letters], rfl⟩
  refine .inr ⟨⟨slash, quoted, broken⟩, ?_⟩
  unfold backslash at slash
  unfold quote at quoted
  unfold newline at broken
  rw [escapePoint, if_neg slash, if_neg quoted, if_neg broken]

theorem escape_cons (c : CodePoint) (t : Text) : escape (c :: t) = escapePoint c ++ escape t :=
  List.flatMap_cons

theorem escape_concat (t : Text) (c : CodePoint) : escape (t ++ [c]) = escape t ++ escapePoint c := by
  simp [escape]

/-- Each replacement leaves alone what those before it have put in. -/
theorem escape_eq_replaced (t : Text) :
    escape t = replaced newline [backslash, .char 'n']
      (replaced quote [backslash, quote] (replaced backslash [backslash, backslash] t)) := by
  simp only [replaced, List.flatMap_assoc, escape]
  congr 1
  funext c
  rcases escapePoint_cases c with ⟨letter, among, made⟩ | ⟨⟨slash, quoted, broken⟩, made⟩
  · rw [made]
    simp only [letters, List.mem_cons, Prod.mk.injEq, List.not_mem_nil, or_false] at among
    rcases among with ⟨rfl, rfl⟩ | ⟨rfl, rfl⟩ | ⟨rfl, rfl⟩ <;> rfl
  · rw [made]
    simp [slash, quoted, broken]

theorem newline_not_mem_escape (t : Text) : newline ∉ escape t := by
  have letters_apart : ∀ e ∈ letters, newline ≠ e.2 := by decide
  intro member
  obtain ⟨c, _, among⟩ := List.mem_flatMap.mp member
  rcases escapePoint_cases c with ⟨letter, escaped, made⟩ | ⟨⟨_, _, broken⟩, made⟩
  · rw [made, List.mem_pair] at among
    exact (letters_apart _ escaped) (among.resolve_left (by decide))
  · rw [made, List.mem_singleton] at among
    exact broken among.symm

theorem backslashRun_concat (t : Text) (c : CodePoint) :
    backslashRun (t ++ [c]) = if c = backslash then backslashRun t + 1 else 0 := by
  simp only [backslashRun, List.reverse_concat, List.takeWhile_cons, decide_eq_true_eq]
  split <;> rfl

theorem even_backslashRun_escape (t : Text) : Even (backslashRun (escape t)) := by
  induction t using List.reverseRecOn with
  | nil => exact ⟨0, rfl⟩
  | append_singleton t c ih =>
    rw [escape_concat]
    rcases escapePoint_cases c with ⟨letter, _, made⟩ | ⟨⟨slash, _, _⟩, made⟩
    · -- a backslash behind the one that escapes it makes two more, any other letter ends the run
      have apart : escape t ++ [backslash, letter] = (escape t ++ [backslash]) ++ [letter] := by simp
      rw [made, apart, backslashRun_concat, backslashRun_concat, if_pos rfl]
      split
      · exact ih.add_one.add_one
      · exact ⟨0, rfl⟩
    · rw [made, backslashRun_concat, if_neg slash]
      exact ⟨0, rfl⟩

/-- What stands before a quote is a whole escaped text and one more backslash. -/
theorem before_quote {t before after : Text} (found : escape t = before ++ quote :: after) :
    ∃ u, before = escape u ++ [backslash] := by
  induction t generalizing before with
  | nil => exact absurd found (by simp [escape])
  | cons c rest ih =>
    rw [escape_cons] at found
    rcases List.append_eq_append_iff.mp found with ⟨middle, rfl, later⟩ | ⟨middle, here, later⟩
    · obtain ⟨u, rfl⟩ := ih later
      exact ⟨c :: u, by rw [escape_cons, List.append_assoc]⟩
    · cases middle with
      | nil =>
        have first : escape rest = [] ++ quote :: after := later.symm
        obtain ⟨u, closed⟩ := ih first
        exact absurd closed (by simp)
      | cons d others =>
        obtain rfl : quote = d := (List.cons.inj later).1
        rcases escapePoint_cases c with ⟨letter, _, made⟩ | ⟨⟨_, quoted, _⟩, made⟩
        · rw [made] at here
          cases before with
          | nil => exact absurd (List.cons.inj here).1 (by decide)
          | cons first more =>
            obtain rfl : backslash = first := (List.cons.inj here).1
            cases more with
            | nil => exact ⟨[], rfl⟩
            | cons _ _ => exact absurd (congrArg List.length here) (by simp)
        · rw [made] at here
          cases before with
          | nil => exact absurd (List.cons.inj here).1 quoted
          | cons _ _ => exact absurd (congrArg List.length here) (by simp)

theorem odd_run_before_quote {t before after : Text}
    (found : escape t = before ++ quote :: after) : Odd (backslashRun before) := by
  obtain ⟨u, rfl⟩ := before_quote found
  rw [backslashRun_concat, if_pos rfl]
  exact (even_backslashRun_escape u).add_one

theorem readLiteral_letter {c letter : CodePoint} (among : (c, letter) ∈ letters) (rest : Text) :
    readLiteral? (backslash :: letter :: rest) =
      (readLiteral? rest).map fun (t, after) => (c :: t, after) := by
  simp only [letters, List.mem_cons, Prod.mk.injEq, List.not_mem_nil, or_false] at among
  rcases among with ⟨rfl, rfl⟩ | ⟨rfl, rfl⟩ | ⟨rfl, rfl⟩ <;> rfl

theorem readLiteral_unescaped {c : CodePoint} (plain : Unescaped c) (rest : Text) :
    readLiteral? (c :: rest) = (readLiteral? rest).map fun (t, after) => (c :: t, after) := by
  obtain ⟨slash, quoted, broken⟩ := plain
  rw [readLiteral?, if_neg (not_or.mpr ⟨slash, broken⟩)]
  · exact quoted
  all_goals intro _ same; exact absurd same slash

/-- The literal of an escaped text is closed behind the text, not within it. -/
theorem readLiteral_escape (t rest : Text) :
    readLiteral? (escape t ++ quote :: rest) = some (t, rest) := by
  induction t with
  | nil => rfl
  | cons c others ih =>
    rw [escape_cons, List.append_assoc]
    rcases escapePoint_cases c with ⟨letter, among, made⟩ | ⟨plain, made⟩
    · rw [made, List.cons_append, List.singleton_append, readLiteral_letter among, ih]
      rfl
    · rw [made, List.singleton_append, readLiteral_unescaped plain, ih]
      rfl

end Text

namespace Code
open Text

variable {style : OptionalStyle} {struct : Text}

/-- The first line of a definition. -/
def Accessor.signature (style : OptionalStyle) (struct : Text) (a : Accessor) : Text :=
  "inline " ++ a.paddedType style ++ struct ++ "::" ++ a.name ++ "() const"

/-- The look-up in a definition opens a literal that denotes the name and is closed right before the
bracket. -/
def Accessor.ReadsUnder (style : OptionalStyle) (struct : Text) (a : Accessor) (name : Text) : Prop :=
  ∃ literal after : Text, a.definition style struct =
      a.signature style struct ++ "\n\x7b\n  id const p = _v[@\"" ++ literal ∧
    readLiteral? literal = some (name, "];" ++ after)

/-- The code of a property looks up its own name and nothing else. -/
def Serves (style : OptionalStyle) (struct : Text) (p : Property) (a : Accessor) : Prop :=
  ∃ name, p.name = .str name ∧ ∀ key, a.ReadsUnder style struct key ↔ key = name

theorem definition_around (a : Accessor) :
    a.definition style struct = a.signature style struct ++ "\n\x7b\n  id const p = _v[@\"" ++
      (a.key ++ quote :: ("];" ++ ("\n  return " ++ a.conversion.text style ++ ";\n\x7d"))) := by
  simp only [Accessor.definition, Accessor.signature, List.append_assoc]
  repeat rw [ofString_literal]
  rfl

theorem readsUnder_iff {a : Accessor} {name : Text} (keyed : a.key = escape name) (key : Text) :
    a.ReadsUnder style struct key ↔ key = name := by
  constructor
  · rintro ⟨literal, after, whole, read⟩
    rw [definition_around, keyed] at whole
    rw [← List.append_cancel_left whole, readLiteral_escape] at read
    exact (congrArg Prod.fst (Option.some.inj read)).symm
  · rintro rfl
    refine ⟨_, "\n  return " ++ a.conversion.text style ++ ";\n\x7d", definition_around a, ?_⟩
    rw [keyed]
    exact readLiteral_escape _ _

theorem serves_of {naming : Naming} {moduleName : Text} {p : Property} {a : Accessor}
    (made : accessorOf naming moduleName p = .ok a) : Serves style struct p a := by
  obtain ⟨_, _, _, keyed⟩ := accessorOf_parts made
  unfold keyText at keyed
  split at keyed
  · rename_i name named
    exact ⟨name, named, readsUnder_iff (Except.ok.inj keyed).symm⟩
  · cases keyed

/-- An escaped text can stand in a literal, and each accessor that the code of a struct defines reads
the dictionary under the name of its property, whatever the name holds. -/
theorem keys_survive_escaping :
    (∀ t : Text,
      escape t = replaced newline [backslash, .char 'n']
        (replaced quote [backslash, quote] (replaced backslash [backslash, backslash] t)) ∧
      newline ∉ escape t ∧
      (∀ before after, escape t = before ++ quote :: after → Odd (backslashRun before)) ∧
      Even (backslashRun (escape t)) ∧
      unescape? (escape t) = some t) ∧
    ∀ (naming : Naming) (moduleName : Text) (s : Struct) (code : StructCode),
      StructCode.of naming moduleName s = .ok code →
      ∃ full accessors, accessorsOf naming moduleName s.properties = .ok accessors ∧
        code.methods = List.intercalate "\n" (accessors.map (·.definition naming.style full)) ∧
        List.Forall₂ (Serves naming.style full) s.properties accessors ∧
        ∀ p a q b, (p, a) ∈ s.properties.zip accessors → (q, b) ∈ s.properties.zip accessors →
          p.name ≠ q.name →
          ∀ key, a.ReadsUnder naming.style full key → ¬b.ReadsUnder naming.style full key := by
  refine ⟨?_, ?_⟩
  · intro t
    exact ⟨escape_eq_replaced t, newline_not_mem_escape t, fun _ _ found => odd_run_before_quote found,
      even_backslashRun_escape t, unescape_escape t⟩
  · intro naming moduleName s code made
    obtain ⟨name, _, made⟩ := ok_of_bind made
    obtain ⟨accessors, coded, made⟩ := ok_of_bind made
    obtain rfl := Except.ok.inj made
    have each : List.Forall₂ (Serves naming.style (naming.qualify moduleName name)) s.properties
        accessors := (forall₂_of_mapM coded).imp fun _ _ accessor => serves_of accessor
    refine ⟨_, accessors, coded, rfl, each, ?_⟩
    intro p a q b member member' apart key reads reads'
    obtain ⟨first, named, exactly⟩ := List.forall₂_zip each member
    obtain ⟨second, named', exactly'⟩ := List.forall₂_zip each member'
    have same : first = second := ((exactly key).mp reads).symm.trans ((exactly' key).mp reads')
    rw [named, named', same] at apart
    exact apart rfl

/-- A reserved word, and a name that ends in a backslash and a quote. -/
def labelled : Struct :=
  ⟨.regular, .str "label",
    [⟨.str "id", .leaf .string, false⟩, ⟨.str [.char 'a', backslash, quote], .leaf .boolean, true⟩]⟩

theorem labelled_keys_read :
    ∃ code, StructCode.of (.standard .std) "Maps" labelled = .ok code ∧
      ∃ (full : Text) (a b : Accessor),
        code.methods = List.intercalate "\n" [a.definition .std full, b.definition .std full] ∧
        a.ReadsUnder .std full "id" ∧ ¬b.ReadsUnder .std full "id" ∧
        b.ReadsUnder .std full [.char 'a', backslash, quote] ∧
        Odd (backslashRun [.char 'a', backslash, backslash, backslash]) := by
  obtain ⟨texts, keys⟩ := keys_survive_escaping
  obtain ⟨_, _, quotes, _⟩ := texts [.char 'a', backslash, quote]
  obtain ⟨full, accessors, _, methods, each, apart⟩ := keys (.standard .std) "Maps" labelled _ rfl
  obtain ⟨a, _, ⟨_, named, exactly⟩, later, rfl⟩ := List.forall₂_cons_left_iff.mp each
  obtain ⟨b, _, ⟨_, named', exactly'⟩, last, rfl⟩ := List.forall₂_cons_left_iff.mp later
  obtain rfl := List.forall₂_nil_left_iff.mp last
  have own := (exactly _).mpr rfl
  have own' := (exactly' _).mpr rfl
  obtain rfl := Json.str.inj named
  obtain rfl := Json.str.inj named'
  have names : (Json.str "id") ≠ .str [.char 'a', backslash, quote] :=
    fun same => absurd (Json.str.inj same) (by decide)
  have different := apart _ a _ b (.head _) (.tail _ (.head _)) names _ own
  exact ⟨_, rfl, full, a, b, methods, own, different, own', quotes _ [] rfl⟩

end Code
end StructBridge
