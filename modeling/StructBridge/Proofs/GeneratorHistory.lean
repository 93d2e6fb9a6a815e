import StructBridge.Proofs.Nesting
import StructBridge.Proofs.SettingsRoundTrip
import StructBridge.Proofs.Spelling
import StructBridge.Proofs.TaskPool

/-!
A generator that is asked and whose settings are changed, in any order. Its module and its style are
the ones that it was made with; the settings that answers depend on are read when it is asked. So it
answers as one made now from the same source, with the settings of now and the style of then.
-/
namespace StructBridge
open Schema Code Command

inductive Question where
  | name
  | selection
  | codes
  | header (invocation : Option Invocation)

inductive Answer where
  | name (name : Json)
  | selection (structs : List Struct)
  | codes (codes : List StructCode)
  | header (content : Text)

/-- What is done with a generator. -/
inductive Move where
  | set (key : Text) (v : Json)
  | ask (q : Question)

namespace Generator

def answer (g : Generator) : Question → Except Fault Answer
  | .name => .ok (.name g.module.name)
  | .selection => g.selected.map .selection
  | .codes => g.structCodes.map .codes
  | .header invocation => (g.header invocation).map .header

/-- A move leads to a generator and is answered, a change by nothing or a fault. -/
def take (g : Generator) : Move → Generator × Except Fault (Option Answer)
  | .set key v =>
    match g.set key v with
    | .ok changed => (changed, .ok none)
    | .error fault => (g, .error fault)
  | .ask q => (g, (g.answer q).map some)

def run (g : Generator) (moves : List Move) : Generator :=
  moves.foldl (fun now move => (now.take move).1) g

variable {g g' now : Generator}

/-- A change is one of the settings alone. -/
theorem set_eq (g : Generator) (key : Text) (v : Json) :
    g.set key v = (if key = Config.styleKey then
      (styleOf v).map fun style => { g.config with optionalStyle := .style style }
      else g.config.put key v).map fun config => { g with config } := by
  unfold set
  by_cases styling : key = Config.styleKey
  · rw [if_pos styling, if_pos styling]
    cases styleOf v <;> rfl
  · rw [if_neg styling, if_neg styling]
    cases g.config.put key v <;> rfl

theorem set_keeps {key : Text} {v : Json} (changed : g.set key v = .ok g') :
    g'.module = g.module ∧ g'.style = g.style := by
  rw [set_eq] at changed
  obtain ⟨config, _, rfl⟩ := ok_of_map changed
  exact ⟨rfl, rfl⟩

theorem set_parallel (g : Generator) (v : Json) :
    g.set Config.parallelKey v = .ok { g with config := { g.config with parallel := v } } := by
  have apart : ∀ key ∈ [Config.styleKey, Config.ignoreKey, Config.orderKey, Config.commentKey],
      Config.parallelKey ≠ key := by decide
  simp only [List.forall_mem_cons] at apart
  obtain ⟨style, ignore, order, comment, _⟩ := apart
  rw [set_eq, if_neg style]
  unfold Config.put
  rw [if_neg ignore, if_neg order, if_neg comment, if_pos rfl]
  rfl

theorem take_keeps (g : Generator) (move : Move) :
    (g.take move).1.module = g.module ∧ (g.take move).1.style = g.style := by
  cases move with
  | ask q => exact ⟨rfl, rfl⟩
  | set key v =>
    rw [take]
    cases changed : g.set key v with
    | ok changed' => exact set_keeps changed
    | error fault => exact ⟨rfl, rfl⟩

/-- No history changes the module or the style in force. -/
theorem run_keeps (g : Generator) (moves : List Move) :
    (g.run moves).module = g.module ∧ (g.run moves).style = g.style := by
  induction moves generalizing g with
  | nil => exact ⟨rfl, rfl⟩
  | cons move rest ih =>
    obtain ⟨module, style⟩ := ih (g.take move).1
    obtain ⟨module', style'⟩ := g.take_keeps move
    exact ⟨module.trans module', style.trans style'⟩

theorem set_style_invalid {v : Json} (folly : v ≠ .str "folly") (std : v ≠ .str "std") :
    g.set Config.styleKey v = .error (.unknownChoice .optionalStyle v) := by
  cases read : styleOf v with
  | ok style =>
    rcases style_readable.mp ⟨style, read⟩ with same | same
    · exact absurd same folly
    · exact absurd same std
  | error fault =>
    rw [set, if_pos rfl, read, style_error read]
    rfl

/-- Two generators that agree in all that their answers look at: neither the setting of the style
nor the one of running tasks on their own is among it. -/
structure Alike (g g' : Generator) : Prop where
  module : g.module = g'.module
  style : g.style = g'.style
  ignoring : g.config.ignoreStructs = g'.config.ignoreStructs
  ordering : g.config.orderStructs = g'.config.orderStructs
  commenting : g.config.addGenerationComment = g'.config.addGenerationComment

theorem Alike.selected (alike : Alike g g') : g.selected = g'.selected := by
  unfold Generator.selected selectStructs
  rw [alike.module, alike.ignoring, alike.ordering]

theorem Alike.structCodes (alike : Alike g g') : g.structCodes = g'.structCodes := by
  have coding : g.structCode = g'.structCode := by
    funext s
    rw [structCode, structCode, alike.module, alike.style]
  rw [structCodes_eq, structCodes_eq, alike.selected, coding]

theorem Alike.answer (alike : Alike g g') (q : Question) : g.answer q = g'.answer q := by
  cases q with
  | name => rw [Generator.answer, Generator.answer, alike.module]
  | selection => rw [Generator.answer, Generator.answer, alike.selected]
  | codes => rw [Generator.answer, Generator.answer, alike.structCodes]
  | header invocation =>
    have comment : g.comment invocation = g'.comment invocation := by
      rw [Generator.comment, Generator.comment, alike.commenting]
    rw [Generator.answer, Generator.answer, header, header, alike.structCodes, alike.style, comment]

/-- A header that exists is the code of the selected structs in the one style in force, also where
that style came unchecked. -/
theorem header_written {invocation : Option Invocation} {content : Text}
    (made : g.header invocation = .ok content) :
    ∃ style parts, g.style.resolve = .ok style ∧ g.parts = .ok parts ∧
      content = headerText style (parts.map (StructParts.code g.module.name.shown style))
        (g.comment invocation) := by
  obtain ⟨_, style, _, _, _, resolved, _⟩ := header_ok made
  rw [header_eq_parts invocation resolved] at made
  obtain ⟨parts, parted, written⟩ := ok_of_map made
  exact ⟨style, parts, resolved, parted, written.symm⟩

end Generator

open Generator

/-- Whatever was done with a generator, it answers as one made now in the style of then. -/
theorem answers_are_fresh {source : Source} {nameGiven : Json} {config : Config} {g now : Generator}
    {moves : List Move} (made : Generator.make source nameGiven config = .ok g)
    (reached : g.run moves = now) :
    (∀ q, (now.take (.ask q)).1 = now) ∧
    (∀ v, v ≠ .str "folly" → v ≠ .str "std" →
      now.take (.set Config.styleKey v) = (now, .error (.unknownChoice .optionalStyle v))) ∧
    (∃ fresh, Generator.make source nameGiven
        { now.config with optionalStyle := config.optionalStyle } = .ok fresh ∧
      ∀ q, (now.take (.ask q)).2 = (fresh.take (.ask q)).2) ∧
    (∀ invocation content, now.header invocation = .ok content →
      ∃ style parts pieces, config.optionalStyle.resolve = .ok style ∧ now.parts = .ok parts ∧
        content = spell style pieces ∧
        ∀ style', headerText style' (parts.map (StructParts.code now.module.name.shown style'))
          (now.comment invocation) = spell style' pieces) ∧
    (∀ v, ∃ after, now.take (.set Config.parallelKey v) = (after, .ok none) ∧
      after.config.parallel = v ∧ ∀ q, after.answer q = now.answer q) ∧
    ∀ structs, now.selected = .ok structs → ∀ order,
      (collect (finished now.structCode structs order) = none ∨
        collect (finished now.structCode structs order) = some now.structCodes) ∧
      ((∀ i < structs.length, i ∈ order) →
        collect (finished now.structCode structs order) = some now.structCodes) := by
  obtain ⟨m, resolved, rfl⟩ := make_ok_iff.mp made
  obtain ⟨module, style⟩ := run_keeps ⟨m, config.optionalStyle, config⟩ moves
  rw [reached] at module style
  refine ⟨fun _ => rfl, ?invalid, ?fresh, ?styled, ?parallel, ?order⟩
  case invalid =>
    intro v folly std
    rw [take, set_style_invalid folly std]
  case fresh =>
    -- The style of then is all that is fetched back: answers read the other settings when asked.
    let current : Config := { now.config with optionalStyle := config.optionalStyle }
    have alike : Alike now ⟨m, config.optionalStyle, current⟩ := ⟨module, style, rfl, rfl, rfl⟩
    refine ⟨_, make_ok_iff.mpr ⟨m, resolved, rfl⟩, ?_⟩
    intro q
    exact congrArg (Except.map some) (alike.answer q)
  case styled =>
    intro invocation content given
    obtain ⟨used, parts, inForce, parted, written⟩ := header_written given
    obtain ⟨pieces, spelled⟩ := headerText_spelled parts (now.comment invocation)
    rw [style] at inForce
    exact ⟨used, parts, pieces, inForce, parted, written.trans (spelled used), spelled⟩
  case parallel =>
    intro v
    let current : Config := { now.config with parallel := v }
    have alike : Alike ⟨now.module, now.style, current⟩ now := ⟨rfl, rfl, rfl, rfl, rfl⟩
    refine ⟨⟨now.module, now.style, current⟩, ?_, rfl, alike.answer⟩
    rw [take, set_parallel]
  case order =>
    intro structs selected order
    have inTurn : now.structCodes = structs.mapM now.structCode := by
      rw [structCodes_eq, selected, ok_bind]
    rw [inTurn]
    exact ⟨collect_finished now.structCode structs order, collect_all now.structCode⟩

/-- Changes of the maps: to the other style, to none of the two, and to tasks that run on their
own. -/
def mapsMoves : List Move :=
  [.set Config.styleKey (.str "std"), .ask .codes, .set Config.styleKey (.str "boost"),
    .set Config.parallelKey (.bool true)]

def changedMaps : Generator :=
  ⟨maps.module, .style .folly,
    { Config.standard with optionalStyle := .style .std, parallel := .bool true }⟩

theorem changedMaps_keep_style :
    ∃ g, Generator.make (.module maps.module) .null .standard = .ok g ∧
      g.run mapsMoves = changedMaps ∧
      ∃ content pieces, changedMaps.header none = .ok content ∧ content = spell .folly pieces ∧
        ∃ fresh, Generator.make (.module maps.module) .null
            { changedMaps.config with optionalStyle := .style .folly } = .ok fresh ∧
          fresh.header none = .ok content := by
  have made : Generator.make (.module maps.module) .null .standard =
      .ok ⟨maps.module, .style .folly, .standard⟩ := rfl
  have reached : Generator.run ⟨maps.module, .style .folly, .standard⟩ mapsMoves = changedMaps := by
    with_unfolding_all rfl
  obtain ⟨content, given⟩ : ∃ content, changedMaps.header none = .ok content := ⟨_, rfl⟩
  obtain ⟨_, _, ⟨fresh, remade, same⟩, styled, _⟩ := answers_are_fresh made reached
  obtain ⟨style, _, pieces, inForce, _, spelled, _⟩ := styled none content given
  obtain rfl := (Except.ok.inj inForce).symm
  have again : fresh.header none = .ok content := by
    have answers := same (.header none)
    simp only [take, Generator.answer, given] at answers
    obtain ⟨_, answered, sameAnswer⟩ := ok_of_map answers.symm
    obtain ⟨content', header, rfl⟩ := ok_of_map answered
    obtain rfl := Answer.header.inj (Option.some.inj sameAnswer)
    exact header
  exact ⟨_, made, reached, content, pieces, given, spelled, fresh, remade, again⟩

end StructBridge
