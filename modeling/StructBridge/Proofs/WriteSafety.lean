import StructBridge.Generator
import StructBridge.Proofs.WriteOutcome

/-!
Runs of writes, each to a path of its own and each free to fail. After any run a file holds what the
last finished write to it was given, or what it held before; every step is safe where it is taken.
-/
namespace StructBridge
open Code Files Command

namespace Files.Disk

def fileAt? (d : Disk) (l : Location) : Option String :=
  match d.entry? l with
  | some (.file content) => some content
  | _ => none

theorem fileAt_of_entry {d d' : Disk} {k l : Location} (same : d'.entry? k = d.entry? l) :
    fileAt? d' k = d.fileAt? l := by
  unfold fileAt?
  rw [same]

theorem KeptOrMade.fileAt {p : Path} {d d' : Disk} {l : Location} (kept : KeptOrMade p d d' l) :
    fileAt? d' l = d.fileAt? l := by
  rcases kept with same | ⟨absent, made, _⟩
  · exact fileAt_of_entry same
  · unfold fileAt?
    rw [absent, made]

theorem readFile_of_target {d : Disk} {p : Path} {l : Location} {content : String}
    (named : d.target? p = some l) (held : d.fileAt? l = some content) :
    d.readFile p = .ok content := by
  obtain ⟨directory, name, located, rfl⟩ := target_eq_some_iff.mp named
  unfold fileAt? at held
  split at held
  · rename_i present
    obtain rfl := Option.some.inj held
    simp only [readFile, look, located, ok_bind, present]
    rfl
  · cases held

theorem target_of_readFile {d : Disk} {p : Path} {content : String}
    (read : d.readFile p = .ok content) :
    ∃ l, d.target? p = some l ∧ d.fileAt? l = some content := by
  obtain ⟨e, seen, read⟩ := ok_of_bind read
  cases e with
  | directory => cases read
  | file held =>
    obtain rfl := Except.ok.inj read
    obtain ⟨place, located, seen⟩ := ok_of_bind seen
    cases place with
    | unnamed directory => cases seen
    | named directory name =>
      dsimp only at seen
      split at seen
      · rename_i e present
        obtain rfl := Except.ok.inj seen
        refine ⟨_, target_eq_some_iff.mpr ⟨directory, name, located, rfl⟩, ?_⟩
        rw [fileAt?, present]
      · cases seen

end Files.Disk

inductive Action where
  | write (inspection : Inspection) (p : Path) (content : Text) (validate : Bool)
  | writeNew (inspection : Inspection) (p : Path) (content : Text) (validate : Bool)
  | generate (g : Generator) (invocation : Option Invocation) (p : Path)

namespace Action
open Disk

def path : Action → Path
  | write _ p _ _ => p
  | writeNew _ p _ _ => p
  | generate _ _ p => p

def perform (d : Disk) : Action → Writing
  | write inspection p content validate => d.writeAtomically inspection p content validate
  | writeNew inspection p content validate => d.writeNew inspection p content validate
  | generate g invocation p => g.write invocation d p

def content? : Action → Option Text
  | write _ _ content _ => some content
  | writeNew _ _ content _ => some content
  | generate g invocation _ => (g.header invocation).toOption

def encoded? (a : Action) : Option String := a.content?.bind Text.string?

def Encodable (a : Action) : Prop := ∀ content, a.content? = some content → content.string? ≠ none

def run (d : Disk) (actions : List Action) : Disk :=
  actions.foldl (fun d a => (a.perform d).disk) d

/-- What a step leaves at a place when it finishes there. -/
def written? (d : Disk) (a : Action) (l : Location) : Option String :=
  match (a.perform d).result with
  | .ok () => if Disk.target? (a.perform d).disk a.path = some l then a.encoded? else none
  | .error _ => none

def lastWritten? (l : Location) : Disk → List Action → Option String
  | _, [] => none
  | d, a :: rest => (lastWritten? l (a.perform d).disk rest).or (a.written? d l)

structure Safe (d : Disk) (a : Action) : Prop where
  refused : ∀ fault, (a.perform d).result = .error fault → Grown a.path.parent d (a.perform d).disk
  written : (a.perform d).result = .ok () →
    ∃ l content, a.encoded? = some content ∧ Disk.target? (a.perform d).disk a.path = some l ∧
      Disk.readFile (a.perform d).disk a.path = .ok content ∧ d.entry? l ≠ some .directory ∧
      ∀ k, k ≠ l → KeptOrMade a.path.parent d (a.perform d).disk k
  undrafted : ∀ draft, Disk.draftOf (d.ensureDirectory a.path.parent).1 a.path = .ok draft →
    Disk.entry? (a.perform d).disk draft = none
  tree : IsTree d → IsTree (a.perform d).disk

/-- Where an action could write its file, it has an encoding for it. -/
def Fills (d : Disk) (a : Action) : Prop :=
  ∀ content l, a.content? = some content → d.writable a.path = .ok l → content.string? ≠ none

theorem Encodable.fills {a : Action} (encodable : a.Encodable) (d : Disk) : a.Fills d :=
  fun content _ given _ => encodable content given

theorem ends {a : Action} {d : Disk} (fills : a.Fills d) :
    Ends d a.path a.encoded? (a.perform d) := by
  cases a with
  | write inspection p content validate => exact writeAtomically_ends
  | writeNew inspection p content validate => exact unlessFound_ends writeAtomically_ends
  | generate g invocation p =>
    change Ends d p _ (g.write invocation d p)
    unfold Generator.write
    split
    · exact failed_ends d p _ _
    rename_i content made
    have given : content? (.generate g invocation p) = some content := by
      change (g.header invocation).toOption = some content
      rw [made]
      rfl
    have encoded : encoded? (.generate g invocation p) = content.string? := by
      unfold encoded?
      rw [given]
      rfl
    split
    · rw [encoded]
      exact writeHeader_ends fun l => fills content l given
    · exact failed_ends d p _ _
    · exact failed_ends d p _ _

theorem fileAt_perform {a : Action} (encodable : a.Encodable) (d : Disk) (l : Location) :
    Disk.fileAt? (a.perform d).disk l = (a.written? d l).or (d.fileAt? l) := by
  unfold written?
  rcases ends (encodable.fills d) with
    ⟨fault, result, prepared⟩ | ⟨d', target, content, result, prepared, given, filled, named⟩
  · rw [result]
    exact (prepared.grown.entries l).fileAt
  · rw [result]
    dsimp only
    rw [named, given]
    by_cases here : target = l
    · subst here
      unfold fileAt?
      rw [filled.entries, if_pos rfl, if_pos rfl]
      rfl
    · have elsewhere : ¬some target = some l := fun same => here (Option.some.inj same)
      rw [if_neg elsewhere, fileAt_of_entry ((filled.entries l).trans (if_neg (Ne.symm here)))]
      exact (prepared.grown.entries l).fileAt

theorem safe_of_fills {a : Action} {d : Disk} (fills : a.Fills d) : a.Safe d := by
  rcases ends fills with
    ⟨fault, result, prepared⟩ | ⟨d', l, content, result, prepared, given, filled, named⟩
  · constructor
    case refused =>
      intro _ _
      exact prepared.grown
    case written =>
      intro succeeded
      rw [succeeded] at result
      cases result
    case undrafted =>
      intro draft chosen
      exact prepared.spare draft (draftOf_apart chosen).2.1
    case tree => exact prepared.grown.isTree
  · constructor
    case refused =>
      intro fault failed
      rw [failed] at result
      cases result
    case written =>
      intro _
      have held : Disk.fileAt? (a.perform d).disk l = some content := by
        unfold fileAt?
        rw [filled.entries, if_pos rfl]
      have room : d.entry? l ≠ some .directory := fun present =>
        filled.room (prepared.grown.keeps.directories l present)
      refine ⟨l, content, given, named, readFile_of_target named held, room, ?_⟩
      intro k other
      exact (prepared.grown.entries k).of_entry filled.keeps
        ((filled.entries k).trans (if_neg other))
    case undrafted =>
      intro draft chosen
      obtain ⟨below, free, apart⟩ := draftOf_apart chosen
      obtain ⟨directory, name, located, rfl⟩ := target_eq_some_iff.mp named
      have called : name = a.path.name := by simp [Path.name, (locate_named located).1]
      rw [filled.entries, if_neg (called ▸ apart directory)]
      exact prepared.spare draft free
    case tree =>
      intro tree
      exact filled.isTree named (prepared.grown.isTree tree)

theorem step_safe {a : Action} (encodable : a.Encodable) (d : Disk) : a.Safe d :=
  safe_of_fills (encodable.fills d)

theorem run_isTree {actions : List Action} (encodable : ∀ a ∈ actions, a.Encodable) {d : Disk}
    (tree : IsTree d) : IsTree (run d actions) := by
  induction actions generalizing d with
  | nil => exact tree
  | cons a rest ih =>
    exact ih (fun b later => encodable b (List.mem_cons_of_mem a later))
      ((step_safe (encodable a (by simp)) d).tree tree)

theorem run_fileAt {actions : List Action} (encodable : ∀ a ∈ actions, a.Encodable) (d : Disk)
    (l : Location) :
    Disk.fileAt? (run d actions) l = (lastWritten? l d actions).or (d.fileAt? l) := by
  induction actions generalizing d with
  | nil => rfl
  | cons a rest ih =>
    change Disk.fileAt? (run (a.perform d).disk rest) l = _
    rw [ih (fun b later => encodable b (List.mem_cons_of_mem a later)),
      fileAt_perform (encodable a (by simp)), lastWritten?, Option.or_assoc]

theorem runs_are_safe {actions : List Action} (encodable : ∀ a ∈ actions, a.Encodable)
    {d : Disk} (tree : IsTree d) :
    IsTree (run d actions) ∧
      (∀ l, Disk.fileAt? (run d actions) l = (lastWritten? l d actions).or (d.fileAt? l)) ∧
      ∀ before a after, actions = before ++ a :: after → a.Safe (run d before) := by
  refine ⟨run_isTree encodable tree, run_fileAt encodable d, ?_⟩
  rintro before a after rfl
  exact step_safe (encodable a (by simp)) (run d before)

theorem lastWritten_append (l : Location) (d : Disk) (before after : List Action) :
    lastWritten? l d (before ++ after) =
      (lastWritten? l (run d before) after).or (lastWritten? l d before) := by
  induction before generalizing d with
  | nil => simp [run, lastWritten?]
  | cons a rest ih =>
    rw [List.cons_append, lastWritten?, lastWritten?, ih, Option.or_assoc]
    rfl

theorem written_done {a : Action} {d d' : Disk} {inspected : Bool} {place : Location} {e : String}
    (done : a.perform d = ⟨d', inspected, .ok ()⟩) (named : d'.target? a.path = some place)
    (encoded : a.encoded? = some e) (l : Location) :
    a.written? d l = if place = l then some e else none := by
  unfold written?
  rw [done]
  dsimp only
  rw [named, encoded]
  simp only [Option.some.injEq]

def shelf : Disk := ⟨[(["out"], .directory), (["out", "old.h"], .file "old")], []⟩

def unmappableMaps : Generator :=
  ⟨⟨.str "Maps", [⟨.regular, .str "Pin", [⟨.str "at", .reserved (.str "Other"), false⟩]⟩]⟩,
    .style .folly, Config.standard⟩

/-- One write that makes its directory, one whose draft is taken away before it is rejected, one
that finds its file there already, and one that has no header to write. -/
def visits : List Action := [
  .write .standard (Path.ofText "out/new/a.h") "first" false,
  .write ⟨fun _ => some .importMissing, true⟩ (Path.ofText "out/old.h") "second" true,
  .writeNew .standard (Path.ofText "out/new/a.h") "third" false,
  .generate unmappableMaps none (Path.ofText "out/maps.h")]

/-- A generator of one struct, which writes with or without a draft. -/
def pinMaps (atomic : Bool) : Generator :=
  let output : OutputSettings := { OutputSettings.standard with atomicWrite := .bool atomic }
  ⟨⟨.str "Maps", [⟨.regular, .str "Pin", []⟩]⟩, .style .folly,
    { Config.standard with output := some (.settings output) }⟩

theorem pinMaps_header : ∃ content encoded, (∀ atomic, (pinMaps atomic).header none = .ok content) ∧
    content.string? = some encoded ∧ verdict content true = none := by
  let content := headerText .folly [⟨declarationText "Maps" "Pin" [], ""⟩]
    ("// Generated by objc_struct_codegen v1.0.0 : " ++ lineText programName none)
  have checked : content.string? ≠ none ∧ verdict content true = none := by
    unfold content verdict headerText opening commentText importText requiredImports
      OptionalStyle.importName closing declarationText lineText programName
    repeat rw [Text.ofString_literal]
    decide +kernel
  obtain ⟨encodes, passes⟩ := checked
  obtain ⟨encoded, given⟩ := Option.ne_none_iff_exists'.mp encodes
  exact ⟨content, encoded, fun _ => by with_unfolding_all rfl, given, passes⟩

def draftedPlace : Location := ["out", "pin.h"]

def plainPlace : Location := ["out", "new", "pin.h"]

def draftedPath : Path := ⟨.none, draftedPlace⟩

def plainPath : Path := ⟨.none, plainPlace⟩

/-- A header written over a draft and one written in place. -/
def deliveries : List Action :=
  [.generate (pinMaps true) none draftedPath, .generate (pinMaps false) none plainPath]

/-- The tree after the visits. -/
def visited : Disk :=
  ⟨[(["out"], .directory), (["out", "old.h"], .file "old"), (["out", "new"], .directory),
    (["out", "new", "a.h"], .file "first")], []⟩

theorem run_visits : run shelf visits = visited := by
  with_unfolding_all rfl

section Deliveries

variable {content : Text} {encoded : String}
  (header : ∀ atomic, (pinMaps atomic).header none = .ok content)
  (given : content.string? = some encoded) (passes : verdict content true = none)
include header given

theorem encoded_delivery (atomic : Bool) (p : Path) :
    encoded? (.generate (pinMaps atomic) none p) = some encoded := by
  change ((pinMaps atomic).header none).toOption.bind Text.string? = some encoded
  rw [header]
  exact given

theorem deliveries_encodable : ∀ a ∈ deliveries, a.Encodable := by
  intro a member content' made
  have made : some content = some content' := by
    simp only [deliveries, List.mem_cons, List.not_mem_nil, or_false] at member
    rcases member with rfl | rfl
    · exact (congrArg Except.toOption (header true)).symm.trans made
    · exact (congrArg Except.toOption (header false)).symm.trans made
  obtain rfl := Option.some.inj made
  rw [given]
  exact Option.some_ne_none _

include passes

theorem drafted_delivery : perform visited (.generate (pinMaps true) none draftedPath) =
    ⟨visited.put draftedPlace (.file encoded), true, .ok ()⟩ := by
  let draft : Location := ["out", draftName "pin.h" 0]
  have around : visited.isDirectory draftedPath.parent = true := by with_unfolding_all rfl
  have chosen : visited.draftOf draftedPath = .ok draft := by with_unfolding_all rfl
  have run : (visited.put draft (.file encoded)).moveFile draft draftedPath =
      .ok (visited.put draftedPlace (.file encoded)) := by with_unfolding_all rfl
  have free : visited.found? draftedPath = .ok none := by with_unfolding_all rfl
  change (pinMaps true).write none visited draftedPath = _
  rw [Generator.write, header]
  change visited.unlessFound draftedPath
    (visited.writeAtomically .standard draftedPath content true) = _
  rw [unlessFound, free, atomic_moved around chosen given passes run]

theorem plain_delivery (d : Disk) (allowed : d.writable plainPath = .ok plainPlace)
    (free : d.found? plainPath = .ok none) :
    perform d (.generate (pinMaps false) none plainPath) =
      ⟨d.put plainPlace (.file encoded), true, .ok ()⟩ := by
  change (pinMaps false).write none d plainPath = _
  rw [Generator.write, header]
  change d.unlessFound plainPath (d.writeInPlace plainPath content true) = _
  rw [unlessFound, free, plain_written passes allowed given]

/-- What the deliveries leave at a place. -/
theorem lastWritten_deliveries (l : Location) :
    lastWritten? l visited deliveries =
      (if plainPlace = l then some encoded else none).or
        (if draftedPlace = l then some encoded else none) := by
  have drafted := drafted_delivery header given passes
  have plain := plain_delivery header given passes (visited.put draftedPlace (.file encoded))
    (by with_unfolding_all rfl) (by with_unfolding_all rfl)
  have first : Disk.target? (visited.put draftedPlace (.file encoded)) draftedPath =
      some draftedPlace := by with_unfolding_all rfl
  have second : Disk.target? ((visited.put draftedPlace (.file encoded)).put plainPlace
      (.file encoded)) plainPath = some plainPlace := by with_unfolding_all rfl
  have encodes := encoded_delivery header given
  rw [deliveries, lastWritten?, lastWritten?, lastWritten?, drafted, Option.none_or,
    written_done plain second (encodes false plainPath),
    written_done drafted first (encodes true draftedPath)]

end Deliveries

theorem visits_encodable : ∀ a ∈ visits, a.Encodable := by
  intro a member content given
  simp only [visits, List.mem_cons, List.not_mem_nil, or_false] at member
  rcases member with rfl | rfl | rfl | rfl
  · obtain rfl := Option.some.inj given
    decide
  · obtain rfl := Option.some.inj given
    decide
  · obtain rfl := Option.some.inj given
    decide
  · have stopped : (unmappableMaps.header none).toOption = none := rfl
    exact nomatch stopped.symm.trans given

theorem shelf_isTree : IsTree shelf := by
  constructor
  · rfl
  · intro l name present
    obtain ⟨e, present⟩ := Option.ne_none_iff_exists'.mp present
    have among := mem_entries (by simp) present
    have above : l = (l ++ [name]).dropLast := by simp
    simp only [shelf, List.map_cons, List.map_nil, List.mem_cons, List.not_mem_nil,
      or_false] at among
    rcases among with here | here
    · rw [above, here]
      rfl
    · rw [above, here]
      rfl

/-- After all steps each file holds what the last finished write to it was given, or what it held
before. -/
theorem shelf_after_visits :
    (∀ a ∈ visits ++ deliveries, a.Encodable) ∧ IsTree shelf ∧
      Disk.fileAt? (run shelf (visits ++ deliveries)) ["out", "new", "a.h"] = some "first" ∧
      Disk.fileAt? (run shelf (visits ++ deliveries)) ["out", "old.h"] = some "old" ∧
      ∃ content encoded, (∀ atomic, (pinMaps atomic).header none = .ok content) ∧
        content.string? = some encoded ∧
        Disk.fileAt? (run shelf (visits ++ deliveries)) draftedPlace = some encoded ∧
        Disk.fileAt? (run shelf (visits ++ deliveries)) plainPlace = some encoded := by
  obtain ⟨content, encoded, header, given, passes⟩ := pinMaps_header
  have encodable : ∀ a ∈ visits ++ deliveries, a.Encodable :=
    List.forall_mem_append.mpr ⟨visits_encodable, deliveries_encodable header given⟩
  obtain ⟨_, files, _⟩ := runs_are_safe encodable shelf_isTree
  simp only [files, lastWritten_append, run_visits, lastWritten_deliveries header given passes]
  refine ⟨encodable, shelf_isTree, ?_, ?_, content, encoded, header, given, ?_, ?_⟩
  · rw [if_neg (by decide), if_neg (by decide)]
    decide
  · rw [if_neg (by decide), if_neg (by decide)]
    decide
  · rw [if_neg (by decide), if_pos trivial]
    rfl
  · rw [if_pos trivial]
    rfl

end Action
end StructBridge
