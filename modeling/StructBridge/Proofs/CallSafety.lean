import StructBridge.Proofs.CallText
import StructBridge.Proofs.WriteSafety

/-!
One call as a whole. A call that fails changes no file, and makes directories only once there is a
header to put in them; one that succeeds writes the header that its words ask for, to the one file
that they name.
-/
namespace StructBridge.Command
open Schema Code Text Files Disk

/-- The value that the file at a location holds. -/
def HoldsJson (d : Disk) (l : Location) (v : Json) : Prop :=
  ∃ content, d.readFile (absolutePath l) = .ok content ∧ Json.read content = .ok v

/-- The settings that a call starts from. -/
inductive BaseConfig (d : Disk) (r : Request) : Config → Prop where
  | standard (none : r.config = none) : BaseConfig d r .standard
  | file {l : Location} {v : Json} {config : Config} (given : r.config = some l)
      (holds : HoldsJson d l v) (read : Config.ofJson v = .ok config) : BaseConfig d r config

/-- What the options of a call make of the settings: its style stands for any other, and its force
for any other mode. -/
structure Overrides (r : Request) (base config : Config) : Prop where
  style : config.optionalStyle = r.optionalStyle.elim base.optionalStyle .style
  forced : r.force = true → ∃ s, base.output = some (.settings s) ∧
    config.output = some (.settings { s with mode := .mode .force })
  unforced : r.force = false → config.output = base.output
  others : config = { base with optionalStyle := config.optionalStyle, output := config.output }

/-- The name that a call gives to the module, null where the model's own is to stand. -/
inductive NameFor (r : Request) (model : Json) : Json → Prop where
  | given {t : Text} (named : r.name = some t) : NameFor r model (.str t)
  | own (unnamed : r.name = none) (has : (model.fieldD "moduleName" .null).truthy = true) :
      NameFor r model .null
  | stem (unnamed : r.name = none) (lacks : (model.fieldD "moduleName" .null).truthy = false) :
      NameFor r model (.str (absolutePath r.model).stem)

/-- The request and the generator that the words of a call stand for. -/
structure Asks (d : Disk) (words : List Text) (r : Request) (g : Generator) : Prop where
  request : ∃ a, readArguments words = .ok a ∧ Request.of d a = .ok r
  settings : ∃ base, BaseConfig d r base ∧ Overrides r base g.config
  generator : ∃ model name, HoldsJson d r.model model ∧ NameFor r model name ∧
    Generator.make (.model model) name g.config = .ok g

section Stages

variable {d : Disk} {r : Request}

theorem holds_of_readJson {l : Location} {v : Json} (run : readJson d l = .ok v) :
    HoldsJson d l v := by
  obtain ⟨content, present, run⟩ := ok_of_bind run
  exact ⟨content, ok_of_mapError present, ok_of_mapError run⟩

/-- The settings before the options of the call count. -/
def baseOf (r : Request) (d : Disk) : Except Crash Config :=
  match r.config with
  | some l => do (Config.ofJson (← readJson d l)).mapError Crash.fault
  | none => .ok .standard

def override (r : Request) (base : Config) : Except Crash Config :=
  let config := { base with optionalStyle := r.optionalStyle.elim base.optionalStyle .style }
  if r.force then config.forced.mapError Crash.fault else .ok config

theorem settings_eq (r : Request) (d : Disk) : r.settings d = baseOf r d >>= override r := by
  unfold Request.settings baseOf override
  cases r.config with
  | none => cases r.optionalStyle <;> rfl
  | some l =>
    dsimp only
    cases readJson d l with
    | error crash => rfl
    | ok v =>
      simp only [ok_bind]
      cases Config.ofJson v with
      | error fault => rfl
      | ok base => cases r.optionalStyle <;> rfl

theorem base_ok {base : Config} (run : baseOf r d = .ok base) : BaseConfig d r base := by
  unfold baseOf at run
  split at run
  · rename_i l given
    obtain ⟨v, holds, read⟩ := ok_of_bind run
    exact .file given (holds_of_readJson holds) (ok_of_mapError read)
  · rename_i given
    obtain rfl := Except.ok.inj run
    exact .standard given

theorem override_ok {base config : Config} (run : override r base = .ok config) :
    Overrides r base config := by
  unfold override at run
  dsimp only at run
  cases force : r.force with
  | false =>
    rw [force] at run
    obtain rfl := Except.ok.inj run
    exact ⟨rfl, fun on => absurd (force.symm.trans on) Bool.false_ne_true, fun _ => rfl, rfl⟩
  | true =>
    rw [force, if_pos rfl] at run
    have forced := ok_of_mapError run
    unfold Config.forced at forced
    dsimp only at forced
    split at forced
    · rename_i s held
      obtain rfl := Except.ok.inj forced
      exact ⟨rfl, fun _ => ⟨s, held, rfl⟩,
        fun off => absurd (off.symm.trans force) Bool.false_ne_true, rfl⟩
    · cases forced
    · cases forced

theorem nameFor_moduleName (model : Json) : NameFor r model (r.moduleName model) := by
  unfold Request.moduleName
  cases named : r.name with
  | some t => exact .given named
  | none =>
    dsimp only
    split
    · rename_i has
      exact .own named has
    · rename_i lacks
      exact .stem named (Bool.eq_false_iff.mpr lacks)

/-- The write that ends a call which got that far. -/
def writing (d : Disk) (r : Request) (g : Generator) : Writing :=
  g.write (some r.invocation) d (absolutePath r.output)

/-- How a call goes: it stops with the disk as it was, or comes to its write. -/
inductive Course (d : Disk) (words : List Text) : Run → Prop where
  | stopped {result : Run} (failed : result.ending.exitCode ≠ 0) (same : result.disk = d) :
      Course d words result
  | wrote {result : Run} {r : Request} {g : Generator} (asks : Asks d words r g)
      (exits : result.ending.exitCode = 0 ↔ (writing d r g).result = .ok ())
      (left : result.disk = (writing d r g).disk) : Course d words result

theorem exitCode_ofFault (fault : Fault) : (Ending.ofFault fault).exitCode ≠ 0 := by
  unfold Ending.ofFault
  split <;> exact Nat.one_ne_zero

/-- How a call ends that came to its write. -/
def endingOf : Except Fault Unit → Ending
  | .ok () => .done
  | .error fault => .ofFault fault

theorem exitCode_endingOf (result : Except Fault Unit) :
    (endingOf result).exitCode = 0 ↔ result = .ok () := by
  cases result with
  | ok _ => simp [endingOf, Ending.exitCode]
  | error fault => simp [endingOf, exitCode_ofFault fault]

theorem request_course {words : List Text}
    (understood : ∃ a, readArguments words = .ok a ∧ Request.of d a = .ok r) :
    Course d words (r.run d) := by
  unfold Request.run
  split
  · exact .stopped Nat.one_ne_zero rfl
  · rename_i model config inputs
    obtain ⟨v, read, inputs⟩ := ok_of_bind inputs
    obtain ⟨config', configured, inputs⟩ := ok_of_bind inputs
    obtain ⟨rfl, rfl⟩ := Prod.mk.inj (Except.ok.inj inputs)
    rw [settings_eq] at configured
    obtain ⟨base, start, overridden⟩ := ok_of_bind configured
    split
    · exact .stopped (exitCode_ofFault _) rfl
    · rename_i g made
      have config : g.config = config' := by
        obtain ⟨m, _, rfl⟩ := Generator.make_ok_iff.mp made
        rfl
      subst config
      refine .wrote (r := r) (g := g) ⟨understood, ⟨base, base_ok start, override_ok overridden⟩,
        v, _, holds_of_readJson read, nameFor_moduleName v, made⟩ ?_ rfl
      exact exitCode_endingOf (writing d r g).result

theorem run_course {words : List Text} (asked : (run d words).ending ≠ .help) :
    Course d words (run d words) := by
  unfold run at asked ⊢
  split
  · exact .stopped (by simp [Ending.exitCode]) rfl
  rename_i a read
  split
  · rename_i help
    rw [read] at asked
    simp [help] at asked
  split
  · exact .stopped (by simp [Ending.exitCode]) rfl
  · exact .stopped (by simp [Ending.exitCode]) rfl
  · rename_i r request
    have course := request_course ⟨a, read, request⟩
    dsimp only
    split
    · exact course
    · cases course with
      | stopped failed same => exact .stopped failed same
      | wrote asks exits left => exact .wrote asks exits left

/-- What a write has to get to before it touches the disk. -/
theorem writing_untouched {g : Generator} {invocation : Option Invocation} {p : Path} :
    (g.write invocation d p).disk = d ∨
      ∃ content s, g.header invocation = .ok content ∧
        g.config.output = some (.settings s) ∧
        (keeps s.mode = true → d.found? p = .ok none) := by
  unfold Generator.write
  split
  · exact .inl rfl
  rename_i content made
  split
  · rename_i s held
    cases kept : keeps s.mode with
    | false =>
      exact .inr ⟨content, s, made, held,
        fun keeps => absurd (kept.symm.trans keeps) Bool.false_ne_true⟩
    | true =>
      unfold writeHeader
      dsimp only
      rw [kept, if_pos rfl, unlessFound]
      split
      · exact .inl rfl
      · exact .inl rfl
      · rename_i free
        exact .inr ⟨content, s, made, held, fun _ => free⟩
  · exact .inl rfl
  · exact .inl rfl

end Stages

section Naming

variable {d : Disk} {r : Request} {given suits : Text → Prop}

/-- The files that a request needs can be read. -/
structure Request.Reads (r : Request) (d : Disk) : Prop where
  model : ∃ content, d.readFile (absolutePath r.model) = .ok content
  config : ∀ l, r.config = some l → ∃ content, d.readFile (absolutePath l) = .ok content

/-- The output leads, on this disk or on one made of it, to where there was no directory. -/
def Request.HasRoom (r : Request) (d : Disk) : Prop :=
  ∃ d' l, Disk.target? d' (absolutePath r.output) = some l ∧ d.entry? l ≠ some .directory

theorem named_of_readFile (working : Stands d d.workingDirectory) {l : Location}
    (placed : Placed d suits l) {content : String}
    (read : d.readFile (absolutePath l) = .ok content) : NamedBy suits l := by
  obtain ⟨l', named, held⟩ := target_of_readFile read
  refine placed.named working named ?_
  intro directory
  rw [fileAt?, directory] at held
  cases held

/-- A request that works with files names them all. -/
theorem RequestHolds.named (working : Stands d d.workingDirectory)
    (placed : RequestHolds given (Placed d suits) r) (reads : r.Reads d) (room : r.HasRoom d) :
    RequestHolds given (NamedBy suits) r := by
  obtain ⟨content, held⟩ := reads.model
  obtain ⟨d', l, named, free⟩ := room
  refine ⟨placed.name, ?_, named_of_readFile working placed.model held,
    placed.output.named working named free⟩
  intro l given
  obtain ⟨content, held⟩ := reads.config l given
  exact named_of_readFile working (placed.config l given) held

end Naming

/-- A call none of whose texts holds a surrogate that stands alone: its words and the values in
files of JSON. -/
structure EncodableCall (d : Disk) (words : List Text) : Prop where
  words : ∀ w ∈ words, Over IsCharacter w
  values : ∀ l content v, d.fileAt? l = some content → Json.read content = .ok v → v.Encodable

section Safety

variable {d : Disk} {words : List Text} {r : Request} {g : Generator}

theorem encodable_of_holds {l : Location} {v : Json} (encodable : EncodableCall d words)
    (holds : HoldsJson d l v) : v.Encodable := by
  obtain ⟨content, present, read⟩ := holds
  obtain ⟨l, _, held⟩ := target_of_readFile present
  exact encodable.values l content v held read

theorem stem_characters {p : Path} (name : Over IsCharacter p.name) : Over IsCharacter p.stem := by
  unfold Path.stem Path.stemOf
  dsimp only
  split
  · exact name
  · exact over_of_subset (fun c member => (List.take_sublist _ _).subset member) name

theorem Asks.reads (asks : Asks d words r g) : r.Reads d := by
  obtain ⟨base, start, _⟩ := asks.settings
  obtain ⟨model, _, ⟨content, held, _⟩, _⟩ := asks.generator
  refine ⟨⟨content, held⟩, ?_⟩
  intro l given
  cases start with
  | standard none => exact nomatch none.symm.trans given
  | file given' holds _ =>
    obtain rfl := Option.some.inj (given'.symm.trans given)
    obtain ⟨content, held, _⟩ := holds
    exact ⟨content, held⟩

theorem encodable_header {content : Text} (working : Stands d d.workingDirectory)
    (encodable : EncodableCall d words) (asks : Asks d words r g) (room : r.HasRoom d)
    (made : g.header (some r.invocation) = .ok content) : content.string? ≠ none := by
  obtain ⟨a, read, request⟩ := asks.request
  have arguments := readArguments_over encodable.words read
  have placed : RequestHolds (Over IsCharacter) (Placed d CharacterName) r :=
    requestOf_placed (fun _ _ found => value_over arguments found) arguments.words
      (fun t inside part member =>
        ⟨isComponent_of_mem member, componentsOf_over inside part member⟩) request
  have inside := placed.named working asks.reads room
  obtain ⟨model, name, holds, named, generator⟩ := asks.generator
  have given : name.Encodable := by
    cases named with
    | given named => exact Json.encodable_str (inside.name _ named)
    | own unnamed has => exact Json.encodable_null
    | stem unnamed lacks =>
      exact Json.encodable_str (stem_characters (name_characters inside.model))
  obtain ⟨m, resolved, called⟩ := Generator.make_ok_iff.mp generator
  have module : g.module = m := congrArg Generator.module called
  have names : ModuleNames (NameOver IsCharacter) g.module :=
    module ▸ Module.ofJson_over (encodable_of_holds encodable holds) given
      (startingAt_ok_iff.mp resolved)
  exact string_ne_none_iff.mpr (header_characters names (comment_characters inside) made)

/-- An output that could be written has a name from the words of the call, and so the header has an
encoding; where it could not, the encoding does not matter. -/
theorem writing_safe (working : Stands d d.workingDirectory) (encodable : EncodableCall d words)
    (asks : Asks d words r g) :
    Action.Safe d (.generate g (some r.invocation) (absolutePath r.output)) := by
  apply Action.safe_of_fills
  intro content l given allowed
  obtain ⟨_, named, room⟩ := writable_ok allowed
  exact encodable_header working encodable asks ⟨d, l, named, room⟩ (ok_of_toOption given)

end Safety

/-- A model without a name, in a file that gives it one. -/
def modelText : String := "\x7b\"structs\": []\x7d"

def desk : Disk := ⟨[(["maps.json"], .file modelText)], []⟩

def deskWords : List Text := ["maps.json", "out/maps.h", "--optional-style=std"]

theorem desk_encodable : EncodableCall desk deskWords := by
  have words : ∀ w ∈ deskWords, Over IsCharacter w := by
    simp only [deskWords, List.forall_mem_cons]
    exact ⟨characters_ofString _, characters_ofString _, characters_ofString _, nofun⟩
  refine ⟨words, ?_⟩
  intro l content v present read
  have only : content = modelText := by
    unfold fileAt? at present
    split at present
    · rename_i held found
      obtain rfl := Option.some.inj present
      unfold entry? desk at found
      rw [lookup_entry, List.lookup_nil] at found
      split at found
      · cases found
      split at found
      · cases found
        rfl
      · cases found
    · cases present
  have checked : (match Json.read modelText with
      | .ok v => decide v.Encodable
      | .error _ => true) = true := by
    decide +kernel
  rw [only] at read
  rw [read] at checked
  exact of_decide_eq_true checked

theorem ending_of_matches {result : Run} (checked : (result.ending matches .done) = true) :
    result.ending = .done := by
  cases ending : result.ending with
  | done => rfl
  | _ =>
    rw [ending] at checked
    cases checked

theorem desk_done : (run desk deskWords).ending = .done := ending_of_matches (by decide +kernel)

end StructBridge.Command
