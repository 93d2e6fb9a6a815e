import StructBridge.Proofs.CallSafety

/-!
What a header shows of the places that a call works with: of each path the last component, and
nothing of the directories around it. So the line in the comment has a slash only where the label of
a choice has one, and calls that differ in directories alone write one header.
-/
namespace StructBridge
open Text

/-- No separator of path components. -/
def Slashless (t : Text) : Prop := Over (· ≠ .char '/') t

theorem slashless_iff {t : Text} : Slashless t ↔ .char '/' ∉ t := by
  constructor
  · intro each member
    exact each _ member rfl
  · intro absent c member same
    exact absent (same ▸ member)

instance (t : Text) : Decidable (Slashless t) :=
  inferInstanceAs (Decidable (Over (· ≠ .char '/') t))

namespace Binary64

theorem slash_not_mem_digits (n : Nat) : '/' ∉ Nat.toDigits 10 n := by
  intro member
  have digit := Nat.isDigit_of_mem_toDigits (by decide) (by decide) member
  cases digit

theorem slash_not_mem_zeros (n : Nat) : '/' ∉ zeros n := by
  intro member
  cases (List.mem_replicate.mp member).2

theorem slash_not_mem_layOut {ds : List Char} (absent : '/' ∉ ds) (l : Layout) (point : Int) :
    '/' ∉ layOut l ds point := by
  have start (n : Nat) : '/' ∉ ds.take n := fun member => absent (List.mem_of_mem_take member)
  have rest (n : Nat) : '/' ∉ ds.drop n := fun member => absent (List.mem_of_mem_drop member)
  have tail : '/' ∉ ds.tail := fun member => absent (List.mem_of_mem_tail member)
  unfold layOut
  dsimp only
  split
  · split
    · simp [absent, slash_not_mem_zeros]
    · split <;> simp [start, rest, slash_not_mem_zeros]
  · split <;> split <;> simp [start, tail, slash_not_mem_zeros, slash_not_mem_digits]

theorem text_slashless (x : Binary64) : Slashless x.text := by
  have characters (cs : List Char) (absent : '/' ∉ cs) :
      Slashless (ofString (String.ofList cs)) := by
    rw [ofString_literal, slashless_iff]
    simpa using absent
  cases x with
  | nan => exact characters _ (by decide)
  | infinite negative => cases negative <;> exact characters _ (by decide)
  | finite negative m q =>
    have body : '/' ∉ (if m = 0 then ['0', '.', '0'] else
        layOut layout (dropTrailingZeros (Nat.toDigits 10 (shortest m q).1))
          ((Nat.toDigits 10 (shortest m q).1).length + (shortest m q).2)) := by
      split
      · decide
      · apply slash_not_mem_layOut
        intro member
        have reversed := (List.dropWhile_sublist _).subset (List.mem_reverse.mp member)
        exact slash_not_mem_digits _ (List.mem_reverse.mp reversed)
    apply characters
    cases negative with
    | true => exact fun member => body ((List.mem_cons.mp member).resolve_left (by decide))
    | false => exact body

end Binary64

namespace Command
open Code Files Disk

section Lines

theorem finalName_slashless (t : Text) : Slashless (finalName t) := by
  rw [slashless_iff]
  unfold finalName Path.name
  cases last : (Path.ofText t).parts.getLast? with
  | none => exact fun member => nomatch member
  | some part => exact slash_not_mem_componentsOf (List.mem_of_getLast? last)

/-- The values that a parameter of a call can have: a scalar of JSON, a path, a choice under any
label or an empty sequence. -/
inductive Value.Admitted : Value → Prop
  | scalar {v : Json} (atomic : v.isKey = true) : Admitted (.scalar v)
  | path (t : Text) : Admitted (.path t)
  | choice (label : Text) : Admitted (.choice label)
  | none : Admitted .none

namespace Invocation

def values (i : Invocation) : List Value :=
  [i.name, i.config, i.optionalStyle, i.force, i.verbose, i.path, i.output]

/-- The values that the line shows. Of a flag it shows the name alone. -/
def displayed (i : Invocation) : List Value :=
  [i.name, i.config, i.optionalStyle, i.path, i.output]

theorem values_of_displayed {i : Invocation} {v : Value} (shown : v ∈ i.displayed) :
    v ∈ i.values := by
  simp only [displayed, values, List.mem_cons] at shown ⊢
  tauto

end Invocation

/-- A value that is shown without a slash: a choice only if its label has none. -/
structure Value.Unslashed (v : Value) : Prop where
  admitted : v.Admitted
  label : ∀ label, v = .choice label → Slashless label

theorem display_slashless {v : Value} (plain : v.Unslashed) : Slashless v.display := by
  obtain ⟨admitted, label⟩ := plain
  cases admitted with
  | path t => exact finalName_slashless t
  | choice t => exact label t rfl
  | none => exact over_literal (by decide)
  | @scalar v atomic =>
    cases v with
    | arr items => cases atomic
    | obj fields => cases atomic
    | null => exact over_literal (by decide)
    | bool b => cases b <;> exact over_literal (by decide)
    | float x => exact x.text_slashless
    | int n =>
      intro c member
      rcases numeral_value member with rfl | ⟨low, _⟩
      · decide
      · rintro rfl
        exact absurd low (by decide)
    | str t =>
      change Slashless (if looksLikePath t then finalName t else t)
      split
      · exact finalName_slashless t
      · rename_i plain
        rintro c member rfl
        exact plain (List.any_eq_true.mpr ⟨_, member, rfl⟩)

theorem asArgument_slashless {v : Value} (plain : v.Unslashed) :
    ∀ t ∈ v.asArgument, Slashless t := by
  unfold Value.asArgument
  split
  · exact List.forall_mem_singleton.mpr (display_slashless plain)
  · exact nofun

theorem asOption_slashless {option : Text} {v : Value} (labelled : Slashless option)
    (plain : v.Unslashed) : ∀ t ∈ v.asOption option, Slashless t := by
  unfold Value.asOption
  split
  · exact List.forall_mem_cons.mpr
      ⟨labelled, List.forall_mem_singleton.mpr (display_slashless plain)⟩
  · exact nofun

theorem asFlag_slashless {option : Text} (v : Value) (labelled : Slashless option) :
    ∀ t ∈ v.asFlag option, Slashless t := by
  unfold Value.asFlag
  split
  · exact List.forall_mem_singleton.mpr labelled
  · exact nofun

theorem words_slashless {i : Invocation} (plain : ∀ v ∈ i.displayed, v.Unslashed) :
    ∀ t ∈ i.words, Slashless t := by
  simp only [Invocation.displayed, List.forall_mem_cons] at plain
  obtain ⟨name, config, style, path, output, _⟩ := plain
  simp only [Invocation.words, List.forall_mem_append]
  exact ⟨⟨⟨⟨⟨⟨asArgument_slashless path, asArgument_slashless output⟩,
    asOption_slashless (over_literal (by decide)) name⟩,
    asOption_slashless (over_literal (by decide)) config⟩,
    asOption_slashless (over_literal (by decide)) style⟩,
    asFlag_slashless _ (over_literal (by decide))⟩,
    asFlag_slashless _ (over_literal (by decide))⟩

/-- A choice is shown by its label, as it is. -/
theorem label_shown {i : Invocation} {label : Text} (shown : .choice label ∈ i.displayed) :
    label ∈ i.words := by
  simp only [Invocation.displayed, List.mem_cons, List.not_mem_nil, or_false] at shown
  simp only [Invocation.words, List.mem_append]
  rcases shown with here | here | here | here | here <;>
    simp [← here, Value.asArgument, Value.asOption, Value.given, Value.display]

theorem mem_intercalate {separator t : Text} {ts : List Text} {c : CodePoint} (among : t ∈ ts)
    (member : c ∈ t) : c ∈ List.intercalate separator ts := by
  induction ts with
  | nil => cases among
  | cons first rest ih =>
    cases rest with
    | nil =>
      obtain rfl := List.mem_singleton.mp among
      rwa [List.intercalate_singleton]
    | cons second others =>
      rw [List.intercalate_cons_cons, List.mem_append, List.mem_append]
      rcases List.mem_cons.mp among with rfl | later
      · exact .inl (.inl member)
      · exact .inr (ih later)

/-- A slash in the line comes from the label of a choice. -/
theorem slash_mem_lineText_iff {program : Text} {invocation : Option Invocation}
    (unslashed : .char '/' ∉ program)
    (admitted : ∀ i, invocation = some i → ∀ v ∈ i.values, v.Admitted) :
    .char '/' ∈ lineText program invocation ↔
      ∃ i label, invocation = some i ∧ .choice label ∈ i.displayed ∧ .char '/' ∈ label := by
  constructor
  · intro member
    by_contra absent
    cases invocation with
    | none => exact unslashed member
    | some i =>
      have plain : ∀ v ∈ i.displayed, v.Unslashed := by
        intro v shown
        refine ⟨admitted i rfl v (Invocation.values_of_displayed shown), ?_⟩
        rintro label rfl
        exact slashless_iff.mpr fun slash => absent ⟨i, label, rfl, shown, slash⟩
      have line : Slashless (lineText program (some i)) :=
        over_intercalate (over_literal (by decide))
          (List.forall_mem_cons.mpr ⟨slashless_iff.mpr unslashed, words_slashless plain⟩)
      exact slashless_iff.mp line member
  · rintro ⟨i, label, rfl, shown, slash⟩
    exact mem_intercalate (List.mem_cons_of_mem program (label_shown shown)) slash

end Lines

section Calls

/-- Requests that differ at most in the directories of their paths. -/
structure SameCall (r r' : Request) : Prop where
  name : r.name = r'.name
  optionalStyle : r.optionalStyle = r'.optionalStyle
  force : r.force = r'.force
  verbose : r.verbose = r'.verbose
  config : r.config.map List.getLast? = r'.config.map List.getLast?
  model : r.model.getLast? = r'.model.getLast?
  output : r.output.getLast? = r'.output.getLast?

variable {d d' : Disk} {words words' : List Text} {r r' : Request}

theorem name_absolutePath {l l' : Location} (last : l.getLast? = l'.getLast?) :
    (absolutePath l).name = (absolutePath l').name := by
  unfold Path.name absolutePath
  rw [last]

theorem display_same {l l' : Location} (named : NamedBy IsComponent l)
    (named' : NamedBy IsComponent l') (last : l.getLast? = l'.getLast?) :
    (Value.scalar (.str (absolutePath l).text)).display =
      (Value.scalar (.str (absolutePath l').text)).display := by
  rw [display_named named, display_named named', name_absolutePath last]

theorem config_cases (same : SameCall r r') :
    r.config = none ∧ r'.config = none ∨
      ∃ l l', r.config = some l ∧ r'.config = some l' ∧ l.getLast? = l'.getLast? := by
  have lasts := same.config
  cases given : r.config with
  | none =>
    rw [given] at lasts
    exact .inl ⟨rfl, Option.map_eq_none_iff.mp lasts.symm⟩
  | some l =>
    rw [given] at lasts
    obtain ⟨l', given', last⟩ := Option.map_eq_some_iff.mp lasts.symm
    exact .inr ⟨l, l', rfl, given', last.symm⟩

/-- A request all of whose locations have names from its paths. -/
def Named (r : Request) : Prop := RequestHolds (fun _ => True) (NamedBy IsComponent) r

theorem config_same (same : SameCall r r') (named : Named r) (named' : Named r') :
    r.invocation.config.asOption "--config" = r'.invocation.config.asOption "--config" := by
  unfold Request.invocation
  rcases config_cases same with ⟨none, none'⟩ | ⟨l, l', given, given', last⟩
  · rw [none, none']
  · rw [given, given']
    have shown := display_same (named.config l given) (named'.config l' given') last
    exact congrArg (fun t => [ofString "--config", t]) shown

/-- The comment shows the same words for both calls. -/
theorem words_same (same : SameCall r r') (named : Named r) (named' : Named r') :
    r.invocation.words = r'.invocation.words := by
  have path : r.invocation.path.asArgument = r'.invocation.path.asArgument :=
    congrArg (fun t => [t]) (display_same named.model named'.model same.model)
  have output : r.invocation.output.asArgument = r'.invocation.output.asArgument :=
    congrArg (fun t => [t]) (display_same named.output named'.output same.output)
  have name : r.invocation.name = r'.invocation.name := by
    simp only [Request.invocation, same.name]
  have style : r.invocation.optionalStyle = r'.invocation.optionalStyle := by
    simp only [Request.invocation, same.optionalStyle]
  have force : r.invocation.force = r'.invocation.force := by
    simp only [Request.invocation, same.force]
  have verbose : r.invocation.verbose = r'.invocation.verbose := by
    simp only [Request.invocation, same.verbose]
  simp only [Invocation.words, path, output, config_same same named named', name, style, force,
    verbose]

/-- Two locations, each on its disk, that hold files of the same content. -/
def HoldSame (d : Disk) (l : Location) (d' : Disk) (l' : Location) : Prop :=
  ∃ content, d.readFile (absolutePath l) = .ok content ∧
    d'.readFile (absolutePath l') = .ok content

structure SameFiles (d : Disk) (r : Request) (d' : Disk) (r' : Request) : Prop where
  model : HoldSame d r.model d' r'.model
  config : ∀ l l', r.config = some l → r'.config = some l' → HoldSame d l d' l'

/-- Both requests can read their files. -/
theorem SameFiles.reads (files : SameFiles d r d' r') (same : SameCall r r') :
    r.Reads d ∧ r'.Reads d' := by
  obtain ⟨content, held, held'⟩ := files.model
  refine ⟨⟨⟨content, held⟩, fun l given => ?_⟩, ⟨content, held'⟩, fun l' given' => ?_⟩
  · rcases config_cases same with ⟨none, _⟩ | ⟨l₁, l', given₁, given', _⟩
    · exact nomatch none.symm.trans given
    · obtain rfl := Option.some.inj (given₁.symm.trans given)
      obtain ⟨content, held, _⟩ := files.config l₁ l' given₁ given'
      exact ⟨content, held⟩
  · rcases config_cases same with ⟨_, none'⟩ | ⟨l, l₁, given, given₁, _⟩
    · exact nomatch none'.symm.trans given'
    · obtain rfl := Option.some.inj (given₁.symm.trans given')
      obtain ⟨content, _, held'⟩ := files.config l l₁ given given₁
      exact ⟨content, held'⟩

theorem readJson_same {l l' : Location} (same : HoldSame d l d' l') :
    readJson d l = readJson d' l' := by
  obtain ⟨content, held, held'⟩ := same
  rw [readJson, readJson, held, held']

theorem base_same (same : SameCall r r') (files : SameFiles d r d' r') :
    baseOf r d = baseOf r' d' := by
  unfold baseOf
  rcases config_cases same with ⟨none, none'⟩ | ⟨l, l', given, given', _⟩
  · rw [none, none']
  · rw [given, given']
    dsimp only
    rw [readJson_same (files.config l l' given given')]

theorem inputs_same (same : SameCall r r') (files : SameFiles d r d' r') :
    r.inputs d = r'.inputs d' := by
  have overriding : override r = override r' := by
    funext base
    rw [override, override, same.optionalStyle, same.force]
  rw [Request.inputs, Request.inputs, settings_eq, settings_eq, readJson_same files.model,
    base_same same files, overriding]

theorem moduleName_same (same : SameCall r r') : r.moduleName = r'.moduleName := by
  funext model
  rw [Request.moduleName, Request.moduleName, Path.stem, Path.stem, same.name,
    name_absolutePath same.model]

theorem write_encodes {g : Generator} {invocation : Option Invocation} {p : Path} {content : Text}
    (made : g.header invocation = .ok content) (done : (g.write invocation d p).result = .ok ()) :
    content.string? ≠ none := by
  unfold Generator.write at done
  rw [made] at done
  dsimp only at done
  split at done
  · exact Disk.writeHeader_encodes done
  · cases done
  · cases done

/-- What a call that ends well has written. -/
theorem written_header {g : Generator} (done : (writing d r g).result = .ok ()) :
    r.HasRoom d ∧ ∃ content encoded, g.header (some r.invocation) = .ok content ∧
      content.string? = some encoded ∧
      Disk.readFile (writing d r g).disk (absolutePath r.output) = .ok encoded := by
  have safe : Action.Safe d (.generate g (some r.invocation) (absolutePath r.output)) := by
    apply Action.step_safe
    intro content given
    exact write_encodes (ok_of_toOption given) done
  obtain ⟨l, encoded, given, target, held, room, _⟩ := safe.written done
  obtain ⟨content, made, encodes⟩ := Option.bind_eq_some_iff.mp given
  exact ⟨⟨_, l, target, room⟩, content, encoded, ok_of_toOption made, encodes, held⟩

/-- A call that is understood as a request and ends with a header written. -/
structure Finished (d : Disk) (words : List Text) (r : Request) : Prop where
  understood : ∃ a, readArguments words = .ok a ∧ Request.of d a = .ok r
  asked : (run d words).ending ≠ .help
  done : (run d words).ending.exitCode = 0

theorem run_request (understood : ∃ a, readArguments words = .ok a ∧ Request.of d a = .ok r)
    (asked : (run d words).ending ≠ .help) :
    (run d words).ending = (r.run d).ending ∧ (run d words).disk = (r.run d).disk := by
  obtain ⟨a, read, request⟩ := understood
  unfold run at asked ⊢
  rw [read] at asked ⊢
  dsimp only at asked ⊢
  split
  · rename_i help
    rw [if_pos help] at asked
    exact absurd rfl asked
  · rw [request]
    dsimp only
    split <;> exact ⟨rfl, rfl⟩

theorem request_done (done : (r.run d).ending.exitCode = 0) :
    ∃ model config g, r.inputs d = .ok (model, config) ∧
      Generator.make (.model model) (r.moduleName model) config = .ok g ∧
      (writing d r g).result = .ok () ∧ (r.run d).disk = (writing d r g).disk := by
  unfold Request.run at done ⊢
  cases inputs : r.inputs d with
  | error crash =>
    rw [inputs] at done
    cases done
  | ok given =>
    obtain ⟨model, config⟩ := given
    rw [inputs] at done
    dsimp only at done ⊢
    cases made : Generator.make (.model model) (r.moduleName model) config with
    | error fault =>
      rw [made] at done
      exact absurd done (exitCode_ofFault fault)
    | ok g =>
      rw [made] at done
      exact ⟨model, config, g, rfl, made, (exitCode_endingOf (writing d r g).result).mp done, rfl⟩

theorem Finished.wrote (finished : Finished d words r) :
    r.HasRoom d ∧ ∃ model config g content encoded, r.inputs d = .ok (model, config) ∧
      Generator.make (.model model) (r.moduleName model) config = .ok g ∧
      g.header (some r.invocation) = .ok content ∧ content.string? = some encoded ∧
      Disk.readFile (run d words).disk (absolutePath r.output) = .ok encoded := by
  obtain ⟨ends, leaves⟩ := run_request finished.understood finished.asked
  obtain ⟨model, config, g, inputs, made, result, left⟩ := request_done (ends ▸ finished.done)
  obtain ⟨room, content, encoded, header, encodes, held⟩ := written_header result
  rw [leaves, left]
  exact ⟨room, model, config, g, content, encoded, inputs, made, header, encodes, held⟩

theorem Finished.named (working : Stands d d.workingDirectory) (finished : Finished d words r)
    (reads : r.Reads d) : Named r := by
  obtain ⟨a, _, request⟩ := finished.understood
  have placed : RequestHolds (fun _ => True) (Placed d IsComponent) r :=
    requestOf_placed (fun _ _ _ => trivial) (fun _ _ => trivial)
      (fun t _ part member => isComponent_of_mem member) request
  exact placed.named working reads finished.wrote.1

end Calls

theorem Finished.of_ending {d : Disk} {words : List Text} {r : Request}
    (understood : ∃ a, readArguments words = .ok a ∧ Request.of d a = .ok r)
    (ending : (run d words).ending = .done) : Finished d words r := by
  refine ⟨understood, ?_, ?_⟩
  · rw [ending]
    exact nofun
  · rw [ending]
    rfl

def deskRequest : Request :=
  ⟨none, none, some .std, false, false, ["maps.json"], ["out", "maps.h"]⟩

/-- The same model in another directory, and a call from there. -/
def attic : Disk :=
  ⟨[(["home"], .directory), (["home", "maps.json"], .file modelText)], ["home"]⟩

def atticWords : List Text := ["--optional-style", "std", "./maps.json", "../new/maps.h"]

def atticRequest : Request :=
  ⟨none, none, some .std, false, false, ["home", "maps.json"], ["new", "maps.h"]⟩

theorem attic_stands : Stands attic attic.workingDirectory := by
  have home : IsName "home" := ⟨⟨by decide, by decide⟩, by decide, by decide⟩
  have around : Open attic ["home"] := open_root.concat (l := []) (by decide)
  exact ⟨around, List.forall_mem_singleton.mpr home⟩

/-- Paths given in each of the ways, beside a choice and an empty sequence. -/
def travelled : Invocation where
  name := .none
  config := .scalar (.str "/home/alice/settings.json")
  optionalStyle := .choice "std"
  force := .scalar (.bool true)
  verbose := .scalar (.int 0)
  path := .path "/home/alice/maps.json"
  output := .scalar (.str "../out/maps.h")

theorem travelled_admitted : ∀ v ∈ travelled.values, v.Admitted := by
  simp only [Invocation.values, travelled, List.forall_mem_cons]
  exact ⟨.none, .scalar rfl, .choice _, .scalar rfl, .scalar rfl, .path _, .scalar rfl, nofun⟩

theorem programName_unslashed : .char '/' ∉ programName := by
  unfold programName
  rw [ofString_literal]
  decide

/-- A choice whose label is a path. -/
def slashed : Invocation := { travelled with output := .choice "/home/alice/out.h" }

theorem slashed_shown :
    (∀ v ∈ slashed.values, v.Admitted) ∧ .char '/' ∈ lineText programName (some slashed) := by
  have admitted : ∀ v ∈ slashed.values, v.Admitted := by
    simp only [Invocation.values, slashed, travelled, List.forall_mem_cons]
    exact ⟨.none, .scalar rfl, .choice _, .scalar rfl, .scalar rfl, .path _, .choice _, nofun⟩
  refine ⟨admitted, (slash_mem_lineText_iff programName_unslashed ?_).mpr ?_⟩
  · rintro i ⟨⟩
    exact admitted
  · refine ⟨slashed, "/home/alice/out.h", rfl, ?_, by decide⟩
    simp [Invocation.displayed, slashed]

/-- A model beside an output of an earlier call. -/
def shelved (old : String) : Disk :=
  ⟨[(["maps.json"], .file modelText), (["maps.h"], .file old)], []⟩

def helpWords : List Text := ["maps.json", "maps.h", "--help"]

def helpRequest : Request := ⟨none, none, none, false, false, ["maps.json"], ["maps.h"]⟩

/-- A call for help is understood and ends well, and leaves the output of the earlier call. -/
theorem help_leaves_output (old : String) :
    (∃ a, readArguments helpWords = .ok a ∧ Request.of (shelved old) a = .ok helpRequest) ∧
      (run (shelved old) helpWords).ending.exitCode = 0 ∧
      Disk.readFile (run (shelved old) helpWords).disk (absolutePath helpRequest.output) =
        .ok old :=
  ⟨⟨_, by with_unfolding_all rfl, by with_unfolding_all rfl⟩, by with_unfolding_all rfl,
    by with_unfolding_all rfl⟩

end Command
end StructBridge
