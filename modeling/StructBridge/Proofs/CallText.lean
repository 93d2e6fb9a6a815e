import StructBridge.Command.Run
import StructBridge.Proofs.EncodableHeader
import StructBridge.Proofs.Places

/-!
Where the words of a call end up: in the values of its options, in the names of the locations that
its paths lead to, and, by these, in the comment of a header. Words without surrogates leave none
there.
-/
namespace StructBridge.Command
open Text Files Disk Code

section Words

theorem over_of_subset {t u : Text} (within : ∀ c ∈ u, c ∈ t) (inside : Over IsCharacter t) :
    Over IsCharacter u := fun c member => inside c (within c member)

theorem readCluster_within {word cs value : Text} {flags : List Switch} {s : Switch}
    (run : readCluster word cs = .ok ⟨flags, some (s, some value)⟩) : ∀ c ∈ value, c ∈ cs := by
  induction cs generalizing flags with
  | nil => cases run
  | cons c rest ih =>
    unfold readCluster at run
    split at run
    · cases run
    rename_i letter _
    cases takes : letter.takesValue with
    | true =>
      rw [takes, if_pos rfl] at run
      have valued := congrArg Setting.valued (Except.ok.inj run)
      cases empty : rest.isEmpty with
      | true =>
        rw [empty] at valued
        cases valued
      | false =>
        rw [empty] at valued
        cases valued
        exact fun u member => List.mem_cons_of_mem c member
    | false =>
      rw [takes, if_neg Bool.false_ne_true] at run
      obtain ⟨⟨others, valued⟩, later, made⟩ := ok_of_map run
      obtain rfl : valued = some (s, some value) := congrArg Setting.valued made
      exact fun u member => List.mem_cons_of_mem c (ih later u member)

theorem splitValue_within {word value : Text} (split : (splitValue word).2 = some value) :
    ∀ c ∈ value, c ∈ word := by
  intro c member
  unfold splitValue at split
  cases after : word.dropWhile (· ≠ .char '=') with
  | nil =>
    rw [after] at split
    cases split
  | cons first rest =>
    rw [after] at split
    obtain rfl := Option.some.inj split
    apply (List.dropWhile_sublist fun c : CodePoint => decide (c ≠ .char '=')).subset
    rw [after]
    exact List.mem_cons_of_mem first member

theorem readOption_within {word value : Text} {flags : List Switch} {s : Switch}
    (run : readOption word = .ok ⟨flags, some (s, some value)⟩) : ∀ c ∈ value, c ∈ word := by
  unfold readOption at run
  dsimp only at run
  split at run
  · split at run
    · have valued := congrArg Setting.valued (Except.ok.inj run)
      exact splitValue_within (Prod.mk.inj (Option.some.inj valued)).2
    split at run <;> cases run
  · split at run
    · cases run
    · exact fun c member => (List.drop_sublist 1 word).subset (readCluster_within run c member)

/-- The values and the words of a call hold no surrogate. -/
structure ArgumentsOver (a : Arguments) : Prop where
  values : ∀ s value, (s, some value) ∈ a.options → Over IsCharacter value
  words : ∀ w ∈ a.words, Over IsCharacter w

theorem ArgumentsOver.withOptions {a : Arguments} {options : List (Switch × Option Text)}
    (given : ∀ s value, (s, some value) ∈ options → Over IsCharacter value)
    (inside : ArgumentsOver a) : ArgumentsOver (a.withOptions options) := by
  refine ⟨?_, inside.words⟩
  intro s value member
  rcases List.mem_append.mp member with first | later
  · exact given s value first
  · exact inside.values s value later

theorem values_of_flags {flags : List Switch} {valued : List (Switch × Option Text)}
    (given : ∀ s value, (s, some value) ∈ valued → Over IsCharacter value) :
    ∀ s value, (s, some value) ∈ flags.map (·, none) ++ valued → Over IsCharacter value := by
  intro s value member
  rcases List.mem_append.mp member with flag | later
  · obtain ⟨_, _, same⟩ := List.mem_map.mp flag
    cases same
  · exact given s value later

theorem readArguments_over {words : List Text} {a : Arguments}
    (each : ∀ w ∈ words, Over IsCharacter w) (run : readArguments words = .ok a) :
    ArgumentsOver a := by
  fun_induction readArguments words generalizing a with
  | case1 =>
    obtain rfl := Except.ok.inj run
    exact ⟨nofun, nofun⟩
  | case2 rest =>
    obtain rfl := Except.ok.inj run
    exact ⟨nofun, fun w member => each w (List.mem_cons_of_mem _ member)⟩
  | case3 word rest _ _ ih =>
    obtain ⟨first, others⟩ := List.forall_mem_cons.mp each
    obtain ⟨a', later, rfl⟩ := ok_of_map run
    have inside := ih others later
    exact ⟨inside.values, List.forall_mem_cons.mpr ⟨first, inside.words⟩⟩
  | case4 => cases run
  | case5 word _ _ _ flags rest read =>
    rename_i ih
    obtain ⟨a', later, rfl⟩ := ok_of_map run
    apply (ih (List.forall_mem_cons.mp each).2 later).withOptions
    intro s value member
    obtain ⟨_, _, same⟩ := List.mem_map.mp member
    cases same
  | case6 word _ _ _ flags s value rest read =>
    rename_i ih
    obtain ⟨first, others⟩ := List.forall_mem_cons.mp each
    obtain ⟨a', later, rfl⟩ := ok_of_map run
    have within := over_of_subset (readOption_within read) first
    apply (ih others later).withOptions (values_of_flags _)
    intro s' value' member
    cases List.mem_singleton.mp member
    exact within
  | case7 word _ _ _ flags s value rest read =>
    rename_i ih
    obtain ⟨_, others⟩ := List.forall_mem_cons.mp each
    obtain ⟨within, others⟩ := List.forall_mem_cons.mp others
    obtain ⟨a', later, rfl⟩ := ok_of_map run
    apply (ih others later).withOptions (values_of_flags _)
    intro s' value' member
    cases List.mem_singleton.mp member
    exact within
  | case8 => cases run

theorem value_over {a : Arguments} {s : Switch} {value : Text} (inside : ArgumentsOver a)
    (given : a.value? s = some value) : Over IsCharacter value := by
  have found := Option.join_eq_some_iff.mp given
  obtain ⟨before, after, split, _⟩ := List.lookup_eq_some_iff.mp found
  have member : (s, some value) ∈ a.options.reverse := by simp [split]
  exact inside.values s value (List.mem_reverse.mp member)

end Words

section Requests

theorem mem_splitAt {separator c : CodePoint} {t piece : Text}
    (among : piece ∈ splitAt separator t) (member : c ∈ piece) : c ∈ t := by
  induction t generalizing piece with
  | nil =>
    obtain rfl := List.mem_singleton.mp among
    cases member
  | cons first rest ih =>
    rw [splitAt] at among
    split at among
    · rcases List.mem_cons.mp among with rfl | later
      · cases member
      · exact List.mem_cons_of_mem first (ih later member)
    · cases pieces : splitAt separator rest with
      | nil =>
        rw [pieces] at among
        obtain rfl := List.mem_singleton.mp among
        exact List.mem_cons.mpr (.inl (List.mem_singleton.mp member))
      | cons p others =>
        rw [pieces] at among ih
        rcases List.mem_cons.mp among with rfl | later
        · rcases List.mem_cons.mp member with rfl | inside
          · exact List.mem_cons_self
          · exact List.mem_cons_of_mem first (ih List.mem_cons_self inside)
        · exact List.mem_cons_of_mem first (ih (List.mem_cons_of_mem p later) member)

theorem componentsOf_over {t : Text} (inside : Over IsCharacter t) :
    ∀ part ∈ componentsOf t, Over IsCharacter part :=
  fun _ member => over_of_subset (fun _ => mem_splitAt (List.mem_filter.mp member).1) inside

variable {d : Disk} {a : Arguments}

theorem resolvePath_ok {t : Text} {l : Location} (run : resolvePath d t = .ok l) :
    d.resolve (Path.ofText t) = l := by
  unfold resolvePath at run
  split at run
  · cases run
  split at run
  · cases run
  exact Except.ok.inj run

theorem resolveExisting_ok {t : Text} {l : Location} (run : resolveExisting d t = .ok l) :
    d.resolve (Path.ofText t) = l := by
  obtain ⟨l', resolved, run⟩ := ok_of_bind run
  split at run
  · obtain rfl := Except.ok.inj run
    exact resolvePath_ok resolved
  · cases run

/-- What holds of the name in a request and of the locations that its paths resolve to. -/
structure RequestHolds (given : Text → Prop) (placed : Location → Prop) (r : Request) : Prop where
  name : ∀ t, r.name = some t → given t
  config : ∀ l, r.config = some l → placed l
  model : placed r.model
  output : placed r.output

variable {given : Text → Prop} {placed : Location → Prop} {r r' : Request}

theorem takeOption_holds {s : Switch} (values : ∀ s t, a.value? s = some t → given t)
    (resolved : ∀ t, given t → placed (d.resolve (Path.ofText t)))
    (before : RequestHolds given placed r) (run : r.takeOption d a s = .ok r') :
    RequestHolds given placed r' := by
  unfold Request.takeOption at run
  split at run
  · obtain rfl := Except.ok.inj run
    exact ⟨fun t same => values _ t same, before.config, before.model, before.output⟩
  · rename_i text valued
    obtain ⟨l, found, rfl⟩ := ok_of_map run
    have config : placed l := resolveExisting_ok found ▸ resolved text (values _ text valued)
    exact ⟨before.name, fun l' same => Option.some.inj same ▸ config, before.model, before.output⟩
  · split at run
    · obtain rfl := Except.ok.inj run
      exact ⟨before.name, before.config, before.model, before.output⟩
    · cases run
  · obtain rfl := Except.ok.inj run
    exact ⟨before.name, before.config, before.model, before.output⟩
  · obtain rfl := Except.ok.inj run
    exact ⟨before.name, before.config, before.model, before.output⟩
  · obtain rfl := Except.ok.inj run
    exact before

theorem takeWords_holds {words : List Text} (each : ∀ w ∈ words, given w)
    (resolved : ∀ t, given t → placed (d.resolve (Path.ofText t)))
    (before : RequestHolds given placed r) (run : r.takeWords d words = .ok r') :
    RequestHolds given placed r' := by
  unfold Request.takeWords at run
  split at run
  · rename_i first more
    obtain ⟨model, found, run⟩ := ok_of_bind run
    obtain ⟨firstGiven, others⟩ := List.forall_mem_cons.mp each
    split at run
    · cases run
    · obtain ⟨output, located, run⟩ := ok_of_bind run
      have secondGiven := (List.forall_mem_cons.mp others).1
      split at run
      · obtain rfl := Except.ok.inj run
        exact ⟨before.name, before.config, resolveExisting_ok found ▸ resolved first firstGiven,
          resolvePath_ok located ▸ resolved _ secondGiven⟩
      · cases run
  · cases run

theorem requestOf_holds (empty : placed []) (values : ∀ s t, a.value? s = some t → given t)
    (each : ∀ w ∈ a.words, given w)
    (resolved : ∀ t, given t → placed (d.resolve (Path.ofText t)))
    (run : Request.of d a = .ok r) : RequestHolds given placed r := by
  obtain ⟨taken, options, run⟩ := ok_of_bind run
  have blank : RequestHolds given placed .blank := ⟨nofun, nofun, empty, empty⟩
  refine takeWords_holds each resolved ?_ run
  generalize (a.options.map (·.1)).eraseDups = switches at options
  generalize Request.blank = r' at options blank
  induction switches generalizing r' with
  | nil =>
    obtain rfl := Except.ok.inj options
    exact blank
  | cons s rest ih =>
    obtain ⟨next, here, options⟩ := ok_of_bind options
    exact ih next options (takeOption_holds values resolved blank here)

theorem requestOf_placed {suits : Text → Prop} (values : ∀ s t, a.value? s = some t → given t)
    (each : ∀ w ∈ a.words, given w)
    (components : ∀ t, given t → ∀ part ∈ componentsOf t, suits part)
    (run : Request.of d a = .ok r) : RequestHolds given (Placed d suits) r :=
  requestOf_holds placed_root values each (fun t held => resolve_placed (components t held)) run

end Requests

section Comments

theorem display_over {v : Json} (inside : v.Encodable) :
    Over IsCharacter (Value.scalar v).display := by
  cases v with
  | str t =>
    have text : Over IsCharacter t := inside t List.mem_cons_self
    have last : Over IsCharacter (finalName t) := by
      unfold finalName Path.name
      cases last : (Path.ofText t).parts.getLast? with
      | none => exact characters_ofString ""
      | some part => exact componentsOf_over text part (List.mem_of_getLast? last)
    change Over IsCharacter (if looksLikePath t then finalName t else t)
    split
    · exact last
    · exact text
  | _ => exact Json.literal_characters _

theorem asArgument_over {v : Value} (shown : Over IsCharacter v.display) :
    ∀ t ∈ v.asArgument, Over IsCharacter t := by
  unfold Value.asArgument
  split
  · exact List.forall_mem_singleton.mpr shown
  · exact nofun

theorem asOption_over (option : String) {v : Value} (shown : Over IsCharacter v.display) :
    ∀ t ∈ v.asOption option, Over IsCharacter t := by
  unfold Value.asOption
  split
  · exact List.forall_mem_cons.mpr
      ⟨characters_ofString option, List.forall_mem_singleton.mpr shown⟩
  · exact nofun

theorem asFlag_over (option : String) (v : Value) : ∀ t ∈ v.asFlag option, Over IsCharacter t := by
  unfold Value.asFlag
  split
  · exact List.forall_mem_singleton.mpr (characters_ofString option)
  · exact nofun

/-- A component of a path that holds no surrogate. -/
structure CharacterName (part : Text) : Prop where
  component : IsComponent part
  characters : Over IsCharacter part

/-- A path is shown by its last component. -/
theorem display_named {l : Location} (named : NamedBy IsComponent l) :
    (Value.scalar (.str (absolutePath l).text)).display = (absolutePath l).name := by
  obtain ⟨before, part, rfl, component⟩ := named
  have path : looksLikePath (absolutePath (before ++ [part])).text = true := rfl
  have last : (absolutePath (before ++ [part])).name = part := by
    rw [Path.name, absolutePath, List.getLast?_concat, Option.getD_some]
  rw [Value.display, path, if_pos rfl, finalName, name_of_text component, last]

theorem name_characters {l : Location} (named : NamedBy CharacterName l) :
    Over IsCharacter (absolutePath l).name := by
  obtain ⟨before, part, rfl, name⟩ := named
  rw [Path.name, absolutePath, List.getLast?_concat, Option.getD_some]
  exact name.characters

theorem location_over {l : Location} (named : NamedBy CharacterName l) :
    Over IsCharacter (Value.scalar (.str (absolutePath l).text)).display := by
  rw [display_named (named.imp fun _ name => name.component)]
  exact name_characters named

variable {r : Request}

theorem invocation_words_over (inside : RequestHolds (Over IsCharacter) (NamedBy CharacterName) r) :
    ∀ t ∈ r.invocation.words, Over IsCharacter t := by
  have name : Over IsCharacter (Value.scalar (r.name.elim .null .str)).display := by
    cases given : r.name with
    | none => exact display_over Json.encodable_null
    | some t => exact display_over (Json.encodable_str (inside.name t given))
  have config : Over IsCharacter
      (Value.scalar (r.config.elim .null fun l => .str (absolutePath l).text)).display := by
    cases given : r.config with
    | none => exact display_over Json.encodable_null
    | some l => exact location_over (inside.config l given)
  have style : Over IsCharacter
      (Value.scalar (r.optionalStyle.elim .null fun style => .str style.label)).display := by
    cases r.optionalStyle with
    | none => exact display_over Json.encodable_null
    | some style => cases style <;> exact display_over (Json.encodable_str (characters_ofString _))
  simp only [Invocation.words, List.forall_mem_append]
  exact ⟨⟨⟨⟨⟨⟨asArgument_over (location_over inside.model),
    asArgument_over (location_over inside.output)⟩,
    asOption_over "--name" name⟩,
    asOption_over "--config" config⟩,
    asOption_over "--optional-style" style⟩,
    asFlag_over "--force" _⟩, asFlag_over "--verbose" _⟩

theorem comment_characters {g : Generator}
    (inside : RequestHolds (Over IsCharacter) (NamedBy CharacterName) r) :
    Over IsCharacter (g.comment (some r.invocation)) := by
  have line : Over IsCharacter (lineText programName (some r.invocation)) := by
    apply over_intercalate (characters_ofString " ")
    exact List.forall_mem_cons.mpr ⟨characters_ofString _, invocation_words_over inside⟩
  unfold Generator.comment
  split
  · exact over_append.mpr ⟨characters_ofString _, line⟩
  · exact characters_ofString ""

end Comments
end StructBridge.Command
