import StructBridge.Proofs.Traversal

/-!
Tasks that finish in any order. Each answer goes to the place of its own task, so the places show
what has been done and not in which order. The answers are asked for in turn, and the first fault
decides: as soon as there is an answer for the whole, it is the one of the tasks run in turn.
-/
namespace StructBridge

variable {α β ε : Type}

/-- The answer of a task that has finished. -/
abbrev Place (β ε : Type) := Option (Except ε β)

/-- A task finishes. There is nothing to finish beyond the last one. -/
def finish (f : α → Except ε β) (tasks : List α) (places : List (Place β ε)) (i : Nat) :
    List (Place β ε) := places.set i ((tasks[i]?).map f)

/-- The places after tasks have finished in an order. -/
def finished (f : α → Except ε β) (tasks : List α) (order : List Nat) : List (Place β ε) :=
  order.foldl (finish f tasks) (List.replicate tasks.length none)

/-- The answer of all tasks, if the places show it: no place after the first fault is looked at. -/
def collect : List (Place β ε) → Option (Except ε (List β))
  | [] => some (.ok [])
  | none :: _ => none
  | some (.error fault) :: _ => some (.error fault)
  | some (.ok b) :: rest => (collect rest).map fun r => r.map (b :: ·)

/-- Every place is open or has the answer of its task. -/
def Filled (f : α → Except ε β) (tasks : List α) (places : List (Place β ε)) : Prop :=
  List.Forall₂ (fun x place => ∀ r, place = some r → r = f x) tasks places

section Finishing

variable {f : α → Except ε β} {tasks : List α} {places : List (Place β ε)}

theorem filled_open (f : α → Except ε β) (tasks : List α) :
    Filled f tasks (List.replicate tasks.length none) := by
  induction tasks with
  | nil => exact .nil
  | cons x rest ih => exact .cons (fun _ given => nomatch given) ih

theorem Filled.finish (filled : Filled f tasks places) (i : Nat) :
    Filled f tasks (finish f tasks places i) := by
  induction filled generalizing i with
  | nil => exact .nil
  | @cons x place rest places here later ih =>
    cases i with
    | zero => exact .cons (fun r given => (Option.some.inj given).symm) later
    | succ i => exact .cons here (ih i)

/-- A finished task stays finished. -/
theorem closed_finish {i : Nat} (j : Nat) (filled : Filled f tasks places)
    (closed : places[i]? ≠ some none) : (finish f tasks places j)[i]? ≠ some none := by
  have long : tasks.length = places.length := filled.length_eq
  rw [StructBridge.finish, List.getElem?_set]
  split
  · rename_i same
    subst same
    -- Where there is a place there is a task, so an answer is put there.
    split
    · rename_i within
      have there : tasks[j]? = some tasks[j] := List.getElem?_eq_getElem (long ▸ within)
      simp [there]
    · simp
  · exact closed

theorem closed_here (filled : Filled f tasks places) (i : Nat) :
    (finish f tasks places i)[i]? ≠ some none := by
  have long : tasks.length = places.length := filled.length_eq
  rw [StructBridge.finish, List.getElem?_set_self']
  cases within : places[i]? with
  | none => simp
  | some place =>
    have bound : i < tasks.length := long ▸ (List.getElem?_eq_some_iff.mp within).1
    simp [List.getElem?_eq_getElem bound]

/-- After any order the places hold the answers of their tasks, and those of the order are closed. -/
theorem filled_run (order : List Nat) (filled : Filled f tasks places) :
    Filled f tasks (order.foldl (finish f tasks) places) ∧
      ∀ i, (i ∈ order ∨ places[i]? ≠ some none) →
        (order.foldl (finish f tasks) places)[i]? ≠ some none := by
  induction order generalizing places with
  | nil => exact ⟨filled, fun i closed => by simpa using closed⟩
  | cons j rest ih =>
    obtain ⟨kept, done⟩ := ih (filled.finish j)
    refine ⟨kept, ?_⟩
    intro i closed
    apply done i
    -- What closes now is no longer in the rest of the order, but stays closed all along it.
    rcases closed with member | closed
    · rcases List.mem_cons.mp member with rfl | later
      · exact .inr (closed_here filled i)
      · exact .inl later
    · exact .inr (closed_finish j filled closed)

theorem filled_finished (f : α → Except ε β) (tasks : List α) (order : List Nat) :
    Filled f tasks (finished f tasks order) := (filled_run order (filled_open f tasks)).1

end Finishing

section Collecting

variable {f : α → Except ε β} {tasks : List α} {places : List (Place β ε)}

theorem mapM_of_collect (filled : Filled f tasks places) {r : Except ε (List β)}
    (answered : collect places = some r) : r = tasks.mapM f := by
  induction filled generalizing r with
  | nil => exact (Option.some.inj answered).symm
  | @cons x place rest places here _ ih =>
    rw [List.mapM_cons]
    cases place with
    | none => cases answered
    | some first =>
      rw [← here first rfl]
      cases first with
      | error fault => exact (Option.some.inj answered).symm
      | ok b =>
        obtain ⟨others, later, rfl⟩ := Option.map_eq_some_iff.mp answered
        rw [← ih later]
        cases others <;> rfl

theorem collect_closed (closed : none ∉ places) : ∃ r, collect places = some r := by
  induction places with
  | nil => exact ⟨_, rfl⟩
  | cons place rest ih =>
    cases place with
    | none => exact absurd List.mem_cons_self closed
    | some first =>
      cases first with
      | error fault => exact ⟨_, rfl⟩
      | ok b =>
        obtain ⟨r, later⟩ := ih fun member => closed (List.mem_cons_of_mem _ member)
        exact ⟨_, by rw [collect, later]; rfl⟩

end Collecting

/-- In which order tasks finish does not show in their answer: there is none yet, or it is the one
of the tasks run in turn. -/
theorem collect_finished (f : α → Except ε β) (tasks : List α) (order : List Nat) :
    collect (finished f tasks order) = none ∨
      collect (finished f tasks order) = some (tasks.mapM f) := by
  cases answered : collect (finished f tasks order) with
  | none => exact .inl rfl
  | some r => exact .inr (congrArg some (mapM_of_collect (filled_finished f tasks order) answered))

/-- When all tasks have finished, there is an answer. -/
theorem collect_all (f : α → Except ε β) {tasks : List α} {order : List Nat}
    (all : ∀ i < tasks.length, i ∈ order) :
    collect (finished f tasks order) = some (tasks.mapM f) := by
  obtain ⟨filled, done⟩ := filled_run order (filled_open f tasks)
  have long := List.Forall₂.length_eq filled
  have closed : none ∉ finished f tasks order := by
    intro member
    obtain ⟨i, within, opened⟩ := List.mem_iff_getElem.mp member
    apply done i (.inl (all i (long ▸ within)))
    exact List.getElem?_eq_some_iff.mpr ⟨within, opened⟩
  obtain ⟨r, answered⟩ := collect_closed closed
  rw [answered, mapM_of_collect filled answered]

/-- A fault waits for the answers of the tasks before its own. -/
example : collect (finished (fun n : Nat => if n = 0 then Except.error n else .ok n) [2, 0, 1]
    [2, 1]) = none := by decide

end StructBridge
