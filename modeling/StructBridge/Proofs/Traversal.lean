import Mathlib.Data.List.Forall2
import StructBridge.Fault

/-!
Steps that can fail, one after another and over lists. `StoppedBy` tells of a result the one fault
that stops it, if there is one; over a list it is the fault of the first item that has one.
-/
namespace StructBridge

variable {α β ε : Type}

@[simp] theorem ok_bind (a : α) (next : α → Except ε β) : (Except.ok a >>= next) = next a := rfl

theorem ok_of_bind {r : Except ε α} {next : α → Except ε β} {b : β} (run : r >>= next = .ok b) :
    ∃ a, r = .ok a ∧ next a = .ok b := by
  cases r with
  | error fault => simp [bind, Except.bind] at run
  | ok a => exact ⟨a, rfl, run⟩

theorem error_of_bind {r : Except ε α} {next : α → Except ε β} {fault : ε}
    (stopped : r >>= next = .error fault) :
    r = .error fault ∨ ∃ a, r = .ok a ∧ next a = .error fault := by
  cases r with
  | error other => exact .inl (congrArg Except.error (Except.error.inj stopped))
  | ok a => exact .inr ⟨a, rfl, stopped⟩

theorem ok_of_mapError {ε' : Type} {f : ε → ε'} {r : Except ε α} {a : α}
    (run : r.mapError f = .ok a) : r = .ok a := by
  cases r with
  | error fault => cases run
  | ok b => exact congrArg Except.ok (Except.ok.inj run)

theorem error_of_mapError {ε' : Type} {f : ε → ε'} {r : Except ε α} {fault : ε'}
    (stopped : r.mapError f = .error fault) : ∃ inner, r = .error inner ∧ fault = f inner := by
  cases r with
  | error inner => exact ⟨inner, rfl, (Except.error.inj stopped).symm⟩
  | ok a => cases stopped

theorem ok_of_map {f : α → β} {r : Except ε α} {b : β} (run : r.map f = .ok b) :
    ∃ a, r = .ok a ∧ f a = b := by
  cases r with
  | error fault => cases run
  | ok a => exact ⟨a, rfl, Except.ok.inj run⟩

theorem error_of_map {f : α → β} {r : Except ε α} {fault : ε} (stopped : r.map f = .error fault) :
    r = .error fault := by
  cases r with
  | error inner => exact congrArg Except.error (Except.error.inj stopped)
  | ok a => cases stopped

theorem ok_of_toOption {r : Except ε α} {a : α} (found : r.toOption = some a) : r = .ok a := by
  cases r with
  | error fault => cases found
  | ok b => exact congrArg Except.ok (Option.some.inj found)

/-- Of a choice that succeeds one of the two sides does. -/
theorem ok_of_ite {c : Prop} [Decidable c] {first second : Except ε α} {a : α}
    (run : (if c then first else second) = .ok a) : first = .ok a ∨ second = .ok a := by
  split at run
  · exact .inl run
  · exact .inr run

theorem forall₂_of_mapM {f : α → Except ε β} {xs : List α} {ys : List β}
    (run : xs.mapM f = .ok ys) : List.Forall₂ (fun x y => f x = .ok y) xs ys := by
  induction xs generalizing ys with
  | nil =>
    obtain rfl : ys = [] := (Except.ok.inj run).symm
    exact .nil
  | cons x rest ih =>
    rw [List.mapM_cons] at run
    obtain ⟨first, here, run⟩ := ok_of_bind run
    obtain ⟨others, later, run⟩ := ok_of_bind run
    obtain rfl : ys = first :: others := (Except.ok.inj run).symm
    exact .cons here (ih later)

theorem members_of_forall₂ {related : α → β → Prop} {xs : List α} {ys : List β}
    (paired : List.Forall₂ related xs ys) : ∀ y ∈ ys, ∃ x ∈ xs, related x y := by
  induction paired with
  | nil => simp
  | cons here _ ih =>
    intro y member
    rcases List.mem_cons.mp member with rfl | member
    · exact ⟨_, List.mem_cons_self, here⟩
    · obtain ⟨x, among, made⟩ := ih y member
      exact ⟨x, List.mem_cons_of_mem _ among, made⟩

theorem members_of_mapM {f : α → Except ε β} {xs : List α} {ys : List β}
    (run : xs.mapM f = .ok ys) : ∀ y ∈ ys, ∃ x ∈ xs, f x = .ok y :=
  members_of_forall₂ (forall₂_of_mapM run)

/-- What is done to each result can be done to all results at the end. -/
theorem mapM_map {γ : Type} (f : α → Except ε β) (g : β → γ) (xs : List α) :
    xs.mapM (fun x => (f x).map g) = (xs.mapM f).map (List.map g) := by
  induction xs with
  | nil => rfl
  | cons x rest ih =>
    rw [List.mapM_cons, List.mapM_cons, ih]
    cases f x with
    | error fault => rfl
    | ok y => cases rest.mapM f <;> rfl

/-- Without a reason there is a value, with one it is the fault. -/
def StoppedBy (reason : Option ε) (r : Except ε α) : Prop :=
  match reason with
  | none => ∃ a, r = .ok a
  | some fault => r = .error fault

namespace StoppedBy

/-- A step that cannot fail changes nothing about what stops the steps before it. -/
theorem bind {reason : Option ε} {r : Except ε α} {next : α → Except ε β}
    (stopped : StoppedBy reason r) (goes : ∀ a, r = .ok a → ∃ b, next a = .ok b) :
    StoppedBy reason (r >>= next) := by
  cases reason with
  | none =>
    obtain ⟨a, rfl⟩ := stopped
    exact goes a rfl
  | some fault =>
    obtain rfl : r = .error fault := stopped
    rfl

theorem map {reason : Option ε} {r : Except ε α} (f : α → β) (stopped : StoppedBy reason r) :
    StoppedBy reason (r.map f) := by
  cases reason with
  | none =>
    obtain ⟨a, rfl⟩ := stopped
    exact ⟨f a, rfl⟩
  | some fault =>
    obtain rfl : r = .error fault := stopped
    rfl

theorem mapM {reason : α → Option ε} {f : α → Except ε β} {xs : List α}
    (each : ∀ x ∈ xs, StoppedBy (reason x) (f x)) :
    StoppedBy (xs.findSome? reason) (xs.mapM f) := by
  induction xs with
  | nil => exact ⟨[], rfl⟩
  | cons x rest ih =>
    have here := each x (by simp)
    have later := ih fun y member => each y (List.mem_cons_of_mem x member)
    rw [List.mapM_cons, List.findSome?_cons]
    cases stops : reason x with
    | some fault =>
      rw [stops] at here
      obtain here : f x = .error fault := here
      simp only [here]
      rfl
    | none =>
      rw [stops] at here
      obtain ⟨first, here⟩ := here
      simp only [here]
      exact later.bind fun others _ => ⟨first :: others, rfl⟩

theorem exists_ok_iff {reason : Option ε} {r : Except ε α} (stopped : StoppedBy reason r) :
    (∃ a, r = .ok a) ↔ reason = none := by
  cases reason with
  | none => exact ⟨fun _ => rfl, fun _ => stopped⟩
  | some fault =>
    obtain rfl : r = .error fault := stopped
    simp

theorem error_iff {reason : Option ε} {r : Except ε α} (stopped : StoppedBy reason r)
    (fault : ε) : r = .error fault ↔ reason = some fault := by
  cases reason with
  | none =>
    obtain ⟨a, rfl⟩ := stopped
    simp
  | some other =>
    obtain rfl : r = .error other := stopped
    simp

end StoppedBy
end StructBridge
