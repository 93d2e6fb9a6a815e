import StructBridge.Text.Basic

/-!
The inside of a string literal: a backslash and a double quote take a backslash, a newline is
written `\n`, and every other code point stands for itself. `unescape?` reads it back.
-/
namespace StructBridge.Text

def backslash : CodePoint := .char '\\'

def escapePoint (c : CodePoint) : Text :=
  if c = .char '\\' then [backslash, .char '\\']
  else if c = .char '\x22' then [backslash, .char '\x22']
  else if c = .char '\n' then [backslash, .char 'n']
  else [c]

def escape (t : Text) : Text := t.flatMap escapePoint

/-- Refuses a backslash that starts none of the three escapes. -/
def unescape? : Text → Option Text
  | [] => some []
  | .char '\\' :: .char '\\' :: rest => (unescape? rest).map (.char '\\' :: ·)
  | .char '\\' :: .char '\x22' :: rest => (unescape? rest).map (.char '\x22' :: ·)
  | .char '\\' :: .char 'n' :: rest => (unescape? rest).map (.char '\n' :: ·)
  | c :: rest => if c = backslash then none else (unescape? rest).map (c :: ·)

theorem unescape_plain {c : CodePoint} (hc : c ≠ backslash) (t : Text) :
    unescape? (c :: t) = (unescape? t).map (c :: ·) := by
  rw [unescape?]
  · simp [hc]
  all_goals intro _ h; exact absurd h hc

theorem unescape_escape (t : Text) : unescape? (escape t) = some t := by
  induction t with
  | nil => rfl
  | cons c rest ih =>
    rw [escape, List.flatMap_cons, ← escape]
    by_cases slash : c = .char '\\'
    · subst c; simp [escapePoint, backslash, unescape?, ih]
    by_cases quote : c = .char '\x22'
    · subst c; simp [escapePoint, backslash, unescape?, ih]
    by_cases newline : c = .char '\n'
    · subst c; simp [escapePoint, backslash, unescape?, ih]
    have plain : escapePoint c = [c] := by simp [escapePoint, slash, quote, newline]
    rw [plain, List.singleton_append, unescape_plain slash, ih]; rfl

end StructBridge.Text
