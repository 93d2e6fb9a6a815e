import StructBridge.Json.Basic
import StructBridge.Number.Shortest
import StructBridge.Text.Printable

/-!
The text of a JSON value where it is inserted into other text: a string stands as it is, any other
value as a literal, in which strings are quoted and nothing without a visible form remains.
-/
namespace StructBridge.Json

def hexDigits (width n : Nat) : Text :=
  let ds := Nat.toDigits 16 n
  (Binary64.zeros (width - ds.length) ++ ds).map .char

def quotedPoint (quote c : CodePoint) : Text :=
  if c = quote ∨ c = .char '\\' then [.char '\\', c]
  else if c = .char '\n' then "\\n"
  else if c = .char '\r' then "\\r"
  else if c = .char '\t' then "\\t"
  else if Text.isPrintable c then [c]
  else if c.value < 0x100 then "\\x" ++ hexDigits 2 c.value
  else if c.value < 0x10000 then "\\u" ++ hexDigits 4 c.value
  else "\\U" ++ hexDigits 8 c.value

/-- Single quotes, unless they would have to be escaped and double quotes would not. -/
def quoteFor (t : Text) : CodePoint :=
  if t.contains (.char '\x27') && !t.contains (.char '\x22') then .char '\x22' else .char '\x27'

def quoted (t : Text) : Text :=
  let quote := quoteFor t
  quote :: t.flatMap (quotedPoint quote) ++ [quote]

mutual

def literal : Json → Text
  | null => "None"
  | bool b => if b then "True" else "False"
  | int n => toString n
  | float x => x.text
  | str t => quoted t
  | arr items => "[" ++ List.intercalate ", " (literals items) ++ "]"
  | obj fields => "\x7b" ++ List.intercalate ", " (fieldLiterals fields) ++ "\x7d"

def literals : List Json → List Text
  | [] => []
  | v :: rest => literal v :: literals rest

def fieldLiterals : List (Text × Json) → List Text
  | [] => []
  | (key, v) :: rest => (quoted key ++ ": " ++ literal v) :: fieldLiterals rest

end

def shown : Json → Text
  | str t => t
  | v => literal v

example : shown (str "it's") = "it's" ∧ literal (str "it's") = "\"it's\"" ∧
    literal (arr [str "a", null, bool true, int (-5)]) = "['a', None, True, -5]" ∧
    literal (str "\u00a0\n") = "'\\xa0\\n'" := by
  decide +kernel

end StructBridge.Json
