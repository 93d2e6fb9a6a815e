import StructBridge.Json.Basic

/-!
Reading a JSON text. Beyond the standard, `NaN` and the infinities are numbers and a repeated key
takes its last value; a byte order mark, a raw control character in a string, and anything after
the value are refused. Every reader returns the rest of the text.
-/
namespace StructBridge.Json

inductive ReadFault where
  | malformed
  /-- An integer of more digits than `digitLimit`. -/
  | oversized
  deriving DecidableEq, Repr

def digitLimit : Nat := 4300

abbrev Front (α : Type) := α × List Char

def malformed {α : Type} : Except ReadFault α := .error .malformed

def isSpace (c : Char) : Bool := c == ' ' || c == '\t' || c == '\n' || c == '\r'

def skipSpace (cs : List Char) : List Char := cs.dropWhile isSpace

def isDigit (c : Char) : Bool := '0' ≤ c && c ≤ '9'

def digitValue (c : Char) : Nat := c.toNat - '0'.toNat

def decimalValue (ds : List Char) : Nat := ds.foldl (fun n c => 10 * n + digitValue c) 0

def hexValue? (c : Char) : Option Nat :=
  if isDigit c then some (digitValue c)
  else if 'a' ≤ c && c ≤ 'f' then some (c.toNat - 'a'.toNat + 10)
  else if 'A' ≤ c && c ≤ 'F' then some (c.toNat - 'A'.toNat + 10)
  else none

def readHex4 : List Char → Except ReadFault (Front Nat)
  | a :: b :: c :: d :: rest =>
    match hexValue? a, hexValue? b, hexValue? c, hexValue? d with
    | some w, some x, some y, some z => .ok (((w * 16 + x) * 16 + y) * 16 + z, rest)
    | _, _, _, _ => malformed
  | _ => malformed

def isHighSurrogate (n : Nat) : Bool := 0xd800 ≤ n && n ≤ 0xdbff

def isLowSurrogate (n : Nat) : Bool := 0xdc00 ≤ n && n ≤ 0xdfff

/-- After `\u`: one unit, or a pair of surrogates joined to one character. A surrogate without its
partner stands alone. -/
def readUnit (cs : List Char) : Except ReadFault (Front CodePoint) := do
  let (n, rest) ← readHex4 cs
  match rest with
  | '\\' :: 'u' :: more =>
    match readHex4 more with
    | .ok (low, rest') =>
      if isHighSurrogate n && isLowSurrogate low then
        return (.ofNat (0x10000 + (n - 0xd800) * 0x400 + (low - 0xdc00)), rest')
      else return (.ofNat n, rest)
    | .error _ => return (.ofNat n, rest)
  | _ => return (.ofNat n, rest)

def simpleEscape? : Char → Option Char
  | '\x22' => some '\x22'
  | '\\' => some '\\'
  | '/' => some '/'
  | 'b' => some '\x08'
  | 'f' => some '\x0c'
  | 'n' => some '\n'
  | 'r' => some '\r'
  | 't' => some '\t'
  | _ => none

/-- The code points up to the closing quote; `soFar` holds those read, last first. -/
def readPoints : Nat → Text → List Char → Except ReadFault (Front Text)
  | 0, _, _ => malformed
  | _ + 1, _, [] => malformed
  | fuel + 1, soFar, c :: rest =>
    if c = '\x22' then .ok (soFar.reverse, rest)
    else if c.toNat < 0x20 then malformed
    else if c = '\\' then
      match rest with
      | [] => malformed
      | e :: rest' =>
        if e = 'u' then do
          let (u, rest'') ← readUnit rest'
          readPoints fuel (u :: soFar) rest''
        else
          match simpleEscape? e with
          | some u => readPoints fuel (.char u :: soFar) rest'
          | none => malformed
    else readPoints fuel (.char c :: soFar) rest

def readString (cs : List Char) : Except ReadFault (Front Text) := readPoints (cs.length + 1) [] cs

/-- The sign and digits of an exponent, if they follow. -/
def readExponent? : List Char → Option (Int × List Char)
  | e :: rest =>
    if e = 'e' ∨ e = 'E' then
      let (negative, digits) := match rest with
        | '-' :: more => (true, more)
        | '+' :: more => (false, more)
        | _ => (false, rest)
      let ds := digits.takeWhile isDigit
      if ds.isEmpty then none
      else
        let n : Int := decimalValue ds
        some (if negative then -n else n, digits.dropWhile isDigit)
    else none
  | [] => none

/-- The digits of a fraction, if a point and at least one digit follow. -/
def readFraction? : List Char → Option (List Char × List Char)
  | '.' :: rest =>
    let ds := rest.takeWhile isDigit
    if ds.isEmpty then none else some (ds, rest.dropWhile isDigit)
  | _ => none

/-- The digits before the point: a zero stands alone. -/
def wholeDigits : List Char → List Char
  | '0' :: _ => ['0']
  | cs => cs.takeWhile isDigit

def readNumber (negative : Bool) (cs : List Char) : Except ReadFault (Front Json) :=
  let whole := wholeDigits cs
  let rest := cs.drop whole.length
  if whole.isEmpty then malformed
  else
    match readFraction? rest, readExponent? ((readFraction? rest).elim rest (·.2)) with
    | none, none =>
      if digitLimit < whole.length then .error .oversized
      else
        let n : Int := decimalValue whole
        .ok (int (if negative then -n else n), rest)
    | some (places, rest'), none =>
      .ok (float (.ofDecimal negative (decimalValue (whole ++ places)) (-places.length)), rest')
    | none, some (e, rest') => .ok (float (.ofDecimal negative (decimalValue whole) e), rest')
    | some (places, _), some (e, rest') =>
      .ok (float (.ofDecimal negative (decimalValue (whole ++ places)) (e - places.length)), rest')

/-- The words of the format and what they name. -/
def words : List (String × Json) :=
  [("null", null), ("true", bool true), ("false", bool false), ("NaN", float .nan),
   ("Infinity", float (.infinite false)), ("-Infinity", float (.infinite true))]

def readWord? (cs : List Char) : Option (Json × List Char) :=
  words.findSome? fun (word, v) =>
    if word.toList.isPrefixOf cs then some (v, cs.drop word.length) else none

mutual

def readValue : Nat → List Char → Except ReadFault (Front Json)
  | 0, _ => malformed
  | fuel + 1, cs =>
    match readWord? cs with
    | some found => .ok found
    | none =>
      match cs with
      | '\x22' :: rest => do
        let (t, rest') ← readString rest
        return (str t, rest')
      | '[' :: rest =>
        match skipSpace rest with
        | ']' :: rest' => .ok (arr [], rest')
        | rest' => readItems fuel [] rest'
      | '\x7b' :: rest =>
        match skipSpace rest with
        | '\x7d' :: rest' => .ok (obj [], rest')
        | rest' => readFields fuel [] rest'
      | '-' :: rest => readNumber true rest
      | _ => readNumber false cs

/-- The items from here to the closing bracket; `soFar` holds those read, last first. -/
def readItems : Nat → List Json → List Char → Except ReadFault (Front Json)
  | 0, _, _ => malformed
  | fuel + 1, soFar, cs => do
    let (v, rest) ← readValue fuel cs
    match skipSpace rest with
    | ',' :: rest' => readItems fuel (v :: soFar) (skipSpace rest')
    | ']' :: rest' => return (arr (v :: soFar).reverse, rest')
    | _ => malformed

/-- The fields from here to the closing brace; `soFar` holds those read, last first. -/
def readFields : Nat → List (Text × Json) → List Char → Except ReadFault (Front Json)
  | 0, _, _ => malformed
  | fuel + 1, soFar, cs =>
    match cs with
    | '\x22' :: rest => do
      let (key, rest') ← readString rest
      match skipSpace rest' with
      | ':' :: more => do
        let (v, rest'') ← readValue fuel (skipSpace more)
        let fields := (key, v) :: soFar
        match skipSpace rest'' with
        | ',' :: next => readFields fuel fields (skipSpace next)
        | '\x7d' :: next => return (ofFields fields.reverse, next)
        | _ => malformed
      | _ => malformed
    | _ => malformed

end

/-- Reads a whole document. A level of nesting takes two steps and two brackets. -/
def read (s : String) : Except ReadFault Json := do
  let cs := s.toList
  let (v, rest) ← readValue (2 * cs.length + 2) (skipSpace cs)
  if (skipSpace rest).isEmpty then return v else malformed

end StructBridge.Json
