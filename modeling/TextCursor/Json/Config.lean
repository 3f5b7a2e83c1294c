import TextCursor.Count
import TextCursor.Json.Read
import TextCursor.Options
import TextCursor.Position
/-!
The JSON form of positions, modifiers and options. A record is an object with a member for each
field, and may be read from an array of its fields in order as well. Members that are no field are
passed over; a field that is missing or given twice is refused. A choice is the name of one of its
cases, or an object with that name and `null`.
-/
namespace TextCursor.Json

def valuesAt (members : List (Option Text × Value)) (key : String) : List Value :=
  (members.filter fun m => m.1 == some key.toList).map (·.2)

def member? (members : List (Option Text × Value)) (key : String) : Option Value :=
  match valuesAt members key with
  | [v] => some v
  | _ => none

namespace Value

def fields? (names : List String) : Value → Option (List Value)
  | array items => if items.length = names.length then some items else none
  | object members =>
    if members.all fun m => m.1.isSome then names.mapM (member? members) else none
  | _ => none

def digitsValue (digits : Text) : Nat := digits.foldl (fun n c => n * 10 + (c.toNat - 48)) 0

/-- A count, which is written without sign, fraction and exponent. -/
def count? : Value → Option Nat
  | number lexeme =>
    if lexeme.all Char.isDigit ∧ digitsValue lexeme ≤ maxCount then some (digitsValue lexeme)
    else none
  | _ => none

def bool? : Value → Option Bool
  | bool b => some b
  | _ => none

def case? : Value → Option Text
  | string content => content
  | object [(key, null)] => key
  | _ => none

def ofCount (n : Nat) : Value := number (Nat.repr n).toList
def ofName (name : String) : Value := string (some name.toList)
def ofFields (fields : List (String × Value)) : Value :=
  object (fields.map fun f => (some f.1.toList, f.2))

end Value

def positionFields : List String := ["line", "column", "offset", "byte_offset"]

def readPosition (v : Value) : Option Position := do
  match ← v.fields? positionFields with
  | [line, column, offset, byteOffset] =>
    some ⟨← line.count?, ← column.count?, ← offset.count?, ← byteOffset.count?⟩
  | _ => none

def writePosition (p : Position) : Value :=
  .ofFields [("line", .ofCount p.line), ("column", .ofCount p.column),
    ("offset", .ofCount p.offset), ("byte_offset", .ofCount p.byteOffset)]

def modifiersFields : List String :=
  ["case_insensitive", "multi_line", "dot_matches_new_line", "ignore_whitespace", "swap_greed"]

def readModifiers (v : Value) : Option Modifiers := do
  match ← v.fields? modifiersFields with
  | [i, m, s, x, swap] => some ⟨← i.bool?, ← m.bool?, ← s.bool?, ← x.bool?, ← swap.bool?⟩
  | _ => none

def writeModifiers (m : Modifiers) : Value :=
  .ofFields [("case_insensitive", .bool m.caseInsensitive), ("multi_line", .bool m.multiLine),
    ("dot_matches_new_line", .bool m.dotMatchesNewLine),
    ("ignore_whitespace", .bool m.ignoreWhitespace), ("swap_greed", .bool m.swapGreed)]

def readEncoding (v : Value) : Option Encoding := do
  let name ← v.case?
  if name = "Utf8".toList then some .utf8
  else if name = "Ascii".toList then some .ascii
  else none

def writeEncoding : Encoding → Value
  | .utf8 => .ofName "Utf8"
  | .ascii => .ofName "Ascii"

def readCapture (v : Value) : Option CaptureMode := do
  let name ← v.case?
  if name = "Text".toList then some .text
  else if name = "Offset".toList then some .offset
  else none

def writeCapture : CaptureMode → Value
  | .text => .ofName "Text"
  | .offset => .ofName "Offset"

def optionsFields : List String := ["encoding", "default_modifiers", "capture", "cache_patterns"]

def readOptions (v : Value) : Option CursorOptions := do
  match ← v.fields? optionsFields with
  | [encoding, modifiers, capture, cache] =>
    some
      { encoding := ← readEncoding encoding
        defaultModifiers := ← readModifiers modifiers
        capture := ← readCapture capture
        cachePatterns := ← cache.bool? }
  | _ => none

def writeOptions (o : CursorOptions) : Value :=
  .ofFields [("encoding", writeEncoding o.encoding),
    ("default_modifiers", writeModifiers o.defaultModifiers),
    ("capture", writeCapture o.capture), ("cache_patterns", .bool o.cachePatterns)]

inductive Shape where
  | position
  | modifiers
  | encoding
  | capture
  | options
  deriving DecidableEq, Repr

def Shape.normalize? (shape : Shape) (text : Text) : Option Text := do
  let v ← Value.read? text
  let v ←
    match shape with
    | position => (readPosition v).map writePosition
    | modifiers => (readModifiers v).map writeModifiers
    | encoding => (readEncoding v).map writeEncoding
    | capture => (readCapture v).map writeCapture
    | options => (readOptions v).map writeOptions
  some v.render

end TextCursor.Json
