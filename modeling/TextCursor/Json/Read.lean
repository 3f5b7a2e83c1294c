import TextCursor.Json.Value
/-!
Reading JSON. Each reader takes what it needs from the front of a text and gives the rest, or
refuses. `Value.read?` reads a whole text, which may hold white space around the value and nothing
else.
-/
namespace TextCursor.Json

def isSpace (c : Char) : Bool := c == ' ' || c == '\n' || c == '\t' || c == '\r'

def skipSpace (text : Text) : Text := text.dropWhile isSpace

/-- What an item of a string stands for: a codepoint, or one unit of UTF-16. -/
inductive StringItem where
  | char (c : Char)
  | unit (n : Nat)
  deriving DecidableEq, Repr

def hexValue? (c : Char) : Option Nat :=
  if '0' ≤ c ∧ c ≤ '9' then some (c.toNat - 48)
  else if 'a' ≤ c ∧ c ≤ 'f' then some (c.toNat - 87)
  else if 'A' ≤ c ∧ c ≤ 'F' then some (c.toNat - 55)
  else none

def hex4? (a b c d : Char) : Option Nat := do
  some ((← hexValue? a) * 4096 + (← hexValue? b) * 256 + (← hexValue? c) * 16 + (← hexValue? d))

def escaped? : Char → Option Char
  | '"' => some '"'
  | '\\' => some '\\'
  | '/' => some '/'
  | 'b' => some '\x08'
  | 'f' => some '\x0c'
  | 'n' => some '\n'
  | 'r' => some '\r'
  | 't' => some '\t'
  | _ => none

def consItem (item : StringItem) : Option (List StringItem × Text) → Option (List StringItem × Text)
  | some (items, rest) => some (item :: items, rest)
  | none => none

def readItems : Text → Option (List StringItem × Text)
  | [] => none
  | '"' :: rest => some ([], rest)
  | '\\' :: 'u' :: a :: b :: c :: d :: rest =>
    match hex4? a b c d with
    | some n => consItem (.unit n) (readItems rest)
    | none => none
  | '\\' :: c :: rest =>
    match escaped? c with
    | some c => consItem (.char c) (readItems rest)
    | none => none
  | c :: rest => if c.toNat < 0x20 ∨ c = '\\' then none else consItem (.char c) (readItems rest)

def isHighSurrogate (n : Nat) : Bool := 0xD800 ≤ n && n ≤ 0xDBFF
def isLowSurrogate (n : Nat) : Bool := 0xDC00 ≤ n && n ≤ 0xDFFF

/-- The text that items stand for, unless half of a surrogate pair is left. -/
def joinItems : List StringItem → Option Text
  | [] => some []
  | .char c :: rest => (joinItems rest).map (c :: ·)
  | .unit n :: rest =>
    if isHighSurrogate n then
      match rest with
      | .unit m :: rest =>
        if isLowSurrogate m then
          (joinItems rest).map (Char.ofNat (0x10000 + (n - 0xD800) * 0x400 + (m - 0xDC00)) :: ·)
        else none
      | _ => none
    else if isLowSurrogate n then none
    else (joinItems rest).map (Char.ofNat n :: ·)

def readString (text : Text) : Option (Option Text × Text) :=
  (readItems text).map fun p => (joinItems p.1, p.2)

def spanDigits (text : Text) :
    Text × Text := (text.takeWhile Char.isDigit, text.dropWhile Char.isDigit)

def readDigits (text : Text) : Option (Text × Text) :=
  match spanDigits text with
  | ([], _) => none
  | p => some p

/-- Reads the whole part of a number; a leading zero stands alone. -/
def readWhole : Text → Option (Text × Text)
  | '0' :: rest => some (['0'], rest)
  | text => readDigits text

def readFraction : Text → Option (Text × Text)
  | '.' :: rest => (readDigits rest).map fun p => ('.' :: p.1, p.2)
  | text => some ([], text)

def readExponent : Text → Option (Text × Text)
  | e :: rest =>
    if e = 'e' ∨ e = 'E' then
      let (sign, rest) : Text × Text :=
        match rest with
        | '+' :: rest => (['+'], rest)
        | '-' :: rest => (['-'], rest)
        | rest => ([], rest)
      (readDigits rest).map fun p => (e :: sign ++ p.1, p.2)
    else some ([], e :: rest)
  | [] => some ([], [])

def readNumber (text : Text) : Option (Text × Text) := do
  let (sign, rest) : Text × Text :=
    match text with
    | '-' :: rest => (['-'], rest)
    | rest => ([], rest)
  let (whole, rest) ← readWhole rest
  let (fraction, rest) ← readFraction rest
  let (exponent, rest) ← readExponent rest
  some (sign ++ whole ++ fraction ++ exponent, rest)

def readWord (word : Text) (v : Value) (text : Text) : Option (Value × Text) :=
  if word.isPrefixOf text then some (v, text.drop word.length) else none

mutual

def readValue : Nat → Text → Option (Value × Text)
  | 0, _ => none
  | fuel + 1, text =>
    match skipSpace text with
    | '"' :: rest => (readString rest).map fun p => (.string p.1, p.2)
    | '[' :: rest =>
      match skipSpace rest with
      | ']' :: rest => some (.array [], rest)
      | rest => (readArray fuel rest).map fun p => (.array p.1, p.2)
    | '\x7b' :: rest =>
      match skipSpace rest with
      | '\x7d' :: rest => some (.object [], rest)
      | rest => (readObject fuel rest).map fun p => (.object p.1, p.2)
    | 'n' :: rest => readWord "ull".toList .null rest
    | 't' :: rest => readWord "rue".toList (.bool true) rest
    | 'f' :: rest => readWord "alse".toList (.bool false) rest
    | rest => (readNumber rest).map fun p => (.number p.1, p.2)

def readArray : Nat → Text → Option (List Value × Text)
  | 0, _ => none
  | fuel + 1, text => do
    let (v, rest) ← readValue fuel text
    match skipSpace rest with
    | ',' :: rest => (readArray fuel rest).map fun p => (v :: p.1, p.2)
    | ']' :: rest => some ([v], rest)
    | _ => none

def readObject : Nat → Text → Option (List (Option Text × Value) × Text)
  | 0, _ => none
  | fuel + 1, text =>
    match skipSpace text with
    | '"' :: rest => do
      let (key, rest) ← readString rest
      match skipSpace rest with
      | ':' :: rest =>
        let (v, rest) ← readValue fuel rest
        match skipSpace rest with
        | ',' :: rest => (readObject fuel rest).map fun p => ((key, v) :: p.1, p.2)
        | '\x7d' :: rest => some ([(key, v)], rest)
        | _ => none
      | _ => none
    | _ => none

end

/-- The value that a text is. No more than two readers are entered for each codepoint. -/
def Value.read? (text : Text) : Option Value :=
  match readValue (2 * text.length + 2) text with
  | some (v, rest) => if (skipSpace rest).isEmpty then some v else none
  | none => none

end TextCursor.Json
