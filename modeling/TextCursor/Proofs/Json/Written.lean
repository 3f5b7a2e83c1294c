import TextCursor.Json.Read
/-!
What it is for a text to be JSON for a value, said without a reader. White space may stand around
every value and every key. A codepoint of a string stands for itself or is escaped, and two escapes
may stand for the halves of one codepoint; a number stands for its own text. The rendered form of a
value is one such text.
-/
namespace TextCursor.Json

def Blank (t : Text) : Prop := ∀ c ∈ t, c ∈ [' ', '\n', '\t', '\r']

def Padded (p : Text → Prop) (t : Text) : Prop :=
  ∃ front inner back, Blank front ∧ p inner ∧ Blank back ∧ t = front ++ (inner ++ back)

theorem Blank.nil : Blank [] := by simp [Blank]

theorem Padded.plain {p : Text → Prop} {t : Text} (h : p t) : Padded p t :=
  ⟨[], t, [], Blank.nil, h, Blank.nil, by simp⟩

def HexDigit (n : Nat) (c : Char) : Prop :=
  n < 16 ∧ (c = Nat.digitChar n ∨ c = (Nat.digitChar n).toUpper)

inductive FourHex : Nat → Text → Prop
  | intro {a b c d : Nat} {w x y z : Char} (ha : HexDigit a w) (hb : HexDigit b x)
      (hc : HexDigit c y) (hd : HexDigit d z) :
      FourHex (a * 4096 + b * 256 + c * 16 + d) [w, x, y, z]

def shortEscapes : List (Char × Char) :=
  [('"', '"'), ('\\', '\\'), ('/', '/'), ('b', '\x08'), ('f', '\x0c'), ('n', '\n'), ('r', '\r'),
    ('t', '\t')]

inductive ItemForm : StringItem → Text → Prop
  | plain {c : Char} (visible : 0x20 ≤ c.toNat) (quote : c ≠ '"') (slash : c ≠ '\\') :
      ItemForm (.char c) [c]
  | short {sign c : Char} (escape : (sign, c) ∈ shortEscapes) : ItemForm (.char c) ['\\', sign]
  | unit {n : Nat} {hex : Text} (four : FourHex n hex) : ItemForm (.unit n) ('\\' :: 'u' :: hex)

inductive ItemsForm : List StringItem → Text → Prop
  | nil : ItemsForm [] []
  | cons {item : StringItem} {items : List StringItem} {first rest : Text}
      (one : ItemForm item first) (others : ItemsForm items rest) :
      ItemsForm (item :: items) (first ++ rest)

/-- What items stand for: a codepoint beyond the first 65536 is two units. -/
inductive StandsFor : Text → List StringItem → Prop
  | nil : StandsFor [] []
  | char {c : Char} {rest : Text} {items : List StringItem} (others : StandsFor rest items) :
      StandsFor (c :: rest) (.char c :: items)
  | unit {c : Char} {rest : Text} {items : List StringItem} (small : c.toNat < 0x10000)
      (others : StandsFor rest items) : StandsFor (c :: rest) (.unit c.toNat :: items)
  | pair {c : Char} {high low : Nat} {rest : Text} {items : List StringItem} (hh : high < 0x400)
      (hl : low < 0x400) (large : c.toNat = 0x10000 + high * 0x400 + low)
      (others : StandsFor rest items) :
      StandsFor (c :: rest) (.unit (0xD800 + high) :: .unit (0xDC00 + low) :: items)

/-- A string in quotes. It has no content if its items stand for no text. -/
def Quoted (content : Option Text) (t : Text) : Prop :=
  ∃ items body, ItemsForm items body ∧ (∀ s, content = some s ↔ StandsFor s items) ∧
    t = '"' :: (body ++ ['"'])

def Digits (t : Text) : Prop := t ≠ [] ∧ ∀ c ∈ t, c.isDigit = true

def Whole (t : Text) : Prop := t = ['0'] ∨ Digits t ∧ t.head? ≠ some '0'

def Fraction (t : Text) : Prop := t = [] ∨ ∃ places, Digits places ∧ t = '.' :: places

def Exponent (t : Text) : Prop :=
  t = [] ∨ ∃ e sign power, e ∈ ['e', 'E'] ∧ sign ∈ [[], ['+'], ['-']] ∧ Digits power ∧
    t = e :: (sign ++ power)

def Number (t : Text) : Prop :=
  ∃ sign whole fraction exponent, sign ∈ [[], ['-']] ∧ Whole whole ∧ Fraction fraction ∧
    Exponent exponent ∧ t = sign ++ (whole ++ (fraction ++ exponent))

mutual

/-- The texts that are JSON for a value, without white space around them. -/
def Value.Writes : Value → Text → Prop
  | null, t => t = "null".toList
  | bool true, t => t = "true".toList
  | bool false, t => t = "false".toList
  | number lexeme, t => Number lexeme ∧ t = lexeme
  | string content, t => Quoted content t
  | array items, t => ∃ inner, Value.WritesItems items inner ∧ t = '[' :: (inner ++ [']'])
  | object members, t =>
    ∃ inner, Value.WritesMembers members inner ∧ t = '\x7b' :: (inner ++ ['\x7d'])

def Value.WritesItems : List Value → Text → Prop
  | [], t => Blank t
  | [v], t => Padded v.Writes t
  | v :: rest, t => ∃ first others, Padded v.Writes first ∧ Value.WritesItems rest others ∧
      t = first ++ ',' :: others

def Value.WritesMembers : List (Option Text × Value) → Text → Prop
  | [], t => Blank t
  | [(key, v)], t => ∃ name value, Padded (Quoted key) name ∧ Padded v.Writes value ∧
      t = name ++ ':' :: value
  | (key, v) :: rest, t => ∃ name value others, Padded (Quoted key) name ∧
      Padded v.Writes value ∧ Value.WritesMembers rest others ∧
      t = name ++ ':' :: (value ++ ',' :: others)

end

end TextCursor.Json
