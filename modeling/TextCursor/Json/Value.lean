import TextCursor.Text
/-!
JSON values and their written form. Numbers keep the text that they are written as. A string whose
escapes leave half of a surrogate pair has no text, but is a string all the same.
-/
namespace TextCursor.Json

inductive Value where
  | null
  | bool (b : Bool)
  | number (lexeme : Text)
  | string (content : Option Text)
  | array (items : List Value)
  | object (members : List (Option Text × Value))

def hex4 (n : Nat) : Text :=
  [n / 4096 % 16, n / 256 % 16, n / 16 % 16, n % 16].map Nat.digitChar

def renderChar (c : Char) : Text :=
  if c = '"' then ['\\', '"']
  else if c = '\\' then ['\\', '\\']
  else if c.toNat < 0x20 then ['\\', 'u'] ++ hex4 c.toNat
  else [c]

def renderString (content : Option Text) : Text :=
  ['"'] ++ (content.getD []).flatMap renderChar ++ ['"']

mutual

def Value.render : Value → Text
  | null => "null".toList
  | bool true => "true".toList
  | bool false => "false".toList
  | number lexeme => lexeme
  | string content => renderString content
  | array items => ['['] ++ Value.renderItems items ++ [']']
  | object members => ['\x7b'] ++ Value.renderMembers members ++ ['\x7d']

def Value.renderItems : List Value → Text
  | [] => []
  | [v] => v.render
  | v :: rest => v.render ++ [','] ++ Value.renderItems rest

def Value.renderMembers : List (Option Text × Value) → Text
  | [] => []
  | [(key, v)] => renderString key ++ [':'] ++ v.render
  | (key, v) :: rest =>
    renderString key ++ [':'] ++ v.render ++ [','] ++ Value.renderMembers rest

end

end TextCursor.Json
