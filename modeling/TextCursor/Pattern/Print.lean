import TextCursor.Pattern.Escape
import TextCursor.Pattern.Tree
/-!
Writing a tree as text again. Concatenations, alternations and literals of several codepoints are
put in parentheses; a repetition is its operand followed by the operator, with nothing around.
-/
namespace TextCursor.Pattern

def printChar (c : Char) : Text := if isMeta c then ['\\', c] else [c]

def parenthesized (text : Text) : Text := ['(', '?', ':'] ++ text ++ [')']

def printRange (print : Char → Text) (r : Unicode.CodeRange) : Text :=
  let lo := print (Char.ofNat r.lo)
  let hi := print (Char.ofNat r.hi)
  if r.lo = r.hi then lo
  else if r.lo + 1 = r.hi then lo ++ hi
  else lo ++ ['-'] ++ hi

def printByte (c : Char) : Text :=
  let n := c.toNat
  if n ≤ 0x20 ∨ n = 0x7F then
    ['\\', 'x', (Nat.digitChar (n / 16)).toUpper, (Nat.digitChar (n % 16)).toUpper]
  else printChar c

def printSet (bytes : Bool) (set : Unicode.CodeSet) : Text :=
  if set.isEmpty then "[a&&b]".toList
  else if bytes then
    "(?-u:[".toList ++ set.ranges.flatMap (printRange printByte) ++ [']', ')']
  else ['['] ++ set.ranges.flatMap (printRange printChar) ++ [']']

def WordLook.print : WordLook → Text
  | boundary => "\\b".toList
  | notBoundary => "\\B".toList
  | start => "\\b\x7bstart\x7d".toList
  | stop => "\\b\x7bend\x7d".toList
  | startHalf => "\\b\x7bstart-half\x7d".toList
  | stopHalf => "\\b\x7bend-half\x7d".toList

def Look.print : Look → Text
  | start => "\\A".toList
  | stop => "\\z".toList
  | lineStart false => "(?m:^)".toList
  | lineStop false => "(?m:$)".toList
  | lineStart true => "(?mR:^)".toList
  | lineStop true => "(?mR:$)".toList
  | word kind true => kind.print
  | word kind false => "(?-u:".toList ++ kind.print ++ [')']

def Count.print (c : Count) : Text :=
  let digits (n : Nat) : Text := (Nat.repr n).toList
  match c.least, c.most with
  | 0, some 1 => ['?']
  | 0, none => ['*']
  | 1, none => ['+']
  | m, none => ['\x7b'] ++ digits m ++ [',', '\x7d']
  | m, some n =>
    if m = n then ['\x7b'] ++ digits m ++ ['\x7d']
    else ['\x7b'] ++ digits m ++ [','] ++ digits n ++ ['\x7d']

/-- The mark of a lazy repetition. A fixed count has none. -/
def lazyMark (c : Count) (greedy : Bool) : Text :=
  if greedy || c.most == some c.least then [] else ['?']

mutual

def Tree.print : Tree → Text
  | empty => parenthesized []
  | literal chars =>
    let text := chars.flatMap printChar
    if 1 < chars.length then parenthesized text else text
  | codes bytes set => printSet bytes set
  | look l => l.print
  | repetition count greedy sub => sub.print ++ count.print ++ lazyMark count greedy
  | capture _ none sub => ['('] ++ sub.print ++ [')']
  | capture _ (some name) sub => "(?P<".toList ++ name ++ ['>'] ++ sub.print ++ [')']
  | concat parts => parenthesized (Tree.printAll parts)
  | alternation branches => parenthesized (Tree.printBranches branches)

def Tree.printAll : List Tree → Text
  | [] => []
  | t :: rest => t.print ++ Tree.printAll rest

def Tree.printBranches : List Tree → Text
  | [] => []
  | [t] => t.print
  | t :: rest => t.print ++ ['|'] ++ Tree.printBranches rest

end

end TextCursor.Pattern
