import TextCursor.Unicode.Category.Letter
import TextCursor.Unicode.Category.Mark
import TextCursor.Unicode.Category.Number
import TextCursor.Unicode.Category.Punctuation
import TextCursor.Unicode.Category.Separator
import TextCursor.Unicode.Category.Symbol
import TextCursor.Unicode.Contributory
import TextCursor.Unicode.Script
/-!
Unicode properties and the names by which patterns ask for them. Names are compared loosely: letter
case, spaces, `_`, `-` and a leading `is` do not count. `PropertyQuery.find` answers with the set or
says whether the property or its value is unknown.

Known are all general categories, the scripts of `Script.byName`, and of the binary properties
Alphabetic, Uppercase, Lowercase, White_Space, Join_Control and Emoji. Whatever else Unicode defines
is refused as unknown, although it has such names: other scripts and binary properties, script
extensions, ages and the properties that break a text into clusters, words and sentences. A pattern
that asks for one of these is outside of what is modelled here.
-/
namespace TextCursor.Unicode

namespace Category

def casedLetter : CodeSet := .unions [uppercaseLetter, lowercaseLetter, titlecaseLetter]
def letter : CodeSet := .unions [casedLetter, modifierLetter, otherLetter]
def mark : CodeSet := .unions [nonspacingMark, spacingMark, enclosingMark]
def number : CodeSet := .unions [decimalNumber, letterNumber, otherNumber]
def punctuation : CodeSet :=
  .unions [connectorPunctuation, dashPunctuation, openPunctuation, closePunctuation,
    initialPunctuation, finalPunctuation, otherPunctuation]
def symbol : CodeSet := .unions [mathSymbol, currencySymbol, modifierSymbol, otherSymbol]
def separator : CodeSet := .unions [spaceSeparator, lineSeparator, paragraphSeparator]
def assigned : CodeSet :=
  .unions [letter, mark, number, punctuation, symbol, separator, control, format, privateUse]
def unassigned : CodeSet := assigned.complement
def other : CodeSet := .unions [control, format, unassigned, privateUse]

def byName : List (List String × CodeSet) :=
  [(["l", "letter"], letter),
   (["lc", "casedletter"], casedLetter),
   (["lu", "uppercaseletter"], uppercaseLetter),
   (["ll", "lowercaseletter"], lowercaseLetter),
   (["lt", "titlecaseletter"], titlecaseLetter),
   (["lm", "modifierletter"], modifierLetter),
   (["lo", "otherletter"], otherLetter),
   (["m", "mark", "combiningmark"], mark),
   (["mn", "nonspacingmark"], nonspacingMark),
   (["mc", "spacingmark"], spacingMark),
   (["me", "enclosingmark"], enclosingMark),
   (["n", "number"], number),
   (["nd", "decimalnumber", "digit"], decimalNumber),
   (["nl", "letternumber"], letterNumber),
   (["no", "othernumber"], otherNumber),
   (["p", "punctuation", "punct"], punctuation),
   (["pc", "connectorpunctuation"], connectorPunctuation),
   (["pd", "dashpunctuation"], dashPunctuation),
   (["ps", "openpunctuation"], openPunctuation),
   (["pe", "closepunctuation"], closePunctuation),
   (["pi", "initialpunctuation"], initialPunctuation),
   (["pf", "finalpunctuation"], finalPunctuation),
   (["po", "otherpunctuation"], otherPunctuation),
   (["s", "symbol"], symbol),
   (["sm", "mathsymbol"], mathSymbol),
   (["sc", "currencysymbol"], currencySymbol),
   (["sk", "modifiersymbol"], modifierSymbol),
   (["so", "othersymbol"], otherSymbol),
   (["z", "separator"], separator),
   (["zs", "spaceseparator"], spaceSeparator),
   (["zl", "lineseparator"], lineSeparator),
   (["zp", "paragraphseparator"], paragraphSeparator),
   (["c", "other"], other),
   (["cc", "control", "cntrl"], control),
   (["cf", "format"], format),
   (["cn", "unassigned"], unassigned),
   (["co", "privateuse"], privateUse),
   (["any"], .all),
   (["assigned"], assigned),
   (["ascii"], .range 0 0x7F)]

end Category

namespace Script

def byName : List (List String × CodeSet) :=
  [(["greek", "grek"], greek),
   (["cyrillic", "cyrl"], cyrillic),
   (["latin", "latn"], latin),
   (["arabic", "arab"], arabic),
   (["hebrew", "hebr"], hebrew),
   (["han", "hani"], han),
   (["hiragana", "hira"], hiragana),
   (["katakana", "kana"], katakana),
   (["hangul", "hang"], hangul),
   (["common", "zyyy"], common),
   (["inherited", "zinh", "qaai"], inherited)]

end Script

def alphabetic : CodeSet := .unions [Category.letter, Category.letterNumber, otherAlphabetic]
def uppercase : CodeSet := Category.uppercaseLetter.union otherUppercase
def lowercase : CodeSet := Category.lowercaseLetter.union otherLowercase

def binaryByName : List (List String × CodeSet) :=
  [(["alphabetic", "alpha"], alphabetic),
   (["uppercase", "upper"], uppercase),
   (["lowercase", "lower"], lowercase),
   (["whitespace", "wspace", "space"], whiteSpace),
   (["joincontrol", "joinc"], joinControl),
   (["emoji"], emoji)]

def word : CodeSet :=
  .unions [alphabetic, Category.mark, Category.decimalNumber, Category.connectorPunctuation,
    joinControl]

def digit : CodeSet := Category.decimalNumber

def alphanumeric : CodeSet := alphabetic.union Category.number

def isBlank (c : Char) : Bool := whiteSpace.contains c

inductive PropertyQuery where
  | named (name : List Char)
  | valued (property value : List Char)
  deriving DecidableEq, Repr

inductive PropertyError where
  | unknownProperty
  | unknownValue
  deriving DecidableEq, Repr

def looseName (name : List Char) : String :=
  let lower := name.map Char.toLower
  let (hadIs, rest) :=
    match lower with
    | 'i' :: 's' :: rest => (true, rest)
    | _ => (false, lower)
  let kept := rest.filter fun c => c.toNat < 128 && c != ' ' && c != '_' && c != '-'
  if hadIs && kept == ['c'] then "isc" else String.ofList kept

def lookup (table : List (List String × CodeSet)) (name : String) : Option CodeSet :=
  (table.find? fun entry => entry.1.contains name).map (·.2)

/-- The set that a query asks for, if it is in the tables. `cf`, `sc` and `lc` alone name general
categories. -/
def PropertyQuery.find : PropertyQuery → Except PropertyError CodeSet
  | .named name =>
    let key := looseName name
    match lookup binaryByName key <|> lookup Category.byName key <|> lookup Script.byName key with
    | some s => .ok s
    | none => .error .unknownProperty
  | .valued property value =>
    let answer (table : List (List String × CodeSet)) : Except PropertyError CodeSet :=
      match lookup table (looseName value) with
      | some s => .ok s
      | none => .error .unknownValue
    let key := looseName property
    if ["generalcategory", "gc"].contains key then answer Category.byName
    else if ["script", "sc"].contains key then answer Script.byName
    else if (lookup binaryByName key).isSome then .error .unknownValue
    else .error .unknownProperty

end TextCursor.Unicode
