import Signpost.Unicode.Property

/-!
# Names of properties

Properties go by long and short names. Case, blanks, low lines and hyphens do not count in a name,
nor does an "is" in front of it.
-/

namespace Signpost.Unicode

/-- Whether a name begins with "is" in some case. -/
def startsWithIs : List Char → Bool
  | a :: b :: _ => a.toLower == 'i' && b.toLower == 's'
  | _ => false

/-- A name without what does not count in it. The name "isc" stays whole, because "c" is the name
of another property. -/
def normalizeName (name : List Char) : List Char :=
  let kept := fun (cs : List Char) =>
    (cs.filter fun c => c.toNat < 128 && c != ' ' && c != '_' && c != '-').map Char.toLower
  if startsWithIs name then
    let short := kept (name.drop 2)
    if short = ['c'] then ['i', 's', 'c'] else short
  else kept name

/-- The general categories and their unions, by normalized name. -/
def categoryNames : List (String × Property) :=
  [("any", .any), ("ascii", .ascii), ("assigned", .assigned),
   ("unassigned", .unassigned), ("cn", .unassigned),
   ("letter", .oneOf Category.letters), ("l", .oneOf Category.letters),
   ("casedletter", .oneOf Category.casedLetters), ("lc", .oneOf Category.casedLetters),
   ("uppercaseletter", .oneOf [.lu]), ("lu", .oneOf [.lu]),
   ("lowercaseletter", .oneOf [.ll]), ("ll", .oneOf [.ll]),
   ("titlecaseletter", .oneOf [.lt]), ("lt", .oneOf [.lt]),
   ("modifierletter", .oneOf [.lm]), ("lm", .oneOf [.lm]),
   ("otherletter", .oneOf [.lo]), ("lo", .oneOf [.lo]),
   ("mark", .oneOf Category.marks), ("m", .oneOf Category.marks),
   ("combiningmark", .oneOf Category.marks),
   ("nonspacingmark", .oneOf [.mn]), ("mn", .oneOf [.mn]),
   ("spacingmark", .oneOf [.mc]), ("mc", .oneOf [.mc]),
   ("enclosingmark", .oneOf [.me]), ("me", .oneOf [.me]),
   ("number", .oneOf Category.numbers), ("n", .oneOf Category.numbers),
   ("decimalnumber", .oneOf [.nd]), ("nd", .oneOf [.nd]), ("digit", .oneOf [.nd]),
   ("letternumber", .oneOf [.nl]), ("nl", .oneOf [.nl]),
   ("othernumber", .oneOf [.no]), ("no", .oneOf [.no]),
   ("punctuation", .oneOf Category.punctuation), ("p", .oneOf Category.punctuation),
   ("punct", .oneOf Category.punctuation),
   ("connectorpunctuation", .oneOf [.pc]), ("pc", .oneOf [.pc]),
   ("dashpunctuation", .oneOf [.pd]), ("pd", .oneOf [.pd]),
   ("openpunctuation", .oneOf [.ps]), ("ps", .oneOf [.ps]),
   ("closepunctuation", .oneOf [.pe]), ("pe", .oneOf [.pe]),
   ("initialpunctuation", .oneOf [.pi]), ("pi", .oneOf [.pi]),
   ("finalpunctuation", .oneOf [.pf]), ("pf", .oneOf [.pf]),
   ("otherpunctuation", .oneOf [.po]), ("po", .oneOf [.po]),
   ("symbol", .oneOf Category.symbols), ("s", .oneOf Category.symbols),
   ("mathsymbol", .oneOf [.sm]), ("sm", .oneOf [.sm]),
   ("currencysymbol", .oneOf [.sc]), ("sc", .oneOf [.sc]),
   ("modifiersymbol", .oneOf [.sk]), ("sk", .oneOf [.sk]),
   ("othersymbol", .oneOf [.so]), ("so", .oneOf [.so]),
   ("separator", .oneOf Category.separators), ("z", .oneOf Category.separators),
   ("spaceseparator", .oneOf [.zs]), ("zs", .oneOf [.zs]),
   ("lineseparator", .oneOf [.zl]), ("zl", .oneOf [.zl]),
   ("paragraphseparator", .oneOf [.zp]), ("zp", .oneOf [.zp]),
   ("other", .other), ("c", .other),
   ("control", .oneOf [.cc]), ("cc", .oneOf [.cc]), ("cntrl", .oneOf [.cc]),
   ("format", .oneOf [.cf]), ("cf", .oneOf [.cf]),
   ("privateuse", .oneOf [.co]), ("co", .oneOf [.co])]

/-- The classes of breaks, by normalized name. -/
def graphemeBreakNames : List (GraphemeBreak × List String) :=
  [(.cr, ["cr"]), (.lf, ["lf"]), (.control, ["control", "cn"]), (.extend, ["extend", "ex"]),
   (.joiner, ["zwj"]), (.regionalIndicator, ["regionalindicator", "ri"]),
   (.prepend, ["prepend", "pp"]), (.spacingMark, ["spacingmark", "sm"]),
   (.l, ["l"]), (.v, ["v"]), (.t, ["t"]), (.lv, ["lv"]), (.lvt, ["lvt"])]

def wordBreakNames : List (WordBreak × List String) :=
  [(.cr, ["cr"]), (.lf, ["lf"]), (.newline, ["newline", "nl"]), (.extend, ["extend"]),
   (.joiner, ["zwj"]), (.regionalIndicator, ["regionalindicator", "ri"]),
   (.format, ["format", "fo"]), (.katakana, ["katakana", "ka"]),
   (.hebrewLetter, ["hebrewletter", "hl"]), (.aLetter, ["aletter", "le"]),
   (.singleQuote, ["singlequote", "sq"]), (.doubleQuote, ["doublequote", "dq"]),
   (.midNumLet, ["midnumlet", "mb"]), (.midLetter, ["midletter", "ml"]),
   (.midNum, ["midnum", "mn"]), (.numeric, ["numeric", "nu"]),
   (.extendNumLet, ["extendnumlet", "ex"]), (.wordSpace, ["wsegspace"])]

def sentenceBreakNames : List (SentenceBreak × List String) :=
  [(.cr, ["cr"]), (.lf, ["lf"]), (.sep, ["sep", "se"]), (.extend, ["extend", "ex"]),
   (.format, ["format", "fo"]), (.sp, ["sp"]), (.lower, ["lower", "lo"]),
   (.upper, ["upper", "up"]), (.oLetter, ["oletter", "le"]), (.numeric, ["numeric", "nu"]),
   (.aTerm, ["aterm", "at"]), (.sTerm, ["sterm", "st"]), (.sContinue, ["scontinue", "sc"]),
   (.close, ["close", "cl"])]

/-- The entry of a table that goes by a name. -/
def named? {α : Type} (table : List (α × List String)) (name : String) : Option α :=
  (table.find? (·.2.contains name)).map (·.1)

/-- The property that a name alone stands for: one that a character has or has not, a category or a
script. -/
def Property.ofName? (name : List Char) : Option Property :=
  let key := String.ofList (normalizeName name)
  (((named? propertyNames key).map .binary).or (categoryNames.lookup key)).or
    ((scriptName? key).map .script)

/-- The property that a name and a value stand for. -/
def Property.ofNameValue? (name value : List Char) : Option Property :=
  let kind := String.ofList (normalizeName name)
  let key := String.ofList (normalizeName value)
  if ["generalcategory", "gc"].contains kind then categoryNames.lookup key
  else if ["script", "sc"].contains kind then (scriptName? key).map .script
  else if ["scriptextensions", "scx"].contains kind then (scriptName? key).map .scriptExtension
  else if kind = "age" then (Version.ofName? key).map .age
  else if ["graphemeclusterbreak", "gcb"].contains kind then
    (named? graphemeBreakNames key).map .graphemeBreak
  else if ["wordbreak", "wb"].contains kind then (named? wordBreakNames key).map .wordBreak
  else if ["sentencebreak", "sb"].contains kind then
    (named? sentenceBreakNames key).map .sentenceBreak
  else none

end Signpost.Unicode
