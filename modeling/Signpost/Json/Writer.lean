import Signpost.Json.Basic
import Signpost.Dict

/-!
# Writing JSON

Values are written without blanks, fields in the order in which they are kept. In a string, quotes,
backslashes and control characters are escaped, and everything else stands for itself.
-/

namespace Signpost.Json

def hexDigit (n : Nat) : Char :=
  if n < 10 then Char.ofNat ('0'.toNat + n) else Char.ofNat ('a'.toNat + (n - 10))

/-- A character as it stands in a string. -/
def escape (c : Char) : List Char :=
  if c = '"' then ['\\', '"']
  else if c = '\\' then ['\\', '\\']
  else if c = '\x08' then ['\\', 'b']
  else if c = '\x0c' then ['\\', 'f']
  else if c = '\n' then ['\\', 'n']
  else if c = '\r' then ['\\', 'r']
  else if c = '\t' then ['\\', 't']
  else if c.toNat < 0x20 then
    ['\\', 'u', '0', '0', hexDigit (c.toNat / 16), hexDigit (c.toNat % 16)]
  else [c]

def quote (s : String) : List Char := '"' :: s.toList.flatMap escape ++ ['"']

mutual

/-- The text of a value. The broken value is written as a lone half of a surrogate pair, which reads
as broken again. -/
def render : Json → List Char
  | null => "null".toList
  | bool b => (if b then "true" else "false").toList
  | number literal => literal.toList
  | string text => quote text
  | broken => "\"\\ud800\"".toList
  | array items => '[' :: renderItems items
  | object fields => '\x7b' :: renderFields fields

def renderItems : List Json → List Char
  | [] => [']']
  | [item] => render item ++ [']']
  | item :: items => render item ++ ',' :: renderItems items

def renderFields : List (String × Json) → List Char
  | [] => ['\x7d']
  | [(key, value)] => quote key ++ ':' :: render value ++ ['\x7d']
  | (key, value) :: fields => quote key ++ ':' :: render value ++ ',' :: renderFields fields

end

def toText (j : Json) : String := String.ofList j.render

/-! ## Equations -/

theorem render_number (literal : String) : render (number literal) = literal.toList := rfl

theorem render_string (text : String) : render (string text) = quote text := rfl

theorem render_array (items : List Json) : render (array items) = '[' :: renderItems items := rfl

theorem render_object (fields : List (String × Json)) :
    render (object fields) = '\x7b' :: renderFields fields := rfl

theorem renderItems_cons_cons (item next : Json) (items : List Json) :
    renderItems (item :: next :: items) = item.render ++ ',' :: renderItems (next :: items) := rfl

theorem renderFields_cons_cons (key : String) (value : Json) (next : String × Json)
    (fields : List (String × Json)) :
    renderFields ((key, value) :: next :: fields) =
      quote key ++ ':' :: value.render ++ ',' :: renderFields (next :: fields) := rfl

/-! ## Values of other types -/

def ofNat (n : Nat) : Json := number (toString n)

def ofStrings (ss : List String) : Json := array (ss.map string)

/-- A dictionary as JSON, with its keys in ascending order. -/
def ofDict (d : Dict String) : Json := object (d.entries.map fun (k, v) => (k, string v))

/-- A text that may be missing as JSON; nothing is null. -/
def ofOption : Option String → Json
  | none => null
  | some s => string s

end Signpost.Json
