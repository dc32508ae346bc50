import Signpost.Json.Basic
import Signpost.Json.Token

/-!
# Reading JSON

Builds the value of a JSON text from its words. What is open around the current place is kept on
a stack, so a text may be nested to any depth.
-/

namespace Signpost.Json

/-- An array or object that is waiting for a value. What it holds so far comes last first. -/
inductive Frame
  | array (items : List Json)
  | field (fields : List (Option String × Json)) (key : Option String)

/-- What has been read. -/
inductive Reading
  /-- A value is due. -/
  | value (stack : List Frame)
  /-- An array was opened: a value or the end is due. -/
  | firstItem (stack : List Frame)
  /-- An item was read: a comma or the end is due. -/
  | afterItem (items : List Json) (stack : List Frame)
  /-- An object was opened: a key or the end is due. -/
  | firstKey (stack : List Frame)
  | key (fields : List (Option String × Json)) (stack : List Frame)
  /-- A key was read: a colon is due. -/
  | colon (fields : List (Option String × Json)) (key : Option String) (stack : List Frame)
  /-- A field was read: a comma or the end is due. -/
  | afterField (fields : List (Option String × Json)) (stack : List Frame)
  /-- The text should end here. -/
  | done (value : Json)

/-- The object with some fields, if each key is text. -/
def ofFields (fields : List (Option String × Json)) : Json :=
  match fields.mapM fun (key, value) => key.map (·, value) with
  | some fields => object fields
  | none => broken

namespace Reading

/-- Puts a value where one was due. -/
def deliver (v : Json) : List Frame → Reading
  | [] => done v
  | .array items :: stack => afterItem (v :: items) stack
  | .field fields k :: stack => afterField ((k, v) :: fields) stack

/-- Takes a word where a value is due. -/
def begin? (stack : List Frame) : Token → Option Reading
  | .null => some (deliver .null stack)
  | .bool b => some (deliver (.bool b) stack)
  | .number literal => some (deliver (.number literal) stack)
  | .string (some text) => some (deliver (.string text) stack)
  | .string none => some (deliver .broken stack)
  | .beginArray => some (firstItem stack)
  | .beginObject => some (firstKey stack)
  | _ => none

def step? : Reading → Token → Option Reading
  | value stack, t => begin? stack t
  | firstItem stack, .endArray => some (deliver (.array []) stack)
  | firstItem stack, t => begin? (.array [] :: stack) t
  | afterItem items stack, .comma => some (value (.array items :: stack))
  | afterItem items stack, .endArray => some (deliver (.array items.reverse) stack)
  | firstKey stack, .endObject => some (deliver (.object []) stack)
  | firstKey stack, .string k => some (colon [] k stack)
  | key fields stack, .string k => some (colon fields k stack)
  | colon fields k stack, .colon => some (value (.field fields k :: stack))
  | afterField fields stack, .comma => some (key fields stack)
  | afterField fields stack, .endObject => some (deliver (ofFields fields.reverse) stack)
  | _, _ => none

end Reading

/-- The value that some words make. -/
def ofTokens? (ts : List Token) : Option Json :=
  match ts.foldlM Reading.step? (.value []) with
  | some (.done v) => some v
  | _ => none

/-- The value of a text whose elements may be bytes that are no characters. -/
def ofCharacters? (cs : List (Option Char)) : Option Json := (tokens? cs).bind ofTokens?

def ofBytes? (bytes : ByteArray) : Option Json := ofCharacters? (Unicode.Utf8.characters bytes)

def ofText? (text : String) : Option Json := ofCharacters? (text.toList.map some)

end Signpost.Json
