import Signpost.Json.Reader
import Signpost.Dict

/-!
# Values as data

Reads texts, numbers, lists, dictionaries, records and the values of enumerations out of JSON
values. A record is an object, or an array of the values of its fields in order.
-/

namespace Signpost.Json

def asString? : Json → Option String
  | string text => some text
  | _ => none

/-- The number that a value is, if it is written with digits only. -/
def asNat? : Json → Option Nat
  | number literal =>
    if literal.toList.all Char.isDigit then
      some (literal.toList.foldl (fun n c => 10 * n + (c.toNat - '0'.toNat)) 0)
    else none
  | _ => none

def asList? (item? : Json → Option α) : Json → Option (List α)
  | array items => items.mapM item?
  | _ => none

def asStrings? : Json → Option (List String) := asList? asString?

/-- The dictionary that a value is. Of two fields with one key the last one stays. -/
def asDict? : Json → Option (Dict String)
  | object fields =>
    (fields.mapM fun f => (asString? f.2).map (f.1, ·)).map Dict.ofList
  | _ => none

/-- The text that a value is, or nothing if it is null. -/
def asOption? : Json → Option (Option String)
  | null => some none
  | v => (asString? v).map some

/-- The values of the fields of a record. In an object, fields may be missing and others may be
there too, but none of the record's own may be there twice. In an array, only fields beyond the
first `least` may be missing. -/
def asRecord? (names : List String) (least : Nat) : Json → Option (List (Option Json))
  | object fields => names.mapM fun name =>
    match fields.filter (·.1 == name) with
    | [] => some none
    | [(_, value)] => some (some value)
    | _ => none
  | array items =>
    if least ≤ items.length ∧ items.length ≤ names.length then
      some (items.map some ++ List.replicate (names.length - items.length) none)
    else none
  | _ => none

/-- The name that stands for a value of an enumeration, alone or as a key over null. -/
def asTag? : Json → Option String
  | string name => some name
  | object [(name, null)] => some name
  | _ => none

/-- The value of a field that has to be there. -/
def field? (decode? : Json → Option α) : Option Json → Option α
  | some v => decode? v
  | none => none

/-- The value of a field that stands for `default` when it is missing. -/
def fieldD? (decode? : Json → Option α) (default : α) : Option Json → Option α
  | some v => decode? v
  | none => some default

end Signpost.Json
