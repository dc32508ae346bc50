/-!
# JSON values

The values of JSON as this library keeps them. A number keeps its text. A value that is well formed
but stands for nothing that can be kept is `broken`: a string that is no text, and an object with
such a key.
-/

namespace Signpost

inductive Json
  | null
  | bool (b : Bool)
  | number (literal : String)
  | string (text : String)
  | broken
  | array (items : List Json)
  | object (fields : List (String × Json))
deriving Inhabited

end Signpost
