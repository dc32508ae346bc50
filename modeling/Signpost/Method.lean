/-!
# Request methods

Main facts: `ofName?_name`, a method is found under its own name, and `code_injective`.
-/

namespace Signpost

inductive Method
  | get
  | post
  | put
  | delete
  | patch
  | head
  | options
deriving Repr, DecidableEq, Inhabited

namespace Method

/-- All methods, in the order of their codes. -/
def all : List Method := [get, post, put, delete, patch, head, options]

/-- The name, as requests give it. -/
def name : Method → String
  | get => "GET"
  | post => "POST"
  | put => "PUT"
  | delete => "DELETE"
  | patch => "PATCH"
  | head => "HEAD"
  | options => "OPTIONS"

/-- The name that stands for the method in stored data. -/
def tag : Method → String
  | get => "Get"
  | post => "Post"
  | put => "Put"
  | delete => "Delete"
  | patch => "Patch"
  | head => "Head"
  | options => "Options"

def code : Method → Nat
  | get => 0
  | post => 1
  | put => 2
  | delete => 3
  | patch => 4
  | head => 5
  | options => 6

/-- A text with the small letters of ASCII made capital ones. -/
def upper (s : String) : String := String.ofList (s.toList.map Char.toUpper)

/-- The method of a name, in which the case of ASCII letters does not count. -/
def ofName? (s : String) : Option Method := all.find? (·.name == upper s)

/-- The wording of the error for a name that is none of a method. -/
def unknownMessage (s : String) : String := s!"unknown http method '{s}'"

theorem ofName?_name (m : Method) : ofName? m.name = some m := by cases m <;> decide

theorem code_injective {m n : Method} (h : m.code = n.code) : m = n := by
  cases m <;> cases n <;> first | rfl | cases h

end Method

end Signpost
