import Signpost.Template.Compiled

/-!
# Options

The settings of a site. Settings can be anything until they are validated.

Main fact: `validate_eq_ok_iff` lists what settings have to fulfil.
-/

namespace Signpost

/-- What happens when a name is registered a second time. -/
inductive DuplicatePolicy
  /-- The last route under a name wins. -/
  | replace
  | reject
deriving Repr, DecidableEq, Inhabited

/-- The settings of a site. -/
structure Options where
  defaultAction : String := "index"
  defaultProtocol : String := "http"
  /-- The pattern of placeholders without one of their own. -/
  defaultSegment : String := Signpost.defaultSegment
  /-- The hosts that count as the site itself. -/
  localHosts : List String := ["", "local", "localhost"]
  /-- The patterns of hosts that may be linked to. -/
  trustedHosts : List String := []
  duplicatePolicy : DuplicatePolicy := .replace
  baseUrl : String := "/"
  indexFile : String := ""
  siteHost : Option String := none
deriving Repr, DecidableEq, Inhabited

/-- Why settings are refused. -/
inductive OptionsError
  | emptyDefaultAction
  | invalidProtocol (value : String)
  | invalidParamPattern (pattern : String)
  | invalidTrustedHost (pattern : String)
deriving Repr, DecidableEq

def OptionsError.message : OptionsError → String
  | emptyDefaultAction => "default action must not be empty"
  | invalidProtocol value => s!"'{value}' is not a valid protocol"
  | invalidParamPattern pattern =>
    s!"default parameter pattern '{pattern}' is invalid: {patternFault}"
  | invalidTrustedHost pattern =>
    s!"trusted host pattern '{pattern}' is invalid: {patternFault}"

namespace Options

/-- Whether a text is nothing but white space. -/
def isBlank (s : String) : Bool := s.toList.all Unicode.isWhiteSpace

def isProtocolChar (c : Char) : Bool := c.isAlphanum || c == '+' || c == '-' || c == '.'

def isProtocol (s : String) : Bool := s != "" && s.toList.all isProtocolChar

/-- The first fault of some settings. -/
def validate (o : Options) : Except OptionsError Unit :=
  if isBlank o.defaultAction then .error .emptyDefaultAction
  else if !isProtocol o.defaultProtocol then .error (.invalidProtocol o.defaultProtocol)
  else if !Regex.isPattern o.defaultSegment then .error (.invalidParamPattern o.defaultSegment)
  else
    match o.trustedHosts.find? (!Regex.isPattern ·) with
    | some pattern => .error (.invalidTrustedHost pattern)
    | none => .ok ()

theorem validate_eq_ok_iff (o : Options) :
    o.validate = .ok () ↔
      isBlank o.defaultAction = false ∧ isProtocol o.defaultProtocol = true ∧
        Regex.isPattern o.defaultSegment = true ∧
        ∀ p ∈ o.trustedHosts, Regex.isPattern p = true := by
  unfold validate
  split
  · simp_all
  · split
    · simp_all
    · split
      · simp_all
      · split
        · rename_i p hp
          have := List.find?_some hp
          have hm := List.mem_of_find?_eq_some hp
          simp only [reduceCtorEq, false_iff]
          intro h
          simp [h.2.2.2 p hm] at this
        · rename_i hp
          simp_all

end Options

end Signpost
