import Signpost.Route.Build
import Signpost.Regex.Search

/-!
# Hosts

A route with a host among its defaults leads to another host, unless that host counts as local.
A list of patterns can say which hosts may be linked to; an empty list trusts every host.
-/

namespace Signpost

/-- The patterns of the hosts that are trusted, in order. -/
structure TrustedHosts where
  patterns : List Regex
deriving Repr, DecidableEq

namespace TrustedHosts

/-- Reads the patterns of trusted hosts. The first text that is no pattern is reported. -/
def ofPatterns : List String → Except OptionsError TrustedHosts
  | [] => .ok ⟨[]⟩
  | p :: ps =>
    match Regex.ofString? (Regex.anchor p) with
    | none => .error (.invalidTrustedHost p)
    | some r => (ofPatterns ps).map fun t => ⟨r :: t.patterns⟩

def isEmpty (t : TrustedHosts) : Bool := t.patterns.isEmpty

def size (t : TrustedHosts) : Nat := t.patterns.length

/-- Whether one of the patterns finds a match in a host. -/
def trusts (t : TrustedHosts) (host : String) : Bool :=
  t.patterns.any fun r => (r.search? host.toList).isSome

end TrustedHosts

/-- What is known about hosts. -/
structure Hosts where
  defaultProtocol : String := "http"
  localHosts : List String := ["", "local", "localhost"]
  trusted : TrustedHosts := ⟨[]⟩
deriving Repr, DecidableEq

namespace Hosts

/-- What the settings of a site say about hosts. -/
def ofOptions (o : Options) : Except OptionsError Hosts :=
  (TrustedHosts.ofPatterns o.trustedHosts).map fun t => ⟨o.defaultProtocol, o.localHosts, t⟩

def isLocal (h : Hosts) (host : String) : Bool := h.localHosts.contains host

def isExternal (h : Hosts) (r : Route) : Bool := r.defaults.host?.any (!h.isLocal ·)

def check (h : Hosts) (host : String) : Except LinkError Unit :=
  if h.trusted.isEmpty || h.trusted.trusts host then .ok () else .error (.untrustedHost host)

/-- Leaves out every "://" at the end, where the text comes backwards. -/
def dropSeparators : List Char → List Char
  | '/' :: '/' :: ':' :: cs => dropSeparators cs
  | cs => cs

/-- A protocol without the separators at its end. -/
def bareProtocol (protocol : String) : String :=
  String.ofList (dropSeparators protocol.toList.reverse).reverse

/-- Splits a host into the protocol in front of it, if any, and the host without slashes at
its end. -/
def split (host : String) : Option String × String :=
  match Text.splitOnce? "://".toList host.toList with
  | some (scheme, rest) => (some (String.ofList scheme), String.ofList (Text.trimEnd '/' rest))
  | none => (none, String.ofList (Text.trimEnd '/' host.toList))

/-- The protocol of a link: the one asked for unless that is empty, else the one in front of the
host, else the default one. -/
def protocolFor (h : Hosts) (embedded protocol : Option String) : String :=
  match (protocol.map bareProtocol).filter (· != "") with
  | some p => p
  | none => embedded.getD h.defaultProtocol

/-- The start of a link to a host, which may have a protocol in front of it. -/
def absolute (h : Hosts) (host : String) (protocol : Option String) : Except LinkError String :=
  let (embedded, bare) := split host
  match h.check bare with
  | .error e => .error e
  | .ok () => .ok (h.protocolFor embedded protocol ++ "://" ++ bare)

/-- The start of a link along a route, if the route leads to another host. A host among the
parameters is preferred to the default, unless it is local. -/
def resolve (h : Hosts) (r : Route) (params : Params) (protocol : Option String) :
    Except LinkError (Option String) :=
  if h.isExternal r then
    match ((params.get? Params.hostKey).filter (!h.isLocal ·)).or r.defaults.host? with
    | none => .ok none
    | some host => (h.absolute host protocol).map some
  else .ok none

end Hosts

end Signpost
