import Signpost.Json.Decode
import Signpost.Json.Writer
import Signpost.Method
import Signpost.Options

/-!
# Stored settings and methods

Settings and methods as JSON. Settings are a record of all their fields; only the host of the site
may be missing from an object. A value of an enumeration goes by its name.
-/

namespace Signpost

namespace Method

def toJson (m : Method) : Json := .string m.tag

def ofJson? (j : Json) : Option Method := j.asTag?.bind fun tag => all.find? (·.tag == tag)

end Method

namespace DuplicatePolicy

/-- The name that stands for the policy in stored data. -/
def tag : DuplicatePolicy → String
  | replace => "Replace"
  | reject => "Reject"

def ofTag? (s : String) : Option DuplicatePolicy := [replace, reject].find? (·.tag == s)

end DuplicatePolicy

namespace Options

def fieldNames : List String :=
  ["default_action", "default_protocol", "default_param_pattern", "local_hosts", "trusted_hosts",
    "duplicate_policy", "base_url", "index_file", "site_host"]

def toJson (o : Options) : Json :=
  .object (fieldNames.zip [.string o.defaultAction, .string o.defaultProtocol,
    .string o.defaultSegment, .ofStrings o.localHosts, .ofStrings o.trustedHosts,
    .string o.duplicatePolicy.tag, .string o.baseUrl, .string o.indexFile, .ofOption o.siteHost])

def ofJson? (j : Json) : Option Options := do
  match ← j.asRecord? fieldNames fieldNames.length with
  | [action, protocol, segment, locals, trusted, policy, base, index, host] =>
    return {
      defaultAction := ← Json.field? Json.asString? action
      defaultProtocol := ← Json.field? Json.asString? protocol
      defaultSegment := ← Json.field? Json.asString? segment
      localHosts := ← Json.field? Json.asStrings? locals
      trustedHosts := ← Json.field? Json.asStrings? trusted
      duplicatePolicy := ← (← Json.field? Json.asTag? policy) |> DuplicatePolicy.ofTag?
      baseUrl := ← Json.field? Json.asString? base
      indexFile := ← Json.field? Json.asString? index
      siteHost := ← Json.fieldD? Json.asOption? none host }
  | _ => none

end Options

end Signpost
