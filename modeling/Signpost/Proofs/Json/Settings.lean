import Signpost.Json.Types
import Signpost.Params
import Signpost.Proofs.Json.Data

/-!
# Written settings

Settings are written as a record of all their fields, each in its own way: texts and lists of texts, a
policy by its name, and null for a site without a host. Each field is read back by the reader that goes
with it, so the settings are, whatever texts are in them, and so are the defaults of a route, which are
written as a dictionary (`Options.readsBack`).
-/

namespace Signpost

namespace Json

theorem Proper.ofOption (s : Option String) : Proper (ofOption s) := by
  cases s with
  | none => exact .null
  | some text => exact .string text

/-- Null stands for a text that is missing, and is the value of no text. -/
theorem asOption?_ofOption (s : Option String) : asOption? (ofOption s) = some s := by
  cases s <;> rfl

section
variable {α : Type} {decode? : Json → Option α} {j : Json}

/-- What is read from the text of a value is what is read from the value. -/
theorem Proper.bind_ofText?_toText (h : Proper j) :
    (ofText? j.toText).bind decode? = decode? j := by
  rw [h.ofText?_toText, Option.bind_some]

theorem Proper.bind_ofBytes?_toText (h : Proper j) :
    (ofBytes? j.toText.toUTF8).bind decode? = decode? j := by
  rw [h.ofBytes?_toText, Option.bind_some]

end

end Json

/-- Policies have different names. -/
theorem DuplicatePolicy.ofTag?_tag (p : DuplicatePolicy) : ofTag? p.tag = some p := by
  cases p <;> decide

namespace Options

theorem toJson_proper (o : Options) : o.toJson.Proper := by
  refine Json.Proper.record fun v hv => ?_
  simp only [List.mem_cons, List.not_mem_nil, or_false] at hv
  rcases hv with rfl | rfl | rfl | rfl | rfl | rfl | rfl | rfl | rfl
  · exact .string o.defaultAction
  · exact .string o.defaultProtocol
  · exact .string o.defaultSegment
  · exact .ofStrings o.localHosts
  · exact .ofStrings o.trustedHosts
  · exact .string o.duplicatePolicy.tag
  · exact .string o.baseUrl
  · exact .string o.indexFile
  · exact .ofOption o.siteHost

theorem ofJson?_toJson (o : Options) : ofJson? o.toJson = some o := by
  unfold ofJson? toJson
  rw [Json.asRecord?_zip (by decide) rfl]
  simp only [List.map_cons, List.map_nil, Option.bind_eq_bind, Option.bind_some, Json.field?,
    Json.fieldD?, Json.asString?, Json.asStrings?_ofStrings, Json.asTag?,
    DuplicatePolicy.ofTag?_tag, Json.asOption?_ofOption, Option.pure_def]

/-- Settings and defaults are read back from their text, and from the bytes of it, whatever is in
them; so the settings that are read have the verdict of those that were written. -/
theorem readsBack (o : Options) (defaults : Params) :
    (Json.ofText? o.toJson.toText).bind ofJson? = some o ∧
    (Json.ofBytes? o.toJson.toText.toUTF8).bind ofJson? = some o ∧
    (Json.ofText? (Json.ofDict defaults).toText).bind Json.asDict? = some defaults ∧
    (Json.ofBytes? (Json.ofDict defaults).toText.toUTF8).bind Json.asDict? = some defaults ∧
    ((Json.ofText? o.toJson.toText).bind ofJson?).map validate = some o.validate := by
  have hoptions := o.toJson_proper
  have hdefaults := Json.Proper.ofDict defaults
  have hread : (Json.ofText? o.toJson.toText).bind ofJson? = some o := by
    rw [hoptions.bind_ofText?_toText, o.ofJson?_toJson]
  refine ⟨hread, ?_, ?_, ?_, ?_⟩
  · rw [hoptions.bind_ofBytes?_toText, o.ofJson?_toJson]
  · rw [hdefaults.bind_ofText?_toText, Json.asDict?_ofDict]
  · rw [hdefaults.bind_ofBytes?_toText, Json.asDict?_ofDict]
  · rw [hread]
    rfl

/-- What is written for a backslash, a control character and a quote, and is read. -/
example :
    let defaults : Params := Dict.ofList [("a\\", "\x01\"é")]
    let text := "\x7b\"a\\\\\":\"\\u0001\\\"é\"\x7d"
    (Json.ofDict defaults).toText = text ∧ (Json.ofText? text).bind Json.asDict? = some defaults := by
  decide +kernel

end Options

end Signpost
