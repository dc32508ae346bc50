import Signpost.Proofs.Json.Data
import Signpost.Registry.Snapshot

/-!
# Written snapshots

What a route is rebuilt from is written with all its fields, in the order in which they are read, so
that reading gives back what was written whatever the texts in it are. A snapshot is a list of these
under a version, and is read back if the version is the one that is current
(`Snapshot.decode?_encode`).
-/

namespace Signpost

namespace RouteSource

theorem toJson_proper (s : RouteSource) : s.toJson.Proper := by
  refine Json.Proper.record fun v hv => ?_
  simp only [List.mem_cons, List.not_mem_nil, or_false] at hv
  rcases hv with rfl | rfl | rfl | rfl | rfl | rfl
  · exact .string s.name
  · exact .string s.template
  · exact .ofDict s.overrides
  · exact .ofDict s.patterns
  · exact .ofDict s.defaults
  · exact .ofStrings s.filters

theorem ofJson?_toJson (s : RouteSource) : ofJson? s.toJson = some s := by
  unfold ofJson? toJson
  rw [Json.asRecord?_zip (by decide) rfl]
  simp only [List.map_cons, List.map_nil, Option.bind_eq_bind, Option.bind_some, Json.field?,
    Json.fieldD?, Json.asString?, Json.asDict?_ofDict, Json.asStrings?_ofStrings, Option.pure_def]

end RouteSource

namespace Snapshot

theorem toJson_proper (s : Snapshot) : s.toJson.Proper := by
  refine Json.Proper.record fun v hv => ?_
  simp only [List.mem_cons, List.not_mem_nil, or_false] at hv
  rcases hv with rfl | rfl
  · exact .ofNat s.version
  · refine .array fun j hj => ?_
    obtain ⟨source, -, rfl⟩ := List.mem_map.1 hj
    exact source.toJson_proper

/-- A version is read if it has 32 bits. -/
theorem version?_ofNat (n : Nat) :
    version? (.ofNat n) = if n < 0x100000000 then some n else none := by
  rw [version?, Json.asNat?_ofNat]
  simp [Option.filter]

theorem ofJson?_toJson (s : Snapshot) :
    ofJson? s.toJson = if s.version < 0x100000000 then some s else none := by
  unfold ofJson? toJson
  rw [Json.asRecord?_zip (by decide) rfl]
  simp only [List.map_cons, List.map_nil, Option.bind_eq_bind, Option.bind_some, Json.field?,
    version?_ofNat, Json.asList?_map fun source _ => RouteSource.ofJson?_toJson source]
  split <;> rfl

/-- The bytes of a snapshot are read as the snapshot, which is then asked for its version. -/
theorem decode?_bytes (s : Snapshot) :
    decode? s.encode = (if s.version < 0x100000000 then some s else none).filter
      (·.version == currentVersion) := by
  rw [decode?, encode, s.toJson_proper.ofBytes?_toText, Option.bind_some, ofJson?_toJson]

/-- A snapshot of version 1 is read back from its bytes, and one of another version is not
read. -/
theorem decode?_encode (s : Snapshot) :
    decode? s.encode = if s.version = 1 then some s else none := by
  have hcurrent : currentVersion = 1 := rfl
  rw [decode?_bytes, hcurrent]
  by_cases hone : s.version = 1
  · have hbits : s.version < 0x100000000 := by omega
    rw [if_pos hbits, if_pos hone, Option.filter_some, if_pos (beq_iff_eq.2 hone)]
  · rw [if_neg hone]
    split
    · rw [Option.filter_some, if_neg (mt beq_iff_eq.1 hone)]
    · rfl

end Snapshot

end Signpost
