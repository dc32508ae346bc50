/-!
# Metrics of a registry

Counts of what happened to a registry. The counts have 64 bits.
-/

namespace Signpost

/-- How often what happened. -/
structure Metrics where
  registered : UInt64 := 0
  replaced : UInt64 := 0
  saved : UInt64 := 0
  loaded : UInt64 := 0
  rejected : UInt64 := 0
deriving Repr, DecidableEq, Inhabited

namespace Metrics

def recordInsert (m : Metrics) : Metrics := { m with registered := m.registered + 1 }

/-- Counts a route that took the place of another one. -/
def recordReplace (m : Metrics) : Metrics := { m with replaced := m.replaced + 1 }

def recordSave (m : Metrics) : Metrics := { m with saved := m.saved + 1 }

def recordLoad (m : Metrics) : Metrics := { m with loaded := m.loaded + 1 }

/-- Counts a snapshot that could not be read. -/
def recordReject (m : Metrics) : Metrics := { m with rejected := m.rejected + 1 }

def toList (m : Metrics) : List Nat :=
  [m.registered, m.replaced, m.saved, m.loaded, m.rejected].map UInt64.toNat

end Metrics

end Signpost
