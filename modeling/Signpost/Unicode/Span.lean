/-!
# Spans of code points

Character properties are tables of spans. A span may take every second code point, because the
capital and small letters of many alphabets alternate.
-/

namespace Signpost.Unicode

/-- The code points `first`, `first + step`, … up to `last`. -/
structure Span where
  first : Nat
  last : Nat
  step : Nat
deriving Repr, DecidableEq

def Span.has (s : Span) (n : Nat) : Bool :=
  s.first ≤ n && n ≤ s.last && (n - s.first) % s.step == 0

/-- Whether a code point is in one of some spans, which are in ascending order. -/
def inSpans (n : Nat) : List Span → Bool
  | [] => false
  | s :: ss => if n < s.first then false else s.has n || inSpans n ss

end Signpost.Unicode
