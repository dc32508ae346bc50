import Signpost.Regex.Path

/-!
# Searching

A search looks for the first place from which a pattern matches, and takes the preferred path from
there. Listing all paths can take exponential time, so a search drops a path that stops where an
earlier one does: what follows a subpattern depends on where it stopped and on nothing else, so
such a path can never be the first one overall. What stands behind another subpattern, or is
repeated, can be asked for its paths from one place again and again, and keeps them in a table.

That this finds the preferred path is `search?_eq` of `Signpost.Regex.Preferred`.
-/

namespace Signpost.Regex

/-- A path, with the number of characters behind its stop. -/
structure Arrival where
  left : Nat
  path : Path
deriving Repr, DecidableEq

def Arrival.andThen (x y : Arrival) : Arrival := ⟨y.left, x.path.andThen y.path⟩

/-- Keeps the first path to each stop. The bits of `seen` are the stops that were met before. -/
def pruneFrom (seen : Nat) : List Arrival → List Arrival
  | [] => []
  | x :: xs =>
    if seen.testBit x.left then pruneFrom seen xs
    else x :: pruneFrom (seen ||| 1 <<< x.left) xs

def prune (xs : List Arrival) : List Arrival := pruneFrom 0 xs

/-- Puts the paths that go on behind `x` in front of it if `greedy`, else behind it. -/
def weaveArrivals (greedy : Bool) (x : Arrival) (further : List Arrival) : List Arrival :=
  if greedy then further ++ [x] else x :: further

/-- The paths of a pattern from each place, by the number of characters behind the place. -/
inductive Table
  /-- Rows that are worked out whenever they are asked for. -/
  | direct (row : Nat → Place → List Arrival)
  /-- Rows that are worked out when they are first asked for. -/
  | stored (rows : Array (Thunk (List Arrival)))

namespace Table

def row : Table → (left : Nat) → Place → List Arrival
  | direct f, n, p => f n p
  | stored rows, n, _ =>
    match rows[n]? with
    | some row => row.get
    | none => []

/-- Stores the rows of some places, which come from right to left and begin with the end of the
text. -/
def store (places : List Place) (t : Table) : Table :=
  .stored (places.zipIdx.map fun x => Thunk.mk fun _ => t.row x.2 x.1).toArray

/-- The row of further rounds of a body at a place, from the rows of the places to its right. -/
def further (greedy : Bool) (body : Table) (done : Array (Thunk (List Arrival))) (n : Nat)
    (p : Place) : List Arrival :=
  prune ((body.row n p).flatMap fun x =>
    if x.left < n then
      weaveArrivals greedy x (((stored done).row x.left x.path.stop).map x.andThen)
    else [])

/-- Adds the rows of further rounds at some places, which come from right to left. -/
def roundsOnto (greedy : Bool) (body : Table) (done : Array (Thunk (List Arrival))) :
    List Place → Array (Thunk (List Arrival))
  | [] => done
  | p :: ps =>
    roundsOnto greedy body (done.push (Thunk.mk fun _ => further greedy body done done.size p)) ps

/-- The table of further rounds of a body. -/
def rounds (greedy : Bool) (body : Table) (places : List Place) : Table :=
  .stored (roundsOnto greedy body #[] places)

end Table

/-- Whether the paths of a pattern are as easily worked out as looked up. -/
def isLeaf : Regex → Bool
  | empty => true
  | chars _ => true
  | look _ => true
  | _ => false

/-- The table of a pattern over the places of a text, which come from right to left. -/
def table (places : List Place) : Regex → Table
  | empty => .direct fun n p => [⟨n, ⟨p, []⟩⟩]
  | chars s => .direct fun n p => (paths (chars s) p).map (Arrival.mk (n - 1))
  | look l => .direct fun n p => (paths (look l) p).map (Arrival.mk n)
  | named name r =>
    let body := table places r
    .direct fun n p => (body.row n p).map fun x => ⟨x.left, x.path.capture name p⟩
  | seq r s =>
    let first := table places r
    let second := if s.isLeaf then table places s else (table places s).store places
    .direct fun n p => prune ((first.row n p).flatMap fun x =>
      (second.row x.left x.path.stop).map x.andThen)
  | alt r s =>
    let first := table places r
    let second := table places s
    .direct fun n p => prune (first.row n p ++ second.row n p)
  | plus greedy r =>
    let body := if r.isLeaf then table places r else (table places r).store places
    let further := Table.rounds greedy body places
    .direct fun n p => prune ((body.row n p).flatMap fun x =>
      if x.left < n then
        weaveArrivals greedy x ((further.row x.left x.path.stop).map x.andThen)
      else [x])

structure Match where
  start : Place
  path : Path
deriving Repr, DecidableEq

namespace Match

def isWhole (m : Match) : Bool := m.start.before.isNone && m.path.stop.after.isEmpty

/-- What a group matched, the last time it did. -/
def group? (m : Match) (name : String) : Option (List Char) :=
  (m.path.groups.reverse.find? (·.name == name)).map Capture.text

end Match

/-- The first match from one of some places, of which the first has `left` characters behind it. -/
def searchFrom? (t : Table) : (left : Nat) → List Place → Option Match
  | _, [] => none
  | n, p :: ps =>
    match t.row n p with
    | x :: _ => some ⟨p, x.path⟩
    | [] => searchFrom? t (n - 1) ps

def search? (r : Regex) (text : List Char) : Option Match :=
  let ps := places none text
  searchFrom? (table ps.reverse r) text.length ps

end Signpost.Regex
