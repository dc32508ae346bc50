import Signpost.Regex.Search

/-!
# A search finds the preferred path

A search keeps one path to each stop and looks further rows up in tables. Neither changes what it
finds: `search?_eq` says that a match begins at the first place from which there is a path, and
takes the first of the paths from there.

A list of arrivals stands for a list of paths (`Stands`) if it holds nothing else, and if the first
path to each stop is the same in both, whatever stops are left out.
-/

namespace Signpost.Regex

/-! ## First arrivals -/

/-- The first arrival at each stop that has not been seen. -/
def fresh (seen : Nat → Bool) : List Arrival → List Arrival
  | [] => []
  | x :: xs =>
    if seen x.left then fresh seen xs else x :: fresh (fun n => n == x.left || seen n) xs

theorem pruneFrom_eq_fresh (m : Nat) (xs : List Arrival) :
    pruneFrom m xs = fresh m.testBit xs := by
  induction xs generalizing m with
  | nil => rfl
  | cons x xs ih =>
    have hbits : (m ||| 1 <<< x.left).testBit = fun n => n == x.left || m.testBit n := by
      funext n
      rw [Nat.testBit_or, Nat.one_shiftLeft, Nat.testBit_two_pow, Bool.or_comm]
      congr 1
      rw [decide_eq_decide.2 eq_comm]
      rfl
    rw [pruneFrom, fresh, ih, ih, hbits]

theorem prune_eq_fresh (xs : List Arrival) : prune xs = fresh (fun _ => false) xs := by
  rw [prune, pruneFrom_eq_fresh]
  congr 1
  funext n
  exact Nat.zero_testBit n

theorem fresh_append (seen : Nat → Bool) (xs ys : List Arrival) :
    fresh seen (xs ++ ys) =
      fresh seen xs ++ fresh (fun n => xs.any (·.left == n) || seen n) ys := by
  induction xs generalizing seen with
  | nil => simp [fresh]
  | cons x xs ih =>
    rw [List.cons_append, fresh, fresh]
    split
    · rename_i hx
      rw [ih]
      congr 2
      funext n
      by_cases hn : x.left = n
      · simp [← hn, hx]
      · simp [beq_false_of_ne hn]
    · rw [ih, List.cons_append]
      congr 3
      funext n
      have : (n == x.left) = (x.left == n) := Bool.beq_comm
      simp only [this, List.any_cons]
      cases x.left == n <;> cases xs.any (·.left == n) <;> rfl

/-- What was left out once is left out again. -/
theorem fresh_fresh (seen seen' : Nat → Bool) (xs : List Arrival) :
    fresh seen (fresh seen' xs) = fresh (fun n => seen n || seen' n) xs := by
  induction xs generalizing seen seen' with
  | nil => rfl
  | cons x xs ih =>
    rw [fresh, fresh]
    by_cases hx' : seen' x.left
    · simp [hx', ih]
    · rw [if_neg hx', fresh]
      by_cases hx : seen x.left
      · simp only [hx, ih, if_true, Bool.true_or]
        congr 1
        funext n
        by_cases hn : n = x.left
        · simp [hn, hx]
        · simp [beq_false_of_ne hn]
      · simp only [hx, hx', ih, Bool.or_self, Bool.false_eq_true, if_false]
        congr 2
        funext n
        by_cases hn : n = x.left
        · simp [hn]
        · simp [beq_false_of_ne hn]

theorem any_fresh (seen : Nat → Bool) (xs : List Arrival) (n : Nat) :
    (fresh seen xs).any (·.left == n) = (!seen n && xs.any (·.left == n)) := by
  induction xs generalizing seen with
  | nil => simp [fresh]
  | cons x xs ih =>
    rw [fresh]
    split
    · rename_i hx
      by_cases hn : x.left = n
      · subst hn
        simp [ih, hx]
      · simp [ih, beq_false_of_ne hn]
    · rename_i hx
      by_cases hn : x.left = n
      · subst hn
        simp [hx]
      · simp [ih, beq_false_of_ne hn, beq_false_of_ne (Ne.symm hn)]

theorem fresh_eq_nil {seen : Nat → Bool} {xs : List Arrival} (h : ∀ x ∈ xs, seen x.left) :
    fresh seen xs = [] := by
  induction xs with
  | nil => rfl
  | cons x xs ih =>
    rw [fresh, if_pos (h x List.mem_cons_self)]
    exact ih fun y hy => h y (List.mem_cons_of_mem _ hy)

theorem mem_of_mem_fresh {seen : Nat → Bool} {xs : List Arrival} {x : Arrival}
    (h : x ∈ fresh seen xs) : x ∈ xs := by
  induction xs generalizing seen with
  | nil => cases h
  | cons y ys ih =>
    rw [fresh] at h
    split at h
    · exact List.mem_cons_of_mem _ (ih h)
    · rcases List.mem_cons.1 h with rfl | h
      · exact List.mem_cons_self
      · exact List.mem_cons_of_mem _ (ih h)

theorem head?_fresh (xs : List Arrival) : (fresh (fun _ => false) xs).head? = xs.head? := by
  cases xs with
  | nil => rfl
  | cons x xs => simp [fresh]

theorem fresh_map {f : Arrival → Arrival} (hf : ∀ x, (f x).left = x.left) (seen : Nat → Bool)
    (xs : List Arrival) : fresh seen (xs.map f) = (fresh seen xs).map f := by
  induction xs generalizing seen with
  | nil => rfl
  | cons x xs ih =>
    rw [List.map_cons, fresh, fresh, hf, ih, ih]
    split <;> rfl

/-- Arrivals that come from an arrival at a stop that was met before add nothing. -/
theorem fresh_flatMap_fresh {f : Arrival → List Arrival} (seen met : Nat → Bool)
    {xs : List Arrival}
    (hf : ∀ x ∈ xs, ∀ x' ∈ xs, x.left = x'.left → (f x).map (·.left) = (f x').map (·.left))
    (hmet : ∀ x ∈ xs, met x.left → ∀ y ∈ f x, seen y.left) :
    fresh seen ((fresh met xs).flatMap f) = fresh seen (xs.flatMap f) := by
  induction xs generalizing seen met with
  | nil => rfl
  | cons x xs ih =>
    have hf' : ∀ y ∈ xs, ∀ y' ∈ xs, y.left = y'.left →
        (f y).map (·.left) = (f y').map (·.left) := fun y hy y' hy' =>
      hf y (List.mem_cons_of_mem _ hy) y' (List.mem_cons_of_mem _ hy')
    rw [fresh, List.flatMap_cons, fresh_append]
    split
    · rename_i hx
      have hseen := hmet x List.mem_cons_self hx
      rw [fresh_eq_nil hseen, List.nil_append]
      have : (fun n => (f x).any (·.left == n) || seen n) = seen := by
        funext n
        by_cases hn : (f x).any (·.left == n) = true
        · obtain ⟨y, hy, hyn⟩ := List.any_eq_true.1 hn
          have := hseen y hy
          rw [eq_of_beq hyn] at this
          simp [this]
        · simp [hn]
      rw [this]
      exact ih _ _ hf' fun y hy => hmet y (List.mem_cons_of_mem _ hy)
    · rw [List.flatMap_cons, fresh_append]
      congr 1
      refine ih _ _ hf' fun y hy hm z hz => ?_
      by_cases hyx : y.left = x.left
      · have hl := hf y (List.mem_cons_of_mem _ hy) x List.mem_cons_self hyx
        have hz' : z.left ∈ (f x).map (·.left) := hl ▸ List.mem_map_of_mem hz
        obtain ⟨w, hw, hwz⟩ := List.mem_map.1 hz'
        simp only [Bool.or_eq_true, List.any_eq_true, beq_iff_eq]
        exact .inl ⟨w, hw, hwz⟩
      · have := hmet y (List.mem_cons_of_mem _ hy) (by simpa [hyx] using hm) z hz
        simp [this]

/-! ## Places of a text -/

theorem getElem?_reverse_places {before : Option Char} {text : List Char} {n : Nat} {p : Place} :
    (places before text).reverse[n]? = some p ↔
      p ∈ places before text ∧ p.after.length = n := by
  induction text generalizing before with
  | nil =>
    cases n with
    | zero =>
      simp only [places, List.reverse_singleton, List.getElem?_cons_zero, Option.some.injEq,
        List.mem_singleton]
      exact ⟨fun h => ⟨h.symm, h ▸ rfl⟩, fun h => h.1.symm⟩
    | succ n =>
      simp only [places, List.reverse_singleton, List.getElem?_cons_succ, List.getElem?_nil,
        List.mem_singleton, reduceCtorEq, false_iff, not_and]
      rintro rfl
      simp
  | cons c cs ih =>
    have hlen : (places (some c) cs).reverse.length = cs.length + 1 := by
      rw [List.length_reverse]
      clear ih
      induction cs generalizing c with
      | nil => rfl
      | cons d ds ih => simp [places, ih d]
    rw [places, List.reverse_cons, List.getElem?_append, hlen]
    split
    · rename_i hn
      rw [ih, List.mem_cons]
      refine ⟨fun h => ⟨.inr h.1, h.2⟩, fun h => ⟨h.1.resolve_left ?_, h.2⟩⟩
      rintro rfl
      have := h.2
      simp only [List.length_cons] at this
      omega
    · rename_i hn
      rw [List.mem_cons]
      refine ⟨fun h => ?_, fun h => ?_⟩
      · have h0 : n - (cs.length + 1) = 0 := by
          have := (List.getElem?_eq_some_iff.1 h).1
          simp only [List.length_singleton] at this
          omega
        rw [h0] at h
        cases h
        exact ⟨.inl rfl, by simp only [List.length_cons]; omega⟩
      · rcases h.1 with rfl | hp
        · have := h.2
          simp only [List.length_cons] at this
          rw [show n - (cs.length + 1) = 0 by omega]
          rfl
        · have hlt := (List.getElem?_eq_some_iff.1 (ih.2 ⟨hp, h.2⟩)).1
          rw [hlen] at hlt
          exact absurd hlt hn

/-- Two places of a text with the same number of characters behind them are one. -/
theorem eq_of_mem_places {before : Option Char} {text : List Char} {p q : Place}
    (hp : p ∈ places before text) (hq : q ∈ places before text)
    (h : p.after.length = q.after.length) : p = q :=
  Option.some.inj <|
    (getElem?_reverse_places.2 ⟨hp, h⟩).symm.trans (getElem?_reverse_places.2 ⟨hq, rfl⟩)

theorem next_mem_places {before b : Option Char} {text cs : List Char} {c : Char}
    (h : ⟨b, c :: cs⟩ ∈ places before text) : ⟨some c, cs⟩ ∈ places before text := by
  induction text generalizing before with
  | nil => simp [places] at h
  | cons d ds ih =>
    rw [places] at h ⊢
    rcases List.mem_cons.1 h with h | h
    · cases h
      refine List.mem_cons_of_mem _ ?_
      cases cs <;> exact List.mem_cons_self
    · exact List.mem_cons_of_mem _ (ih h)

theorem mem_weave {greedy : Bool} {x y : Path} {further : List Path} :
    x ∈ weave greedy y further ↔ x = y ∨ x ∈ further := by
  cases greedy <;> simp [weave, or_comm]

theorem stop_mem_places_of_rounds {before : Option Char} {text : List Char}
    {body : Place → List Path} {greedy : Bool}
    (hbody : ∀ p ∈ places before text, ∀ x ∈ body p, x.stop ∈ places before text) (n : Nat) :
    ∀ p ∈ places before text, ∀ x ∈ rounds body greedy n p, x.stop ∈ places before text := by
  induction n with
  | zero => exact fun p _ x hx => nomatch hx
  | succ n ih =>
    intro p hp x hx
    obtain ⟨y, hy, hx⟩ := List.mem_flatMap.1 hx
    have hstop := hbody p hp y hy
    split at hx
    · rcases mem_weave.1 hx with rfl | hx
      · exact hstop
      · obtain ⟨z, hz, rfl⟩ := List.mem_map.1 hx
        exact ih _ hstop z hz
    · cases hx

/-- A path stops at a place of the text. -/
theorem stop_mem_places {before : Option Char} {text : List Char} (r : Regex) :
    ∀ p ∈ places before text, ∀ x ∈ paths r p, x.stop ∈ places before text := by
  induction r with
  | empty =>
    intro p hp x hx
    cases List.mem_singleton.1 hx
    exact hp
  | chars s =>
    intro p hp x hx
    obtain ⟨b, after⟩ := p
    cases after with
    | nil => cases hx
    | cons c cs =>
      simp only [paths] at hx
      split at hx
      · cases List.mem_singleton.1 hx
        exact next_mem_places hp
      · cases hx
  | look l =>
    intro p hp x hx
    simp only [paths] at hx
    split at hx
    · cases List.mem_singleton.1 hx
      exact hp
    · cases hx
  | named n r ih =>
    intro p hp x hx
    obtain ⟨y, hy, rfl⟩ := List.mem_map.1 hx
    exact ih p hp y hy
  | seq r s ihr ihs =>
    intro p hp x hx
    obtain ⟨y, hy, hx⟩ := List.mem_flatMap.1 hx
    obtain ⟨z, hz, rfl⟩ := List.mem_map.1 hx
    exact ihs _ (ihr p hp y hy) z hz
  | alt r s ihr ihs =>
    intro p hp x hx
    exact (List.mem_append.1 hx).elim (ihr p hp x) (ihs p hp x)
  | plus greedy r ih =>
    intro p hp x hx
    obtain ⟨y, hy, hx⟩ := List.mem_flatMap.1 hx
    have hstop := ih p hp y hy
    split at hx
    · rcases mem_weave.1 hx with rfl | hx
      · exact hstop
      · obtain ⟨z, hz, rfl⟩ := List.mem_map.1 hx
        exact stop_mem_places_of_rounds ih _ _ hstop z hz
    · cases List.mem_singleton.1 hx
      exact hstop

/-! ## Lists of arrivals that stand for lists of paths -/

/-- A path as it is kept while searching. -/
def Path.arrival (x : Path) : Arrival := ⟨x.stop.after.length, x⟩

/-- Whether some arrivals are among some paths, with the same first path to each stop, whatever
stops are left out. -/
structure Stands (row : List Arrival) (xs : List Path) : Prop where
  fresh_eq : ∀ seen, fresh seen row = fresh seen (xs.map Path.arrival)
  mem : ∀ y ∈ row, ∃ x ∈ xs, y = x.arrival

namespace Stands

theorem refl (xs : List Path) : Stands (xs.map Path.arrival) xs :=
  ⟨fun _ => rfl, fun _ hy => (List.mem_map.1 hy).imp fun _ h => ⟨h.1, h.2.symm⟩⟩

theorem prune {row : List Arrival} {xs : List Path} (h : Stands row xs) :
    Stands (prune row) xs := by
  rw [prune_eq_fresh]
  refine ⟨fun seen => ?_, fun y hy => h.mem y (mem_of_mem_fresh hy)⟩
  rw [fresh_fresh]
  simpa using h.fresh_eq seen

theorem any_eq {row : List Arrival} {xs : List Path} (h : Stands row xs) (n : Nat) :
    row.any (·.left == n) = (xs.map Path.arrival).any (·.left == n) := by
  have := congrArg (List.any · (·.left == n)) (h.fresh_eq fun _ => false)
  simpa only [any_fresh, Bool.not_false, Bool.true_and] using this

theorem append {row row' : List Arrival} {xs xs' : List Path} (h : Stands row xs)
    (h' : Stands row' xs') : Stands (row ++ row') (xs ++ xs') := by
  refine ⟨fun seen => ?_, fun y hy => ?_⟩
  · rw [List.map_append, fresh_append, fresh_append, h.fresh_eq, h'.fresh_eq]
    simp only [h.any_eq]
  · rcases List.mem_append.1 hy with hy | hy
    · exact (h.mem y hy).imp fun _ hx => ⟨List.mem_append_left _ hx.1, hx.2⟩
    · exact (h'.mem y hy).imp fun _ hx => ⟨List.mem_append_right _ hx.1, hx.2⟩

theorem map {row : List Arrival} {xs : List Path} {f : Arrival → Arrival} {g : Path → Path}
    (hf : ∀ x, (f x).left = x.left) (hg : ∀ x : Path, f x.arrival = (g x).arrival)
    (h : Stands row xs) : Stands (row.map f) (xs.map g) := by
  refine ⟨fun seen => ?_, fun y hy => ?_⟩
  · have : (xs.map g).map Path.arrival = (xs.map Path.arrival).map f := by
      simp [hg]
    rw [this, fresh_map hf, fresh_map hf, h.fresh_eq]
  · obtain ⟨z, hz, rfl⟩ := List.mem_map.1 hy
    obtain ⟨x, hx, rfl⟩ := h.mem z hz
    exact ⟨g x, List.mem_map_of_mem hx, hg x⟩

theorem andThen {row : List Arrival} {xs : List Path} (x : Path) (h : Stands row xs) :
    Stands (row.map x.arrival.andThen) (xs.map x.andThen) :=
  h.map (fun _ => rfl) fun _ => rfl

theorem weave {row : List Arrival} {xs : List Path} (greedy : Bool) (x : Path)
    (h : Stands row xs) : Stands (weaveArrivals greedy x.arrival row) (weave greedy x xs) := by
  cases greedy with
  | true => exact h.append (refl [x])
  | false => exact (refl [x]).append h

theorem flatMap_map {xs : List Path} {f : Arrival → List Arrival} {g : Path → List Path}
    (hfg : ∀ x ∈ xs, Stands (f x.arrival) (g x)) :
    Stands ((xs.map Path.arrival).flatMap f) (xs.flatMap g) := by
  induction xs with
  | nil => exact refl []
  | cons x xs ih =>
    exact (hfg x List.mem_cons_self).append
      (ih fun y hy => hfg y (List.mem_cons_of_mem _ hy))

/-- Goes on from each arrival, where what follows an arrival depends on its stop only. -/
theorem flatMap {before : Option Char} {text : List Char} {row : List Arrival} {xs : List Path}
    {f : Arrival → List Arrival} {g : Path → List Path} (h : Stands row xs)
    (hxs : ∀ x ∈ xs, x.stop ∈ places before text)
    (hf : ∀ x ∈ xs, ∀ x' ∈ xs, x.stop = x'.stop →
      (f x.arrival).map (·.left) = (f x'.arrival).map (·.left))
    (hfg : ∀ x ∈ xs, Stands (f x.arrival) (g x)) :
    Stands (row.flatMap f) (xs.flatMap g) := by
  have hall := flatMap_map hfg
  have hkeys : ∀ y ∈ xs.map Path.arrival, ∀ y' ∈ xs.map Path.arrival, y.left = y'.left →
      (f y).map (·.left) = (f y').map (·.left) := by
    intro y hy y' hy' hl
    obtain ⟨x, hx, rfl⟩ := List.mem_map.1 hy
    obtain ⟨x', hx', rfl⟩ := List.mem_map.1 hy'
    exact hf x hx x' hx' (eq_of_mem_places (hxs x hx) (hxs x' hx') hl)
  have hrow : ∀ y ∈ row, y ∈ xs.map Path.arrival := fun y hy => by
    obtain ⟨x, hx, rfl⟩ := h.mem y hy
    exact List.mem_map_of_mem hx
  refine ⟨fun seen => ?_, fun y hy => ?_⟩
  · rw [← hall.fresh_eq, ← fresh_flatMap_fresh seen (fun _ => false)
        (fun y hy y' hy' => hkeys y (hrow y hy) y' (hrow y' hy')) (by simp),
      ← fresh_flatMap_fresh seen (fun _ => false) hkeys (by simp), h.fresh_eq]
  · obtain ⟨z, hz, hy⟩ := List.mem_flatMap.1 hy
    exact hall.mem y (List.mem_flatMap.2 ⟨z, hrow z hz, hy⟩)

end Stands

/-! ## Tables -/

theorem rounds_eq_of_le {body : Place → List Path} {greedy : Bool} {n m : Nat} {p : Place}
    (hn : p.after.length ≤ n) (hm : p.after.length ≤ m) :
    rounds body greedy n p = rounds body greedy m p := by
  have hzero : ∀ k : Nat, ∀ q : Place, q.after.length = 0 → rounds body greedy k q = [] := by
    intro k q hq
    cases k with
    | zero => rfl
    | succ k => simp [rounds, hq]
  induction n generalizing m p with
  | zero => rw [hzero 0 p (by omega), hzero m p (by omega)]
  | succ n ih =>
    cases m with
    | zero => rw [hzero _ p (by omega), hzero _ p (by omega)]
    | succ m =>
      rw [rounds, rounds]
      congr 1
      funext x
      split
      · rw [ih (m := m) (by omega) (by omega)]
      · rfl

/-- Whether the rows of a table stand for the paths that a function gives, at all places of
a text. -/
def Table.Stands (t : Table) (f : Place → List Path) (ps : List Place) : Prop :=
  ∀ n p, ps[n]? = some p → Regex.Stands (t.row n p) (f p)

theorem Table.Stands.store {t : Table} {f : Place → List Path} {ps : List Place}
    (h : t.Stands f ps) : (t.store ps).Stands f ps := by
  intro n p hp
  have hrow : (ps.zipIdx.map fun x => Thunk.mk fun _ => t.row x.2 x.1)[n]? =
      some (Thunk.mk fun _ => t.row n p) := by
    simp [List.getElem?_map, List.getElem?_zipIdx, hp]
  rw [Table.store, Table.row, List.getElem?_toArray, hrow]
  exact h n p hp

theorem map_left_andThen (y : Arrival) (zs : List Arrival) :
    (zs.map y.andThen).map (·.left) = zs.map (·.left) := by
  rw [List.map_map]
  rfl

theorem map_left_weaveArrivals (greedy : Bool) (y : Arrival) (zs : List Arrival) :
    (weaveArrivals greedy y (zs.map y.andThen)).map (·.left) =
      if greedy then zs.map (·.left) ++ [y.left] else y.left :: zs.map (·.left) := by
  cases greedy <;> simp only [weaveArrivals, Bool.false_eq_true, if_true, if_false,
    List.map_append, List.map_cons, List.map_nil, map_left_andThen]

/-- What follows an arrival in a repetition stops at places that depend on its stop only. -/
theorem map_left_onward (t : Table) (greedy : Bool) (n : Nat) (x : Path) (xs : List Arrival) :
    (if x.arrival.left < n then
      weaveArrivals greedy x.arrival
        ((t.row x.arrival.left x.arrival.path.stop).map x.arrival.andThen)
      else xs).map (·.left) =
      if x.stop.after.length < n then
        let further := (t.row x.stop.after.length x.stop).map (·.left)
        if greedy then further ++ [x.stop.after.length] else x.stop.after.length :: further
      else xs.map (·.left) := by
  show List.map _ (if x.stop.after.length < n then _ else _) = _
  split
  · exact map_left_weaveArrivals ..
  · rfl

section Rounds

variable {before : Option Char} {text : List Char} {body : Table} {f : Place → List Path}
  {greedy : Bool}

/-- A row of further rounds, from the rows of places to its right. -/
theorem stands_further {n : Nat} {p : Place} {done : Array (Thunk (List Arrival))}
    (hbody : body.Stands f (places before text).reverse)
    (hstop : ∀ p ∈ places before text, ∀ x ∈ f p, x.stop ∈ places before text)
    (hp : (places before text).reverse[n]? = some p)
    (hdone : ∀ q ∈ places before text, q.after.length < n →
      Stands ((Table.stored done).row q.after.length q) (rounds f greedy q.after.length q)) :
    Stands (Table.further greedy body done n p) (rounds f greedy n p) := by
  obtain ⟨hmem, hlen⟩ := getElem?_reverse_places.1 hp
  rw [rounds_eq_of_le (m := n + 1) (Nat.le_of_eq hlen) (by omega), rounds, hlen]
  refine ((hbody n p hp).flatMap (hstop p hmem) (fun x _ x' _ hs => ?_) fun x hx => ?_).prune
  · rw [map_left_onward, map_left_onward, hs]
  · show Stands (if x.stop.after.length < n then _ else _) _
    split
    · rename_i hlt
      have := hdone _ (hstop p hmem x hx) hlt
      rw [rounds_eq_of_le (m := n) (Nat.le_refl _) (by omega)] at this
      exact (this.andThen x).weave greedy x
    · exact .refl []

theorem stands_push {l : List Place} {p : Place} {done : Array (Thunk (List Arrival))}
    {row : Thunk (List Arrival)} (hsize : done.size = l.length)
    (hdone : ∀ n q, l[n]? = some q → Stands ((Table.stored done).row n q) (f q))
    (hrow : Stands row.get (f p)) (n : Nat) (q : Place) (hq : (l ++ [p])[n]? = some q) :
    Stands ((Table.stored (done.push row)).row n q) (f q) := by
  rw [Table.row, Array.getElem?_push]
  by_cases hn : n = done.size
  · rw [hn, hsize, List.getElem?_concat_length] at hq
    cases hq
    rw [if_pos hn]
    exact hrow
  · rw [if_neg hn]
    have hlt := (List.getElem?_eq_some_iff.1 hq).1
    rw [List.length_append, List.length_singleton] at hlt
    rw [List.getElem?_append_left (by omega)] at hq
    exact hdone n q hq

theorem stands_roundsOnto (hbody : body.Stands f (places before text).reverse)
    (hstop : ∀ p ∈ places before text, ∀ x ∈ f p, x.stop ∈ places before text)
    (rest l : List Place) (done : Array (Thunk (List Arrival)))
    (hl : l ++ rest = (places before text).reverse) (hsize : done.size = l.length)
    (hdone : ∀ n q, l[n]? = some q →
      Stands ((Table.stored done).row n q) (rounds f greedy q.after.length q)) :
    (Table.stored (Table.roundsOnto greedy body done rest)).Stands
      (fun p => rounds f greedy p.after.length p) (l ++ rest) := by
  induction rest generalizing l done with
  | nil =>
    rw [List.append_nil]
    exact hdone
  | cons p rest ih =>
    have hp : (places before text).reverse[done.size]? = some p := by
      rw [← hl, hsize, List.getElem?_append_right (Nat.le_refl _), Nat.sub_self]
      rfl
    have hrow : Stands (Table.further greedy body done done.size p)
        (rounds f greedy p.after.length p) := by
      rw [(getElem?_reverse_places.1 hp).2]
      refine stands_further hbody hstop hp fun q hq hlt => hdone _ q ?_
      have := getElem?_reverse_places.2 ⟨hq, rfl⟩
      rwa [← hl, List.getElem?_append_left (hsize ▸ hlt)] at this
    rw [List.append_cons] at hl ⊢
    rw [Table.roundsOnto]
    exact ih (l ++ [p]) _ hl (by simp [hsize])
      (stands_push (f := fun q => rounds f greedy q.after.length q) hsize hdone hrow)

theorem Table.Stands.rounds (greedy : Bool) (hbody : body.Stands f (places before text).reverse)
    (hstop : ∀ p ∈ places before text, ∀ x ∈ f p, x.stop ∈ places before text) :
    (Table.rounds greedy body (places before text).reverse).Stands
      (fun p => Regex.rounds f greedy p.after.length p) (places before text).reverse :=
  stands_roundsOnto hbody hstop _ [] #[] rfl rfl fun _ _ hq => nomatch hq

end Rounds

/-- The rows of a pattern's table stand for the paths of the pattern. -/
theorem stands_table (before : Option Char) (text : List Char) (r : Regex) :
    (table (places before text).reverse r).Stands (paths r) (places before text).reverse := by
  have hstored : ∀ s : Regex,
      (table (places before text).reverse s).Stands (paths s) (places before text).reverse →
      (if s.isLeaf then table (places before text).reverse s
        else (table (places before text).reverse s).store (places before text).reverse).Stands
        (paths s) (places before text).reverse := by
    intro s h
    split
    · exact h
    · exact h.store
  induction r with
  | empty =>
    intro n p hp
    cases (getElem?_reverse_places.1 hp).2
    exact .refl [⟨p, []⟩]
  | chars s =>
    intro n p hp
    cases (getElem?_reverse_places.1 hp).2
    have : (paths (chars s) p).map (Arrival.mk (p.after.length - 1)) =
        (paths (chars s) p).map Path.arrival := by
      obtain ⟨b, after⟩ := p
      cases after with
      | nil => rfl
      | cons c cs =>
        simp only [paths]
        split <;> rfl
    show Stands ((paths (chars s) p).map _) _
    rw [this]
    exact .refl _
  | look l =>
    intro n p hp
    cases (getElem?_reverse_places.1 hp).2
    have : (paths (look l) p).map (Arrival.mk p.after.length) =
        (paths (look l) p).map Path.arrival := by
      simp only [paths]
      split <;> rfl
    show Stands ((paths (look l) p).map _) _
    rw [this]
    exact .refl _
  | named name r ih =>
    intro n p hp
    exact (ih n p hp).map (fun _ => rfl) fun _ => rfl
  | seq r s ihr ihs =>
    intro n p hp
    have hmem := (getElem?_reverse_places.1 hp).1
    have hstop := stop_mem_places r p hmem
    refine ((ihr n p hp).flatMap hstop (fun x _ x' _ hs => ?_) fun x hx => ?_).prune
    · simp only [Path.arrival, hs, map_left_andThen]
    · exact (hstored s ihs _ _ (getElem?_reverse_places.2 ⟨hstop x hx, rfl⟩)).andThen x
  | alt r s ihr ihs =>
    intro n p hp
    exact ((ihr n p hp).append (ihs n p hp)).prune
  | plus greedy r ih =>
    intro n p hp
    obtain ⟨hmem, hlen⟩ := getElem?_reverse_places.1 hp
    have hstop := stop_mem_places r p hmem
    have hfurther := Table.Stands.rounds greedy (hstored r ih) (stop_mem_places r)
    rw [paths]
    refine ((hstored r ih n p hp).flatMap hstop (fun x _ x' _ hs => ?_) fun x hx => ?_).prune
    · rw [map_left_onward, map_left_onward, hs]
      simp only [Path.arrival, hs, List.map_cons, List.map_nil]
    · show Stands (if x.stop.after.length < n then _ else _) _
      rw [hlen]
      split
      · rename_i hlt
        have := hfurther _ _ (getElem?_reverse_places.2 ⟨hstop x hx, rfl⟩)
        dsimp only at this
        rw [rounds_eq_of_le (m := n) (Nat.le_refl _) (by omega)] at this
        exact (this.andThen x).weave greedy x
      · exact .refl [x]

/-! ## Searches -/

theorem head?_row {t : Table} {f : Place → List Path} {ps : List Place} {n : Nat} {p : Place}
    (h : t.Stands f ps) (hp : ps[n]? = some p) :
    (t.row n p).head? = (f p).head?.map Path.arrival := by
  have := congrArg List.head? ((h n p hp).fresh_eq fun _ => false)
  rwa [head?_fresh, head?_fresh, List.head?_map] at this

theorem searchFrom?_eq {t : Table} {f : Place → List Path} {before : Option Char}
    {text : List Char}
    (h : ∀ p ∈ places before text,
      (t.row p.after.length p).head? = (f p).head?.map Path.arrival) :
    searchFrom? t text.length (places before text) =
      (places before text).findSome? fun p => (f p).head?.map (Match.mk p) := by
  have hstep : ∀ p ∈ places before text, ∀ ps,
      searchFrom? t p.after.length (p :: ps) =
        ((f p).head?.map (Match.mk p)).or (searchFrom? t (p.after.length - 1) ps) := by
    intro p hp ps
    have := h p hp
    rw [searchFrom?]
    split
    · rename_i x xs hx
      rw [hx] at this
      obtain ⟨y, hy, rfl⟩ := Option.map_eq_some_iff.1 this.symm
      simp [hy, Path.arrival]
    · rename_i hx
      rw [hx] at this
      rw [Option.map_eq_none_iff.1 this.symm]
      rfl
  induction text generalizing before with
  | nil =>
    rw [places, List.findSome?_cons, List.findSome?_nil]
    refine (hstep ⟨before, []⟩ List.mem_cons_self []).trans ?_
    cases (f ⟨before, []⟩).head? <;> rfl
  | cons c cs ih =>
    rw [places, List.findSome?_cons]
    refine (hstep ⟨before, c :: cs⟩ List.mem_cons_self _).trans ?_
    have := @ih (some c) (fun p hp => h p (List.mem_cons_of_mem _ hp))
      fun p hp => hstep p (List.mem_cons_of_mem _ hp)
    cases (f ⟨before, c :: cs⟩).head? with
    | none => exact this
    | some y => rfl

/-- A search finds the first place from which there is a path, and the first of the paths from
there. -/
theorem search?_eq (r : Regex) (text : List Char) :
    search? r text =
      (places none text).findSome? fun p => (paths r p).head?.map (Match.mk p) :=
  searchFrom?_eq fun _ hp =>
    head?_row (stands_table none text r) (getElem?_reverse_places.2 ⟨hp, rfl⟩)

end Signpost.Regex
