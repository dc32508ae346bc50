import Mathlib.Logic.Relation
import Signpost.Regex.Preferred

/-!
# What a pattern matches

Which parts of a text a pattern matches, whatever is preferred. `Regex.Matches r p q` follows the tree
of a pattern: a sequence goes on where its first part stops, and a repetition is a chain of rounds,
any of which may consume nothing. There is a path from `p` to `q` just if the pattern matches what
lies between them (`exists_path_iff`), so a search finds something just if some part of the text is
matched (`isSome_search?_iff`).

A path has no rounds that consume nothing, but for the first one. Leaving them out of a chain loses
nothing, since they stop where they begin (`exists_first_round`).
-/

namespace Signpost.Regex

open Relation (TransGen ReflTransGen reflTransGen_iff_eq_or_transGen)

/-- Whether a pattern matches what lies between two places of a text. -/
def Matches : Regex → Place → Place → Prop
  | empty, p, q => q = p
  | chars s, p, q => ∃ c cs, p.after = c :: cs ∧ s.contains c = true ∧ q = ⟨some c, cs⟩
  | look l, p, q => l.holds p = true ∧ q = p
  | named _ r, p, q => r.Matches p q
  | seq r s, p, q => ∃ m, r.Matches p m ∧ s.Matches m q
  | alt r s, p, q => r.Matches p q ∨ s.Matches p q
  | plus _ r, p, q => TransGen r.Matches p q

/-- Whether a pattern matches a text from its first to its last character. -/
def MatchesWhole (r : Regex) (text : List Char) : Prop :=
  ∃ q : Place, q.after = [] ∧ r.Matches ⟨none, text⟩ q

/-- Whether a pattern matches some part of a text. -/
def MatchesIn (r : Regex) (text : List Char) : Prop :=
  ∃ p ∈ places none text, ∃ q, r.Matches p q

/-! ## Places -/

theorem mem_places_self (p : Place) : p ∈ places p.before p.after := by
  obtain ⟨b, after⟩ := p
  cases after <;> exact List.mem_cons_self

/-- The places of a text are its start and places with less behind them. -/
theorem eq_or_lt_of_mem_places {before : Option Char} {text : List Char} {q : Place}
    (h : q ∈ places before text) : q = ⟨before, text⟩ ∨ q.after.length < text.length := by
  induction text generalizing before with
  | nil => exact .inl (List.mem_singleton.1 h)
  | cons c cs ih =>
    rcases List.mem_cons.1 h with rfl | h
    · exact .inl rfl
    · refine .inr ?_
      rcases ih h with rfl | hlt
      · exact Nat.lt_succ_self _
      · exact Nat.lt_succ_of_lt hlt

/-- A path stops where it begins, or consumes something. -/
theorem stop_eq_or_lt {r : Regex} {p : Place} {x : Path} (h : x ∈ paths r p) :
    x.stop = p ∨ x.stop.after.length < p.after.length :=
  eq_or_lt_of_mem_places (stop_mem_places r p (mem_places_self p) x h)

/-! ## Rounds -/

/-- Whether a body matches what lies between two places, and that is not nothing. -/
def Consumes (step : Place → Place → Prop) (p q : Place) : Prop :=
  step p q ∧ q.after.length < p.after.length

/-- A path of a repetition stops behind its first round, or goes on from there. -/
theorem exists_weave_iff {greedy : Bool} {y : Path} {zs : List Path} {q : Place} :
    (∃ x ∈ weave greedy y (zs.map y.andThen), x.stop = q) ↔
      q = y.stop ∨ ∃ z ∈ zs, z.stop = q := by
  constructor
  · rintro ⟨x, hx, rfl⟩
    rcases mem_weave.1 hx with rfl | hx
    · exact .inl rfl
    · obtain ⟨z, hz, rfl⟩ := List.mem_map.1 hx
      exact .inr ⟨z, hz, rfl⟩
  · rintro (rfl | ⟨z, hz, rfl⟩)
    · exact ⟨y, mem_weave.2 (.inl rfl), rfl⟩
    · exact ⟨y.andThen z, mem_weave.2 (.inr (List.mem_map_of_mem hz)), rfl⟩

/-- The further rounds of a repetition are the chains of rounds that consume something. -/
theorem exists_round_iff {body : Place → List Path} {step : Place → Place → Prop} {greedy : Bool}
    (hbody : ∀ p q, (∃ x ∈ body p, x.stop = q) ↔ step p q) {n : Nat} {p q : Place}
    (hn : p.after.length ≤ n) :
    (∃ x ∈ rounds body greedy n p, x.stop = q) ↔ TransGen (Consumes step) p q := by
  induction n generalizing p with
  | zero =>
    constructor
    · rintro ⟨x, ⟨⟩, -⟩
    · intro h
      obtain ⟨m, hm, -⟩ := TransGen.head'_iff.1 h
      exact absurd hm.2 (by omega)
  | succ n ih =>
    rw [TransGen.head'_iff]
    constructor
    · rintro ⟨x, hx, rfl⟩
      obtain ⟨y, hy, hx⟩ := List.mem_flatMap.1 hx
      split at hx
      · rename_i hlt
        refine ⟨y.stop, ⟨(hbody _ _).1 ⟨y, hy, rfl⟩, hlt⟩, reflTransGen_iff_eq_or_transGen.2 ?_⟩
        exact (exists_weave_iff.1 ⟨x, hx, rfl⟩).imp_right (ih (by omega)).1
      · cases hx
    · rintro ⟨m, ⟨hstep, hlt⟩, hchain⟩
      obtain ⟨y, hy, rfl⟩ := (hbody _ _).2 hstep
      obtain ⟨x, hx, hstop⟩ := exists_weave_iff.2
        ((reflTransGen_iff_eq_or_transGen.1 hchain).imp_right (ih (by omega)).2)
      exact ⟨x, List.mem_flatMap.2 ⟨y, hy, by rwa [if_pos hlt]⟩, hstop⟩

/-- A chain of rounds is still one without the rounds that consume nothing. -/
theorem chain_consumes {step : Place → Place → Prop}
    (hstep : ∀ p q, step p q → q = p ∨ q.after.length < p.after.length) {p q : Place}
    (h : ReflTransGen step p q) : ReflTransGen (Consumes step) p q := by
  induction h with
  | refl => exact .refl
  | tail _ hlast ih =>
    rcases hstep _ _ hlast with rfl | hlt
    · exact ih
    · exact ih.tail ⟨hlast, hlt⟩

/-- A chain of rounds can begin with one that consumes something, if any of its rounds does. -/
theorem exists_first_round {step : Place → Place → Prop}
    (hstep : ∀ p q, step p q → q = p ∨ q.after.length < p.after.length) {p q : Place}
    (h : TransGen step p q) :
    step p q ∨ ∃ m, Consumes step p m ∧ TransGen (Consumes step) m q := by
  obtain ⟨m, hfirst, hchain⟩ := TransGen.head'_iff.1 h
  rcases hstep p m hfirst with rfl | hlt
  · rcases (chain_consumes hstep hchain).cases_head with rfl | ⟨m', hm', hchain⟩
    · exact .inl hfirst
    · rcases reflTransGen_iff_eq_or_transGen.1 hchain with rfl | hchain
      · exact .inl hm'.1
      · exact .inr ⟨m', hm', hchain⟩
  · rcases reflTransGen_iff_eq_or_transGen.1 (chain_consumes hstep hchain) with rfl | hchain
    · exact .inl hfirst
    · exact .inr ⟨m, ⟨hfirst, hlt⟩, hchain⟩

/-- The paths of a repetition are the chains of rounds. -/
theorem exists_path_plus_iff {r : Regex} {greedy : Bool}
    (ih : ∀ p q, (∃ x ∈ paths r p, x.stop = q) ↔ r.Matches p q) (p q : Place) :
    (∃ x ∈ paths (plus greedy r) p, x.stop = q) ↔ TransGen r.Matches p q := by
  have hstep : ∀ p q, r.Matches p q → q = p ∨ q.after.length < p.after.length := fun p q h => by
    obtain ⟨x, hx, rfl⟩ := (ih p q).2 h
    exact stop_eq_or_lt hx
  constructor
  · rintro ⟨x, hx, rfl⟩
    obtain ⟨y, hy, hx⟩ := List.mem_flatMap.1 hx
    have hfirst : r.Matches p y.stop := (ih _ _).1 ⟨y, hy, rfl⟩
    split at hx
    · rename_i hlt
      rcases exists_weave_iff.1 ⟨x, hx, rfl⟩ with hstop | hround
      · exact hstop ▸ .single hfirst
      · have hchain := (exists_round_iff ih (Nat.le_of_lt hlt)).1 hround
        exact .head hfirst (TransGen.mono (fun _ _ h => h.1) _ _ hchain)
    · cases List.mem_singleton.1 hx
      exact .single hfirst
  · intro h
    rcases exists_first_round hstep h with hfirst | ⟨m, ⟨hfirst, hlt⟩, hchain⟩
    · obtain ⟨y, hy, rfl⟩ := (ih p q).2 hfirst
      refine ⟨y, List.mem_flatMap.2 ⟨y, hy, ?_⟩, rfl⟩
      split
      · exact mem_weave.2 (.inl rfl)
      · exact List.mem_singleton_self y
    · obtain ⟨y, hy, rfl⟩ := (ih p m).2 hfirst
      obtain ⟨x, hx, hstop⟩ := exists_weave_iff.2
        (.inr ((exists_round_iff ih (Nat.le_of_lt hlt)).2 hchain))
      exact ⟨x, List.mem_flatMap.2 ⟨y, hy, by rwa [if_pos hlt]⟩, hstop⟩

/-! ## Paths and searches -/

/-- A pattern has a path between two places just if it matches what lies between them. -/
theorem exists_path_iff (r : Regex) (p q : Place) :
    (∃ x ∈ paths r p, x.stop = q) ↔ r.Matches p q := by
  induction r generalizing p q with
  | empty => simp [Matches, eq_comm]
  | chars s =>
    obtain ⟨b, after⟩ := p
    cases after with
    | nil => simp [paths, Matches]
    | cons c cs =>
      by_cases hc : s.contains c = true
      · have hpaths : paths (chars s) ⟨b, c :: cs⟩ = [⟨⟨some c, cs⟩, []⟩] := if_pos hc
        rw [hpaths, Matches]
        constructor
        · rintro ⟨x, hx, rfl⟩
          cases List.mem_singleton.1 hx
          exact ⟨c, cs, rfl, hc, rfl⟩
        · rintro ⟨d, ds, ⟨⟩, -, rfl⟩
          exact ⟨_, List.mem_singleton_self _, rfl⟩
      · simp [paths, Matches, hc]
  | look l =>
    by_cases hl : l.holds p = true
    · simp [paths, Matches, hl, eq_comm]
    · simp [paths, Matches, hl]
  | named n r ih =>
    rw [Matches, ← ih]
    constructor
    · rintro ⟨x, hx, rfl⟩
      obtain ⟨y, hy, rfl⟩ := List.mem_map.1 hx
      exact ⟨y, hy, rfl⟩
    · rintro ⟨y, hy, rfl⟩
      exact ⟨y.capture n p, List.mem_map_of_mem hy, rfl⟩
  | seq r s ihr ihs =>
    rw [Matches]
    constructor
    · rintro ⟨x, hx, rfl⟩
      obtain ⟨y, hy, hx⟩ := List.mem_flatMap.1 hx
      obtain ⟨z, hz, rfl⟩ := List.mem_map.1 hx
      exact ⟨y.stop, (ihr _ _).1 ⟨y, hy, rfl⟩, (ihs _ _).1 ⟨z, hz, rfl⟩⟩
    · rintro ⟨m, hfirst, hsecond⟩
      obtain ⟨y, hy, rfl⟩ := (ihr _ _).2 hfirst
      obtain ⟨z, hz, rfl⟩ := (ihs _ _).2 hsecond
      exact ⟨y.andThen z, List.mem_flatMap.2 ⟨y, hy, List.mem_map_of_mem hz⟩, rfl⟩
  | alt r s ihr ihs =>
    rw [Matches, ← ihr, ← ihs, paths]
    simp only [List.mem_append, or_and_right, exists_or]
  | plus greedy r ih => exact exists_path_plus_iff ih p q

/-- A search finds something just if the pattern matches some part of the text. -/
theorem isSome_search?_iff (r : Regex) (text : List Char) :
    (r.search? text).isSome = true ↔ r.MatchesIn text := by
  rw [search?_eq, List.findSome?_isSome_iff]
  refine exists_congr fun p => and_congr_right fun _ => ?_
  rw [Option.isSome_map, List.isSome_head?]
  constructor
  · intro hne
    obtain ⟨x, hx⟩ := List.exists_mem_of_ne_nil _ hne
    exact ⟨x.stop, (exists_path_iff r p _).1 ⟨x, hx, rfl⟩⟩
  · rintro ⟨q, hq⟩
    obtain ⟨x, hx, -⟩ := (exists_path_iff r p q).2 hq
    exact List.ne_nil_of_mem hx

end Signpost.Regex
