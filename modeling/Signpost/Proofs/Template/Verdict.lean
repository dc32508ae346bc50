import Mathlib.Data.List.Infix
import Signpost.Proofs.Template.Token

/-!
# Which templates are accepted

The texts that the reader of templates accepts, by their tokens: every backslash has a character
behind it, parentheses are balanced and enclose something, and the names in angle brackets are names
and distinct (`Accepted`). `Sound` is the part of this that one pass over the tokens decides, with
some groups open in front of them; `firstFault?_eq_none_iff` is by one step for each kind of token.
-/

namespace Signpost.Template

/-- What the tokens of a text are. -/
def marks (ts : List Token) : List Mark := ts.map (·.mark)

/-- The tokens of a text without faults. -/
structure Accepted (ts : List Token) : Prop where
  escapes_paired : .loneEscape ∉ marks ts
  never_below : ∀ k, ((marks ts).take k).count .closing ≤ ((marks ts).take k).count .opening
  balanced : (marks ts).count .opening = (marks ts).count .closing
  no_empty_group : ¬ [.opening, .closing] <:+: marks ts
  names_valid : ∀ n, .name n ∈ marks ts → isName n = true
  names_distinct : ((nameTokens ts).map (·.1)).Nodup

/-- Whether some tokens are without faults when `n` groups are open in front of them, but for
names that occur twice. -/
structure Sound (n : Nat) (ms : List Mark) : Prop where
  escapes_paired : .loneEscape ∉ ms
  never_below : ∀ k, (ms.take k).count .closing ≤ n + (ms.take k).count .opening
  balanced : n + ms.count .opening = ms.count .closing
  no_empty_group : ¬ [.opening, .closing] <:+: ms
  names_valid : ∀ n, .name n ∈ ms → isName n = true

/-! ## One token more -/

theorem sound_nil {n : Nat} : Sound n [] ↔ n = 0 := by
  refine ⟨fun h => h.balanced, ?_⟩
  rintro rfl
  exact ⟨by simp, by simp, rfl, by simp, by simp⟩

theorem infix_cons_iff {m : Mark} {ms : List Mark} :
    [.opening, .closing] <:+: m :: ms ↔
      (m = .opening ∧ ms.head? = some .closing) ∨ [.opening, .closing] <:+: ms := by
  rw [List.infix_cons_iff, List.cons_prefix_cons, eq_comm]
  refine or_congr_left (and_congr_right fun _ => ?_)
  cases ms with
  | nil => simp
  | cons m ms => simp [List.cons_prefix_cons, eq_comm]

/-- A token is without fault by itself and in front of the others, which are sound with as many
groups open as it leaves. -/
theorem sound_cons {n i : Nat} {m : Mark} {ms : List Mark}
    (hn : n + [m].count .opening = i + [m].count .closing) :
    Sound n (m :: ms) ↔
      (m ≠ .loneEscape ∧ (∀ cs, m = .name cs → isName cs = true) ∧
        ¬ (m = .opening ∧ ms.head? = some .closing)) ∧ Sound i ms := by
  have hcount : ∀ (x : Mark) (l : List Mark), (m :: l).count x = [m].count x + l.count x :=
    fun x l => by rw [← List.count_append, List.singleton_append]
  constructor
  · intro h
    have hempty := h.no_empty_group
    rw [infix_cons_iff, not_or] at hempty
    refine ⟨⟨?_, ?_, hempty.1⟩, ?_, fun k => ?_, ?_, hempty.2, ?_⟩
    · rintro rfl
      exact h.escapes_paired List.mem_cons_self
    · rintro cs rfl
      exact h.names_valid cs List.mem_cons_self
    · exact fun hm => h.escapes_paired (List.mem_cons_of_mem _ hm)
    · have := h.never_below (k + 1)
      rw [List.take_succ_cons, hcount, hcount .opening] at this
      omega
    · have := h.balanced
      rw [hcount, hcount .closing] at this
      omega
    · exact fun cs hm => h.names_valid cs (List.mem_cons_of_mem _ hm)
  · rintro ⟨⟨hescape, hname, hempty⟩, h⟩
    refine ⟨?_, fun k => ?_, ?_, ?_, ?_⟩
    · exact fun hm => (List.mem_cons.1 hm).elim (fun he => hescape he.symm) h.escapes_paired
    · cases k with
      | zero => simp
      | succ k =>
        have := h.never_below k
        rw [List.take_succ_cons, hcount, hcount .opening]
        omega
    · have := h.balanced
      rw [hcount, hcount .closing]
      omega
    · rw [infix_cons_iff, not_or]
      exact ⟨hempty, h.no_empty_group⟩
    · exact fun cs hm =>
        (List.mem_cons.1 hm).elim (fun he => hname cs he.symm) (h.names_valid cs)

theorem not_sound_closing (ms : List Mark) : ¬ Sound 0 (.closing :: ms) := fun h => by
  simpa using h.never_below 1

/-- The pass over the tokens finds no fault just if they are sound. -/
theorem firstFault?_eq_none_iff {opened : List Nat} {ts : List Token} :
    firstFault? opened ts = none ↔ Sound opened.length (marks ts) := by
  induction ts generalizing opened with
  | nil =>
    rw [marks, List.map_nil, sound_nil]
    cases opened <;> simp [firstFault?]
  | cons t ts ih =>
    obtain ⟨position, mark⟩ := t
    have hmarks : marks (⟨position, mark⟩ :: ts) = mark :: marks ts := rfl
    have hhead : ts.head?.map (·.mark) = (marks ts).head? := by simp [marks]
    rw [hmarks]
    cases mark with
    | opening =>
      rw [sound_cons (i := opened.length + 1) (by simp)]
      simp only [firstFault?, hhead]
      split
      · rename_i hc
        simp [hc]
      · rename_i hc
        simp [hc, ih]
    | closing =>
      cases opened with
      | nil => exact iff_of_false (by simp [firstFault?]) (not_sound_closing _)
      | cons start outer =>
        rw [sound_cons (i := outer.length) (by simp)]
        simp [firstFault?, ih]
    | name cs =>
      rw [sound_cons (i := opened.length) (by simp)]
      simp [firstFault?, fault?_name, nameFault?_eq_none_iff, ih]
    | character c =>
      rw [sound_cons (i := opened.length) (by simp)]
      simp [firstFault?, Token.fault?, ih]
    | loneEscape =>
      rw [sound_cons (i := opened.length) (by simp)]
      simp [firstFault?, Token.fault?]

/-! ## Names that occur once -/

theorem repeated?_eq_none_iff {before ps : List (String × Nat)}
    (h : (before.map (·.1)).Nodup) :
    repeated? before ps = none ↔ ((before ++ ps).map (·.1)).Nodup := by
  induction ps generalizing before with
  | nil => simpa [repeated?] using h
  | cons p ps ih =>
    rw [repeated?]
    split
    · rename_i hp
      refine iff_of_false (by simp) fun hnd => ?_
      rw [List.map_append, List.map_cons] at hnd
      exact (List.nodup_append.1 hnd).2.2 _ hp _ List.mem_cons_self rfl
    · rename_i hp
      rw [ih ?_, List.append_assoc, List.singleton_append]
      have hne : ∀ n ∈ before.map (·.1), n ≠ p.1 := fun n hn he => hp (he ▸ hn)
      rw [List.map_append]
      exact List.nodup_append.2 ⟨h, by simp, by simpa using hne⟩

/-! ## Accepted templates -/

theorem accepted_iff {ts : List Token} :
    Accepted ts ↔ firstFault? [] ts = none ∧ repeated? [] (nameTokens ts) = none := by
  rw [firstFault?_eq_none_iff, repeated?_eq_none_iff (by simp), List.nil_append, List.length_nil]
  refine ⟨fun h => ⟨?_, h.names_distinct⟩, fun ⟨h, hd⟩ => ?_⟩
  · refine ⟨h.escapes_paired, fun k => ?_, ?_, h.no_empty_group, h.names_valid⟩
    · rw [Nat.zero_add]
      exact h.never_below k
    · rw [Nat.zero_add]
      exact h.balanced
  · refine ⟨h.escapes_paired, fun k => ?_, ?_, h.no_empty_group, h.names_valid, hd⟩
    · simpa using h.never_below k
    · simpa using h.balanced

/-- The placeholders of a template that is read have names. -/
theorem isName_of_mem_names {text : String} {t : Template} (h : parse text = .ok t) :
    ∀ n ∈ t.names, isName n.toList = true := by
  intro n hn
  rw [names, placeholders_of_parse h] at hn
  obtain ⟨p, hp, rfl⟩ := List.mem_map.1 hn
  obtain ⟨⟨position, mark⟩, ht, hmark⟩ := List.mem_filterMap.1 hp
  cases mark with
  | name cs =>
    cases hmark
    have hsound := firstFault?_eq_none_iff.1 (build_of_parse h).1
    rw [String.toList_ofList]
    exact hsound.names_valid cs (List.mem_map.2 ⟨_, ht, rfl⟩)
  | _ => cases hmark

/-- The reader of templates gives the verdict of the checker on every text: the fault of the first
token that has one, or else the innermost group that stays open, or else the first name that occurs
again. It accepts just the texts whose tokens have none of these faults. -/
theorem parse_verdict (text : String) :
    (parse text).map (fun _ => ()) = check text ∧
      ((∃ t, parse text = .ok t) ↔ Accepted (tokensOf text)) := by
  refine ⟨map_parse_eq_check text, ?_⟩
  rw [accepted_iff, parse_eq]
  cases firstFault? [] (tokensOf text) with
  | some fault => simp
  | none => cases repeated? [] (nameTokens (tokensOf text)) <;> simp

end Signpost.Template
