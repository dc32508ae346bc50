import Signpost.Proofs.Regex.Parser
import Signpost.Regex.Text

/-!
# Patterns that stand alone

A pattern that is one by itself can be put into a group of a larger one: if it can be read between
parentheses at all, the reader comes to the closing one with nothing open but the groups around.

The reader runs on the text of the pattern alone and, next to that, on the same text inside the
groups. A step does the same to both (`step_within`), but for a comment that has no end in the
pattern: it takes the closing parenthesis too, and then the group is never closed.
-/

namespace Signpost.Regex

/-- Whether a text is a pattern without parentheses around it. -/
def standsAlone (pattern : String) : Bool := (ofString? pattern).isSome

/-! ## Readings -/

namespace Reading

/-- A reading inside of open groups, behind names that have been given. -/
def within (a : Reading) (gs : List OpenGroup) (ns : List String) : Reading :=
  { a with groups := a.groups ++ gs, names := a.names ++ ns }

section
variable {a b : Reading} (gs : List OpenGroup) (ns : List String)

@[simp] theorem within_flags (a : Reading) : (a.within gs ns).flags = a.flags := rfl

@[simp] theorem within_groups (a : Reading) : (a.within gs ns).groups = a.groups ++ gs := rfl

@[simp] theorem within_branches (a : Reading) : (a.within gs ns).branches = a.branches := rfl

theorem pushAtom_within (a : Reading) (x : Atom) :
    (a.within gs ns).pushAtom x = (a.pushAtom x).within gs ns := by
  cases x <;> rfl

theorem repeatLast_within {f : Regex → Option Regex} (h : a.repeatLast f = some b) :
    (a.within gs ns).repeatLast f = some (b.within gs ns) := by
  unfold repeatLast at h ⊢
  rw [within_branches]
  split at h
  · cases h
  · rename_i p ps hps
    split at h
    · rename_i hp
      obtain ⟨r, hr, heq⟩ := Option.bind_eq_some_iff.1 h
      cases heq
      rw [if_pos hp, hr]
      rfl
    · cases h

theorem groups_of_repeatLast {f : Regex → Option Regex} (h : a.repeatLast f = some b) :
    b.groups = a.groups := by
  unfold repeatLast at h
  split at h
  · cases h
  · split at h
    · obtain ⟨r, hr, heq⟩ := Option.bind_eq_some_iff.1 h
      cases heq
      rfl
    · cases h

theorem closeGroup_within (h : a.closeGroup = some b) :
    (a.within gs ns).closeGroup = some (b.within gs ns) := by
  unfold closeGroup at h ⊢
  rw [within_groups]
  split at h
  · cases h
  · rename_i g gs' hgs
    cases h
    rw [hgs]
    rfl

/-- A group opens inside of others too, unless its name has been given there. -/
theorem openGroup_within {name : Option String} {f : Flags} (h : a.openGroup name f = some b)
    {r : Reading} (hr : (a.within gs ns).openGroup name f = some r) : r = b.within gs ns := by
  cases name with
  | none =>
    cases h
    cases hr
    rfl
  | some n =>
    simp only [openGroup] at h hr
    split at h
    · cases h
    · split at hr
      · cases hr
      · cases h
        cases hr
        rfl

theorem groups_of_openGroup {name : Option String} {f : Flags} (h : a.openGroup name f = some b) :
    b.groups ≠ [] := by
  cases name with
  | none =>
    cases h
    exact List.cons_ne_nil _ _
  | some n =>
    simp only [openGroup] at h
    split at h
    · cases h
    · cases h
      exact List.cons_ne_nil _ _

end

/-- A repetition of the last piece is read in the same way inside of groups. -/
theorem readRepetition_within {a b : Reading} {f : Bool → Regex → Option Regex}
    {cs rest : List Char} (h : a.readRepetition f cs = some (b, rest)) (gs : List OpenGroup)
    (ns : List String) (t : List Char) :
    (a.within gs ns).readRepetition f (cs ++ ')' :: t) =
      some (b.within gs ns, rest ++ ')' :: t) := by
  cases hgreed : readGreed a.flags cs with
  | mk greedy r =>
    simp only [readRepetition, hgreed, Option.bind_eq_bind, Option.bind_eq_some_iff] at h
    obtain ⟨b', hlast, heq⟩ := h
    cases heq
    simp only [readRepetition, within_flags, readGreed_append t hgreed,
      repeatLast_within gs ns hlast]
    rfl

/-- What the reader does on the text of a pattern, it does inside of groups too, behind names that
differ. -/
def Follows (a b : Reading) (c : Char) (cs rest : List Char) : Prop :=
  ∀ gs ns t r, (a.within gs ns).step c (cs ++ ')' :: t) = some r →
    r = (b.within gs ns, rest ++ ')' :: t)

/-- The reader takes the parenthesis behind a pattern for a part of a comment, and comes to the end
of the text with all groups around the pattern open. -/
def Overruns (a : Reading) (c : Char) (cs : List Char) : Prop :=
  ∀ gs ns r, (a.within gs ns).step c (cs ++ [')', '$']) = some r →
    r.2 = [] ∧ r.1.groups = a.groups ++ gs

/-! ## Steps -/

theorem step_of_blank (a : Reading) {c : Char}
    (h : (a.flags.spaced && (Unicode.isWhiteSpace c || c == '#')) = true) (cs : List Char) :
    a.step c cs = some (a, a.flags.skip (c :: cs)) := by
  unfold step
  rw [if_pos h, Flags.skip, if_pos (Bool.and_eq_true_iff.1 h).1]

theorem readGroupHead_of_skip {f : Flags} {cs : List Char} (h : f.skip cs = []) :
    readGroupHead f cs = some (.plain f, []) := by
  rw [readGroupHead, h]

theorem step_brace (a : Reading) (cs : List Char) :
    a.step '\x7b' cs = (readBounds a.flags cs).bind fun x =>
      a.readRepetition x.1.apply (a.flags.skip x.2) := by
  have hblank : (Unicode.isWhiteSpace '\x7b' || '\x7b' == '#') = false := by decide
  rw [step, hblank, Bool.and_false, if_neg Bool.false_ne_true]
  rfl

/-- Blanks that do not count can go on behind the pattern. -/
theorem step_blank_within {a : Reading} {c : Char}
    (h : (a.flags.spaced && (Unicode.isWhiteSpace c || c == '#')) = true) (cs : List Char) :
    Follows a a c cs (a.flags.skip (c :: cs)) ∨ Overruns a c cs := by
  have hstep : ∀ gs ns u, (a.within gs ns).step c (cs ++ u) =
      some (a.within gs ns, a.flags.skip (c :: cs ++ u)) :=
    fun gs ns u => step_of_blank (a.within gs ns) h _
  rcases skip_paren a.flags (c :: cs) with hskip | hskip
  · refine .inl fun gs ns t r hr => ?_
    rw [hstep, hskip] at hr
    exact (Option.some.inj hr).symm
  · refine .inr fun gs ns r hr => ?_
    rw [hstep, hskip] at hr
    cases hr
    exact ⟨rfl, rfl⟩

/-- The blanks behind the bounds of a repetition can go on behind the pattern. -/
theorem step_brace_within {a b : Reading} {cs rest : List Char}
    (h : a.step '\x7b' cs = some (b, rest)) :
    Follows a b '\x7b' cs rest ∨ Overruns a '\x7b' cs := by
  rw [step_brace] at h
  obtain ⟨⟨bounds, r⟩, hbounds, h⟩ := Option.bind_eq_some_iff.1 h
  dsimp only at h
  rcases skip_paren a.flags r with hskip | hskip
  · refine .inl fun gs ns t r' hr' => ?_
    rw [step_brace, within_flags, readBounds_append _ hbounds, Option.bind_some, hskip,
      readRepetition_within h] at hr'
    exact (Option.some.inj hr').symm
  · refine .inr fun gs ns r' hr' => ?_
    rw [step_brace, within_flags, readBounds_append _ hbounds, Option.bind_some, hskip] at hr'
    obtain ⟨b', hlast, heq⟩ := Option.bind_eq_some_iff.1 hr'
    cases heq
    exact ⟨rfl, groups_of_repeatLast hlast⟩

/-- A group whose head has been read opens inside of others too, unless its name has been given. -/
theorem openHead_within {a b : Reading} {name : Option String} {f : Flags} {r rest : List Char}
    {gs : List OpenGroup} {ns : List String} {t : List Char} {x : Reading × List Char}
    (h : ((a.openGroup name f).bind fun st => some (st, r)) = some (b, rest))
    (hx : (((a.within gs ns).openGroup name f).bind fun st => some (st, r ++ ')' :: t)) = some x) :
    x = (b.within gs ns, rest ++ ')' :: t) := by
  obtain ⟨b', hopen, heq⟩ := Option.bind_eq_some_iff.1 h
  obtain ⟨b'', hopen', heq'⟩ := Option.bind_eq_some_iff.1 hx
  cases heq
  cases heq'
  rw [openGroup_within gs ns hopen hopen']

/-- A step on the text of a pattern is the same inside of groups, or overruns the pattern. -/
theorem step_within {a b : Reading} {c : Char} {cs rest : List Char}
    (h : a.step c cs = some (b, rest)) (hrest : rest = [] → b.groups = []) :
    Follows a b c cs rest ∨ Overruns a c cs := by
  by_cases hblank : (a.flags.spaced && (Unicode.isWhiteSpace c || c == '#')) = true
  · rw [step_of_blank a hblank] at h
    cases h
    exact step_blank_within hblank cs
  by_cases hbrace : c = '\x7b'
  · subst hbrace
    exact step_brace_within h
  refine .inl fun gs ns t r hr => ?_
  unfold step at h hr
  rw [if_neg hblank] at h
  rw [within_flags, if_neg hblank] at hr
  split at h
  · obtain ⟨⟨head, r'⟩, hhead, h⟩ := Option.bind_eq_some_iff.1 h
    by_cases hs : a.flags.skip cs = []
    · rw [readGroupHead_of_skip hs] at hhead
      cases hhead
      obtain ⟨b', hopen, heq⟩ := Option.bind_eq_some_iff.1 h
      cases heq
      exact absurd (hrest rfl) (groups_of_openGroup hopen)
    · rw [readGroupHead_append _ hhead hs] at hr
      cases head with
      | flags f =>
        cases h
        cases hr
        rfl
      | plain f => exact openHead_within h hr
      | named n => exact openHead_within h hr
  · obtain ⟨b', hclose, heq⟩ := Option.bind_eq_some_iff.1 h
    cases heq
    simp only [closeGroup_within gs ns hclose] at hr
    cases hr
    rfl
  · cases h
    cases hr
    rfl
  · obtain ⟨⟨s, r'⟩, hclass, heq⟩ := Option.bind_eq_some_iff.1 h
    cases heq
    simp only [readClass_append t hclass] at hr
    cases hr
    rfl
  · simp only [readRepetition_within h gs ns t] at hr
    cases hr
    rfl
  · simp only [readRepetition_within h gs ns t] at hr
    cases hr
    rfl
  · simp only [readRepetition_within h gs ns t] at hr
    cases hr
    rfl
  · exact absurd rfl hbrace
  · obtain ⟨⟨x, r'⟩, hread, heq⟩ := Option.bind_eq_some_iff.1 h
    cases heq
    simp only [readEscape_append t hread] at hr
    cases hr
    rw [pushAtom_within]
  · obtain ⟨s, hdot, heq⟩ := Option.bind_eq_some_iff.1 h
    cases heq
    simp only [hdot] at hr
    cases hr
    rfl
  · cases h
    cases hr
    rfl
  · cases h
    cases hr
    rfl
  · cases h
    simp only at hr
    cases hr
    rfl

theorem groups_of_finish {st : Reading} {r : Regex} (h : st.finish = some r) : st.groups = [] := by
  unfold finish at h
  split at h
  · assumption
  · cases h

end Reading

/-! ## Whole patterns -/

theorem parseFrom_length (st : Reading) (cs : List Char) :
    parseFrom st cs.length cs = st.finish := by
  rw [parseFrom_skip, List.drop_length, parseFrom]

/-- Two readers that have taken the same step go on from there. -/
theorem parseFrom_of_follows {a b : Reading} {c : Char} {cs rest : List Char}
    (h : a.Follows b c cs rest) {gs : List OpenGroup} {ns : List String} {t : List Char} {r : Regex}
    (hr : parseFrom (a.within gs ns) 0 (c :: cs ++ ')' :: t) = some r) :
    parseFrom (b.within gs ns) (cs.length - rest.length) (cs ++ ')' :: t) = some r := by
  rw [List.cons_append, parseFrom] at hr
  split at hr
  · cases hr
  · rename_i hstep
    cases h gs ns t _ hstep
    rwa [List.length_append, List.length_append, Nat.add_sub_add_right] at hr

theorem parseFrom_of_overruns {a : Reading} {c : Char} {cs : List Char} (h : a.Overruns c cs)
    {gs : List OpenGroup} (hgs : gs ≠ []) (ns : List String) :
    parseFrom (a.within gs ns) 0 (c :: cs ++ [')', '$']) = none := by
  rw [List.cons_append, parseFrom]
  split
  · rfl
  · rename_i st rest hstep
    obtain ⟨rfl, hgroups⟩ := h gs ns _ hstep
    rw [List.length_nil, Nat.sub_zero, parseFrom_length]
    cases hfinish : st.finish with
    | none => rfl
    | some r =>
      rw [Reading.groups_of_finish hfinish] at hgroups
      exact absurd (List.append_eq_nil_iff.1 hgroups.symm).2 hgs

/-- A pattern that is one by itself and in parentheses is read inside of groups, whatever follows,
up to a place where just these groups are open and the pattern has been read. -/
theorem parseFrom_within {a : Reading} {k : Nat} {cs : List Char} {r₀ r₁ : Regex}
    {gs₁ : List OpenGroup} {ns₁ : List String} (hk : k ≤ cs.length)
    (halone : parseFrom a k cs = some r₀) (hgs₁ : gs₁ ≠ [])
    (henclosed : parseFrom (a.within gs₁ ns₁) k (cs ++ [')', '$']) = some r₁) :
    ∃ b : Reading, b.finish = some r₀ ∧ ∀ gs ns t r,
      parseFrom (a.within gs ns) k (cs ++ ')' :: t) = some r →
        parseFrom (b.within gs ns) 0 (')' :: t) = some r := by
  induction cs generalizing a k with
  | nil =>
    cases Nat.le_zero.1 hk
    exact ⟨a, halone, fun gs ns t r hr => hr⟩
  | cons c cs ih =>
    cases k with
    | succ k => exact ih (Nat.le_of_succ_le_succ hk) halone henclosed
    | zero =>
      rw [parseFrom] at halone
      split at halone
      · cases halone
      · rename_i a' rest hstep
        have hrest : rest = [] → a'.groups = [] := by
          rintro rfl
          rw [List.length_nil, Nat.sub_zero, parseFrom_length] at halone
          exact Reading.groups_of_finish halone
        rcases Reading.step_within hstep hrest with hfollows | hoverruns
        · obtain ⟨b, hb, hgo⟩ := ih (Nat.sub_le _ _) halone (parseFrom_of_follows hfollows henclosed)
          exact ⟨b, hb, fun gs ns t r hr => hgo gs ns t r (parseFrom_of_follows hfollows hr)⟩
        · cases (parseFrom_of_overruns hoverruns hgs₁ ns₁).symm.trans henclosed

end Signpost.Regex
