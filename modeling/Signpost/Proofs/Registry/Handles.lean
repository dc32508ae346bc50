import Mathlib.Data.List.Nodup
import Signpost.Proofs.Registry.Atomicity
import Signpost.Proofs.Registry.Loading

/-!
# What becomes of a handle

A registry gives out every handle once, so no two entries ever share one, and an entry that has left the
table never comes back (`Grows.eq_of_handle_eq`). A call `Displaces` what stands under a name if it
registers a route under that name, or loads other routes in place of them all. Every entry stays in the
table just until that happens (`mem_entries_run_iff`, `mem_entries_runAll_iff`).

So the handle that a registration gives out stands for its name until the name is registered again or
the table is replaced, and for no name from then on (`nameOf?_runAll`).
-/

namespace Signpost

namespace Table

variable {t : Table} {h : Handle}

theorem nameOf?_eq_none_iff : t.nameOf? h = none ↔ ∀ e ∈ t.entries, e.handle ≠ h := by
  unfold nameOf?
  rw [Option.map_eq_none_iff, List.find?_eq_none]
  simp only [beq_iff_eq, ne_eq]

/-- The entry with a handle gives the handle its name, if no other entry has that handle. -/
theorem nameOf?_of_mem {e : Entry} (he : e ∈ t.entries)
    (hunique : ∀ f ∈ t.entries, f.handle = e.handle → f = e) :
    t.nameOf? e.handle = some e.name := by
  unfold nameOf?
  cases hfind : t.entries.find? (·.handle == e.handle) with
  | none => simpa using List.find?_eq_none.1 hfind e he
  | some f =>
    have hf : f = e :=
      hunique f (List.mem_of_find?_eq_some hfind) (by simpa using List.find?_some hfind)
    rw [hf]
    rfl

end Table

namespace Registry

/-! ## Handles that were given out -/

/-- The entries of a registry have handles that it gave out, and no two have the same one. -/
structure TellsApart (r : Registry) : Prop where
  issued : ∀ e ∈ r.table.entries, ¬ r.Unissued e.handle
  apart : ∀ e ∈ r.table.entries, ∀ f ∈ r.table.entries, e.handle = f.handle → e = f

theorem tellsApart_of_empty {r : Registry} (h : r.table = ∅) : r.TellsApart := by
  have hentries : r.table.entries = [] := by
    rw [h]
    rfl
  constructor
  · intro e he
    rw [hentries] at he
    cases he
  · intro e he
    rw [hentries] at he
    cases he

theorem unissued_next (r : Registry) : r.Unissued ⟨r.owner, r.next⟩ := ⟨rfl, Nat.le_refl _⟩

theorem TellsApart.put {r : Registry} (h : r.TellsApart) (name : String) (route : Route) :
    (r.put name route).TellsApart := by
  -- the handle of the new entry was not given out before, so no old entry has it
  have hnew : ∀ e ∈ r.table.entries, e.handle ≠ ⟨r.owner, r.next⟩ := by
    intro e he heq
    exact h.issued e he (heq ▸ r.unissued_next)
  constructor
  · rintro e he ⟨howner, hserial⟩
    have hserial : r.next + 1 ≤ e.handle.serial := hserial
    rcases Table.mem_entries_insert.1 he with rfl | ⟨he, -⟩
    · exact Nat.not_succ_le_self _ hserial
    · exact h.issued e he ⟨howner, by omega⟩
  · intro e he f hf heq
    rcases Table.mem_entries_insert.1 he with rfl | ⟨he, -⟩
    · rcases Table.mem_entries_insert.1 hf with rfl | ⟨hf, -⟩
      · rfl
      · exact absurd heq.symm (hnew f hf)
    · rcases Table.mem_entries_insert.1 hf with rfl | ⟨hf, -⟩
      · exact absurd heq (hnew e he)
      · exact h.apart e he f hf heq

theorem TellsApart.nodup {r : Registry} (h : r.TellsApart) :
    (r.table.entries.map (·.handle)).Nodup := by
  have hentries : r.table.entries.Nodup := List.Nodup.of_map _ r.table.names_nodup
  exact List.Nodup.map_on (fun e he f hf heq => h.apart e he f hf heq) hentries

section
variable {σ : Type u} [Store σ]

theorem tellsApart_run {r : Registry} (h : r.TellsApart) (c : Call σ) :
    (c.run r).1.TellsApart := by
  have hchanges := changes_run r c
  generalize (c.run r).1 = next at hchanges
  cases hchanges with
  | counts | adds => exact ⟨h.issued, h.apart⟩
  | @registers name _ route =>
    have hput := h.put name route
    exact ⟨hput.issued, hput.apart⟩
  | @restores _ _ _ routes _ _ _ append =>
    have hrestore : (r.restore append routes).TellsApart :=
      restore_keeps (tellsApart_of_empty rfl) h fun r' h q _ => h.put q.1 q.2
    exact ⟨hrestore.issued, hrestore.apart⟩

theorem tellsApart_runAll {r : Registry} (h : r.TellsApart) (calls : List (Call σ)) :
    (r.runAll calls).TellsApart :=
  runAll_keeps (p := TellsApart) (fun _ c h => tellsApart_run h c) h calls

end

/-! ## Entries that come later -/

theorem Grows.refl (r : Registry) : r.Grows r.table.entries r :=
  ⟨rfl, Nat.le_refl _, fun _ he => .inl he⟩

/-- A handle that was not given out yet was not given out before. -/
theorem Grows.unissued {r r' : Registry} {old : List Entry} {h : Handle} (hgrows : r.Grows old r')
    (hnew : r'.Unissued h) : r.Unissued h := by
  obtain ⟨howner, hserial⟩ := hnew
  exact ⟨howner.trans hgrows.owner, hgrows.next.trans hserial⟩

theorem Grows.trans {r r' r'' : Registry} {old : List Entry} (h : r.Grows old r')
    (h' : r'.Grows r'.table.entries r'') : r.Grows old r'' where
  owner := h'.owner.trans h.owner
  next := h.next.trans h'.next
  entries e he := by
    rcases h'.entries e he with he | hnew
    · exact h.entries e he
    · exact .inr (h.unissued hnew)

/-- An entry with the handle of an old one is the old one. -/
theorem Grows.eq_of_handle_eq {r r' : Registry} (h : r.Grows r.table.entries r')
    (hr : r.TellsApart) {e f : Entry} (he : e ∈ r.table.entries) (hf : f ∈ r'.table.entries)
    (heq : f.handle = e.handle) : f = e := by
  rcases h.entries f hf with hold | hnew
  · exact hr.apart f hold e he heq
  · exact absurd (heq ▸ hnew) (hr.issued e he)

/-- An entry that has left the table does not come back. -/
theorem Grows.not_mem {r r' r'' : Registry} (h : r.Grows r.table.entries r')
    (h' : r'.Grows r'.table.entries r'') (hr : r.TellsApart) {e : Entry}
    (he : e ∈ r.table.entries) (hgone : e ∉ r'.table.entries) : e ∉ r''.table.entries := by
  intro hback
  rcases h'.entries e hback with hold | hnew
  · exact hgone hold
  · exact hr.issued e he (h.unissued hnew)

theorem grows_restore (r : Registry) (append : Bool) (routes : List (String × Route)) :
    r.Grows r.table.entries (r.restore append routes) := by
  cases append with
  | true => exact grows_restore_true r routes
  | false =>
    obtain ⟨howner, hnext, hentries⟩ := grows_restore_false r routes
    refine ⟨howner, hnext, fun e he => .inr ?_⟩
    exact (hentries e he).resolve_left List.not_mem_nil

section
variable {σ : Type u} [Store σ]

theorem grows_run (r : Registry) (c : Call σ) : r.Grows r.table.entries (c.run r).1 := by
  have hchanges := changes_run r c
  generalize (c.run r).1 = next at hchanges
  cases hchanges with
  | counts | adds => exact ⟨rfl, Nat.le_refl _, fun _ he => .inl he⟩
  | @registers name _ route =>
    obtain ⟨howner, hnext, hentries⟩ := (Grows.refl r).put name route
    exact ⟨howner, hnext, hentries⟩
  | @restores _ _ _ routes _ _ _ append =>
    obtain ⟨howner, hnext, hentries⟩ := grows_restore r append routes
    exact ⟨howner, hnext, hentries⟩

theorem grows_runAll (r : Registry) (calls : List (Call σ)) :
    r.Grows r.table.entries (r.runAll calls) :=
  runAll_keeps (p := r.Grows r.table.entries) (fun r' c h => h.trans (grows_run r' c))
    (.refl r) calls

end

/-! ## Entries that go -/

section
variable {σ : Type u} [Store σ]

/-- The ways in which a call puts something else in the place of what stands under a name. -/
inductive Call.Displaces (r : Registry) (name : String) : Call σ → Prop
  | registers {route : Route} {h : Handle}
      (hrun : ((.register name route : Call σ).run r).2 = .ok (.handle h)) :
      Call.Displaces r name (.register name route)
  | restores {c : Call σ} (hreplaces : c.replaces = true)
      (hrun : (c.run r).2 = .ok (.flag true)) : Call.Displaces r name c

theorem displaces_register_iff {r : Registry} {name n : String} {route : Route} :
    (Call.register n route : Call σ).Displaces r name ↔ n = name ∧ r.refuses n = false := by
  constructor
  · intro h
    cases h with
    | restores hreplaces => cases hreplaces
    | registers hrun =>
      rw [Call.run, register_eq] at hrun
      cases hrefuses : r.refuses name with
      | false => exact ⟨rfl, rfl⟩
      | true =>
        rw [hrefuses] at hrun
        cases hrun
  · rintro ⟨rfl, hfree⟩
    refine .registers (h := ⟨r.owner, r.next⟩) ?_
    rw [Call.run, register_eq, hfree]
    rfl

theorem displaces_load_iff {r : Registry} {name : String} {blob : Option ByteArray}
    {append : Bool} :
    (Call.load blob append : Call σ).Displaces r name ↔
      append = false ∧ (r.load blob append).2 = .ok true := by
  have hanswer : ((Call.load blob append : Call σ).run r).2 =
      (r.load blob append).2.map .flag := rfl
  constructor
  · intro h
    cases h with
    | restores hreplaces hrun =>
      refine ⟨by simpa [Call.replaces] using hreplaces, ?_⟩
      obtain ⟨value, hvalue, hflag⟩ := map_eq_ok_iff.1 (hanswer.symm.trans hrun)
      cases hflag
      exact hvalue
  · rintro ⟨rfl, hload⟩
    exact .restores rfl (hanswer.trans (map_eq_ok_iff.2 ⟨true, hload, rfl⟩))

/-- A load from a store displaces what a load of what is in the store does. -/
theorem displaces_loadCache_iff {r : Registry} {name : String} {store : σ} {append : Bool} :
    (Call.loadCache store append).Displaces r name ↔
      ∃ blob, Store.load store cacheKey = .ok blob ∧
        (Call.load blob append : Call σ).Displaces r name := by
  have hrun := run_loadCache r store append
  cases hstore : Store.load store cacheKey with
  | error e =>
    rw [hstore] at hrun
    constructor
    · intro h
      cases h with
      | restores _ hflag =>
        rw [hrun] at hflag
        cases hflag
    · rintro ⟨blob, hblob, -⟩
      cases hblob
  | ok blob =>
    rw [hstore] at hrun
    constructor
    · intro h
      cases h with
      | restores hreplaces hflag =>
        rw [hrun] at hflag
        exact ⟨blob, rfl, .restores hreplaces hflag⟩
    · rintro ⟨blob', hblob, h⟩
      cases hblob
      cases h with
      | restores hreplaces hflag =>
        refine .restores hreplaces ?_
        rw [hrun]
        exact hflag

section
variable {r : Registry} (hr : r.TellsApart) {e : Entry} (he : e ∈ r.table.entries)
include hr he

theorem mem_entries_registered_iff {name : String} {route : Route} :
    e ∈ (r.registered name route).table.entries ↔ e.name ≠ name := by
  have hinsert : e ∈ (r.registered name route).table.entries ↔
      e = ⟨name, ⟨r.owner, r.next⟩, route⟩ ∨ e ∈ r.table.entries ∧ e.name ≠ name :=
    Table.mem_entries_insert
  rw [hinsert]
  constructor
  · rintro (rfl | ⟨-, hname⟩)
    · exact absurd r.unissued_next (hr.issued _ he)
    · exact hname
  · exact fun hname => .inr ⟨he, hname⟩

theorem mem_entries_load_iff {blob : Option ByteArray} {append : Bool} :
    e ∈ (r.load blob append).1.table.entries ↔
      ¬ (append = false ∧ (r.load blob append).2 = .ok true) := by
  have hload := loads_load r blob append
  generalize r.load blob append = loaded at hload ⊢
  cases hload with
  | absent | unreadable | refused => simp [he]
  | @restored _ _ routes _ _ =>
    cases append with
    | true => simpa using (entries_prefix_restore r routes).subset he
    | false =>
      have hgone : e ∉ (r.restore false routes).table.entries := by
        intro hmem
        rcases (grows_restore_false r routes).entries e hmem with hnil | hnew
        · cases hnil
        · exact hr.issued e he hnew
      simpa using hgone

/-- A call takes an entry out of the table just if it displaces what stands under the name. -/
theorem mem_entries_run_iff (c : Call σ) :
    e ∈ (c.run r).1.table.entries ↔ ¬ c.Displaces r e.name := by
  have hload : ∀ blob append, e ∈ ((Call.load blob append : Call σ).run r).1.table.entries ↔
      ¬ (Call.load blob append : Call σ).Displaces r e.name := by
    intro blob append
    rw [displaces_load_iff]
    exact mem_entries_load_iff hr he
  cases c with
  | register name route =>
    rw [run_register, displaces_register_iff]
    cases hrefuses : r.refuses name with
    | true => simpa using he
    | false =>
      rw [if_neg Bool.false_ne_true, mem_entries_registered_iff hr he]
      simp [eq_comm]
  | load blob append => exact hload blob append
  | loadCache store append =>
    rw [run_loadCache, displaces_loadCache_iff]
    cases Store.load store cacheKey with
    | error cause => simpa using he
    | ok blob => simpa using hload blob append
  | compile | registerFilter | get | isExternal | uri | url | save | saveCache =>
    refine iff_of_true he fun h => ?_
    cases h with
    | restores hreplaces => cases hreplaces

end

/-! ## Runs -/

/-- Whether some call of a run displaces what stands under a name. -/
def Displaced (r : Registry) (name : String) : List (Call σ) → Prop
  | [] => False
  | c :: calls => c.Displaces r name ∨ (c.run r).1.Displaced name calls

/-- An entry is in the table until some call displaces it, and then never again. -/
theorem mem_entries_runAll_iff {r : Registry} (hr : r.TellsApart) {e : Entry}
    (he : e ∈ r.table.entries) (calls : List (Call σ)) :
    e ∈ (r.runAll calls).table.entries ↔ ¬ r.Displaced e.name calls := by
  induction calls generalizing r with
  | nil => exact iff_of_true he not_false
  | cons c calls ih =>
    show e ∈ ((c.run r).1.runAll calls).table.entries ↔
      ¬ (c.Displaces r e.name ∨ (c.run r).1.Displaced e.name calls)
    have hstep := mem_entries_run_iff hr he c
    by_cases hd : c.Displaces r e.name
    · have hgone : e ∉ (c.run r).1.table.entries := fun hmem => hstep.1 hmem hd
      have hnever := (grows_run r c).not_mem (grows_runAll _ calls) hr he hgone
      exact iff_of_false hnever (not_not_intro (.inl hd))
    · rw [ih (tellsApart_run hr c) (hstep.2 hd), not_or]
      exact (and_iff_right hd).symm

/-- The handle of an old entry stands for its name as long as the entry is there, and then for
nothing. -/
theorem nameOf?_of_grows {r r' : Registry} (hr : r.TellsApart) (h : r.Grows r.table.entries r')
    {e : Entry} (he : e ∈ r.table.entries) :
    (e ∈ r'.table.entries → r'.nameOf? e.handle = some e.name) ∧
    (e ∉ r'.table.entries → r'.nameOf? e.handle = none) := by
  constructor
  · intro hmem
    exact Table.nameOf?_of_mem hmem fun f hf heq => h.eq_of_handle_eq hr he hf heq
  · intro hgone
    refine Table.nameOf?_eq_none_iff.2 fun f hf heq => hgone ?_
    exact h.eq_of_handle_eq hr he hf heq ▸ hf

theorem mem_entries_of_register {r : Registry} {name : String} {route : Route} {h : Handle}
    (hrun : ((.register name route : Call σ).run r).2 = .ok (.handle h)) :
    ⟨name, h, route⟩ ∈ ((.register name route : Call σ).run r).1.table.entries := by
  rw [Call.run, register_eq] at hrun
  rw [run_register]
  cases hrefuses : r.refuses name with
  | true =>
    rw [hrefuses] at hrun
    cases hrun
  | false =>
    rw [hrefuses] at hrun
    cases hrun
    exact Table.mem_entries_insert.2 (.inl rfl)

/-- At no time do two entries have one handle. The handle that a registration gives out stands for its
name, and the name for it, until a later call displaces what stands under the name. From then on the
handle stands for nothing. No other call changes what it stands for. -/
theorem nameOf?_runAll {owner : Nat} {options : Options} {r₀ : Registry}
    (hnew : new owner options = .ok r₀) :
    (∀ calls : List (Call σ), ((r₀.runAll calls).table.entries.map (·.handle)).Nodup) ∧
    ∀ (before later : List (Call σ)) (name : String) (route : Route) (h : Handle),
      ((.register name route : Call σ).run (r₀.runAll before)).2 = .ok (.handle h) →
      let made := ((.register name route : Call σ).run (r₀.runAll before)).1
      let r := made.runAll later
      (¬ made.Displaced name later →
        r.nameOf? h = some name ∧ r.byName? name = some ⟨name, h, route⟩) ∧
      (made.Displaced name later → r.nameOf? h = none) ∧
      ∀ c : Call σ, ¬ c.Displaces r name → (c.run r).1.nameOf? h = r.nameOf? h := by
  have hapart : ∀ calls : List (Call σ), (r₀.runAll calls).TellsApart :=
    tellsApart_runAll (tellsApart_of_empty (empty_of_new hnew).1)
  refine ⟨fun calls => (hapart calls).nodup, ?_⟩
  intro before later name route h hregister made r
  have hmade : made.TellsApart := tellsApart_run (hapart before) _
  have he : ⟨name, h, route⟩ ∈ made.table.entries := mem_entries_of_register hregister
  have hmem := mem_entries_runAll_iff hmade he later
  have hgrows := grows_runAll made later
  obtain ⟨hstays, hgoes⟩ := nameOf?_of_grows hmade hgrows he
  refine ⟨fun hkept => ?_, fun hdisplaced => ?_, fun c hc => ?_⟩
  · have hthere := hmem.2 hkept
    exact ⟨hstays hthere, Table.get?_eq_some_iff.2 ⟨hthere, rfl⟩⟩
  · exact hgoes fun hthere => hmem.1 hthere hdisplaced
  · obtain ⟨hstays', hgoes'⟩ := nameOf?_of_grows hmade (hgrows.trans (grows_run r c)) he
    by_cases hthere : ⟨name, h, route⟩ ∈ r.table.entries
    · rw [hstays hthere]
      exact hstays' ((mem_entries_run_iff (tellsApart_runAll hmade later) hthere c).2 hc)
    · rw [hgoes hthere]
      exact hgoes' (hgrows.not_mem (grows_run r c) hmade he hthere)

/-- A handle that outlives an equal route under another name, a save, something unreadable and routes
that are added, but not the load of an empty snapshot. -/
theorem nameOf?_runAll_outlives :
    ∃ route : Route, Route.compile "a" ∅ = .ok route ∧
      let before : List (Call MemoryStore) := [.register "b" route]
      let added : Snapshot := .ofRoutes [.ofRoute "a" route, .ofRoute "c" route]
      let calls : List (Call MemoryStore) :=
        [.register "b" route, .save, .load (some ⟨#[]⟩) false, .load (some added.encode) true]
      let clear : Call MemoryStore := .load (some (Snapshot.ofRoutes []).encode) false
      let made := ((.register "a" route : Call MemoryStore).run ((default 0).runAll before)).1
      new 0 {} = .ok (default 0) ∧
      ((.register "a" route : Call MemoryStore).run ((default 0).runAll before)).2 =
        .ok (.handle ⟨0, 1⟩) ∧
      ¬ made.Displaced "a" calls ∧ (made.runAll calls).nameOf? ⟨0, 1⟩ = some "a" ∧
      made.Displaced "a" (calls ++ [clear]) ∧
        (made.runAll (calls ++ [clear])).nameOf? ⟨0, 1⟩ = none := by
  obtain ⟨route, hroute⟩ : ∃ route, Route.compile "a" ∅ = .ok route :=
    exists_of_isOk (by decide +kernel)
  refine ⟨route, hroute, ?_⟩
  intro before added calls clear made
  have hregister : ((.register "a" route : Call MemoryStore).run ((default 0).runAll before)).2 =
      .ok (.handle ⟨0, 1⟩) := rfl
  have hunreadable : Snapshot.decode? ⟨#[]⟩ = none := by decide
  have hclear : Snapshot.decode? (Snapshot.ofRoutes []).encode = some (.ofRoutes []) :=
    (Snapshot.decode?_encode _).trans (if_pos rfl)
  have hkept : ¬ made.Displaced "a" calls := by
    simp only [calls, Displaced, displaces_register_iff, displaces_load_iff, or_false, not_or]
    refine ⟨fun h => absurd h.1 (by decide), ?_, ?_, by simp⟩
    · intro h
      cases h with
      | restores hreplaces => cases hreplaces
    · rw [load_of_unreadable hunreadable]
      simp
  have hdisplaced : made.Displaced "a" (calls ++ [clear]) := by
    refine .inr (.inr (.inr (.inr (.inl ?_))))
    rw [displaces_load_iff, load_of_rebuildAll hclear rfl]
    exact ⟨rfl, rfl⟩
  obtain ⟨-, hnames⟩ := nameOf?_runAll (σ := MemoryStore) (new_eq_default 0)
  obtain ⟨hstands, -⟩ := hnames before calls "a" route ⟨0, 1⟩ hregister
  obtain ⟨-, hgone, -⟩ := hnames before (calls ++ [clear]) "a" route ⟨0, 1⟩ hregister
  exact ⟨new_eq_default 0, hregister, hkept, (hstands hkept).1, hdisplaced, hgone hdisplaced⟩

end

end Registry

end Signpost
