import Mathlib.Data.List.Induction
import Signpost.Proofs.Registry.Step

/-!
# Registries are ordered maps

Whatever calls led to a registry, its table is a map from names to routes (`isMap`): every name has one
entry, a look-up finds that entry, and the index points to nothing outside the table. The names are in
the order in which they came, since a call puts new names behind those that are there unless it loads
other routes in place of them all (`names_prefix_runAll`).

So routes that are registered one after the other have their names in the order in which these came
first. A name has the last route that was registered under it, or the first one where a name that is
taken stays as it is (`route_runAll_registrations`).

When the routes are tried in order, the first one that matches a path wins (`scan?_eq_some_iff`), and a
route that comes later gets only the paths that are left (`scan?_put_of_not_contains`).
-/

namespace Signpost.Registry

/-! ## Maps -/

/-- What makes a registry a map from names to routes. -/
structure IsMap (r : Registry) : Prop where
  names_distinct : r.table.names.Nodup
  size_eq : r.size = r.table.names.length
  byName?_some : ∀ name e, r.byName? name = some e ↔ e ∈ r.table.entries ∧ e.name = name
  byName?_none : ∀ name, r.byName? name = none ↔ ∀ e ∈ r.table.entries, e.name ≠ name
  contains_eq : ∀ name, r.contains name = (r.byName? name).isSome
  index_lt : ∀ name i, r.table.index.get? name = some i → i < r.table.entries.length

theorem contains_iff {r : Registry} {name : String} :
    r.contains name = true ↔ name ∈ r.table.names := Table.contains_iff

theorem byName?_eq_none_iff {r : Registry} {name : String} :
    r.byName? name = none ↔ ∀ e ∈ r.table.entries, e.name ≠ name := by
  rw [byName?, Table.get?_eq_none_iff]
  simp [Table.names]

theorem isMap (r : Registry) : r.IsMap where
  names_distinct := r.table.names_nodup
  size_eq := (List.length_map _).symm
  byName?_some name e := Table.get?_eq_some_iff
  byName?_none name := byName?_eq_none_iff
  contains_eq name := by
    rw [Bool.eq_iff_iff, contains_iff, Option.isSome_iff_ne_none, byName?, Ne,
      Table.get?_eq_none_iff, not_not]
  index_lt name i := r.table.indexed.lt_length

/-! ## Names keep their places -/

theorem names_put (r : Registry) (name : String) (route : Route) :
    (r.put name route).table.names =
      if r.contains name then r.table.names else r.table.names ++ [name] := by
  split
  · rename_i h
    exact Table.names_insert_of_contains h
  · rename_i h
    exact Table.names_insert_of_not_contains h

/-- When routes are added one after the other, the names that are new come behind the others, in the
order in which they came first. -/
theorem names_foldl {f : Registry → String × Route → Registry}
    (hf : ∀ r p, (f r p).table.names =
      if r.contains p.1 then r.table.names else r.table.names ++ [p.1])
    (r : Registry) (pairs : List (String × Route)) :
    (pairs.foldl f r).table.names =
      r.table.names ++ ((pairs.map (·.1)).filter (!r.contains ·)).eraseDups := by
  have hcontains : ∀ r p n, (f r p).contains n = (r.contains n || n == p.1) := by
    intro r p n
    rw [Bool.eq_iff_iff, Bool.or_eq_true, contains_iff, hf, beq_iff_eq]
    split
    · rename_i hp
      rw [contains_iff]
      refine ⟨.inl, fun h => h.elim id ?_⟩
      rintro rfl
      exact contains_iff.1 hp
    · rw [List.mem_append, List.mem_singleton, contains_iff]
  induction pairs generalizing r with
  | nil => simp
  | cons p pairs ih =>
    rw [List.foldl_cons, ih, hf, List.map_cons, List.filter_cons]
    simp only [hcontains]
    cases hp : r.contains p.1 with
    | true =>
      have hsame : ∀ n, (r.contains n || n == p.1) = r.contains n := by
        intro n
        by_cases hn : n = p.1
        · rw [hn, hp, Bool.true_or]
        · rw [beq_false_of_ne hn, Bool.or_false]
      simp only [hsame]
      rfl
    | false =>
      simp only [Bool.false_eq_true, if_false, Bool.not_false, if_true, List.eraseDups_cons,
        List.append_assoc, List.singleton_append, List.filter_filter, Bool.not_or, Bool.and_comm]

theorem names_prefix_put (r : Registry) (name : String) (route : Route) :
    r.table.names <+: (r.put name route).table.names := by
  rw [names_put]
  split
  · exact List.prefix_refl _
  · exact List.prefix_append ..

/-! ## Look-ups in order -/

/-- The first route that matches a path wins. -/
theorem scan?_eq_some_iff {r : Registry} {path name : String} {method : Method} {ps : Params} :
    r.scan? path method = some (name, ps) ↔
      ∃ before e after, r.table.entries = before ++ e :: after ∧
        (∀ d ∈ before, d.route.match? path method = none) ∧
        e.route.match? path method = some ps ∧ e.name = name := by
  rw [scan?, List.findSome?_eq_some_iff]
  constructor
  · rintro ⟨before, e, after, hentries, hfound, hbefore⟩
    obtain ⟨ps', hmatch, hpair⟩ := Option.map_eq_some_iff.1 hfound
    cases hpair
    exact ⟨before, e, after, hentries, fun d hd => Option.map_eq_none_iff.1 (hbefore d hd), hmatch,
      rfl⟩
  · rintro ⟨before, e, after, hentries, hbefore, hmatch, rfl⟩
    exact ⟨before, e, after, hentries, by rw [hmatch]; rfl,
      fun d hd => Option.map_eq_none_iff.2 (hbefore d hd)⟩

theorem scan?_eq_none_iff {r : Registry} {path : String} {method : Method} :
    r.scan? path method = none ↔ ∀ e ∈ r.table.entries, e.route.match? path method = none := by
  rw [scan?, List.findSome?_eq_none_iff]
  exact forall₂_congr fun _ _ => Option.map_eq_none_iff

/-- What is found in order is what a look-up by name gives. -/
theorem get_of_scan? {r : Registry} {path name : String} {method : Method} {ps : Params}
    (h : r.scan? path method = some (name, ps)) :
    ∃ route, r.get name = .ok route ∧ route.match? path method = some ps := by
  obtain ⟨before, e, after, hentries, -, hmatch, hname⟩ := scan?_eq_some_iff.1 h
  have hfound : r.byName? name = some e :=
    Table.get?_eq_some_iff.2 ⟨by rw [hentries]; simp, hname⟩
  exact ⟨e.route, by rw [get, hfound], hmatch⟩

/-- A route under a new name gets the paths that no route before it matches. -/
theorem scan?_put_of_not_contains {r : Registry} {name : String} (hnew : ¬ r.contains name)
    (route : Route) (path : String) (method : Method) :
    (r.put name route).scan? path method =
      (r.scan? path method).or ((route.match? path method).map (name, ·)) := by
  have hentries : (r.put name route).table.entries =
      r.table.entries ++ [⟨name, ⟨r.owner, r.next⟩, route⟩] :=
    Table.entries_insert_of_not_contains hnew
  rw [scan?, hentries, List.findSome?_append, List.findSome?_singleton]
  rfl

/-- Routes that are loaded behind the others leave the entries of those as they are. -/
theorem entries_prefix_restore (r : Registry) (routes : List (String × Route)) :
    r.table.entries <+: (r.restore true routes).table.entries := by
  refine List.foldlRecOn (motive := fun (r' : Registry) => r.table.entries <+: r'.table.entries)
    routes _ (List.prefix_refl _) fun r' h q _ => ?_
  unfold putNew
  split
  · exact h
  · rename_i hnew
    have hentries : (r'.put q.1 q.2).table.entries =
        r'.table.entries ++ [⟨q.1, ⟨r'.owner, r'.next⟩, q.2⟩] :=
      Table.entries_insert_of_not_contains hnew
    rw [hentries]
    exact h.trans (List.prefix_append ..)

theorem names_prefix_restore (r : Registry) (routes : List (String × Route)) :
    r.table.names <+: (r.restore true routes).table.names :=
  (entries_prefix_restore r routes).map _

variable {σ : Type u} [Store σ]

/-- Whether a call puts other routes in place of all that there are. -/
def Call.replaces : Call σ → Bool
  | .load _ append => !append
  | .loadCache _ append => !append
  | _ => false

theorem run_register (r : Registry) (name : String) (route : Route) :
    ((.register name route : Call σ).run r).1 =
      if r.refuses name then r else r.registered name route := by
  rw [Call.run, register_eq]
  cases r.refuses name <;> rfl

theorem names_prefix_load (r : Registry) (blob : Option ByteArray) :
    r.table.names <+: (r.load blob true).1.table.names := by
  have hload := loads_load r blob true
  generalize r.load blob true = loaded at hload ⊢
  cases hload with
  | absent | unreadable | refused => exact List.prefix_refl _
  | restored => exact names_prefix_restore ..

/-- A call that does not replace the table leaves every name in its place. -/
theorem names_prefix_run (r : Registry) {c : Call σ} (h : c.replaces = false) :
    r.table.names <+: (c.run r).1.table.names := by
  cases c with
  | register name route =>
    rw [run_register]
    split
    · exact List.prefix_refl _
    · exact names_prefix_put ..
  | load blob append =>
    obtain rfl : append = true := by simpa [Call.replaces] using h
    exact names_prefix_load ..
  | loadCache store append =>
    obtain rfl : append = true := by simpa [Call.replaces] using h
    rw [Call.run, loadCache]
    cases Store.load store cacheKey with
    | error e => exact List.prefix_refl _
    | ok blob => exact names_prefix_load ..
  | compile | registerFilter | get | isExternal | uri | url | save | saveCache =>
    exact List.prefix_refl _

theorem names_prefix_runAll (r : Registry) {calls : List (Call σ)}
    (h : ∀ c ∈ calls, c.replaces = false) :
    r.table.names <+: (r.runAll calls).table.names := by
  induction calls generalizing r with
  | nil => exact List.prefix_refl _
  | cons c calls ih =>
    obtain ⟨hc, hcalls⟩ := List.forall_mem_cons.1 h
    exact (names_prefix_run r hc).trans (ih _ hcalls)

/-! ## Registrations -/

/-- The calls that register some routes under their names, one after the other. -/
def registrations (pairs : List (String × Route)) : List (Call σ) :=
  pairs.map fun p => .register p.1 p.2

/-- The route that a name has of those that were registered under it: the last one, or the first one
if a name that is taken stays as it is. -/
def bound? (policy : DuplicatePolicy) (pairs : List (String × Route)) (name : String) :
    Option Route :=
  match policy with
  | .replace => (pairs.reverse.find? (·.1 == name)).map (·.2)
  | .reject => (pairs.find? (·.1 == name)).map (·.2)

theorem bound?_replace_concat (pairs : List (String × Route)) (p : String × Route)
    (name : String) :
    bound? .replace (pairs ++ [p]) name =
      if name = p.1 then some p.2 else bound? .replace pairs name := by
  simp only [bound?, List.reverse_append, List.reverse_singleton, List.singleton_append,
    List.find?_cons]
  by_cases hname : name = p.1
  · simp [hname]
  · simp [hname, beq_false_of_ne (Ne.symm hname)]

theorem bound?_reject_concat (pairs : List (String × Route)) (p : String × Route)
    (name : String) :
    bound? .reject (pairs ++ [p]) name =
      (bound? .reject pairs name).or (if name = p.1 then some p.2 else none) := by
  simp only [bound?, List.find?_append, List.find?_singleton, Option.map_or]
  by_cases hname : name = p.1
  · simp [hname]
  · simp [hname, Ne.symm hname]

theorem options_run (r : Registry) (c : Call σ) : (c.run r).1.options = r.options := by
  have hchanges := changes_run r c
  generalize (c.run r).1 = next at hchanges
  cases hchanges with
  | counts | registers | adds => rfl
  | restores =>
    exact restore_keeps (p := (·.options = r.options)) rfl rfl fun _ h _ _ => h

theorem options_runAll (r : Registry) (calls : List (Call σ)) :
    (r.runAll calls).options = r.options :=
  runAll_keeps (p := (·.options = r.options)) (fun r' c h => (options_run r' c).trans h) rfl calls

theorem names_run_register (r : Registry) (name : String) (route : Route) :
    ((.register name route : Call σ).run r).1.table.names =
      if r.contains name then r.table.names else r.table.names ++ [name] := by
  rw [run_register]
  split
  · rename_i h
    rw [if_pos (Bool.and_eq_true_iff.1 h).1]
  · exact names_put ..

theorem route_run_register (r : Registry) (name : String) (route : Route) (k : String) :
    ((((.register name route : Call σ).run r).1.byName? k).map (·.route)) =
      if k = name ∧ r.refuses name = false then some route else (r.byName? k).map (·.route) := by
  rw [run_register]
  cases r.refuses name with
  | true => simp
  | false =>
    have hget : (r.registered name route).byName? k =
        if k = name then some ⟨name, ⟨r.owner, r.next⟩, route⟩ else r.byName? k :=
      Table.get?_insert ..
    rw [if_neg Bool.false_ne_true, hget]
    by_cases hk : k = name <;> simp [hk]

theorem runAll_concat (r : Registry) (calls : List (Call σ)) (c : Call σ) :
    r.runAll (calls ++ [c]) = (c.run (r.runAll calls)).1 := List.foldl_append

omit [Store σ] in
theorem registrations_concat (pairs : List (String × Route)) (p : String × Route) :
    (registrations (pairs ++ [p]) : List (Call σ)) =
      registrations pairs ++ [.register p.1 p.2] := List.map_append

section
variable {r : Registry} (h : r.table = ∅) (pairs : List (String × Route))
include h

/-- Names that are registered one after the other are in the order in which they came first. -/
theorem names_runAll_registrations :
    (r.runAll (registrations pairs : List (Call σ))).table.names =
      (pairs.map (·.1)).eraseDups := by
  have hnames : r.table.names = [] := by
    rw [h]
    rfl
  have hnone : ∀ n, (!r.contains n) = true := fun n => by
    rw [Bool.not_eq_true', ← Bool.not_eq_true, contains_iff, hnames]
    exact List.not_mem_nil
  rw [runAll, registrations, List.foldl_map,
    names_foldl (fun r p => names_run_register (σ := σ) r p.1 p.2) r pairs, hnames,
    List.filter_eq_self.2 fun n _ => hnone n, List.nil_append]

/-- A name that is registered again and again has the last route, or the first one if a name that is
taken stays as it is. -/
theorem route_runAll_registrations (name : String) :
    ((r.runAll (registrations pairs : List (Call σ))).byName? name).map (·.route) =
      bound? r.options.duplicatePolicy pairs name := by
  induction pairs using List.reverseRecOn with
  | nil =>
    have hnone : r.byName? name = none := by rw [byName?, h]; rfl
    show (r.byName? name).map (·.route) = _
    rw [hnone]
    cases r.options.duplicatePolicy <;> rfl
  | append_singleton pairs p ih =>
    let r' := r.runAll (registrations pairs : List (Call σ))
    have hoptions : r'.options = r.options := options_runAll r _
    rw [registrations_concat, runAll_concat, route_run_register]
    show (if _ ∧ r'.refuses p.1 = false then _ else (r'.byName? name).map (·.route)) = _
    cases hpolicy : r.options.duplicatePolicy with
    | replace =>
      have hrefuses : r'.refuses p.1 = false := by simp [refuses, hoptions, hpolicy]
      rw [ih, hpolicy, hrefuses, bound?_replace_concat]
      simp
    | reject =>
      have hrefuses : r'.refuses p.1 = (r'.byName? p.1).isSome := by
        simp [refuses, hoptions, hpolicy, r'.isMap.contains_eq]
      rw [bound?_reject_concat, ← hpolicy, ← ih, hrefuses]
      show _ = ((r'.byName? name).map (·.route)).or _
      by_cases hname : name = p.1
      · -- the name is taken just if a route was registered under it before
        subst hname
        cases r'.byName? p.1 <;> simp
      · simp [hname]

end

/-! ## Runs -/

/-- Whatever calls are made, a registry is a map from names to routes, and later calls leave the names
in their places unless they replace the table. If routes are registered in an empty registry one after
the other, the names are in the order in which they came first, and each has the last of its routes, or
the first one if a name that is taken stays as it is. -/
theorem runAll_ordered (r₀ : Registry) (calls : List (Call σ)) :
    (r₀.runAll calls).IsMap ∧
    (∀ later : List (Call σ), (∀ c ∈ later, c.replaces = false) →
      (r₀.runAll calls).table.names <+: ((r₀.runAll calls).runAll later).table.names) ∧
    (r₀.table = ∅ → ∀ pairs : List (String × Route),
      let r := r₀.runAll (registrations pairs : List (Call σ))
      r.table.names = (pairs.map (·.1)).eraseDups ∧
        ∀ name, (r.byName? name).map (·.route) =
          bound? r₀.options.duplicatePolicy pairs name) :=
  ⟨isMap _, fun _ hlater => names_prefix_runAll _ hlater, fun hempty pairs =>
    ⟨names_runAll_registrations hempty pairs, route_runAll_registrations hempty pairs⟩⟩

/-- A name that is registered twice comes once, in its first place. It has its second route, or stays
with its first one in a registry that refuses the second. -/
theorem runAll_ordered_twice :
    ∃ first other second : Route, Route.compile "b" ∅ = .ok first ∧
      Route.compile "a" ∅ = .ok other ∧ Route.compile "b/<id>" ∅ = .ok second ∧
      let calls : List (Call MemoryStore) :=
        registrations [("b", first), ("a", other), ("b", second)]
      let later : List (Call MemoryStore) := [.register "c" other, .load none true, .save]
      let r := (default 0).runAll calls
      let strict : Registry := { owner := 1, options := { duplicatePolicy := .reject } }
      r.IsMap ∧ r.table.names = ["b", "a"] ∧ r.table.names <+: (r.runAll later).table.names ∧
        (r.byName? "b").map (·.route) = some second ∧
        ((strict.runAll calls).byName? "b").map (·.route) = some first := by
  obtain ⟨first, hfirst⟩ : ∃ route, Route.compile "b" ∅ = .ok route :=
    exists_of_isOk (by decide +kernel)
  obtain ⟨other, hother⟩ : ∃ route, Route.compile "a" ∅ = .ok route :=
    exists_of_isOk (by decide +kernel)
  obtain ⟨second, hsecond⟩ : ∃ route, Route.compile "b/<id>" ∅ = .ok route :=
    exists_of_isOk (by decide +kernel)
  refine ⟨first, other, second, hfirst, hother, hsecond, ?_⟩
  intro calls later r strict
  obtain ⟨hmap, hlater, hregister⟩ := runAll_ordered (default 0) calls
  obtain ⟨hnames, hroutes⟩ := hregister rfl [("b", first), ("a", other), ("b", second)]
  have hstrict := ((runAll_ordered strict calls).2.2 rfl
    [("b", first), ("a", other), ("b", second)]).2 "b"
  have hkeeps : ∀ c ∈ later, c.replaces = false := by simp [later, Call.replaces]
  exact ⟨hmap, hnames, hlater later hkeeps, hroutes "b", hstrict⟩

end Signpost.Registry
