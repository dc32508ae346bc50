import Signpost.Proofs.Registry.Atomicity
import Signpost.Proofs.Registry.Order

/-!
# What the metrics count

A run has a history: its calls, each with the registry that it was made on (`history`). Every metric
counts the calls of one kind in it (`Counts`): a call adds to each metric one or nothing
(`Made.metrics_after`), so over a run the calls of the kind add up (`metric_runAll`). The metrics are
words of 64 bits, and do not wrap in a run that has fewer calls than there are words (`toNat_runAll`).

A registration adds a name to the table unless it replaces a route (`Made.size_after`). So as long as
no snapshot is loaded, the table has a route for every registration that replaced none
(`metrics_runAll`).
-/

namespace Signpost.Registry

variable {σ : Type u} [Store σ]

/-! ## Registrations -/

/-- A registration succeeds unless it is refused. -/
theorem isOk_register (r : Registry) (name : String) (route : Route) :
    ((.register name route : Call σ).run r).2.isOk = !r.refuses name := by
  rw [Call.run, register_eq]
  cases r.refuses name <;> rfl

theorem contains_names (r : Registry) (name : String) :
    r.table.names.contains name = r.contains name := by
  rw [Bool.eq_iff_iff, List.contains_iff_mem, contains_iff]

/-! ## Histories -/

/-- A call that was made, with the registry that it was made on. -/
structure Made (σ : Type u) where
  before : Registry
  call : Call σ

/-- The calls of a run, in order. -/
def history (r : Registry) : List (Call σ) → List (Made σ)
  | [] => []
  | c :: calls => ⟨r, c⟩ :: (c.run r).1.history calls

theorem length_history (r : Registry) (calls : List (Call σ)) :
    (r.history calls).length = calls.length := by
  induction calls generalizing r with
  | nil => rfl
  | cons c calls ih => exact congrArg (· + 1) (ih _)

/-- What every call keeps holds before each call of a run. -/
theorem before_of_mem_history {p : Registry → Prop} (hstep : ∀ r (c : Call σ), p r → p (c.run r).1)
    {r : Registry} (hr : p r) {calls : List (Call σ)} : ∀ m ∈ r.history calls, p m.before := by
  induction calls generalizing r with
  | nil => exact fun m hm => absurd hm List.not_mem_nil
  | cons c calls ih => exact List.forall_mem_cons.2 ⟨hr, ih (hstep r c hr)⟩

namespace Made

def after (m : Made σ) : Registry := (m.call.run m.before).1

def answer (m : Made σ) : Except RegistryError (Answer σ) := (m.call.run m.before).2

/-! ## Kinds of calls -/

/-- A registration that is not refused. -/
def registers (m : Made σ) : Bool :=
  match m.call with
  | .register _ _ => m.answer.isOk
  | _ => false

/-- A registration that is not refused, under a name that is taken at that moment. -/
def replaces (m : Made σ) : Bool :=
  match m.call with
  | .register name _ => m.answer.isOk && m.before.table.names.contains name
  | _ => false

/-- A call that writes a snapshot, be it kept or not. -/
def encodes (m : Made σ) : Bool :=
  match m.call with
  | .save | .saveCache _ => true
  | _ => false

/-- A load, from a store or not, that takes effect. -/
def loads (m : Made σ) : Bool :=
  match m.call.given?, m.answer with
  | some _, .ok (.flag true) => true
  | _, _ => false

/-- A load, from a store or not, that is given something unreadable. -/
def unreadable (m : Made σ) : Bool :=
  match m.call.given? with
  | some (.ok (some bytes)) => (Snapshot.decode? bytes).isNone
  | _ => false

/-! ## What one call counts -/

section
variable {m : Made σ}

/-- A load does nothing if its store fails, and else what a load of the bytes that it is given does. -/
theorem loads_of_given {given : Except StoreError (Option ByteArray)}
    (h : m.call.given? = some given) :
    (∃ e, given = .error e ∧ m.after = m.before ∧ m.answer = .error (.store e)) ∨
    ∃ append blob loaded, given = .ok blob ∧ Loads m.before append blob loaded ∧
      m.after = loaded.1 ∧ m.answer = loaded.2.map .flag := by
  obtain ⟨r, c⟩ := m
  cases given with
  | ok blob =>
    obtain ⟨append, hrun⟩ := run_of_given h r
    exact .inr ⟨append, blob, _, rfl, loads_load r blob append, congrArg Prod.fst hrun,
      congrArg Prod.snd hrun⟩
  | error e =>
    cases c with
    | loadCache store append =>
      have hstore : Store.load store cacheKey = .error e := Option.some.inj h
      have hrun := run_loadCache r store append
      rw [hstore] at hrun
      exact .inl ⟨e, rfl, congrArg Prod.fst hrun, congrArg Prod.snd hrun⟩
    | _ => cases h

/-- A load is no other kind of call. -/
theorem kinds_of_given {given : Except StoreError (Option ByteArray)}
    (h : m.call.given? = some given) :
    m.registers = false ∧ m.replaces = false ∧ m.encodes = false := by
  obtain ⟨r, c⟩ := m
  cases c with
  | load | loadCache => exact ⟨rfl, rfl, rfl⟩
  | _ => cases h

end

/-- The metrics after one more call of some kinds. -/
def tallied (m : Made σ) (metrics : Metrics) : Metrics where
  registered := metrics.registered + if m.registers then 1 else 0
  replaced := metrics.replaced + if m.replaces then 1 else 0
  saved := metrics.saved + if m.encodes then 1 else 0
  loaded := metrics.loaded + if m.loads then 1 else 0
  rejected := metrics.rejected + if m.unreadable then 1 else 0

theorem metrics_of_register (r : Registry) (name : String) (route : Route) :
    ((.register name route : Call σ).run r).1.metrics =
      (⟨r, .register name route⟩ : Made σ).tallied r.metrics := by
  rw [run_register]
  simp only [tallied, registers, replaces, encodes, loads, unreadable, answer, Call.given?,
    isOk_register, contains_names]
  cases hrefuses : r.refuses name with
  | true => simp
  | false =>
    cases hname : r.contains name <;>
      simp [registered, hname, Metrics.recordInsert, Metrics.recordReplace]

theorem metrics_of_given {m : Made σ} {given : Except StoreError (Option ByteArray)}
    (h : m.call.given? = some given) : m.after.metrics = m.tallied m.before.metrics := by
  obtain ⟨hregisters, hreplaces, hencodes⟩ := kinds_of_given h
  simp only [tallied, hregisters, hreplaces, hencodes, loads, unreadable, h]
  rcases loads_of_given h with ⟨e, rfl, hafter, hanswer⟩ |
    ⟨append, blob, loaded, rfl, hloads, hafter, hanswer⟩
  · simp [hafter, hanswer]
  · cases hloads with
    | absent => simp [hafter, hanswer, Except.map]
    | unreadable hread => simp [hafter, hanswer, hread, Except.map, Metrics.recordReject]
    | refused hread => simp [hafter, hanswer, hread, Except.map]
    | restored hread => simp [hafter, hanswer, hread, Except.map, Metrics.recordLoad]

/-- A call adds to each metric one, if it is of the kind that the metric counts, or nothing. -/
theorem metrics_after (m : Made σ) : m.after.metrics = m.tallied m.before.metrics := by
  obtain ⟨r, c⟩ := m
  cases c with
  | register name route => exact metrics_of_register r name route
  | load blob append => exact metrics_of_given rfl
  | loadCache store append => exact metrics_of_given rfl
  | save | saveCache =>
    simp [tallied, registers, replaces, encodes, loads, unreadable, Call.given?, after, Call.run,
      saveCache, save, Metrics.recordSave]
  | compile | registerFilter | get | isExternal | uri | url =>
    simp [tallied, registers, replaces, encodes, loads, unreadable, Call.given?, after, Call.run,
      registerFilter]

/-! ## What one call does to the size -/

theorem size_of_register (r : Registry) (name : String) (route : Route) :
    let m : Made σ := ⟨r, .register name route⟩
    m.after.size + (if m.replaces then 1 else 0) = r.size + if m.registers then 1 else 0 := by
  intro m
  have hnames : m.after.table.names =
      if r.contains name then r.table.names else r.table.names ++ [name] :=
    names_run_register r name route
  have hrefuses : r.refuses name = true → r.contains name = true := fun h =>
    (Bool.and_eq_true_iff.1 h).1
  rw [(isMap _).size_eq, (isMap r).size_eq, hnames]
  simp only [m, registers, replaces, answer, isOk_register, contains_names]
  cases hname : r.contains name with
  | true => simp
  | false =>
    have hfree : r.refuses name = false := by simpa [hname] using hrefuses
    simp [hfree]

theorem size_of_given {m : Made σ} {given : Except StoreError (Option ByteArray)}
    (hgiven : m.call.given? = some given) (h : m.loads = false) : m.after.size = m.before.size := by
  rcases loads_of_given hgiven with ⟨e, -, hafter, -⟩ | ⟨_, _, loaded, -, hloads, hafter, hanswer⟩
  · rw [hafter]
  · cases hloads with
    | absent | unreadable | refused => exact (congrArg size hafter :)
    | restored =>
      simp only [loads, hgiven, hanswer] at h
      cases h

/-- A registration adds a name to the table unless it replaces a route, and no other call changes the
number of names but a load that takes effect. -/
theorem size_after {m : Made σ} (h : m.loads = false) :
    m.after.size + (if m.replaces then 1 else 0) =
      m.before.size + if m.registers then 1 else 0 := by
  obtain ⟨r, c⟩ := m
  cases c with
  | register name route => exact size_of_register r name route
  | load blob append => exact size_of_given rfl h
  | loadCache store append => exact size_of_given rfl h
  | compile | registerFilter | get | isExternal | uri | url | save | saveCache => rfl

/-- Where a name that is taken stays as it is, nothing is replaced. -/
theorem replaces_of_reject {m : Made σ} (h : m.before.options.duplicatePolicy = .reject) :
    m.replaces = false := by
  obtain ⟨r, c⟩ := m
  have hpolicy : r.options.duplicatePolicy = .reject := h
  cases c with
  | register name route =>
    simp only [replaces, answer, isOk_register, contains_names, refuses, hpolicy]
    cases r.contains name <;> rfl
  | _ => rfl

theorem registers_of_replaces {m : Made σ} (h : m.replaces = true) : m.registers = true := by
  obtain ⟨r, c⟩ := m
  cases c with
  | register name route => exact (Bool.and_eq_true_iff.1 h).1
  | _ => cases h

end Made

/-! ## What a run counts -/

/-- A number to which every call of some kind adds one, and no other call adds anything, counts the
calls of the kind. -/
theorem metric_runAll {metric : Metrics → UInt64} {kind : Made σ → Bool}
    (hstep : ∀ m : Made σ, metric m.after.metrics =
      metric m.before.metrics + if kind m then 1 else 0)
    (r : Registry) (calls : List (Call σ)) :
    metric (r.runAll calls).metrics =
      metric r.metrics + UInt64.ofNat ((r.history calls).countP kind) := by
  induction calls generalizing r with
  | nil => exact (UInt64.add_zero _).symm
  | cons c calls ih =>
    let made : Made σ := ⟨r, c⟩
    calc metric (r.runAll (c :: calls)).metrics
      _ = metric made.after.metrics +
          UInt64.ofNat ((made.after.history calls).countP kind) := ih made.after
      _ = metric r.metrics + ((if kind made then 1 else 0) +
          UInt64.ofNat ((made.after.history calls).countP kind)) := by
        rw [hstep made, UInt64.add_assoc]
      _ = metric r.metrics + UInt64.ofNat ((r.history (c :: calls)).countP kind) := by
        rw [history, List.countP_cons, UInt64.ofNat_add, UInt64.add_comm (if kind made then 1 else 0)]
        cases kind made <;> simp [made, Made.after]

/-- In a run with fewer calls than there are words no metric wraps. -/
theorem toNat_runAll {metric : Metrics → UInt64} {kind : Made σ → Bool}
    (hstep : ∀ m : Made σ, metric m.after.metrics =
      metric m.before.metrics + if kind m then 1 else 0)
    {r : Registry} (hr : metric r.metrics = 0) {calls : List (Call σ)}
    (hlength : calls.length < UInt64.size) :
    (metric (r.runAll calls).metrics).toNat = (r.history calls).countP kind := by
  have hcount : (r.history calls).countP kind < UInt64.size :=
    Nat.lt_of_le_of_lt (List.countP_le_length.trans_eq (length_history r calls)) hlength
  rw [metric_runAll hstep, hr, UInt64.zero_add, UInt64.toNat_ofNat_of_lt' hcount]

theorem size_runAll {r : Registry} {calls : List (Call σ)}
    (h : ∀ m ∈ r.history calls, m.loads = false) :
    (r.runAll calls).size + (r.history calls).countP Made.replaces =
      r.size + (r.history calls).countP Made.registers := by
  induction calls generalizing r with
  | nil => rfl
  | cons c calls ih =>
    let made : Made σ := ⟨r, c⟩
    obtain ⟨hmade, hrest⟩ := List.forall_mem_cons.1 h
    have hstep : made.after.size + (if made.replaces then 1 else 0) =
        r.size + if made.registers then 1 else 0 := Made.size_after hmade
    have hrun : (r.runAll (c :: calls)).size + (made.after.history calls).countP Made.replaces =
        made.after.size + (made.after.history calls).countP Made.registers := ih hrest
    have hhistory : r.history (c :: calls) = made :: made.after.history calls := rfl
    rw [hhistory, List.countP_cons, List.countP_cons]
    omega

/-- Metrics that count the calls of a history, each of them those of one kind. -/
structure Counts (history : List (Made σ)) (metrics : Metrics) : Prop where
  registered : metrics.registered.toNat = history.countP Made.registers
  replaced : metrics.replaced.toNat = history.countP Made.replaces
  saved : metrics.saved.toNat = history.countP Made.encodes
  loaded : metrics.loaded.toNat = history.countP Made.loads
  rejected : metrics.rejected.toNat = history.countP Made.unreadable

/-- How many calls of each kind a history has. -/
def ofKinds (history : List (Made σ)) : List Nat :=
  [Made.registers, Made.replaces, Made.encodes, Made.loads, Made.unreadable].map
    (history.countP ·)

theorem Counts.toList_eq {history : List (Made σ)} {metrics : Metrics}
    (h : Counts history metrics) : metrics.toList = ofKinds history := by
  simp [Metrics.toList, ofKinds, h.registered, h.replaced, h.saved, h.loaded, h.rejected]

theorem counts_runAll {r : Registry} (hr : r.metrics = {}) {calls : List (Call σ)}
    (hlength : calls.length < UInt64.size) : Counts (r.history calls) (r.runAll calls).metrics where
  registered := toNat_runAll (fun m => congrArg Metrics.registered m.metrics_after)
    (congrArg Metrics.registered hr) hlength
  replaced := toNat_runAll (fun m => congrArg Metrics.replaced m.metrics_after)
    (congrArg Metrics.replaced hr) hlength
  saved := toNat_runAll (fun m => congrArg Metrics.saved m.metrics_after)
    (congrArg Metrics.saved hr) hlength
  loaded := toNat_runAll (fun m => congrArg Metrics.loaded m.metrics_after)
    (congrArg Metrics.loaded hr) hlength
  rejected := toNat_runAll (fun m => congrArg Metrics.rejected m.metrics_after)
    (congrArg Metrics.rejected hr) hlength

/-- In a run of a new registry each metric counts the calls of its kind. No more routes are replaced
than registered, and none where a name that is taken stays as it is. Until a snapshot is loaded, the
table has a route for each one that was registered and replaced no other. -/
theorem metrics_runAll {owner : Nat} {options : Options} {r₀ : Registry}
    (hnew : new owner options = .ok r₀) {calls : List (Call σ)} (hlength : calls.length < UInt64.size) :
    let r := r₀.runAll calls
    Counts (r₀.history calls) r.metrics ∧
    r.metrics.replaced ≤ r.metrics.registered ∧
    (options.duplicatePolicy = .reject → r.metrics.replaced = 0) ∧
    ((∀ m ∈ r₀.history calls, m.loads = false) →
      r.size = r.metrics.registered.toNat - r.metrics.replaced.toNat) := by
  intro r
  obtain ⟨-, site, -, hr₀⟩ := new_eq_ok_iff.1 hnew
  have hmetrics : r₀.metrics = {} := congrArg Registry.metrics hr₀
  have hoptions : r₀.options = options := congrArg Registry.options hr₀
  have hempty : r₀.size = 0 := congrArg size hr₀
  have hcounts : Counts (r₀.history calls) r.metrics := counts_runAll hmetrics hlength
  refine ⟨hcounts, ?_, fun hpolicy => ?_, fun hloads => ?_⟩
  · rw [UInt64.le_iff_toNat_le, hcounts.replaced, hcounts.registered]
    exact List.countP_mono_left fun m _ => Made.registers_of_replaces
  · have hsame : ∀ m ∈ r₀.history calls, m.before.options = options :=
      before_of_mem_history (fun r c h => (options_run r c).trans h) hoptions
    have hnone : (r₀.history calls).countP Made.replaces = 0 := by
      refine List.countP_eq_zero.2 fun m hm => ?_
      rw [Made.replaces_of_reject (by rw [hsame m hm, hpolicy])]
      exact Bool.false_ne_true
    rw [← UInt64.toNat_inj, hcounts.replaced, hnone]
    rfl
  · have hsize : r.size + (r₀.history calls).countP Made.replaces =
        r₀.size + (r₀.history calls).countP Made.registers := size_runAll hloads
    rw [hcounts.registered, hcounts.replaced]
    omega

/-- Of three routes one takes the place of another. A snapshot is written and not kept, another one
cannot be read, and loads that find nothing count as neither. Then an empty snapshot is loaded in
place of all routes. -/
theorem metrics_runAll_mixed :
    let calls (route : Route) : List (Call BrokenStore) :=
      [.register "a" route, .register "b" route, .saveCache ⟨"disk full"⟩, .register "a" route,
        .load (some ⟨#[]⟩) false, .load none false, .loadCache ⟨"disk full"⟩ false]
    let emptied (route : Route) : List (Call BrokenStore) :=
      calls route ++ [.load (some (Snapshot.ofRoutes []).encode) false]
    ∃ route, Route.compile "posts" ∅ = .ok route ∧ new 0 {} = .ok (default 0) ∧
      (calls route).length < UInt64.size ∧
      ((default 0).runAll (calls route)).metrics.toList = [3, 1, 1, 0, 1] ∧
      ((default 0).runAll (calls route)).size = 2 ∧
      ((default 0).runAll (emptied route)).metrics.toList = [3, 1, 1, 1, 1] := by
  intro calls emptied
  let kinds (calls : List (Call BrokenStore)) := ofKinds ((default 0).history calls)
  have hkinds : (Route.compile "posts" ∅).toOption.map
      (fun route => (kinds (calls route), kinds (emptied route))) =
      some ([3, 1, 1, 0, 1], [3, 1, 1, 1, 1]) := by decide +kernel
  obtain ⟨route, hroute, hkinds⟩ := exists_of_map_toOption hkinds
  obtain ⟨hcalls, hemptied⟩ := Prod.mk.inj hkinds
  have hlength : (calls route).length < UInt64.size := by
    show 7 < UInt64.size
    decide
  have hlength' : (emptied route).length < UInt64.size := by
    show 8 < UInt64.size
    decide
  obtain ⟨hcounts, -, -, hsize⟩ := metrics_runAll (new_eq_default 0) hlength
  obtain ⟨hcounts', -⟩ := metrics_runAll (new_eq_default 0) hlength'
  have hlist := hcounts.toList_eq.trans hcalls
  refine ⟨route, hroute, new_eq_default 0, hlength, hlist, ?_, hcounts'.toList_eq.trans hemptied⟩
  simp only [Metrics.toList, List.map_cons, List.cons.injEq] at hlist
  obtain ⟨hregistered, hreplaced, -, hloaded, -⟩ := hlist
  have hnone := List.countP_eq_zero.1 (hcounts.loaded.symm.trans hloaded)
  rw [hsize fun m hm => Bool.eq_false_iff.2 (hnone m hm), hregistered, hreplaced]

end Signpost.Registry
