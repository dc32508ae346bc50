import Signpost.Proofs.Matching.Source
import Signpost.Proofs.Template.Effective
import Signpost.Proofs.Template.Verdict

/-!
# How deep a template may be

A template that is read can be compiled with the default pattern, whatever its literals and names are,
unless its pattern is nested too deeply (`compile_default`). How deep that is can be told from the
template (`depth_wholePieces`): a placeholder is four deep, a group adds two, and one more if there is
more than one part in it, where each character of literal text is a part. So the limit is met by all
templates whose groups are at most 81 deep (`nesting_le`), but not by all whose groups are a hundred deep
(`compile_too_deep`).
-/

namespace Signpost

open Regex

namespace Regex

theorem depth_combine_reverse (f : Regex → Regex → Regex) (ps : List Piece) :
    (combine f ps.reverse).depth =
      ps.foldr (fun p d => max d p.depth) 0 + if 2 ≤ ps.length then 1 else 0 := by
  rw [combine, List.length_reverse, List.foldl_reverse]
  split <;> rfl

/-- A sequence has the named groups of its pieces, in order. -/
theorem names_joinWith_seq (ps : List Piece) :
    (joinWith .seq ps).names = ps.reverse.flatMap (·.regex.names) := by
  induction ps with
  | nil => rfl
  | cons p ps ih =>
    cases ps with
    | nil => simp [joinWith]
    | cons q ps =>
      have hseq : joinWith .seq (p :: q :: ps) = seq (joinWith .seq (q :: ps)) p.regex := rfl
      rw [hseq, names, ih]
      simp

end Regex

namespace Template

/-- The number of parts of a sequence, if each character of literal text is one. -/
def partCount : Template → Nat
  | empty => 0
  | literal text rest => text.length + rest.partCount
  | placeholder _ _ rest => rest.partCount + 1
  | group _ rest => rest.partCount + 1

/-- The number of groups that are in each other. -/
def groupDepth : Template → Nat
  | empty => 0
  | literal _ rest => rest.groupDepth
  | placeholder _ _ rest => rest.groupDepth
  | group body rest => max (body.groupDepth + 1) rest.groupDepth

/-- The greatest depth of a part in the pattern of a sequence. The group of a placeholder holds a
repetition of a bracket that is a union. The group of an optional part is one, and so is its
repetition; what it holds is a sequence of its own unless that is a single part. -/
def nesting : Template → Nat
  | empty => 0
  | literal _ rest => rest.nesting
  | placeholder _ _ rest => max rest.nesting 4
  | group body rest =>
    max rest.nesting (body.nesting + (if 2 ≤ body.partCount then 1 else 0) + 2)

/-! ## Depth of the pattern -/

theorem length_pieces (t : Template) : t.pieces.length = t.partCount := by
  induction t with
  | empty => rfl
  | literal text rest ih => simp [pieces, partCount, ih, String.length_toList]
  | placeholder name position rest ih => simp [pieces, partCount, ih]
  | group body rest _ ih => simp [pieces, partCount, ih]

theorem foldr_depth_pieces (t : Template) (d : Nat) :
    t.pieces.foldr (fun p d => max d p.depth) d = max d t.nesting := by
  induction t generalizing d with
  | empty => simp [pieces, nesting]
  | literal text rest ih =>
    have hchars : ∀ (cs : List Char) (d : Nat),
        (cs.map charPiece).foldr (fun p d => max d p.depth) d = d := by
      intro cs d
      induction cs with
      | nil => rfl
      | cons c cs ihc => simp [charPiece, ihc]
    rw [pieces, List.foldr_append, hchars, ih, nesting]
  | placeholder name position rest ih => simp [pieces, nesting, ih, Nat.max_assoc]
  | group body rest ihb ih =>
    have hbody : (combine .seq body.pieces.reverse).depth =
        body.nesting + if 2 ≤ body.partCount then 1 else 0 := by
      rw [depth_combine_reverse, ihb, length_pieces, Nat.zero_max]
    simp [pieces, groupPiece, hbody, nesting, ih, Nat.max_assoc]

/-- The ends of the text make the whole a sequence. -/
theorem depth_wholePieces (t : Template) :
    (combine .seq t.wholePieces.reverse).depth = t.nesting + 1 := by
  rw [depth_combine_reverse, wholePieces]
  simp [foldr_depth_pieces]

theorem nesting_le (t : Template) : t.nesting ≤ 3 * t.groupDepth + 4 := by
  induction t with
  | empty => simp [nesting]
  | literal text rest ih => exact ih
  | placeholder name position rest ih =>
    simp only [nesting, groupDepth]
    omega
  | group body rest ihb ih =>
    simp only [nesting, groupDepth]
    split <;> omega

/-! ## Named groups -/

theorem flatMap_names_pieces (t : Template) :
    t.pieces.flatMap (·.regex.names) = t.names := by
  induction t with
  | empty => rfl
  | literal text rest ih =>
    have hchars : (text.toList.map charPiece).flatMap (·.regex.names) = [] := by
      simp [List.flatMap_map, charPiece, char, Regex.names]
    rw [pieces, List.flatMap_append, hchars, ih]
    rfl
  | placeholder name position rest ih =>
    rw [pieces, List.flatMap_cons, ih]
    rfl
  | group body rest ihb ih =>
    have hbody : (Regex.opt true (joinWith .seq body.pieces.reverse)).names = body.names := by
      rw [opt, if_pos rfl, Regex.names, names_joinWith_seq, List.reverse_reverse, ihb]
      exact List.append_nil _
    rw [pieces, List.flatMap_cons, ih, names_group]
    exact congrArg (· ++ rest.names) hbody

theorem names_wholePieces (t : Template) :
    (joinWith .seq t.wholePieces.reverse).names = t.names := by
  rw [names_joinWith_seq, List.reverse_reverse, wholePieces, List.flatMap_cons, List.flatMap_append,
    flatMap_names_pieces]
  simp [Regex.names]

/-! ## Compiling -/

theorem isPattern_defaultSegment : isPattern defaultSegment = true := by decide +kernel

/-- What compiling a template that is read comes to. -/
theorem compile_cases {text : String} {t : Template} (h : parse text = .ok t)
    (overrides : Dict String) (default : String) :
    (∃ n ∈ t.names, isPattern (effective overrides default n) = false ∧
      compile text overrides default = .error ⟨text, .invalidRegex n⟩) ∨
    (ofString? (t.source (t.effectivePatterns overrides default)) = none ∧
      compile text overrides default = .error ⟨text, .invalidPattern⟩) ∨
    ∃ c, c.template = t ∧ compile text overrides default = .ok c := by
  rcases compile_trichotomy h overrides default with ⟨n, hn, herror⟩ | ⟨-, hreads, herror⟩ | hok
  · exact .inl ⟨n, hn.mem, hn.improper, herror⟩
  · exact .inr (.inl ⟨hreads, herror⟩)
  · exact .inr (.inr hok)

/-- The pattern of a template that is read is one up to the limit on depth. -/
theorem ofString?_source_default {text : String} {t : Template} (h : parse text = .ok t) :
    ofString? (t.source (t.effectivePatterns ∅ defaultSegment)) =
      if t.nesting < depthLimit then some (joinWith .seq t.wholePieces.reverse) else none := by
  have hdefault : ∀ n, ((t.effectivePatterns ∅ defaultSegment).get? n).getD defaultSegment =
      defaultSegment := by
    intro n
    rw [get?_effectivePatterns]
    split <;> rfl
  rw [ofString?_source (isName_of_mem_names h) (names_nodup h) hdefault, depth_wholePieces]
  rfl

theorem compile_eq_error {text : String} {t : Template} (h : parse text = .ok t)
    (hdeep : depthLimit ≤ t.nesting) :
    compile text ∅ defaultSegment = .error ⟨text, .invalidPattern⟩ := by
  have hsource := ofString?_source_default h
  rw [if_neg (Nat.not_lt.2 hdeep)] at hsource
  exact compile_of_not_reads h (fun _ _ => isPattern_defaultSegment) hsource

/-! ## Groups in groups -/

/-- A text with some groups in each other, and a letter in front of each and in the innermost one. -/
def nestedText : Nat → List Char
  | 0 => ['a']
  | n + 1 => 'a' :: '(' :: (nestedText n ++ [')'])

def nested : Nat → Template
  | 0 => literal "a" empty
  | n + 1 => literal "a" (group (nested n) empty)

theorem read_nestedText (n : Nat) {opened : List Nat} {rest : List Char} {outer : List Template}
    (hrest : ∀ position, read opened position 0 rest = .ok (empty :: outer)) (position : Nat) :
    read opened position 0 (nestedText n ++ rest) = .ok (nested n :: outer) := by
  induction n generalizing opened rest outer position with
  | zero =>
    show (read opened (position + 1) 0 rest).map _ = _
    rw [hrest]
    rfl
  | succ n ih =>
    have hclosing : ∀ start position, read (start :: opened) position 0 (')' :: rest) =
        .ok (empty :: empty :: outer) := by
      intro start position
      show (read opened (position + 1) 0 rest).map _ = _
      rw [hrest]
      rfl
    have hhead : (nestedText n ++ ')' :: rest).head? ≠ some ')' := by
      cases n <;> simp [nestedText]
    have hopening : read opened (position + 1) 0 ('(' :: (nestedText n ++ ')' :: rest)) =
        .ok (group (nested n) empty :: outer) := by
      show (if _ then _ else (read (_ :: opened) _ 0 _).map enclose) = _
      rw [if_neg hhead, ih (hclosing _)]
      rfl
    have htext : nestedText (n + 1) ++ rest = 'a' :: '(' :: (nestedText n ++ ')' :: rest) := by
      simp [nestedText]
    rw [htext]
    show (read opened (position + 1) 0 _).map _ = _
    rw [hopening]
    rfl

theorem placeholders_nested (n : Nat) : (nested n).placeholders = [] := by
  induction n with
  | zero => rfl
  | succ n ih => simp [nested, placeholders, ih]

theorem parse_nestedText (n : Nat) : parse (String.ofList (nestedText n)) = .ok (nested n) := by
  have hread : read [] 0 0 (nestedText n ++ []) = .ok [nested n] :=
    read_nestedText n (fun _ => rfl) 0
  rw [List.append_nil] at hread
  rw [parse, String.toList_ofList, hread]
  simp [placeholders_nested, duplicate?]

theorem groupDepth_nested (n : Nat) : (nested n).groupDepth = n := by
  induction n with
  | zero => rfl
  | succ n ih => simp [nested, groupDepth, ih]

theorem nesting_nested (n : Nat) : (nested n).nesting = 3 * n - 1 := by
  induction n with
  | zero => rfl
  | succ n ih =>
    have hparts : (nested n).partCount = if n = 0 then 1 else 2 := by
      cases n <;> simp [nested, partCount, show "a".length = 1 from rfl]
    simp only [nested, nesting, ih, hparts]
    cases n <;> simp
    omega

theorem compile_nestedText {n : Nat} (hn : 84 ≤ n) :
    compile (String.ofList (nestedText n)) ∅ defaultSegment =
      .error ⟨String.ofList (nestedText n), .invalidPattern⟩ := by
  refine compile_eq_error (parse_nestedText n) ?_
  rw [nesting_nested, depthLimit]
  omega

/-! ## The limit -/

/-- A template that is read is compiled with the default pattern up to the limit on depth, and its
pattern has one group for each placeholder, in order and with its name. The limit is met if the groups
are at most 81 deep; beyond the limit the fault is that of the whole pattern. -/
theorem compile_default {text : String} {t : Template} (h : parse text = .ok t) :
    (t.nesting < depthLimit → ∃ c, compile text ∅ defaultSegment = .ok c ∧ c.template = t ∧
      ofString? c.source = some c.regex ∧ c.regex.names = t.names ∧ t.names.Nodup) ∧
    (depthLimit ≤ t.nesting →
      compile text ∅ defaultSegment = .error ⟨text, .invalidPattern⟩) ∧
    (t.groupDepth ≤ 81 → t.nesting < depthLimit) := by
  refine ⟨fun hnesting => ?_, compile_eq_error h, fun hgroups => ?_⟩
  · have hsource := ofString?_source_default h
    rw [if_pos hnesting] at hsource
    rcases compile_cases h ∅ defaultSegment with ⟨n, -, hn, -⟩ | ⟨hnone, -⟩ | ⟨c, hc, hok⟩
    · cases hn.symm.trans isPattern_defaultSegment
    · cases hnone.symm.trans hsource
    · refine ⟨c, hok, hc, c.reads, ?_, names_nodup h⟩
      have hreads := c.reads
      rw [(compile_eq_ok_iff.1 hok).2, hc, hsource] at hreads
      rw [← Option.some.inj hreads, names_wholePieces]
  · have hle := t.nesting_le
    unfold depthLimit
    omega

/-- Two placeholders, one of them in a group in a group, and groups just beyond the limit. -/
theorem compile_default_nested :
    (∃ t c, parse "a[<id>(.(<_p2>)|)" = .ok t ∧ t.groupDepth = 2 ∧
      compile "a[<id>(.(<_p2>)|)" ∅ defaultSegment = .ok c ∧ c.template = t ∧
      ofString? c.source = some c.regex ∧ c.regex.names = ["id", "_p2"]) ∧
    parse (String.ofList (nestedText 84)) = .ok (nested 84) ∧ (nested 84).nesting = 251 ∧
    compile (String.ofList (nestedText 84)) ∅ defaultSegment =
      .error ⟨String.ofList (nestedText 84), .invalidPattern⟩ := by
  constructor
  · let t : Template := literal "a[" (placeholder "id" 2 (group (literal "."
      (group (placeholder "_p2" 9 empty) (literal "|" empty))) empty))
    have hparse : parse "a[<id>(.(<_p2>)|)" = .ok t := by decide +kernel
    have hdepth : t.groupDepth = 2 := by decide
    obtain ⟨hcompiles, -, hgroups⟩ := compile_default hparse
    obtain ⟨c, hc, ht, hsource, hnames, -⟩ := hcompiles (hgroups (hdepth ▸ by decide))
    exact ⟨t, c, hparse, hdepth, hc, ht, hsource, hnames⟩
  · have hparse := parse_nestedText 84
    have hnesting := nesting_nested 84
    exact ⟨hparse, hnesting, (compile_default hparse).2.1 (hnesting ▸ by decide)⟩

/-- A hundred groups in each other are too many. -/
theorem compile_too_deep :
    ∃ t, parse (String.ofList (nestedText 100)) = .ok t ∧ t.groupDepth = 100 ∧
      compile (String.ofList (nestedText 100)) ∅ defaultSegment =
        .error ⟨String.ofList (nestedText 100), .invalidPattern⟩ :=
  ⟨nested 100, parse_nestedText 100, groupDepth_nested 100, compile_nestedText (by decide)⟩

end Template

end Signpost
