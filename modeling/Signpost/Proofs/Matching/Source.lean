import Signpost.Proofs.Template.Name
import Signpost.Template.Compiled

/-!
# The pattern of a template

A template is matched by a pattern that is written as text first. This module says what the reader
of patterns makes of that text when every placeholder has the default pattern: literal text becomes
its characters, whatever they are (`parseFrom_quote`), a placeholder becomes a named group of one or
more characters of a segment (`parseFrom_placeholder`), and a group becomes optional
(`parseFrom_pattern`). So the pattern of the whole is the sequence of the template's `pieces` between
the ends of the text (`ofString?_source`).
-/

namespace Signpost

open Regex

/-! ## Readings -/

namespace Regex

/-- A reading after some pieces more, with the names of the groups in them. -/
def Reading.after (st : Reading) (ps : List Piece) (ns : List String) : Reading :=
  { st with
    branches := { st.branches with pieces := ps.reverse ++ st.branches.pieces }
    names := ns.reverse ++ st.names }

theorem Reading.after_after (st : Reading) (ps qs : List Piece) (ns ms : List String) :
    (st.after ps ns).after qs ms = st.after (ps ++ qs) (ns ++ ms) := by
  simp [after]

/-- The piece of a character. -/
def charPiece (c : Char) : Piece := ⟨.char c, 0, true⟩

/-- A character that has no meaning of its own stands for itself. -/
theorem step_of_not_isMeta {st : Reading} (hf : st.flags = {}) {c : Char} (hc : isMeta c = false)
    (cs : List Char) : st.step c cs = some (st.after [charPiece c] [], cs) := by
  have hne : ∀ d, isMeta d = true → c ≠ d := by
    rintro d hd rfl
    exact Bool.noConfusion (hd.symm.trans hc)
  unfold Reading.step
  rw [if_neg (by simp [hf])]
  split <;> first | exact absurd rfl (hne _ rfl) | skip
  rw [Reading.pushChar, hf]
  rfl

/-- A character that has a meaning of its own stands for itself behind a backslash. -/
theorem readEscape_of_isMeta {c : Char} (hc : isMeta c = true) (f : Flags) (cs : List Char) :
    readEscape f (c :: cs) = some (.char c, cs) := by
  have hall : ∀ d ∈ ['\\', '.', '+', '*', '?', '(', ')', '|', '[', ']', '\x7b', '\x7d', '^', '$',
      '#', '&', '-', '~'], readEscape f (d :: cs) = some (.char d, cs) := by
    simp [readEscape, isEscapable]
  exact hall c (List.contains_iff_mem.1 hc)

theorem step_escape {st : Reading} (hf : st.flags = {}) {c : Char} (hc : isMeta c = true)
    (cs : List Char) : st.step '\\' (c :: cs) = some (st.after [charPiece c] [], cs) := by
  have hpush : st.pushChar c = st.after [charPiece c] [] := by
    rw [Reading.pushChar, hf]
    rfl
  simp [Reading.step, hf, readEscape_of_isMeta hc, Reading.pushAtom, hpush]

/-- A quoted text is read as its characters. -/
theorem parseFrom_quote {st : Reading} (hf : st.flags = {}) (cs rest : List Char) :
    parseFrom st 0 (quote cs ++ rest) = parseFrom (st.after (cs.map charPiece) []) 0 rest := by
  induction cs generalizing st with
  | nil => rfl
  | cons c cs ih =>
    have hfirst : parseFrom st 0 (quote [c] ++ (quote cs ++ rest)) =
        parseFrom (st.after [charPiece c] []) 0 (quote cs ++ rest) := by
      cases hc : isMeta c with
      | true =>
        have hread := step_escape hf hc (quote cs ++ rest)
        simpa [quote, hc] using parseFrom_cons [c] hread
      | false =>
        have hread := step_of_not_isMeta hf hc (quote cs ++ rest)
        simpa [quote, hc] using parseFrom_cons [] hread
    rw [show c :: cs = [c] ++ cs from rfl, quote_append, List.append_assoc, hfirst, ih (by exact hf),
      Reading.after_after]
    rfl

/-! ## Groups and repetitions -/

/-- A reading inside a group that has just been opened. -/
def Reading.inside (st : Reading) (name : Option String) : Reading where
  groups := ⟨name, st.branches, st.flags⟩ :: st.groups
  names := name.toList ++ st.names

theorem openGroup_eq {st : Reading} {name : Option String} (h : ∀ n ∈ name, n ∉ st.names) :
    st.openGroup name {} = some (st.inside name) := by
  cases name with
  | none => rfl
  | some n =>
    have hn : n ∉ st.names := h n rfl
    simp [Reading.openGroup, hn, Reading.inside]

/-- The piece of a group around some pieces. -/
def groupPiece (name : Option String) (ps : List Piece) : Piece :=
  let body := combine .seq ps.reverse
  ⟨match name with
    | none => body.regex
    | some n => .named n body.regex, body.depth + 1, true⟩

theorem closeGroup_eq (st : Reading) (name : Option String) (ps : List Piece) (ns : List String) :
    ((st.inside name).after ps ns).closeGroup =
      some (st.after [groupPiece name ps] (name.toList ++ ns)) := by
  cases name <;> simp [Reading.closeGroup, Reading.after, Reading.inside, groupPiece,
    Branches.close, Branches.split, combine, joinWith, Reading.push, Branches.push]

/-- A greedy repetition repeats the last piece. -/
theorem readRepetition_after {st : Reading} (hf : st.flags = {}) (r : Regex) (depth : Nat)
    (ns : List String) {f : Bool → Regex → Option Regex} {r' : Regex} (hr : f true r = some r')
    {rest : List Char} (hrest : rest.head? ≠ some '?') :
    (st.after [⟨r, depth, true⟩] ns).readRepetition f rest =
      some (st.after [⟨r', depth + 1, true⟩] ns, rest) := by
  have hgreed : readGreed {} rest = (true, rest) := by
    cases rest with
    | nil => rfl
    | cons c cs =>
      have hc : c ≠ '?' := fun h => hrest (by simp [h])
      simp [readGreed, hc]
  simp [Reading.readRepetition, Reading.after, hf, hgreed, Reading.repeatLast, hr]

/-! ## The default pattern -/

/-- The characters that the default pattern matches. -/
def segmentSet : CharSet :=
  .compl (.union (.union (.union (.union (.union (.single '/') (.single '.')) (.single ','))
    (.single ';')) (.single '?')) (.single '\n'))

/-- The bracket of the default pattern is read up to its end. -/
theorem readClass_segment (rest : List Char) :
    readClass {} ("^/.,;?\\n]".toList ++ rest) = some (⟨segmentSet, 2⟩, rest) := by
  have hopen : openBracket {} ("^/.,;?\\n]".toList ++ rest) =
      some ({ negated := true }, "/.,;?\\n]".toList ++ rest) := rfl
  rw [readClass, hopen]
  show readBracket {} { negated := true } [] 0 ("/.,;?\\n]".toList ++ rest) = _
  refine (readBracket_more [] rfl).trans ?_
  refine (readBracket_more [] rfl).trans ?_
  refine (readBracket_more [] rfl).trans ?_
  refine (readBracket_more [] rfl).trans ?_
  refine (readBracket_more [] rfl).trans ?_
  refine (readBracket_more ['n'] rfl).trans ?_
  exact readBracket_closed rfl

/-- One or more characters of a segment, as few as need be left out. -/
def segment : Regex := .plus true (.chars segmentSet)

theorem parseFrom_segment {st : Reading} (hf : st.flags = {}) {rest : List Char}
    (hrest : rest.head? ≠ some '?') :
    parseFrom st 0 (defaultSegment.toList ++ rest) =
      parseFrom (st.after [⟨segment, 3, true⟩] []) 0 rest := by
  have hclass : st.step '[' ("^/.,;?\\n]".toList ++ '+' :: rest) =
      some (st.after [⟨.chars segmentSet, 2, true⟩] [], '+' :: rest) := by
    rw [Reading.step, if_neg (by simp [hf]), hf, readClass_segment]
    rfl
  have hplus : (st.after [⟨.chars segmentSet, 2, true⟩] []).step '+' rest =
      some (st.after [⟨segment, 3, true⟩] [], rest) := by
    rw [Reading.step, if_neg (by simp [Reading.after, hf])]
    exact readRepetition_after hf _ 2 [] rfl hrest
  exact (parseFrom_cons "^/.,;?\\n]".toList hclass).trans (parseFrom_cons [] hplus)

/-! ## Parts of a template -/

theorem step_plain {st : Reading} (hf : st.flags = {}) (rest : List Char) :
    st.step '(' ('?' :: ':' :: rest) = some (st.inside none, rest) := by
  have hhead : readGroupHead {} ('?' :: ':' :: rest) = some (.plain {}, rest) := rfl
  rw [Reading.step, if_neg (by simp [hf]), hf, hhead]
  rfl

theorem readGroupHead_named {name : String} (hname : Template.isName name.toList = true)
    (rest : List Char) :
    readGroupHead {} ("?P<".toList ++ name.toList ++ '>' :: rest) =
      some (.named name.toList, rest) := by
  have hends : ∀ c ∈ name.toList, (c != '>') = true := fun c hc => by
    simpa using Template.ne_of_isNamePart (Template.isNamePart_of_mem hname c hc) rfl
  have hread : readGroupName (name.toList ++ '>' :: rest) = some (.named name.toList, rest) := by
    simp [readGroupName, List.takeWhile_append_of_pos hends, List.dropWhile_append_of_pos hends,
      Template.isGroupName_of_isName hname]
  rw [List.append_assoc]
  exact hread

theorem step_named {st : Reading} (hf : st.flags = {}) {name : String}
    (hname : Template.isName name.toList = true) (hnew : name ∉ st.names) (rest : List Char) :
    st.step '(' ("?P<".toList ++ name.toList ++ '>' :: rest) =
      some (st.inside (some name), rest) := by
  have hopen : st.openGroup (some name) {} = some (st.inside (some name)) :=
    openGroup_eq fun n hn => Option.some.inj hn ▸ hnew
  rw [Reading.step, if_neg (by simp [hf]), hf, readGroupHead_named hname]
  simp [hopen]

/-- A closing parenthesis ends the group around it. -/
theorem step_close {st st' : Reading} (h : st.closeGroup = some st') (rest : List Char) :
    st.step ')' rest = some (st', rest) := by
  have hblank : (Unicode.isWhiteSpace ')' || ')' == '#') = false := by decide
  rw [Reading.step, hblank, Bool.and_false, if_neg Bool.false_ne_true, h]
  rfl

/-- The piece of some pieces that can be left out. -/
def optionalPiece (ps : List Piece) : Piece :=
  let g := groupPiece none ps
  ⟨.opt true g.regex, g.depth + 1, true⟩

/-- A group without a name is read from inside. -/
theorem parseFrom_open {st : Reading} (hf : st.flags = {}) (cs : List Char) :
    parseFrom st 0 ("(?:".toList ++ cs) = parseFrom (st.inside none) 0 cs :=
  parseFrom_cons "?:".toList (step_plain hf cs)

/-- The group around some pieces makes them optional. -/
theorem parseFrom_optional {st : Reading} (hf : st.flags = {}) (ps : List Piece) (ns : List String)
    {cs : List Char} (hcs : cs.head? ≠ some '?') :
    parseFrom ((st.inside none).after ps ns) 0 (')' :: '?' :: cs) =
      parseFrom (st.after [optionalPiece ps] ns) 0 cs := by
  have hclose : ((st.inside none).after ps ns).step ')' ('?' :: cs) =
      some (st.after [groupPiece none ps] ns, '?' :: cs) := step_close (closeGroup_eq ..) _
  have hopt : (st.after [groupPiece none ps] ns).step '?' cs =
      some (st.after [optionalPiece ps] ns, cs) := by
    rw [Reading.step, if_neg (by simp [Reading.after, hf])]
    exact readRepetition_after hf _ _ ns rfl hcs
  exact (parseFrom_cons [] hclose).trans (parseFrom_cons [] hopt)

/-! ## Ends of the text -/

/-- Some pieces between the ends of the text. -/
def anchored (ps : List Piece) : List Piece :=
  ⟨.look .textStart, 0, true⟩ :: (ps ++ [⟨.look .textEnd, 0, true⟩])

/-- A reading that has begun at the start of the text. -/
def started : Reading := ({} : Reading).after [⟨.look .textStart, 0, true⟩] []

/-- The sign for the end of the text ends the pattern, unless that is nested too deeply. -/
theorem parseFrom_textEnd (ps : List Piece) (ns : List String) :
    parseFrom (started.after ps ns) 0 ['$'] =
      if (combine .seq (anchored ps).reverse).depth ≤ depthLimit then
        some (joinWith .seq (anchored ps).reverse)
      else none := by
  have hend : (started.after ps ns).after [⟨.look .textEnd, 0, true⟩] [] =
      ({} : Reading).after (anchored ps) ns := by
    simp [started, Reading.after_after, anchored]
  calc parseFrom (started.after ps ns) 0 ['$']
    _ = parseFrom ((started.after ps ns).after [⟨.look .textEnd, 0, true⟩] []) 0 [] :=
        parseFrom_cons [] rfl
    _ = (({} : Reading).after (anchored ps) ns).finish := by rw [hend, parseFrom]
    _ = _ := by
        simp [Reading.finish, Reading.after, Branches.close, Branches.split, combine, joinWith]

end Regex

namespace Template

/-- The pieces of the pattern of a template, in order. -/
def pieces : Template → List Piece
  | empty => []
  | literal text rest => text.toList.map charPiece ++ rest.pieces
  | placeholder name _ rest => ⟨.named name segment, 4, true⟩ :: rest.pieces
  | group body rest =>
    let g := groupPiece none body.pieces
    ⟨.opt true g.regex, g.depth + 1, true⟩ :: rest.pieces

/-- The text of the pattern when every placeholder has the default one. -/
def defaultPattern (t : Template) : List Char := (t.pattern fun _ => defaultSegment).toList

/-- Behind an optional group no part of a template begins with a question mark. -/
theorem head?_pattern_append (t : Template) (patternOf : String → String) {rest : List Char}
    (h : rest.head? ≠ some '?') : ((t.pattern patternOf).toList ++ rest).head? ≠ some '?' := by
  induction t with
  | empty => simpa [pattern] using h
  | literal text t ih =>
    cases hl : text.toList with
    | nil => simpa [pattern, hl, quote] using ih
    | cons c cs =>
      cases hc : isMeta c with
      | true => simp [pattern, hl, quote, hc]
      | false =>
        have hne : c ≠ '?' := by
          rintro rfl
          cases hc
        simpa [pattern, hl, quote, hc] using hne
  | placeholder name position t _ => simp [pattern]
  | group body t _ _ => simp [pattern]

theorem parseFrom_placeholder {st : Reading} (hf : st.flags = {}) {name : String}
    (hname : isName name.toList = true) (hnew : name ∉ st.names) (rest : List Char) :
    parseFrom st 0 ("(?P<".toList ++ name.toList ++ ">".toList ++ defaultSegment.toList ++
        ")".toList ++ rest) =
      parseFrom (st.after [⟨.named name segment, 4, true⟩] [name]) 0 rest := by
  have hopen := step_named hf hname hnew (defaultSegment.toList ++ ')' :: rest)
  have hclose : ((st.inside (some name)).after [⟨segment, 3, true⟩] []).step ')' rest =
      some (st.after [⟨.named name segment, 4, true⟩] [name], rest) :=
    step_close (closeGroup_eq ..) rest
  calc parseFrom st 0 ("(?P<".toList ++ name.toList ++ ">".toList ++ defaultSegment.toList ++
        ")".toList ++ rest)
    _ = parseFrom st 0 ('(' :: ("?P<".toList ++ name.toList ++ ['>'] ++
          (defaultSegment.toList ++ ')' :: rest))) := by simp
    _ = parseFrom (st.inside (some name)) 0 (defaultSegment.toList ++ ')' :: rest) :=
        parseFrom_cons ("?P<".toList ++ name.toList ++ ['>']) (by simpa using hopen)
    _ = parseFrom ((st.inside (some name)).after [⟨segment, 3, true⟩] []) 0 (')' :: rest) :=
        parseFrom_segment rfl (by simp)
    _ = _ := parseFrom_cons [] hclose

/-- A group is read as what is in it, made optional. -/
theorem parseFrom_group {st : Reading} (hf : st.flags = {}) {body : Template} {cs : List Char}
    (hbody : parseFrom (st.inside none) 0 (body.defaultPattern ++ ')' :: '?' :: cs) =
      parseFrom ((st.inside none).after body.pieces body.names) 0 (')' :: '?' :: cs))
    (hcs : cs.head? ≠ some '?') :
    parseFrom st 0 ("(?:".toList ++ body.defaultPattern ++ ")?".toList ++ cs) =
      parseFrom (st.after (group body empty).pieces body.names) 0 cs := by
  calc parseFrom st 0 ("(?:".toList ++ body.defaultPattern ++ ")?".toList ++ cs)
    _ = parseFrom st 0 ("(?:".toList ++ (body.defaultPattern ++ ')' :: '?' :: cs)) := by simp
    _ = parseFrom (st.inside none) 0 (body.defaultPattern ++ ')' :: '?' :: cs) :=
        parseFrom_open hf _
    _ = _ := hbody
    _ = _ := parseFrom_optional hf _ _ hcs

/-- The reader takes the pattern of a template for the template's pieces. -/
theorem parseFrom_pattern (t : Template) {st : Reading} (hf : st.flags = {})
    (hnames : ∀ n ∈ t.names, isName n.toList = true) (hnd : t.names.Nodup)
    (hnew : ∀ n ∈ t.names, n ∉ st.names) {rest : List Char} (hrest : rest.head? ≠ some '?') :
    parseFrom st 0 (t.defaultPattern ++ rest) = parseFrom (st.after t.pieces t.names) 0 rest := by
  induction t generalizing st rest with
  | empty => rfl
  | literal text t ih =>
    have hsplit : (literal text t).defaultPattern ++ rest =
        quote text.toList ++ (t.defaultPattern ++ rest) := by simp [defaultPattern, pattern]
    rw [hsplit, parseFrom_quote hf, ih (by exact hf) hnames hnd (by exact hnew) hrest,
      Reading.after_after]
    rfl
  | placeholder name position t ih =>
    obtain ⟨hname, hnames⟩ := List.forall_mem_cons.1 hnames
    obtain ⟨hnot, hnd⟩ := List.nodup_cons.1 hnd
    obtain ⟨hfirst, hnew⟩ := List.forall_mem_cons.1 hnew
    have hsplit : (placeholder name position t).defaultPattern ++ rest =
        "(?P<".toList ++ name.toList ++ ">".toList ++ defaultSegment.toList ++ ")".toList ++
          (t.defaultPattern ++ rest) := by simp [defaultPattern, pattern]
    have hnew' : ∀ n ∈ t.names, n ∉ name :: st.names := fun n hn hm =>
      (List.mem_cons.1 hm).elim (fun he => hnot (he ▸ hn)) (hnew n hn)
    rw [hsplit, parseFrom_placeholder hf hname hfirst, ih (by exact hf) hnames hnd (by exact hnew')
      hrest, Reading.after_after]
    rfl
  | group body t ihb iht =>
    have hsplit : (group body t).defaultPattern ++ rest =
        "(?:".toList ++ body.defaultPattern ++ ")?".toList ++ (t.defaultPattern ++ rest) := by
      simp [defaultPattern, pattern]
    rw [names_group] at hnames hnd hnew
    obtain ⟨hndb, hndt, hdisj⟩ := List.nodup_append.1 hnd
    obtain ⟨hnamesb, hnamest⟩ := List.forall_mem_append.1 hnames
    obtain ⟨hnewb, hnewt⟩ := List.forall_mem_append.1 hnew
    have hnewt' : ∀ n ∈ t.names, n ∉ body.names.reverse ++ st.names := fun n hn hm =>
      (List.mem_append.1 hm).elim
        (fun hb => hdisj n (List.mem_reverse.1 hb) n hn rfl) (hnewt n hn)
    have hhead : (t.defaultPattern ++ rest).head? ≠ some '?' := head?_pattern_append t _ hrest
    rw [hsplit, parseFrom_group hf (ihb rfl hnamesb hndb (by exact hnewb) (by simp)) hhead,
      iht (by exact hf) hnamest hndt (by exact hnewt') hrest, Reading.after_after, names_group]
    rfl

/-- The pieces of the pattern of a template, between the ends of the text. -/
def wholePieces (t : Template) : List Piece :=
  ⟨.look .textStart, 0, true⟩ :: (t.pieces ++ [⟨.look .textEnd, 0, true⟩])

/-- A template that has the default pattern everywhere is matched by the sequence of its pieces
between the ends of the text, unless it is nested too deeply. -/
theorem ofString?_source {t : Template} {patterns : Dict String}
    (hnames : ∀ n ∈ t.names, isName n.toList = true) (hnd : t.names.Nodup)
    (hdefault : ∀ n, (patterns.get? n).getD defaultSegment = defaultSegment) :
    ofString? (t.source patterns) =
      if (combine .seq t.wholePieces.reverse).depth ≤ depthLimit then
        some (joinWith .seq t.wholePieces.reverse)
      else none := by
  have hsource : (t.source patterns).toList = '^' :: (t.defaultPattern ++ ['$']) := by
    simp [source, defaultPattern, hdefault]
  rw [ofString?, parse?, hsource]
  calc parseFrom {} 0 ('^' :: (t.defaultPattern ++ ['$']))
    _ = parseFrom started 0 (t.defaultPattern ++ ['$']) := parseFrom_cons [] rfl
    _ = parseFrom (started.after t.pieces t.names) 0 ['$'] :=
        parseFrom_pattern t rfl hnames hnd (by simp [started, Reading.after]) (by simp)
    _ = _ := parseFrom_textEnd ..

end Template

end Signpost
