import Signpost.Proofs.Template.Verdict

/-!
# Printing templates

A tree printed as the text of a template: a backslash makes each character literal that would be
read otherwise, angle brackets enclose a name, and parentheses enclose a group. The reader gives the
tree back if it is `Canonical`, with each placeholder at the byte offset of its opening bracket in
the text (`parse_print`). A tree that is not canonical has a text too, but the reader joins literals
that are next to each other, and refuses a group with nothing in it.

The tokens of a tree are read in front of whatever comes behind its text: they have no fault of their
own (`firstFault?_print`), and build the tree (`build_print`).
-/

namespace Signpost.Template

/-! ## The text of a tree -/

/-- Whether a character of literal text needs a backslash in front of it. -/
def isSpecial (c : Char) : Bool := ['(', ')', '<', '\\'].contains c

def escapeChar (c : Char) : List Char := if isSpecial c then ['\\', c] else [c]

def escape (text : String) : String := String.ofList (text.toList.flatMap escapeChar)

/-- The text of a tree. -/
def print : Template → String
  | empty => ""
  | literal text rest => escape text ++ rest.print
  | placeholder name _ rest => "<" ++ name ++ ">" ++ rest.print
  | group body rest => "(" ++ body.print ++ ")" ++ rest.print

/-- The tree with each placeholder at the byte offset of its opening bracket, if the text of the
tree comes behind the text `before`. -/
def placed (before : String) : Template → Template
  | empty => empty
  | literal text rest => literal text (rest.placed (before ++ escape text))
  | placeholder name _ rest =>
    placeholder name before.utf8ByteSize (rest.placed (before ++ "<" ++ name ++ ">"))
  | group body rest =>
    group (body.placed (before ++ "(")) (rest.placed (before ++ "(" ++ body.print ++ ")"))

/-- The tree without the positions of its placeholders, which are 0 then. -/
def unplaced : Template → Template
  | empty => empty
  | literal text rest => literal text rest.unplaced
  | placeholder name _ rest => placeholder name 0 rest.unplaced
  | group body rest => group body.unplaced rest.unplaced

def isLiteral : Template → Bool
  | literal .. => true
  | _ => false

/-- Whether no literal is empty or next to another one, and no group is empty. -/
def isRegular : Template → Bool
  | empty => true
  | literal text rest => text != "" && !rest.isLiteral && rest.isRegular
  | placeholder _ _ rest => rest.isRegular
  | group body rest => !body.isEmpty && body.isRegular && rest.isRegular

/-- A regular tree whose placeholders have valid names, each of them once. -/
structure Canonical (t : Template) : Prop where
  regular : t.isRegular = true
  names_valid : ∀ n ∈ t.names, isName n.toList = true
  names_distinct : t.names.Nodup

instance (t : Template) : Decidable t.Canonical :=
  decidable_of_iff (t.isRegular = true ∧ (∀ n ∈ t.names, isName n.toList = true) ∧ t.names.Nodup)
    ⟨fun h => ⟨h.1, h.2.1, h.2.2⟩, fun h => ⟨h.1, h.2, h.3⟩⟩

/-! ## Positions -/

theorem unplaced_placed (t : Template) (before : String) :
    (t.placed before).unplaced = t.unplaced := by
  induction t generalizing before with
  | empty => rfl
  | literal text rest ih | placeholder name position rest ih => simp [placed, unplaced, ih]
  | group body rest ihb ih => simp [placed, unplaced, ihb, ih]

theorem names_placed (t : Template) (before : String) : (t.placed before).names = t.names := by
  unfold names
  induction t generalizing before with
  | empty => rfl
  | literal text rest ih | placeholder name position rest ih => simp [placed, placeholders, ih]
  | group body rest ihb ih => simp [placed, placeholders, ihb, ih]

theorem isLiteral_placed (t : Template) (before : String) :
    (t.placed before).isLiteral = t.isLiteral := by
  cases t <;> rfl

/-- Each placeholder is where the text has its name in angle brackets. -/
theorem mem_placeholders_placed {t : Template} {before : String} {name : String} {position : Nat}
    (h : (name, position) ∈ (t.placed before).placeholders) :
    ∃ front back, before ++ t.print = front ++ "<" ++ name ++ ">" ++ back ∧
      position = front.utf8ByteSize := by
  induction t generalizing before with
  | empty => cases h
  | literal text rest ih =>
    obtain ⟨front, back, htext, hposition⟩ := ih h
    exact ⟨front, back, by rw [print, ← htext, String.append_assoc], hposition⟩
  | placeholder n _ rest ih =>
    rcases List.mem_cons.1 h with h | h
    · cases h
      exact ⟨before, rest.print, by simp [print, String.append_assoc], rfl⟩
    · obtain ⟨front, back, htext, hposition⟩ := ih h
      exact ⟨front, back, by rw [← htext]; simp [print, String.append_assoc], hposition⟩
  | group body rest ihb ih =>
    rcases List.mem_append.1 h with h | h
    · obtain ⟨front, back, htext, hposition⟩ := ihb h
      refine ⟨front, back ++ ")" ++ rest.print, ?_, hposition⟩
      simp only [print, ← String.append_assoc] at htext ⊢
      rw [htext]
    · obtain ⟨front, back, htext, hposition⟩ := ih h
      exact ⟨front, back, by rw [← htext]; simp [print, String.append_assoc], hposition⟩

/-! ## Reading what is printed -/

/-- A character of literal text is one token, with its backslash if it has one. -/
theorem tokens_escapeChar (position : Nat) (c : Char) (rest : List Char) :
    tokens position 0 (escapeChar c ++ rest) = ⟨position, .character c⟩ ::
      tokens (position + (String.ofList (escapeChar c)).utf8ByteSize) 0 rest := by
  unfold escapeChar
  split
  · have hskip := tokens_skip (position + 1) [c] rest
    rw [utf8ByteSize_ofList_cons, ← Nat.add_assoc]
    exact congrArg _ hskip
  · rename_i hc
    have hskip := tokens_skip position [c] rest
    obtain ⟨hopening, hclosing, hname, hescape⟩ :
        c ≠ '(' ∧ c ≠ ')' ∧ c ≠ '<' ∧ c ≠ '\\' := by simpa [isSpecial] using hc
    rw [← hskip]
    simp [tokens, hopening, hclosing, hname, hescape]

theorem utf8ByteSize_escape_cons (c : Char) (cs : List Char) :
    (String.ofList ((c :: cs).flatMap escapeChar)).utf8ByteSize =
      (String.ofList (escapeChar c)).utf8ByteSize +
        (String.ofList (cs.flatMap escapeChar)).utf8ByteSize := by
  rw [List.flatMap_cons, String.ofList_append, String.utf8ByteSize_append]

/-- Literal text has no faults of its own. -/
theorem firstFault?_escape (opened : List Nat) (position : Nat) (cs rest : List Char) :
    firstFault? opened (tokens position 0 (cs.flatMap escapeChar ++ rest)) =
      firstFault? opened
        (tokens (position + (String.ofList (cs.flatMap escapeChar)).utf8ByteSize) 0 rest) := by
  induction cs generalizing position with
  | nil => rfl
  | cons c cs ih =>
    rw [utf8ByteSize_escape_cons, ← Nat.add_assoc, ← ih, List.flatMap_cons, List.append_assoc,
      tokens_escapeChar]
    simp [firstFault?, Token.fault?]

theorem build_escape (position : Nat) (cs : List Char) {rest : List Char} {t : Template}
    {outer : List Template}
    (h : build (tokens (position + (String.ofList (cs.flatMap escapeChar)).utf8ByteSize) 0 rest) =
      t :: outer) :
    build (tokens position 0 (cs.flatMap escapeChar ++ rest)) = cs.foldr consChar t :: outer := by
  induction cs generalizing position with
  | nil => exact h
  | cons c cs ih =>
    rw [utf8ByteSize_escape_cons, ← Nat.add_assoc] at h
    rw [List.flatMap_cons, List.append_assoc, tokens_escapeChar]
    simp only [build, ih _ h]
    rfl

/-- Characters in front of a tree are one literal if the tree does not begin with one. -/
theorem foldr_consChar {cs : List Char} {t : Template} (hcs : cs ≠ []) (ht : t.isLiteral = false) :
    cs.foldr consChar t = literal (String.ofList cs) t := by
  induction cs with
  | nil => exact absurd rfl hcs
  | cons c cs ih =>
    cases cs with
    | nil =>
      cases t with
      | literal => cases ht
      | empty | placeholder | group => rfl
    | cons d ds => rw [List.foldr_cons, ih (List.cons_ne_nil d ds), consChar, String.toList_ofList]

theorem toList_print_literal (text : String) (t : Template) (rest : List Char) :
    (literal text t).print.toList ++ rest =
      text.toList.flatMap escapeChar ++ (t.print.toList ++ rest) := by
  simp [print, escape]

theorem toList_print_placeholder (name : String) (position : Nat) (t : Template)
    (rest : List Char) :
    (placeholder name position t).print.toList ++ rest =
      '<' :: (name.toList ++ '>' :: (t.print.toList ++ rest)) := by
  simp [print]

theorem toList_print_group (body t : Template) (rest : List Char) :
    (group body t).print.toList ++ rest =
      '(' :: (body.print.toList ++ ')' :: (t.print.toList ++ rest)) := by
  simp [print]

theorem utf8ByteSize_name (before name : String) :
    (before ++ "<" ++ name ++ ">").utf8ByteSize = before.utf8ByteSize + name.utf8ByteSize + 2 := by
  have hopening : "<".utf8ByteSize = 1 := rfl
  have hclosing : ">".utf8ByteSize = 1 := rfl
  simp only [String.utf8ByteSize_append, hopening, hclosing]
  omega

theorem utf8ByteSize_opening (before : String) :
    (before ++ "(").utf8ByteSize = before.utf8ByteSize + 1 := String.utf8ByteSize_append

theorem utf8ByteSize_closing (before : String) :
    (before ++ ")").utf8ByteSize = before.utf8ByteSize + 1 := String.utf8ByteSize_append

/-- The text of a group that has parts does not begin with the parenthesis that closes it. -/
theorem head?_print_ne {t : Template} (hregular : t.isRegular = true) (hempty : t.isEmpty = false)
    (rest : List Char) : (t.print.toList ++ rest).head? ≠ some ')' := by
  cases t with
  | empty => cases hempty
  | literal text t =>
    rw [toList_print_literal]
    simp only [isRegular, Bool.and_eq_true, bne_iff_ne, ne_eq, ← String.toList_eq_nil_iff] at hregular
    match text.toList, hregular.1.1 with
    | c :: cs, _ =>
      simp only [List.flatMap_cons, escapeChar]
      split
      · simp
      · rename_i hc
        rintro h
        cases h
        exact hc rfl
  | placeholder name position t => simp [toList_print_placeholder]
  | group body t => simp [toList_print_group]

/-- The text of a tree has no faults of its own. -/
theorem firstFault?_print {t : Template} (hregular : t.isRegular = true)
    (hnames : ∀ n ∈ t.names, isName n.toList = true) (opened : List Nat) (before : String)
    (rest : List Char) :
    firstFault? opened (tokens before.utf8ByteSize 0 (t.print.toList ++ rest)) =
      firstFault? opened (tokens (before ++ t.print).utf8ByteSize 0 rest) := by
  induction t generalizing opened before rest with
  | empty => simp [print]
  | literal text t ih =>
    simp only [isRegular, Bool.and_eq_true] at hregular
    rw [toList_print_literal, firstFault?_escape, print, ← String.append_assoc,
      ← ih hregular.2 hnames, String.utf8ByteSize_append]
    rfl
  | placeholder name position t ih =>
    obtain ⟨hname, hnames⟩ := List.forall_mem_cons.1 hnames
    rw [toList_print_placeholder, tokens_name hname]
    simp only [firstFault?, fault?_name, nameFault?_eq_none_iff.2 hname, Option.none_or]
    rw [← utf8ByteSize_name, ih hregular hnames]
    simp [print, String.append_assoc]
  | group body t ihb ih =>
    simp only [isRegular, Bool.and_eq_true, Bool.not_eq_true'] at hregular
    obtain ⟨⟨hempty, hbody⟩, ht⟩ := hregular
    rw [names_group, List.forall_mem_append] at hnames
    rw [toList_print_group, tokens_opening]
    simp only [firstFault?, head?_tokens, if_neg (head?_print_ne hbody hempty _)]
    rw [← utf8ByteSize_opening, ihb hbody hnames.1, tokens_closing]
    simp only [firstFault?]
    rw [← utf8ByteSize_closing, ih ht hnames.2]
    simp [print, String.append_assoc]

/-- The tokens of the text of a tree build the tree in front of what comes behind. -/
theorem build_print {t : Template} (hregular : t.isRegular = true)
    (hnames : ∀ n ∈ t.names, isName n.toList = true) (before : String) {rest : List Char}
    {outer : List Template}
    (h : build (tokens (before ++ t.print).utf8ByteSize 0 rest) = empty :: outer) :
    build (tokens before.utf8ByteSize 0 (t.print.toList ++ rest)) = t.placed before :: outer := by
  induction t generalizing before rest outer with
  | empty => simpa [print, placed] using h
  | literal text t ih =>
    simp only [isRegular, Bool.and_eq_true, bne_iff_ne, ne_eq, ← String.toList_eq_nil_iff,
      Bool.not_eq_true'] at hregular
    obtain ⟨⟨htext, hliteral⟩, ht⟩ := hregular
    rw [print, ← String.append_assoc] at h
    have hrest := ih ht hnames (before ++ escape text) h
    rw [String.utf8ByteSize_append] at hrest
    rw [toList_print_literal, build_escape _ _ hrest,
      foldr_consChar htext ((isLiteral_placed t _).trans hliteral), String.ofList_toList, placed]
  | placeholder name position t ih =>
    obtain ⟨hname, hnames⟩ := List.forall_mem_cons.1 hnames
    rw [print, ← String.append_assoc, ← String.append_assoc, ← String.append_assoc] at h
    have hrest := ih hregular hnames (before ++ "<" ++ name ++ ">") h
    rw [toList_print_placeholder, tokens_name hname, ← utf8ByteSize_name]
    simp only [build, hrest, String.ofList_toList]
    rfl
  | group body t ihb ih =>
    simp only [isRegular, Bool.and_eq_true, Bool.not_eq_true'] at hregular
    obtain ⟨⟨_, hbody⟩, ht⟩ := hregular
    rw [names_group, List.forall_mem_append] at hnames
    rw [print, ← String.append_assoc, ← String.append_assoc, ← String.append_assoc] at h
    have hrest := ih ht hnames.2 (before ++ "(" ++ body.print ++ ")") h
    have hclosing : build (tokens (before ++ "(" ++ body.print).utf8ByteSize 0
        (')' :: (t.print.toList ++ rest))) =
          empty :: t.placed (before ++ "(" ++ body.print ++ ")") :: outer := by
      rw [tokens_closing, ← utf8ByteSize_closing, ← hrest]
      rfl
    have hinner := ihb hbody hnames.1 (before ++ "(") hclosing
    rw [toList_print_group, tokens_opening, ← utf8ByteSize_opening]
    simp only [build, hinner]
    rfl

/-- Reading the text of a canonical tree gives the tree, with each placeholder at the byte offset of
its opening bracket in the text. -/
theorem parse_print {t : Template} (h : t.Canonical) :
    parse t.print = .ok (t.placed "") ∧ (t.placed "").unplaced = t.unplaced ∧
      ∀ name position, (name, position) ∈ (t.placed "").placeholders →
        ∃ front back, t.print = front ++ "<" ++ name ++ ">" ++ back ∧
          position = front.utf8ByteSize := by
  refine ⟨?_, unplaced_placed t "", fun name position hmem => ?_⟩
  · have htext : tokensOf t.print = tokens "".utf8ByteSize 0 (t.print.toList ++ []) := by
      rw [List.append_nil]
      rfl
    have hfault : firstFault? [] (tokensOf t.print) = none := by
      rw [htext, firstFault?_print h.regular h.names_valid]
      rfl
    have hbuild : build (tokensOf t.print) = [t.placed ""] := by
      rw [htext]
      exact build_print h.regular h.names_valid "" rfl
    have hnames : nameTokens (tokensOf t.print) = (t.placed "").placeholders := by
      rw [← flatMap_placeholders_build, hbuild]
      simp
    have hdistinct : repeated? [] (nameTokens (tokensOf t.print)) = none := by
      rw [hnames, repeated?_eq_none_iff (by simp)]
      show (t.placed "").names.Nodup
      rw [names_placed]
      exact h.names_distinct
    rw [parse_eq, hfault, hdistinct, hbuild]
    rfl
  · simpa using mem_placeholders_placed hmem

/-- Escaped text, text of several bytes and a group in a group. -/
theorem parse_print_nested :
    let t := literal "(é\\>" (placeholder "id" 0 (group (literal "<x>/"
      (group (placeholder "_p2" 0 empty) (literal "ü" empty))) empty))
    t.Canonical ∧ t.print = "\\(é\\\\><id>(\\<x>/(<_p2>)ü)" ∧
      parse "\\(é\\\\><id>(\\<x>/(<_p2>)ü)" = .ok (literal "(é\\>" (placeholder "id" 7
        (group (literal "<x>/" (group (placeholder "_p2" 18 empty) (literal "ü" empty))) empty))) := by
  intro t
  have hcanonical : t.Canonical := by decide +kernel
  have hprint : t.print = "\\(é\\\\><id>(\\<x>/(<_p2>)ü)" := by decide +kernel
  refine ⟨hcanonical, hprint, ?_⟩
  rw [← hprint, (parse_print hcanonical).1]
  exact congrArg _ (by decide +kernel)

end Signpost.Template
