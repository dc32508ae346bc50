import Signpost.Proofs.Template.Name

/-!
# Tokens of a template

The text of a template as a list of tokens with their byte positions, and a checker that goes over
the tokens once. The reader of templates finds the faults of the checker, and when there is none it
builds the template that the tokens describe (`read_eq`, `build_of_parse`). So the verdict of the reader
is that of the checker (`map_parse_eq_check`), and the placeholders of a template are the names among
its tokens (`placeholders_of_parse`).
-/

namespace Signpost.Template

/-- What a token is. -/
inductive Mark
  | opening
  | closing
  /-- A name in angle brackets. -/
  | name (cs : List Char)
  | character (c : Char)
  /-- A backslash with nothing behind it. -/
  | loneEscape
deriving Repr, DecidableEq

/-- A token, with the byte offset of its first character. -/
structure Token where
  position : Nat
  mark : Mark
deriving Repr, DecidableEq

/-- The characters that decide whether an opening angle bracket encloses a name. -/
def isBracket (c : Char) : Bool := ['>', '<', '(', ')'].contains c

/-- The tokens of a text from byte `position` on, but for the next `skip` characters, which belong
to the token before. -/
def tokens (position : Nat) : (skip : Nat) → List Char → List Token
  | _, [] => []
  | k + 1, c :: cs => tokens (position + c.utf8Size) k cs
  | 0, c :: cs =>
    let next := position + c.utf8Size
    if c = '(' then ⟨position, .opening⟩ :: tokens next 0 cs
    else if c = ')' then ⟨position, .closing⟩ :: tokens next 0 cs
    else if c = '\\' then
      match cs with
      | [] => [⟨position, .loneEscape⟩]
      | d :: _ => ⟨position, .character d⟩ :: tokens next 1 cs
    else if c = '<' ∧ cs.find? isBracket = some '>' then
      let name := cs.takeWhile (· != '>')
      ⟨position, .name name⟩ :: tokens next (name.length + 1) cs
    else ⟨position, .character c⟩ :: tokens next 0 cs

/-- The tokens of the text of a template. -/
def tokensOf (text : String) : List Token := tokens 0 0 text.toList

/-- What is wrong with a token by itself. -/
def Token.fault? (t : Token) : Option Fault :=
  match t.mark with
  | .name [] => some (.placeholderMissingName t.position)
  | .name (c :: cs) =>
    if !isNameStart c then
      some (.placeholderInvalidStart (String.ofList (c :: cs)) t.position c)
    else
      match cs.find? (!isNamePart ·) with
      | some d => some (.placeholderInvalidCharacter (String.ofList (c :: cs)) t.position d)
      | none => none
  | .loneEscape => some (.loneEscapeCharacter t.position)
  | _ => none

/-- The first fault in some tokens, in a text in which the groups that start at `opened` are open
in front of them, the innermost one first. A group that stays open is a fault behind all tokens. -/
def firstFault? (opened : List Nat) : List Token → Option Fault
  | [] => opened.head?.map .unterminatedGroup
  | t :: ts =>
    match t.mark with
    | .opening =>
      if ts.head?.map (·.mark) = some .closing then some (.emptyGroup t.position)
      else firstFault? (t.position :: opened) ts
    | .closing =>
      match opened with
      | [] => some (.unexpectedClosingParenthesis t.position)
      | _ :: outer => firstFault? outer ts
    | _ => t.fault?.or (firstFault? opened ts)

/-- The names in some tokens, with the byte offsets of their opening brackets. -/
def nameTokens (ts : List Token) : List (String × Nat) :=
  ts.filterMap fun t =>
    match t.mark with
    | .name cs => some (String.ofList cs, t.position)
    | _ => none

/-- The first name that is among those before it. -/
def repeated? (before : List (String × Nat)) : List (String × Nat) → Option (String × Nat)
  | [] => none
  | p :: ps => if p.1 ∈ before.map (·.1) then some p else repeated? (before ++ [p]) ps

/-- The verdict on the text of a template, by its tokens. Names that occur twice count only where
nothing else is wrong. -/
def check (text : String) : Except TemplateError Unit :=
  match firstFault? [] (tokensOf text) with
  | some fault => .error ⟨text, fault⟩
  | none =>
    match repeated? [] (nameTokens (tokensOf text)) with
    | some (name, start) => .error ⟨text, .duplicatePlaceholder name start⟩
    | none => .ok ()

/-! ## Reading by tokens -/

/-- The sequences that some tokens describe: the rest of the innermost group, and the rests of the
sequences around it. -/
def build : List Token → List Template
  | [] => [empty]
  | t :: ts =>
    match t.mark with
    | .opening => enclose (build ts)
    | .closing => empty :: build ts
    | .name cs => onFirst (placeholder (String.ofList cs) t.position) (build ts)
    | .character c => onFirst (consChar c) (build ts)
    | .loneEscape => build ts

theorem enclosedName?_eq (cs : List Char) :
    enclosedName? cs =
      if cs.find? isBracket = some '>' then some (cs.takeWhile (· != '>')) else none := by
  induction cs with
  | nil => rfl
  | cons c cs ih =>
    rw [enclosedName?, ih]
    by_cases hgt : c = '>'
    · subst hgt
      rfl
    · by_cases hother : c = '<' ∨ c = '(' ∨ c = ')'
      · have hb : isBracket c = true := by rcases hother with rfl | rfl | rfl <;> rfl
        simp [hgt, hother, hb]
      · have hb : isBracket c = false := by
          simp only [not_or] at hother
          simp [isBracket, hgt, hother]
        simp only [hgt, hother, if_false, List.find?_cons, hb]
        split <;> simp [hgt]

theorem fault?_name (position : Nat) (cs : List Char) :
    Token.fault? ⟨position, .name cs⟩ = nameFault? position cs := by
  cases cs with
  | nil => rfl
  | cons c cs =>
    simp only [Token.fault?, nameFault?]
    cases isNameStart c with
    | false => rfl
    | true => cases cs.find? (!isNamePart ·) <;> rfl

/-- The next token closes a group just if the next character does. -/
theorem head?_tokens (position : Nat) (cs : List Char) :
    (tokens position 0 cs).head?.map (·.mark) = some .closing ↔ cs.head? = some ')' := by
  cases cs with
  | nil => simp [tokens]
  | cons c cs =>
    rw [List.head?_cons, Option.some.injEq]
    by_cases hc : c = ')'
    · subst hc
      simp [tokens]
    · refine iff_of_false (fun h => ?_) hc
      simp only [tokens, hc, if_false] at h
      repeat' split at h
      all_goals cases h

/-- The reader finds the first fault of the tokens, or builds what they describe. -/
theorem read_eq (opened : List Nat) (position skip : Nat) (cs : List Char) :
    read opened position skip cs =
      match firstFault? opened (tokens position skip cs) with
      | some fault => .error fault
      | none => .ok (build (tokens position skip cs)) := by
  -- a part that is read keeps a fault of the rest and builds onto it otherwise
  have hmap : ∀ (fault? : Option Fault) (f : List Template → List Template) (ts : List Template),
      (match fault? with | some fault => Except.error fault | none => Except.ok ts).map f =
        match fault? with | some fault => Except.error fault | none => Except.ok (f ts) := by
    rintro (_ | fault) f ts <;> rfl
  induction cs generalizing opened position skip with
  | nil => cases skip <;> cases opened <;> rfl
  | cons c cs ih =>
    cases skip with
    | succ k => exact ih ..
    | zero =>
      by_cases hopening : c = '('
      · subst hopening
        simp only [read, tokens, firstFault?, build, head?_tokens, reduceIte]
        split
        · rfl
        · rw [ih, hmap]
      · by_cases hclosing : c = ')'
        · subst hclosing
          simp only [read, tokens, firstFault?, build, hopening, reduceIte]
          cases opened with
          | nil => rfl
          | cons start outer =>
            dsimp only
            rw [ih, hmap]
        · by_cases hescape : c = '\\'
          · subst hescape
            simp only [read, tokens, hopening, hclosing, reduceIte]
            cases cs with
            | nil => rfl
            | cons d ds =>
              dsimp only
              rw [ih, hmap]
              rfl
          · simp only [read, tokens, hopening, hclosing, hescape, reduceIte, enclosedName?_eq]
            by_cases hname : c = '<' ∧ cs.find? isBracket = some '>'
            · simp only [hname.1, hname.2, and_self, reduceIte, firstFault?, fault?_name, build]
              cases nameFault? position (cs.takeWhile (· != '>')) with
              | some fault => rfl
              | none =>
                dsimp only [Option.none_or]
                rw [ih, hmap]
            · have hliteral : (if c = '<' then
                  if cs.find? isBracket = some '>' then some (cs.takeWhile (· != '>')) else none
                  else none) = none := by
                split
                · exact if_neg fun h => hname ⟨‹_›, h⟩
                · rfl
              rw [hliteral, if_neg hname]
              dsimp only
              rw [ih, hmap]
              rfl

/-! ## Tokens in front of a rest -/

theorem utf8ByteSize_ofList_cons (c : Char) (cs : List Char) :
    (String.ofList (c :: cs)).utf8ByteSize = c.utf8Size + (String.ofList cs).utf8ByteSize := by
  rw [String.ofList_cons, String.utf8ByteSize_append, String.utf8ByteSize_singleton]

theorem tokens_opening (position : Nat) (rest : List Char) :
    tokens position 0 ('(' :: rest) = ⟨position, .opening⟩ :: tokens (position + 1) 0 rest := rfl

theorem tokens_closing (position : Nat) (rest : List Char) :
    tokens position 0 (')' :: rest) = ⟨position, .closing⟩ :: tokens (position + 1) 0 rest := rfl

/-- Characters that have been read already move the position by their bytes. -/
theorem tokens_skip (position : Nat) (done rest : List Char) :
    tokens position done.length (done ++ rest) =
      tokens (position + (String.ofList done).utf8ByteSize) 0 rest := by
  induction done generalizing position with
  | nil => rfl
  | cons c cs ih =>
    rw [utf8ByteSize_ofList_cons, ← Nat.add_assoc, ← ih]
    rfl

/-- A valid name in angle brackets is one token. -/
theorem tokens_name {p : String} (hp : isName p.toList = true) (position : Nat)
    (rest : List Char) :
    tokens position 0 ('<' :: (p.toList ++ '>' :: rest)) =
      ⟨position, .name p.toList⟩ :: tokens (position + p.utf8ByteSize + 2) 0 rest := by
  have hends : ∀ c ∈ p.toList, (c != '>') = true := fun c hc => by
    simpa using ne_of_isNamePart (isNamePart_of_mem hp c hc) rfl
  have hname : (p.toList ++ '>' :: rest).takeWhile (· != '>') = p.toList := by
    simp [List.takeWhile_append_of_pos hends]
  have hfind : (p.toList ++ '>' :: rest).find? isBracket = some '>' := by
    have := enclosedName?_append (isNamePart_of_mem hp) rest
    rw [enclosedName?_eq] at this
    split at this
    · rename_i h
      exact h
    · cases this
  have hskip := tokens_skip (position + 1) (p.toList ++ ['>']) rest
  have hsize : (String.ofList (p.toList ++ ['>'])).utf8ByteSize = p.utf8ByteSize + 1 := by
    rw [String.ofList_append, String.ofList_toList, String.utf8ByteSize_append]
    rfl
  rw [List.append_assoc, List.length_append, hsize] at hskip
  simp only [tokens, hfind, hname, Char.reduceEq, if_false, and_self, if_true]
  rw [show position + p.utf8ByteSize + 2 = position + 1 + (p.utf8ByteSize + 1) by omega, ← hskip]
  rfl

/-! ## What is built -/

theorem build_ne_nil (ts : List Token) : build ts ≠ [] := by
  induction ts with
  | nil => simp [build]
  | cons t ts ih =>
    obtain ⟨position, mark⟩ := t
    obtain ⟨s, ss, hs⟩ := List.exists_cons_of_ne_nil ih
    cases mark <;> simp only [build, hs, onFirst, ne_eq, reduceCtorEq, not_false_eq_true]
    cases ss <;> simp [enclose]

theorem placeholders_consChar (c : Char) (t : Template) :
    (consChar c t).placeholders = t.placeholders := by
  cases t <;> rfl

/-- The placeholders of all sequences are the names among the tokens. -/
theorem flatMap_placeholders_build (ts : List Token) :
    (build ts).flatMap placeholders = nameTokens ts := by
  induction ts with
  | nil => rfl
  | cons t ts ih =>
    obtain ⟨position, mark⟩ := t
    obtain ⟨s, ss, hs⟩ := List.exists_cons_of_ne_nil (build_ne_nil ts)
    rw [hs, List.flatMap_cons] at ih
    cases mark with
    | opening =>
      simp only [build, hs]
      cases ss with
      | nil => simpa [enclose, nameTokens] using ih
      | cons u us => simpa [enclose, nameTokens, placeholders] using ih
    | closing => simpa [build, hs, nameTokens, placeholders] using ih
    | name cs => simpa [build, hs, onFirst, nameTokens, placeholders] using ih
    | character c => simpa [build, hs, onFirst, nameTokens, placeholders_consChar] using ih
    | loneEscape => simpa [build, hs, nameTokens] using ih

/-- Without a fault, just the groups that were open in front of the tokens are closed. -/
theorem length_build {opened : List Nat} {ts : List Token} (h : firstFault? opened ts = none) :
    (build ts).length = opened.length + 1 := by
  induction ts generalizing opened with
  | nil =>
    cases opened with
    | nil => rfl
    | cons start outer => cases h
  | cons t ts ih =>
    obtain ⟨position, mark⟩ := t
    cases mark with
    | opening =>
      simp only [firstFault?] at h
      split at h
      · cases h
      · have hlen := ih h
        simp only [build]
        match build ts, hlen with
        | s :: u :: us, hlen => simpa [enclose] using hlen
    | closing =>
      cases opened with
      | nil => cases h
      | cons start outer => simpa [build] using ih h
    | name cs =>
      simp only [firstFault?, Option.or_eq_none_iff] at h
      have hlen := ih h.2
      simp only [build]
      match build ts, hlen with
      | s :: ss, hlen => simpa [onFirst] using hlen
    | character c =>
      simp only [firstFault?, Option.or_eq_none_iff] at h
      have hlen := ih h.2
      simp only [build]
      match build ts, hlen with
      | s :: ss, hlen => simpa [onFirst] using hlen
    | loneEscape => cases h

/-! ## Verdicts -/

theorem duplicate?_eq_repeated? {seen : List String} (before : List (String × Nat))
    (h : ∀ n, n ∈ seen ↔ n ∈ before.map (·.1)) (ps : List (String × Nat)) :
    duplicate? seen ps = repeated? before ps := by
  induction ps generalizing seen before with
  | nil => rfl
  | cons p ps ih =>
    rw [duplicate?, repeated?]
    simp only [List.contains_iff_mem, h]
    split
    · rfl
    · refine ih _ fun n => ?_
      rw [List.map_append, List.mem_append, List.mem_cons, h, or_comm]
      simp

/-- Reading a text by its tokens. -/
theorem parse_eq (text : String) :
    parse text =
      match firstFault? [] (tokensOf text) with
      | some fault => .error ⟨text, fault⟩
      | none =>
        match repeated? [] (nameTokens (tokensOf text)) with
        | some (name, start) => .error ⟨text, .duplicatePlaceholder name start⟩
        | none => .ok ((build (tokensOf text)).headD empty) := by
  have hread : read [] 0 0 text.toList = _ := read_eq [] 0 0 text.toList
  have htokens : tokens 0 0 text.toList = tokensOf text := rfl
  cases hf : firstFault? [] (tokensOf text) with
  | some fault =>
    rw [htokens, hf] at hread
    rw [parse, hread]
  | none =>
    obtain ⟨t, ht⟩ := List.length_eq_one_iff.1 (length_build hf)
    have hnames : t.placeholders = nameTokens (tokensOf text) := by
      simpa [ht] using flatMap_placeholders_build (tokensOf text)
    have hdup : duplicate? [] t.placeholders = repeated? [] (nameTokens (tokensOf text)) :=
      hnames ▸ duplicate?_eq_repeated? [] (by simp) _
    rw [htokens, hf, ht] at hread
    rw [parse, hread, ht]
    dsimp only [List.headD_cons]
    rewrite [hdup]
    cases repeated? [] (nameTokens (tokensOf text)) <;> rfl

/-- The reader accepts and refuses as the checker does. -/
theorem map_parse_eq_check (text : String) : (parse text).map (fun _ => ()) = check text := by
  rw [parse_eq, check]
  cases firstFault? [] (tokensOf text) with
  | some fault => rfl
  | none => cases repeated? [] (nameTokens (tokensOf text)) <;> rfl

/-- A template that is read is the only sequence that its tokens describe. -/
theorem build_of_parse {text : String} {t : Template} (h : parse text = .ok t) :
    firstFault? [] (tokensOf text) = none ∧ build (tokensOf text) = [t] := by
  rw [parse_eq] at h
  split at h
  · cases h
  · rename_i hf
    split at h
    · cases h
    · cases h
      match build (tokensOf text), length_build hf with
      | [u], _ => exact ⟨hf, rfl⟩

theorem placeholders_of_parse {text : String} {t : Template} (h : parse text = .ok t) :
    t.placeholders = nameTokens (tokensOf text) := by
  rw [← flatMap_placeholders_build, (build_of_parse h).2]
  simp

end Signpost.Template
