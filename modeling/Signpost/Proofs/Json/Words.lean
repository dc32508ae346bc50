import Signpost.Json.Token
import Signpost.Json.Writer

/-!
# The words of written values

What the text of a value is made of. Every value has its `words`, and the words of the text that is
written for it are just those (`Proper.readsAsWords`), whatever follows the text, as long as
that does not go on with a number. The one condition is on the numbers in the value: each keeps a
text that is a number by the grammar (`Proper`).

A string is read back character by character: each one is escaped on its own, and its escape reads
as one part of a string (`tokensFrom_escape`).
-/

namespace Signpost.Json

mutual

/-- The words that a value is written with. -/
def words : Json → List Token
  | null => [.null]
  | bool b => [.bool b]
  | number literal => [.number literal]
  | string text => [.string (some text)]
  | broken => [.string none]
  | array items => .beginArray :: wordsOfItems items
  | object fields => .beginObject :: wordsOfFields fields

def wordsOfItems : List Json → List Token
  | [] => [.endArray]
  | [item] => words item ++ [.endArray]
  | item :: items => words item ++ .comma :: wordsOfItems items

def wordsOfFields : List (String × Json) → List Token
  | [] => [.endObject]
  | [(key, value)] => .string (some key) :: .colon :: words value ++ [.endObject]
  | (key, value) :: fields =>
    .string (some key) :: .colon :: words value ++ .comma :: wordsOfFields fields

end

/-- The values whose numbers are numbers by the grammar. -/
inductive Proper : Json → Prop
  | null : Proper null
  | bool (b : Bool) : Proper (bool b)
  | number {literal : String} : isNumber literal.toList = true → Proper (number literal)
  | string (text : String) : Proper (string text)
  | broken : Proper broken
  | array {items : List Json} : (∀ j ∈ items, Proper j) → Proper (array items)
  | object {fields : List (String × Json)} : (∀ f ∈ fields, Proper f.2) → Proper (object fields)

/-! ## One word -/

/-- A character that is a word by itself, or begins one that has a spelling of its own. -/
theorem tokensFrom_word {c : Char} {cs : List (Option Char)} {t : Token} {k : Nat}
    {ts : List Token} (h : wordStep c cs = some ⟨some t, .between, k⟩)
    (hcs : tokensFrom .between k cs = some ts) :
    tokensFrom .between 0 (some c :: cs) = some (t :: ts) := by
  simp only [tokensFrom, Mode.step, h, hcs]
  rfl

/-- A character with which no word ends. -/
theorem tokensFrom_silent {mode next : Mode} {c : Char} {cs : List (Option Char)} {k : Nat}
    (h : mode.step (some c) cs = some ⟨none, next, k⟩) :
    tokensFrom mode 0 (some c :: cs) = tokensFrom next k cs := by
  simp [tokensFrom, h]

/-! ## Numbers -/

theorem isNumberChar_of_isDigit {c : Char} (h : c.isDigit = true) : isNumberChar c = true := by
  simp [isNumberChar, h]

theorem isNumberChar_of_isExponent {cs : List Char} (h : isExponent cs = true) :
    ∀ c ∈ cs, isNumberChar c = true := by
  cases cs with
  | nil => exact fun _ hc => nomatch hc
  | cons e cs =>
    simp only [isExponent, Bool.and_eq_true, Bool.or_eq_true, beq_iff_eq, List.all_eq_true] at h
    obtain ⟨⟨he, -⟩, hdigits⟩ := h
    refine List.forall_mem_cons.2 ⟨by rcases he with rfl | rfl <;> rfl, fun c hc => ?_⟩
    split at hdigits
    · rename_i hsign
      cases cs with
      | nil => cases hc
      | cons s cs =>
        rcases List.mem_cons.1 hc with rfl | hc
        · simp only [List.head?_cons, Option.some.injEq] at hsign
          rcases hsign with rfl | rfl <;> rfl
        · exact isNumberChar_of_isDigit (hdigits c hc)
    · exact isNumberChar_of_isDigit (hdigits c hc)

/-- Digits are characters of a number, and so is what follows them if that is. -/
theorem isNumberChar_of_dropWhile {cs : List Char}
    (h : ∀ c ∈ cs.dropWhile Char.isDigit, isNumberChar c = true) :
    ∀ c ∈ cs, isNumberChar c = true := by
  induction cs with
  | nil => exact fun _ hc => nomatch hc
  | cons d cs ih =>
    cases hd : d.isDigit with
    | true =>
      rw [List.dropWhile_cons_of_pos hd] at h
      exact List.forall_mem_cons.2 ⟨isNumberChar_of_isDigit hd, ih h⟩
    | false => rwa [List.dropWhile_cons_of_neg (by simp [hd])] at h

theorem isNumberChar_of_isFraction {cs : List Char} (h : isFraction cs = true) :
    ∀ c ∈ cs, isNumberChar c = true := by
  unfold isFraction at h
  split at h
  · rw [Bool.and_eq_true] at h
    exact List.forall_mem_cons.2
      ⟨rfl, isNumberChar_of_dropWhile (isNumberChar_of_isExponent h.2)⟩
  · exact isNumberChar_of_isExponent h

/-- A number begins with a digit or a minus sign, and goes on with characters of a number. -/
theorem exists_cons_of_isNumber {cs : List Char} (h : isNumber cs = true) :
    ∃ c ds, cs = c :: ds ∧ (c.isDigit || c == '-') = true ∧
      ∀ d ∈ ds, isNumberChar d = true := by
  -- the digits behind the sign, if there is one
  have hunsigned : ∀ (c : Char) (ds : List Char),
      (if c = '0' then isFraction ds else
        c.isDigit && isFraction (ds.dropWhile Char.isDigit)) = true →
      c.isDigit = true ∧ ∀ d ∈ ds, isNumberChar d = true := by
    intro c ds hc
    split at hc
    · rename_i hzero
      exact ⟨hzero ▸ rfl, isNumberChar_of_isFraction hc⟩
    · rw [Bool.and_eq_true] at hc
      exact ⟨hc.1, isNumberChar_of_dropWhile (isNumberChar_of_isFraction hc.2)⟩
  cases cs with
  | nil => cases h
  | cons c cs =>
    refine ⟨c, cs, rfl, ?_⟩
    by_cases hsign : c = '-'
    · subst hsign
      cases cs with
      | nil => cases h
      | cons d ds =>
        obtain ⟨hd, hds⟩ := hunsigned d ds h
        exact ⟨rfl, List.forall_mem_cons.2 ⟨isNumberChar_of_isDigit hd, hds⟩⟩
    · have hhead : ¬ (c :: cs).head? = some '-' := by simpa using hsign
      rw [isNumber, if_neg hhead] at h
      obtain ⟨hc, hcs⟩ := hunsigned c cs h
      exact ⟨by simp [hc], hcs⟩

/-- Whether a text goes on with a character of a number. -/
def goesOn (rest : List (Option Char)) : Bool := rest.head?.join.any isNumberChar

section
variable {rest : List (Option Char)} {ts : List Token} (hrest : goesOn rest = false)
  (hts : tokensFrom .between 0 rest = some ts)
include hrest hts

/-- A number is read to its end, and is the word of all its characters. -/
theorem tokensFrom_numberStep {cs : List Char} (hcs : ∀ c ∈ cs, isNumberChar c = true)
    (read : List Char) (hnumber : isNumber (read.reverse ++ cs) = true) :
    ∃ s, numberStep read (cs.map some ++ rest) = some s ∧
      (tokensFrom s.mode s.skip (cs.map some ++ rest)).map (s.token.toList ++ ·) =
        some (.number (String.ofList (read.reverse ++ cs)) :: ts) := by
  induction cs generalizing read with
  | nil =>
    rw [List.append_nil] at hnumber ⊢
    refine ⟨⟨some (.number (String.ofList read.reverse)), .between, 0⟩, ?_, ?_⟩
    · have hhead : rest.head?.join.any isNumberChar = false := hrest
      rw [List.map_nil, List.nil_append, numberStep, hhead, if_neg (by simp), if_pos hnumber]
    · rw [List.map_nil, List.nil_append, hts]
      rfl
  | cons c cs ih =>
    obtain ⟨hc, hcs⟩ := List.forall_mem_cons.1 hcs
    have happend : read.reverse ++ c :: cs = (c :: read).reverse ++ cs := by simp
    rw [happend] at hnumber ⊢
    obtain ⟨s, hs, htokens⟩ := ih hcs (c :: read) hnumber
    have hhead : ((c :: cs).map some ++ rest).head?.join.any isNumberChar = true := hc
    refine ⟨⟨none, .inNumber read, 0⟩, ?_, ?_⟩
    · rw [numberStep, hhead, if_pos rfl]
    · have hstep : tokensFrom (.inNumber read) 0 ((c :: cs).map some ++ rest) =
          (tokensFrom s.mode s.skip (cs.map some ++ rest)).map (s.token.toList ++ ·) := by
        simp only [List.map_cons, List.cons_append, tokensFrom, Mode.step, hs]
      rw [hstep, htokens]
      rfl

/-- A number is one word, if what follows is no part of it. -/
theorem tokensFrom_number {literal : String} (h : isNumber literal.toList = true) :
    tokensFrom .between 0 (literal.toList.map some ++ rest) = some (.number literal :: ts) := by
  obtain ⟨c, ds, hcs, hc, hds⟩ := exists_cons_of_isNumber h
  have hliteral : String.ofList ([c].reverse ++ ds) = literal := by
    rw [List.reverse_singleton, List.singleton_append, ← hcs, String.ofList_toList]
  rw [hcs] at h ⊢
  obtain ⟨s, hs, htokens⟩ := tokensFrom_numberStep hrest hts hds [c] h
  have hblank : isBlank c = false := by
    cases hb : isBlank c with
    | false => rfl
    | true =>
      simp only [isBlank, Bool.or_eq_true, beq_iff_eq] at hb
      rcases hb with ((rfl | rfl) | rfl) | rfl <;> cases hc
  have hquote : c ≠ '"' := by
    rintro rfl
    cases hc
  have hstep : wordStep c (ds.map some ++ rest) = some s := by
    rw [wordStep, hblank, if_neg (by simp), if_neg hquote, if_pos hc, hs]
  rw [← hliteral, ← htokens]
  simp only [List.map_cons, List.cons_append, tokensFrom, Mode.step, hstep]

end

/-! ## Strings -/

/-- The part of a string that the escape of a character reads as. -/
def partOf (c : Char) : StringPart :=
  if c.toNat < 0x20 ∧ c ∉ ['\x08', '\x0c', '\n', '\r', '\t'] then .unit c.toNat else .char c

theorem hexValue?_hexDigit {n : Nat} (h : n < 16) : hexValue? (hexDigit n) = some n := by
  have hall : ∀ n < 16, hexValue? (hexDigit n) = some n := by decide
  exact hall n h

theorem fourDigits?_hexDigit {n : Nat} (h : n < 256) (rest : List (Option Char)) :
    fourDigits? (some '0' :: some '0' :: some (hexDigit (n / 16)) :: some (hexDigit (n % 16)) ::
      rest) = some n := by
  have hzero : hexValue? '0' = some 0 := rfl
  rw [fourDigits?, hzero, hexValue?_hexDigit (by omega), hexValue?_hexDigit (by omega)]
  simp only [Option.bind_eq_bind, Option.bind_some, Option.pure_def, Option.some.injEq]
  omega

theorem tokensFrom_simpleEscape (parts : List StringPart) {e c : Char} (he : e ≠ 'u')
    (h : simpleEscape? e = some c) (rest : List (Option Char)) :
    tokensFrom (.inString parts) 0 (some '\\' :: some e :: rest) =
      tokensFrom (.inString (.char c :: parts)) 0 rest := by
  have hread : escapeStep parts (some e :: rest) = some ⟨none, .inString (.char c :: parts), 1⟩ := by
    rw [escapeStep, h, Option.map_some]
    exact he
  exact tokensFrom_silent (k := 1) hread

/-- The escape of a character is read as its part of the string. -/
theorem tokensFrom_escape (parts : List StringPart) (c : Char) (rest : List (Option Char)) :
    tokensFrom (.inString parts) 0 ((escape c).map some ++ rest) =
      tokensFrom (.inString (partOf c :: parts)) 0 rest := by
  by_cases hquote : c = '"'
  · subst hquote
    exact tokensFrom_simpleEscape parts (by decide) rfl rest
  by_cases hbackslash : c = '\\'
  · subst hbackslash
    exact tokensFrom_simpleEscape parts (by decide) rfl rest
  by_cases hletter : c ∈ ['\x08', '\x0c', '\n', '\r', '\t']
  · simp only [List.mem_cons, List.not_mem_nil, or_false] at hletter
    rcases hletter with rfl | rfl | rfl | rfl | rfl
    · exact tokensFrom_simpleEscape parts (e := 'b') (by decide) rfl rest
    · exact tokensFrom_simpleEscape parts (e := 'f') (by decide) rfl rest
    · exact tokensFrom_simpleEscape parts (e := 'n') (by decide) rfl rest
    · exact tokensFrom_simpleEscape parts (e := 'r') (by decide) rfl rest
    · exact tokensFrom_simpleEscape parts (e := 't') (by decide) rfl rest
  have hletters := hletter
  simp only [List.mem_cons, List.not_mem_nil, or_false, not_or] at hletters
  obtain ⟨hb, hf, hn, hr, ht⟩ := hletters
  rw [escape, if_neg hquote, if_neg hbackslash, if_neg hb, if_neg hf, if_neg hn, if_neg hr,
    if_neg ht]
  split
  · rename_i hcontrol
    have hpart : partOf c = .unit c.toNat := if_pos ⟨hcontrol, hletter⟩
    have hread : escapeStep parts (some 'u' :: some '0' :: some '0' ::
        some (hexDigit (c.toNat / 16)) :: some (hexDigit (c.toNat % 16)) :: rest) =
          some ⟨none, .inString (.unit c.toNat :: parts), 5⟩ := by
      rw [escapeStep, fourDigits?_hexDigit (by omega)]
      rfl
    rw [hpart]
    exact tokensFrom_silent (k := 5) hread
  · rename_i hcontrol
    have hpart : partOf c = .char c := if_neg fun h => hcontrol h.1
    have hread : stringStep parts c rest = some ⟨none, .inString (.char c :: parts), 0⟩ := by
      rw [stringStep, if_neg hquote, if_neg hbackslash, if_neg hcontrol]
    rw [hpart]
    exact tokensFrom_silent (k := 0) hread

/-- The parts that the characters of a text read as make up the text. -/
theorem textOf?_map_partOf (cs : List Char) : textOf? none (cs.map partOf) = some cs := by
  induction cs with
  | nil => rfl
  | cons c cs ih =>
    rw [List.map_cons, partOf]
    split
    · rename_i hcontrol
      have hhigh : isHighHalf c.toNat = false := by
        simp only [isHighHalf, Bool.and_eq_false_iff, decide_eq_false_iff_not]
        omega
      have hlow : isLowHalf c.toNat = false := by
        simp only [isLowHalf, Bool.and_eq_false_iff, decide_eq_false_iff_not]
        omega
      simp [textOf?, hhigh, hlow, ih]
    · simp [textOf?, ih]

theorem tokensFrom_inString (parts : List StringPart) (cs : List Char)
    (rest : List (Option Char)) :
    tokensFrom (.inString parts) 0 ((cs.flatMap escape).map some ++ some '"' :: rest) =
      (tokensFrom .between 0 rest).map
        (.string ((textOf? none (parts.reverse ++ cs.map partOf)).map String.ofList) :: ·) := by
  induction cs generalizing parts with
  | nil =>
    rw [List.map_nil, List.append_nil]
    rfl
  | cons c cs ih =>
    rw [List.flatMap_cons, List.map_append, List.append_assoc, tokensFrom_escape, ih,
      List.reverse_cons, List.map_cons, List.append_assoc, List.singleton_append]

/-- A quoted text is one word. -/
theorem tokensFrom_quote (s : String) {rest : List (Option Char)} {ts : List Token}
    (hts : tokensFrom .between 0 rest = some ts) :
    tokensFrom .between 0 ((quote s).map some ++ rest) = some (.string (some s) :: ts) := by
  have hopen : tokensFrom .between 0 ((quote s).map some ++ rest) =
      tokensFrom (.inString []) 0 ((s.toList.flatMap escape).map some ++ some '"' :: rest) := by
    have hquote : (quote s).map some ++ rest =
        some '"' :: ((s.toList.flatMap escape).map some ++ some '"' :: rest) := by
      simp [quote]
    rw [hquote]
    exact tokensFrom_silent rfl
  rw [hopen, tokensFrom_inString, List.reverse_nil, List.nil_append, textOf?_map_partOf, hts,
    Option.map_some, Option.map_some, String.ofList_toList]

/-! ## Values -/

/-- Whether the words of a value are those of its text, whatever comes behind. -/
def ReadsAsWords (j : Json) : Prop :=
  ∀ rest ts, goesOn rest = false → tokensFrom .between 0 rest = some ts →
    tokensFrom .between 0 (j.render.map some ++ rest) = some (j.words ++ ts)

section
variable {rest : List (Option Char)} {ts : List Token}
  (hts : tokensFrom .between 0 rest = some ts)
include hts

theorem tokensFrom_renderItems {items : List Json} (h : ∀ j ∈ items, ReadsAsWords j) :
    tokensFrom .between 0 ((renderItems items).map some ++ rest) =
      some (wordsOfItems items ++ ts) := by
  have hend : tokensFrom .between 0 (some ']' :: rest) = some (.endArray :: ts) :=
    tokensFrom_word rfl hts
  induction items with
  | nil => exact hend
  | cons item items ih =>
    obtain ⟨hitem, hitems⟩ := List.forall_mem_cons.1 h
    cases items with
    | nil =>
      have hread := hitem (some ']' :: rest) _ rfl hend
      simpa [renderItems, wordsOfItems] using hread
    | cons next items =>
      have hcomma := tokensFrom_word (c := ',') (t := .comma) rfl (ih hitems)
      have hread := hitem _ _ rfl hcomma
      simpa [renderItems_cons_cons, wordsOfItems] using hread

theorem tokensFrom_renderFields {fields : List (String × Json)}
    (h : ∀ f ∈ fields, ReadsAsWords f.2) :
    tokensFrom .between 0 ((renderFields fields).map some ++ rest) =
      some (wordsOfFields fields ++ ts) := by
  have hend : tokensFrom .between 0 (some '\x7d' :: rest) = some (.endObject :: ts) :=
    tokensFrom_word rfl hts
  induction fields with
  | nil => exact hend
  | cons field fields ih =>
    obtain ⟨key, value⟩ := field
    obtain ⟨hvalue, hfields⟩ := List.forall_mem_cons.1 h
    cases fields with
    | nil =>
      have hread := hvalue (some '\x7d' :: rest) _ rfl hend
      have hcolon := tokensFrom_word (c := ':') (t := .colon) rfl hread
      have hkey := tokensFrom_quote key hcolon
      simpa [renderFields, wordsOfFields] using hkey
    | cons next fields =>
      have hcomma := tokensFrom_word (c := ',') (t := .comma) rfl (ih hfields)
      have hread := hvalue _ _ rfl hcomma
      have hcolon := tokensFrom_word (c := ':') (t := .colon) rfl hread
      have hkey := tokensFrom_quote key hcolon
      simpa [renderFields_cons_cons, wordsOfFields] using hkey

end

/-- The words of the text of a value are those of the value. -/
theorem Proper.readsAsWords {j : Json} (h : Proper j) : ReadsAsWords j := by
  induction h with
  | null => exact fun _ _ _ hts => tokensFrom_word (c := 'n') (k := 3) rfl hts
  | bool b =>
    cases b with
    | false => exact fun _ _ _ hts => tokensFrom_word (c := 'f') (k := 4) rfl hts
    | true => exact fun _ _ _ hts => tokensFrom_word (c := 't') (k := 3) rfl hts
  | number hnumber =>
    intro rest ts hrest hts
    rw [render_number]
    exact tokensFrom_number hrest hts hnumber
  | string text =>
    intro rest ts _ hts
    rw [render_string]
    exact tokensFrom_quote text hts
  | broken =>
    intro rest ts _ hts
    let digits := some 'u' :: some 'd' :: some '8' :: some '0' :: some '0' :: some '"' :: rest
    have hhalf : tokensFrom (.inString []) 0 (some '\\' :: digits) =
        tokensFrom (.inString [.unit 0xd800]) 5 digits := tokensFrom_silent rfl
    have hclose : tokensFrom (.inString [.unit 0xd800]) 5 digits =
        some (.string none :: ts) := by
      simp [digits, tokensFrom, Mode.step, stringStep, hts]
      rfl
    exact (tokensFrom_silent (k := 0) rfl).trans (hhalf.trans hclose)
  | array _ ih =>
    intro rest ts _ hts
    rw [render_array]
    exact tokensFrom_word rfl (tokensFrom_renderItems hts ih)
  | object _ ih =>
    intro rest ts _ hts
    rw [render_object]
    exact tokensFrom_word rfl (tokensFrom_renderFields hts ih)

theorem Proper.tokens?_render {j : Json} (h : Proper j) :
    tokens? (j.render.map some) = some j.words := by
  have hread := h.readsAsWords [] [] rfl rfl
  simpa [tokens?] using hread

end Signpost.Json
