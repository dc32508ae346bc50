import Mathlib.Data.List.Basic
import Signpost.Json.Token
import Signpost.Percent
import Signpost.Proofs.Template.Name

/-!
# Values that are percent-encoded

A value is encoded byte by byte, and then the codes of the two separators are replaced in the text
that this makes. A code begins with a percent sign and holds no other one, so a place of a code in the
text is a code that was written there, and replacing it changes how its byte is written and nothing
else (`replace_flatMap`). So a value is written character by character (`toList_encode`), its bytes can
be read off what is written (`decodeBytes_encode`), and it has the same separators before and after
(`splitOn_flatMap`).
-/

namespace Signpost.Percent

/-! ## Bytes -/

theorem hexValue?_hexDigit {n : Nat} (h : n < 16) : Json.hexValue? (hexDigit n) = some n := by
  have hall : ∀ n < 16, Json.hexValue? (hexDigit n) = some n := by decide
  exact hall n h

theorem hexDigit_ne {n : Nat} (h : n < 16) {c : Char} (hc : Json.hexValue? c = none) :
    hexDigit n ≠ c := by
  rintro rfl
  cases hc.symm.trans (hexValue?_hexDigit h)

theorem high_lt (b : UInt8) : b.toNat / 16 < 16 := by
  have := b.toNat_lt
  omega

theorem low_lt (b : UInt8) : b.toNat % 16 < 16 := Nat.mod_lt _ (by decide)

/-- The byte that a percent sign and two hexadecimal digits at the front of a text stand for. -/
def codedByte? : List Char → Option UInt8
  | '%' :: high :: low :: _ => do
    return .ofNat (16 * (← Json.hexValue? high) + (← Json.hexValue? low))
  | _ => none

theorem codedByte?_encodeByte (b : UInt8) (rest : List Char) :
    codedByte? (encodeByte b ++ rest) = some b := by
  have hparts : 16 * (b.toNat / 16) + b.toNat % 16 = b.toNat := Nat.div_add_mod ..
  have hvalue : codedByte? (encodeByte b ++ rest) =
      some (.ofNat (16 * (b.toNat / 16) + b.toNat % 16)) := by
    simp [codedByte?, encodeByte, hexValue?_hexDigit (high_lt b), hexValue?_hexDigit (low_lt b)]
  rw [hvalue, hparts, UInt8.ofNat_toNat]

theorem codedByte?_cons {c : Char} (h : c ≠ '%') (cs : List Char) : codedByte? (c :: cs) = none := by
  unfold codedByte?
  split
  · rename_i heq
    exact absurd (List.cons.inj heq).1 h
  · rfl

/-! ## Separators that are put back -/

theorem replace_char {p : UInt8} {c : Char} (h : c ≠ '%') (new rest : List Char) :
    Text.replace (encodeByte p) new (c :: rest) = c :: Text.replace (encodeByte p) new rest := by
  refine Text.replace_cons (fun hp => h ?_) new
  exact (List.cons_prefix_cons.1 hp).1.symm

/-- The code of a byte is found just where that byte was encoded: no code begins inside of another
one. -/
theorem replace_encodeByte (p b : UInt8) (new rest : List Char) :
    Text.replace (encodeByte p) new (encodeByte b ++ rest) =
      (if b = p then new else encodeByte b) ++ Text.replace (encodeByte p) new rest := by
  split
  · rename_i hb
    exact hb ▸ Text.replace_append (List.cons_ne_nil _ _) new rest
  · rename_i hb
    have hother : ¬ encodeByte p <+: encodeByte b ++ rest := by
      rintro ⟨tail, htail⟩
      have hcode := codedByte?_encodeByte p tail
      rw [htail, codedByte?_encodeByte] at hcode
      exact hb (Option.some.inj hcode)
    calc Text.replace (encodeByte p) new (encodeByte b ++ rest)
      _ = '%' :: Text.replace (encodeByte p) new
            (hexDigit (b.toNat / 16) :: hexDigit (b.toNat % 16) :: rest) :=
          Text.replace_cons hother new
      _ = encodeByte b ++ Text.replace (encodeByte p) new rest := by
          rw [replace_char (hexDigit_ne (high_lt b) rfl), replace_char (hexDigit_ne (low_lt b) rfl)]
          rfl

/-- Writes every byte as its code or as a character that begins no code. -/
def IsWriter (f : UInt8 → List Char) : Prop :=
  ∀ b, f b = encodeByte b ∨ ∃ c, c ≠ '%' ∧ f b = [c]

theorem isWriter_writeByte : IsWriter writeByte := by
  intro b
  unfold writeByte
  split
  · rename_i hb
    refine .inr ⟨_, ?_, rfl⟩
    intro hc
    rw [hc] at hb
    cases hb
  · exact .inl rfl

theorem IsWriter.update {f : UInt8 → List Char} (hf : IsWriter f) (p : UInt8) {c : Char}
    (hc : c ≠ '%') : IsWriter (Function.update f p [c]) := by
  intro b
  by_cases hb : b = p
  · subst hb
    exact .inr ⟨c, hc, Function.update_self ..⟩
  · rw [Function.update_of_ne hb]
    exact hf b

/-- Replacing the code of a byte changes how that byte is written, and nothing else. -/
theorem replace_flatMap {f : UInt8 → List Char} (hf : IsWriter f) {p : UInt8}
    (hp : f p = encodeByte p) (new : List Char) (bs : List UInt8) :
    Text.replace (encodeByte p) new (bs.flatMap f) = bs.flatMap (Function.update f p new) := by
  induction bs with
  | nil => rfl
  | cons b bs ih =>
    rw [List.flatMap_cons, List.flatMap_cons, ← ih]
    by_cases hb : b = p
    · subst hb
      rw [hp, replace_encodeByte, if_pos rfl, Function.update_self]
    · rw [Function.update_of_ne hb]
      rcases hf b with hcode | ⟨c, hc, hchar⟩
      · rw [hcode, replace_encodeByte, if_neg hb]
      · rw [hchar]
        exact replace_char hc new _

/-- A byte as it stands in a path. -/
def pathByte : UInt8 → List Char :=
  Function.update (Function.update writeByte '/'.toUInt8 ['/']) '\\'.toUInt8 ['\\']

/-- A value is written byte by byte. -/
theorem toList_encode_bytes (s : String) :
    (encode s).toList = s.toUTF8.data.toList.flatMap pathByte := by
  have hslash : "%2F".toList = encodeByte '/'.toUInt8 := by decide
  have hbackslash : "%5C".toList = encodeByte '\\'.toUInt8 := by decide
  have hwriter : IsWriter (Function.update writeByte '/'.toUInt8 ['/']) :=
    isWriter_writeByte.update _ (by decide)
  rw [encode, String.toList_ofList, encodeBytes, hslash, hbackslash,
    replace_flatMap isWriter_writeByte (by decide), replace_flatMap hwriter (by decide)]
  rfl

/-! ## Characters -/

/-- The characters that stand for themselves. -/
def isKept (c : Char) : Bool := isUnreserved c || c == '/' || c == '\\'

/-- A character as it stands in a path. -/
def encodeChar (c : Char) : List Char :=
  if isKept c then [c] else (String.utf8EncodeChar c).flatMap encodeByte

theorem toNat_lt_of_isKept {c : Char} (h : isKept c = true) : c.toNat < 128 := by
  simp only [isKept, isUnreserved, Bool.or_eq_true, beq_iff_eq] at h
  rcases h with (((((h | rfl) | rfl) | rfl) | rfl) | rfl) | rfl
  · exact Template.toNat_lt_of_isAlphanum h
  all_goals decide

/-- The bytes of a character that is not one of ASCII are not characters of ASCII either. -/
theorem le_of_mem_utf8EncodeChar {c : Char} (hc : 128 ≤ c.toNat) {b : UInt8}
    (hb : b ∈ String.utf8EncodeChar c) : 128 ≤ b.toNat := by
  have hval : ¬ c.val.toNat ≤ 127 := by
    show ¬ c.toNat ≤ 127
    omega
  simp only [String.utf8EncodeChar, if_neg hval] at hb
  -- a character has two, three or four bytes then
  split at hb
  · simp only [List.mem_cons, List.not_mem_nil, or_false] at hb
    rcases hb with rfl | rfl <;> rw [UInt8.toNat_ofNat'] <;> omega
  · split at hb
    · simp only [List.mem_cons, List.not_mem_nil, or_false] at hb
      rcases hb with rfl | rfl | rfl <;> rw [UInt8.toNat_ofNat'] <;> omega
    · simp only [List.mem_cons, List.not_mem_nil, or_false] at hb
      rcases hb with rfl | rfl | rfl | rfl <;> rw [UInt8.toNat_ofNat'] <;> omega

theorem pathByte_of_le {b : UInt8} (h : 128 ≤ b.toNat) : pathByte b = encodeByte b := by
  have hall : ∀ n < 256, 128 ≤ n → pathByte (.ofNat n) = encodeByte (.ofNat n) := by decide +kernel
  have := hall b.toNat b.toNat_lt h
  rwa [UInt8.ofNat_toNat] at this

theorem flatMap_pathByte (c : Char) : (String.utf8EncodeChar c).flatMap pathByte = encodeChar c := by
  rcases Nat.lt_or_ge c.toNat 128 with hc | hc
  · exact Template.forall_ascii (P := fun c =>
      (String.utf8EncodeChar c).flatMap pathByte = encodeChar c) (by decide +kernel) hc
  · have hkept : ¬ isKept c = true := fun h => by
      have := toNat_lt_of_isKept h
      omega
    rw [encodeChar, if_neg hkept]
    exact List.flatMap_congr fun b hb => pathByte_of_le (le_of_mem_utf8EncodeChar hc hb)

theorem data_toUTF8 (s : String) : s.toUTF8.data.toList = s.toList.flatMap String.utf8EncodeChar := by
  rw [String.toUTF8, ← String.utf8Encode_toList, List.utf8Encode, List.toList_data_toByteArray]

/-- A value is written character by character. -/
theorem toList_encode (s : String) : (encode s).toList = s.toList.flatMap encodeChar := by
  rw [toList_encode_bytes, data_toUTF8, List.flatMap_assoc]
  exact List.flatMap_congr fun c _ => flatMap_pathByte c

theorem encode_append (s t : String) : encode (s ++ t) = encode s ++ encode t := by
  rw [← String.toList_inj]
  simp [toList_encode]

/-! ## Decoding -/

/-- The bytes that a text stands for, but for the next `skip` characters, which belong to a code that
was read already. A character that begins no code stands for its own bytes. -/
def decodeBytes : (skip : Nat) → List Char → List UInt8
  | _, [] => []
  | k + 1, _ :: cs => decodeBytes k cs
  | 0, c :: cs =>
    match codedByte? (c :: cs) with
    | some b => b :: decodeBytes 2 cs
    | none => String.utf8EncodeChar c ++ decodeBytes 0 cs

/-- The text that was percent-encoded, if its bytes are those of a text. -/
def decode? (s : String) : Option String :=
  String.fromUTF8? (decodeBytes 0 s.toList).toByteArray

theorem decodeBytes_encodeByte (b : UInt8) (rest : List Char) :
    decodeBytes 0 (encodeByte b ++ rest) = b :: decodeBytes 0 rest := by
  have hcode := codedByte?_encodeByte b rest
  rw [encodeByte, List.cons_append] at hcode
  rw [encodeByte, List.cons_append, decodeBytes, hcode]
  rfl

theorem decodeBytes_flatMap_encodeByte (bs : List UInt8) (rest : List Char) :
    decodeBytes 0 (bs.flatMap encodeByte ++ rest) = bs ++ decodeBytes 0 rest := by
  induction bs with
  | nil => rfl
  | cons b bs ih =>
    rw [List.flatMap_cons, List.append_assoc, decodeBytes_encodeByte, ih, List.cons_append]

theorem decodeBytes_encodeChar (c : Char) (rest : List Char) :
    decodeBytes 0 (encodeChar c ++ rest) = String.utf8EncodeChar c ++ decodeBytes 0 rest := by
  rw [encodeChar]
  split
  · rename_i hkept
    have hc : c ≠ '%' := by
      rintro rfl
      cases hkept
    rw [List.singleton_append, decodeBytes, codedByte?_cons hc]
  · exact decodeBytes_flatMap_encodeByte _ rest

/-- The bytes of a value are found again in its encoding. -/
theorem decodeBytes_encode (s : String) :
    decodeBytes 0 (encode s).toList = s.toUTF8.data.toList := by
  rw [toList_encode, data_toUTF8]
  induction s.toList with
  | nil => rfl
  | cons c cs ih => rw [List.flatMap_cons, decodeBytes_encodeChar, ih, List.flatMap_cons]

theorem decode?_eq (s : String) : decode? (encode s) = some s := by
  have hbytes : s.toUTF8.data.toList.toByteArray = s.toUTF8 := by
    rw [ByteArray.ext_iff, List.data_toByteArray]
  rw [decode?, decodeBytes_encode, hbytes]
  exact dif_pos s.isValidUTF8

/-! ## Segments -/

theorem mem_encodeChar {c d : Char} (h : d ∈ encodeChar c) :
    isKept c = true ∧ d = c ∨ d = '%' ∨ ∃ n < 16, d = hexDigit n := by
  rw [encodeChar] at h
  split at h
  · rename_i hkept
    exact .inl ⟨hkept, List.mem_singleton.1 h⟩
  · obtain ⟨b, -, hd⟩ := List.mem_flatMap.1 h
    simp only [encodeByte, List.mem_cons, List.not_mem_nil, or_false] at hd
    rcases hd with rfl | rfl | rfl
    · exact .inr (.inl rfl)
    · exact .inr (.inr ⟨_, high_lt b, rfl⟩)
    · exact .inr (.inr ⟨_, low_lt b, rfl⟩)

theorem splitOn_append {sep : Char} {v : List Char} (h : sep ∉ v) (rest : List Char) :
    (v ++ rest).splitOn sep = (rest.splitOn sep).modifyHead (v ++ ·) := by
  induction v with
  | nil =>
    rw [List.nil_append]
    cases rest.splitOn sep <;> rfl
  | cons c v ih =>
    rw [List.mem_cons, not_or] at h
    have hc : (c == sep) = false := beq_false_of_ne (Ne.symm h.1)
    rw [List.cons_append, List.splitOn_cons_eq_if_modifyHead, hc, if_neg Bool.false_ne_true,
      ih h.2, List.modifyHead_modifyHead]
    rfl

/-- If the separator is written as itself and no other character is written with it, a text is split
at the same places before and after it is written. -/
theorem splitOn_flatMap {f : Char → List Char} {sep : Char} (hsep : f sep = [sep])
    (hother : ∀ c, c ≠ sep → sep ∉ f c) (cs : List Char) :
    (cs.flatMap f).splitOn sep = (cs.splitOn sep).map (·.flatMap f) := by
  induction cs with
  | nil => rfl
  | cons c cs ih =>
    rw [List.flatMap_cons, List.splitOn_cons_eq_if_modifyHead]
    by_cases hc : c = sep
    · subst hc
      rw [hsep, List.singleton_append, List.splitOn_cons_eq_if_modifyHead, beq_self_eq_true,
        if_pos rfl, if_pos rfl, ih, List.map_cons, List.flatMap_nil]
    · obtain ⟨v, vs, hv⟩ := List.exists_cons_of_ne_nil (List.splitOn_ne_nil sep cs)
      rw [splitOn_append (hother c hc), ih, hv, if_neg (by simpa using hc), List.modifyHead_cons,
        List.map_cons, List.map_cons, List.modifyHead_cons, List.flatMap_cons]

/-- No character but a separator is written with it. -/
theorem not_mem_encodeChar {sep c : Char} (hpercent : sep ≠ '%')
    (hdigit : Json.hexValue? sep = none) (h : c ≠ sep) : sep ∉ encodeChar c := by
  intro hmem
  rcases mem_encodeChar hmem with ⟨-, hc⟩ | hc | ⟨n, hn, hc⟩
  · exact h hc.symm
  · exact hpercent hc
  · exact hexDigit_ne hn hdigit hc.symm

/-- A value is written character by character, and its characters can be read off again, so different
values are written differently. It is split by separators as it was before it was written: no text
in it that looks like the code of a separator becomes one. -/
theorem encode_reversible :
    (∀ s : String, (encode s).toList = s.toList.flatMap encodeChar) ∧
    (∀ s t : String, encode (s ++ t) = encode s ++ encode t) ∧
    (∀ s : String, decode? (encode s) = some s) ∧
    Function.Injective encode ∧
    ∀ s : String,
      (encode s).toList.splitOn '/' = (s.toList.splitOn '/').map (·.flatMap encodeChar) ∧
      (encode s).toList.splitOn '\\' = (s.toList.splitOn '\\').map (·.flatMap encodeChar) := by
  refine ⟨toList_encode, encode_append, decode?_eq, fun s t h => ?_, fun s => ⟨?_, ?_⟩⟩
  · have hs := decode?_eq s
    rw [h, decode?_eq] at hs
    exact (Option.some.inj hs).symm
  · rw [toList_encode]
    exact splitOn_flatMap rfl (fun c hc => not_mem_encodeChar (by decide) rfl hc) _
  · rw [toList_encode]
    exact splitOn_flatMap rfl (fun c hc => not_mem_encodeChar (by decide) rfl hc) _

/-- The code of a slash in a value stays text, and a slash stays a slash. -/
example : encode "a%2Fb/ü" = "a%252Fb/%C3%BC" := by decide +kernel

end Signpost.Percent
