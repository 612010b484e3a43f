import Mathlib.Data.List.Basic
import TokenStream.Json
import TokenStream.Proofs.JsonReader
import TokenStream.Proofs.Printable

/-!
Written documents read back. The reader makes of a document what it was written from, whatever
characters its strings hold.
-/
namespace TokenStream.Json

open Toml (Taken character? isHexDigit ofDigits oneOf? untouched word?)

variable {s : List Char}

/-! ### Strings -/

/-- The reader takes a value and leaves the rest. -/
def Reads {α : Type} (taken : Option (Taken α s)) (value : α) (rest : List Char) : Prop :=
  ∃ h, taken = some ⟨value, rest, h⟩

variable {c : Char} {text more rest tail : List Char} {n level outer : Nat}

/-- How a character is written between quotation marks. -/
inductive Escape (c : Char) : List Char → Prop
  | letter {letter : Char} (hl : letters.lookup letter = some c) (hu : letter ≠ 'u') :
    Escape c ['\\', letter]
  | code (h : c.toNat < 0x20) :
    Escape c ['\\', 'u', '0', '0', hexDigit (c.toNat / 16), hexDigit (c.toNat % 16)]
  | itself (hq : c ≠ '"') (hb : c ≠ '\\') (h : 0x20 ≤ c.toNat) : Escape c [c]

theorem escape_escape (c : Char) : Escape c (escape c) := by
  by_cases hc : c ∈ ['"', '\\', '\n', '\r', '\t', '\u0008', '\u000c']
  · simp only [List.mem_cons, List.not_mem_nil, or_false] at hc
    rcases hc with rfl | rfl | rfl | rfl | rfl | rfl | rfl <;> exact .letter rfl (by decide)
  · simp only [List.mem_cons, List.not_mem_nil, or_false, not_or] at hc
    by_cases hlt : c.toNat < 0x20
    · simpa [escape, hc, hlt] using Escape.code hlt
    · simpa [escape, hc, hlt] using Escape.itself hc.1 hc.2.1 (Nat.le_of_not_lt hlt)

theorem code?_hexDigit (h : n < 0x20) :
    Reads (code? ('0' :: '0' :: hexDigit (n / 16) :: hexDigit (n % 16) :: rest)) n rest := by
  have hd : ∀ k < 0x20, [hexDigit (k / 16), hexDigit (k % 16)].all isHexDigit = true ∧
      ofDigits 16 ['0', '0', hexDigit (k / 16), hexDigit (k % 16)] = k := by decide
  obtain ⟨hh, ho⟩ := hd n h
  have hz : ['0', '0', hexDigit (n / 16), hexDigit (n % 16)].all isHexDigit = true := by
    simpa [isHexDigit] using hh
  exact ⟨by simp only [List.length_cons]; omega, by rw [code?, if_pos hz, ho]⟩

/-- A control character is read by its code. -/
theorem coded?_hexDigit (h : c.toNat < 0x20) :
    Reads (coded? ('0' :: '0' :: hexDigit (c.toNat / 16) :: hexDigit (c.toNat % 16) :: rest)) c
      rest := by
  obtain ⟨hlt, hc⟩ := @code?_hexDigit rest c.toNat h
  have hv : c.toNat.isValidChar := c.valid
  refine ⟨hlt, ?_⟩
  simp [coded?, hc, hv, Taken.map]

theorem escaped?_letter {letter : Char} (hl : letters.lookup letter = some c) (hu : letter ≠ 'u') :
    Reads (escaped? (letter :: rest)) c rest :=
  ⟨Nat.lt_succ_self _, by simp [escaped?, hu, hl]⟩

theorem text?_escaped (h : Reads (escaped? (text ++ rest)) c rest)
    (hm : Reads (text? rest) more tail) :
    Reads (text? ('\\' :: (text ++ rest))) (c :: more) tail := by
  obtain ⟨hlt, h⟩ := h
  obtain ⟨hlt', hm⟩ := hm
  refine ⟨by simp only [List.length_cons]; omega, ?_⟩
  simp [text?, h, hm]

theorem text?_escape (hm : Reads (text? rest) more tail) :
    Reads (text? (escape c ++ rest)) (c :: more) tail := by
  have he := escape_escape c
  generalize escape c = written at he
  cases he with
  | letter hl hu => exact @text?_escaped c [_] more rest tail (escaped?_letter hl hu) hm
  | code h =>
    obtain ⟨hlt, hc⟩ := @coded?_hexDigit c rest h
    refine @text?_escaped c ['u', '0', '0', _, _] more rest tail ?_ hm
    refine ⟨Nat.lt_succ_of_lt hlt, ?_⟩
    simp [escaped?, hc, Taken.widen]
  | itself hq hb h =>
    obtain ⟨hlt, hm⟩ := hm
    refine ⟨Nat.lt_succ_of_lt hlt, ?_⟩
    simp [text?, Nat.not_lt_of_le h, hm, Taken.map, Taken.widen]

theorem text?_flatMap (text rest : List Char) :
    Reads (text? (text.flatMap escape ++ '"' :: rest)) text rest := by
  induction text with
  | nil =>
    change Reads (text? ('"' :: rest)) [] rest
    exact ⟨Nat.lt_succ_self _, by rw [text?]⟩
  | cons c text ih =>
    rw [List.flatMap_cons, List.append_assoc]
    exact text?_escape ih

/-! ### Numbers -/

/-- What may come after a datum in a written document. -/
def Ends (rest : List Char) : Prop := ∀ c, rest.head? = some c → c = ',' ∨ c = '\n'

theorem run?_append {digits : List Char} (hn : digits ≠ []) (hd : ∀ c ∈ digits, c.isDigit = true)
    (hr : Ends rest) : Reads (run? (digits ++ rest)) digits rest := by
  have hs : rest.takeWhile Char.isDigit = [] ∧ rest.dropWhile Char.isDigit = rest := by
    cases rest with
    | nil => exact ⟨rfl, rfl⟩
    | cons c rest => rcases hr c rfl with rfl | rfl <;> exact ⟨rfl, rfl⟩
  cases digits with
  | nil => exact absurd rfl hn
  | cons c digits =>
    obtain ⟨hc, hd⟩ := List.forall_mem_cons.mp hd
    have hl : rest.length < (c :: digits ++ rest).length := by
      rw [List.length_append, List.length_cons]
      omega
    refine ⟨hl, ?_⟩
    simp [run?, hc, List.takeWhile_append_of_pos hd, List.dropWhile_append_of_pos hd, hs]

theorem head_toDigits (h : (Nat.toDigits 10 n).head? = some '0') : n = 0 := by
  induction n using Nat.base_induction 10 (by decide) with
  | single m hm => simpa [Nat.toDigits_of_lt_base hm] using h
  | digit m k hk hm ih =>
    rw [← Nat.toDigits_append_toDigits (by decide) hm hk,
      List.head?_append_of_ne_nil _ Nat.toDigits_ne_nil] at h
    have := ih h
    omega

theorem whole?_toDigits (n : Nat) (hr : Ends rest) :
    Reads (whole? (Nat.toDigits 10 n ++ rest)) (Nat.toDigits 10 n) rest := by
  by_cases hn : n = 0
  · subst hn
    exact ⟨Nat.lt_succ_self _, rfl⟩
  · have hd : ∀ c ∈ Nat.toDigits 10 n, c.isDigit = true := by
      intro c hc
      exact Nat.isDigit_of_mem_toDigits (by decide) (by decide) hc
    have hh : (Nat.toDigits 10 n).head? ≠ some '0' := fun h => hn (head_toDigits h)
    rw [whole?]
    · exact run?_append Nat.toDigits_ne_nil hd hr
    · intro tail ht
      rw [← List.head?_append_of_ne_nil _ Nat.toDigits_ne_nil, ht] at hh
      exact hh rfl

theorem fraction?_of_ends (hr : Ends rest) : fraction? rest = some ([], untouched rest) := by
  cases rest with
  | nil => rfl
  | cons c rest => rcases hr c rfl with rfl | rfl <;> rfl

theorem exponent?_of_ends (hr : Ends rest) : exponent? rest = some (0, untouched rest) := by
  cases rest with
  | nil => rfl
  | cons c rest => rcases hr c rfl with rfl | rfl <;> rfl

theorem unsigned?_toDigits (n : Nat) (hr : Ends rest) :
    Reads (unsigned? (Nat.toDigits 10 n ++ rest)) (n, 0) rest := by
  obtain ⟨hlt, hw⟩ := whole?_toDigits n hr
  have ho : Nat.ofDigitChars 10 (Nat.toDigits 10 n) 0 = n :=
    Nat.ofDigitChars_toDigits (by decide) (by decide)
  refine ⟨hlt, ?_⟩
  simp [unsigned?, hw, fraction?_of_ends hr, untouched, exponent?_of_ends hr, ho]

theorem head_toDigits_append (n : Nat) : (Nat.toDigits 10 n ++ rest).head? ≠ some '-' := by
  rw [List.head?_append_of_ne_nil _ Nat.toDigits_ne_nil]
  intro h
  have hd := Nat.isDigit_of_mem_toDigits (by decide) (by decide) (List.mem_of_head? h)
  exact absurd hd (by decide)

theorem number?_toString (z : Int) (hr : Ends rest) :
    Reads (number? ((toString z).toList ++ rest)) (.number z 0) rest := by
  rw [Int.toString_eq_repr, Int.repr_eq_if]
  by_cases hz : 0 ≤ z
  · obtain ⟨hlt, hu⟩ := @unsigned?_toDigits rest z.toNat hr
    rw [if_pos hz, Nat.toList_repr]
    refine ⟨hlt, ?_⟩
    rw [number?, hu]
    · simp [Taken.map, Int.toNat_of_nonneg hz]
    · intro tail ht
      exact head_toDigits_append _ (by rw [ht]; rfl)
  · obtain ⟨hlt, hu⟩ := @unsigned?_toDigits rest (-z).toNat hr
    rw [if_neg hz, String.toList_append, Nat.toList_repr]
    refine ⟨Nat.lt_succ_of_lt hlt, ?_⟩
    simp [number?, hu, Taken.map, Taken.widen]
    omega

/-! ### Documents -/

mutual

/-- What is said by a document that is written. -/
def datum : Json → Datum
  | .number value => .number value 0
  | .string value => .string value
  | .array items => .array (data items)
  | .object fields => .object (fieldData fields)

def data : List Json → List Datum
  | [] => []
  | item :: items => item.datum :: data items

def fieldData : List (String × Json) → List (String × Datum)
  | [] => []
  | (key, value) :: fields => (key, value.datum) :: fieldData fields

end

/-! Each piece of a document is read as soon as its parts are. -/

section
variable {first : Datum} {items : List Datum} {name : List Char} {field : String × Datum}
  {fields : List (String × Datum)} {cs written : List Char}

theorem oneOf?_of_eq (hs : s = c :: rest) (hc : c ∈ cs) : Reads (oneOf? cs s) c rest := by
  subst hs
  exact ⟨Nat.lt_succ_self _, by simp [oneOf?, hc]⟩

theorem character?_of_eq (hs : s = c :: rest) : Reads (character? c s) () rest := by
  subst hs
  exact ⟨Nat.lt_succ_self _, by simp [character?]⟩

theorem character?_of_head (h : s.head? ≠ some c) : character? c s = none := by
  cases s with
  | nil => rfl
  | cons d s => exact if_neg fun hd => h (congrArg some hd)

theorem datum?_string (h : Reads (text? rest) text tail) :
    Reads (datum? ('"' :: rest)) (.string (.ofList text)) tail := by
  obtain ⟨hlt, h⟩ := h
  refine ⟨Nat.lt_succ_of_lt hlt, ?_⟩
  simp [datum?, h, Taken.map, Taken.widen]

theorem datum?_number (h : c = '-' ∨ c.isDigit = true) :
    datum? (c :: rest) = number? (c :: rest) := by
  have hne : ∀ d ∈ ['"', '[', '{', 'n', 't', 'f'], c ≠ d := by
    rintro d hd rfl
    have hall : ['"', '[', '{', 'n', 't', 'f'].all fun d => d ≠ '-' ∧ d.isDigit = false := by
      decide
    obtain ⟨hm, hi⟩ := by simpa using List.all_eq_true.mp hall c hd
    rcases h with h | h
    · exact hm h
    · simp [hi] at h
  simp only [List.mem_cons, List.not_mem_nil, or_false, forall_eq_or_imp, forall_eq] at hne
  have hn : named? (c :: rest) = none := by
    simp [named?, words, word?, hne, Ne.symm]
  rw [datum?]
  · simp [hn]
  all_goals simp_all

theorem datum?_emptyArray : Reads (datum? ('[' :: ']' :: rest)) (.array []) rest := by
  refine ⟨by simp only [List.length_cons]; omega, ?_⟩
  rw [datum?]
  rfl

theorem datum?_array (hs : skipBlanks s = text) (hc : text.head? ≠ some ']')
    (hf : Reads (datum? text) first rest) (hi : Reads (items? rest) items tail) :
    Reads (datum? ('[' :: s)) (.array (first :: items)) tail := by
  subst hs
  have hc := character?_of_head hc
  obtain ⟨hlt, hf⟩ := hf
  obtain ⟨hlt', hi⟩ := hi
  have := length_skipBlanks_le s
  refine ⟨by simp only [List.length_cons]; omega, ?_⟩
  simp [datum?, hc, hf, hi]

theorem items?_close (hs : skipBlanks s = ']' :: rest) : Reads (items? s) [] rest := by
  obtain ⟨hlt, hm⟩ := oneOf?_of_eq hs (by decide : ']' ∈ [',', ']'])
  refine ⟨Nat.lt_of_lt_of_le hlt (length_skipBlanks_le s), ?_⟩
  rw [items?]
  simp [hm]

theorem items?_next (hs : skipBlanks s = ',' :: text) (ht : skipBlanks text = more)
    (hf : Reads (datum? more) first rest) (hi : Reads (items? rest) items tail) :
    Reads (items? s) (first :: items) tail := by
  subst ht
  obtain ⟨hlt, hm⟩ := oneOf?_of_eq hs (by decide : ',' ∈ [',', ']'])
  obtain ⟨hlt', hf⟩ := hf
  obtain ⟨hlt'', hi⟩ := hi
  have := length_skipBlanks_le s
  have := length_skipBlanks_le text
  refine ⟨by omega, ?_⟩
  rw [items?]
  simp [hm, hf, hi]

theorem datum?_emptyObject : Reads (datum? ('{' :: '}' :: rest)) (.object []) rest := by
  refine ⟨by simp only [List.length_cons]; omega, ?_⟩
  rw [datum?]
  rfl

theorem datum?_object (hs : skipBlanks s = text) (hc : text.head? ≠ some '}')
    (hf : Reads (field? text) field rest) (hi : Reads (fields? rest) fields tail) :
    Reads (datum? ('{' :: s)) (.object (field :: fields)) tail := by
  subst hs
  have hc := character?_of_head hc
  obtain ⟨hlt, hf⟩ := hf
  obtain ⟨hlt', hi⟩ := hi
  have := length_skipBlanks_le s
  refine ⟨by simp only [List.length_cons]; omega, ?_⟩
  simp [datum?, hc, hf, hi]

theorem field?_name (hn : Reads (text? s) name more) (hs : skipBlanks more = ':' :: text)
    (ht : skipBlanks text = written) (hf : Reads (datum? written) first rest) :
    Reads (field? ('"' :: s)) (.ofList name, first) rest := by
  subst ht
  obtain ⟨hlt, hn⟩ := hn
  obtain ⟨hlt', hc⟩ := character?_of_eq hs
  obtain ⟨hlt'', hf⟩ := hf
  obtain ⟨_, hq⟩ := @character?_of_eq ('"' :: s) '"' s rfl
  have := length_skipBlanks_le more
  have := length_skipBlanks_le text
  refine ⟨by simp only [List.length_cons]; omega, ?_⟩
  rw [field?]
  simp [hq, hn, hc, hf]

theorem fields?_close (hs : skipBlanks s = '}' :: rest) : Reads (fields? s) [] rest := by
  obtain ⟨hlt, hm⟩ := oneOf?_of_eq hs (by decide : '}' ∈ [',', '}'])
  refine ⟨Nat.lt_of_lt_of_le hlt (length_skipBlanks_le s), ?_⟩
  rw [fields?]
  simp [hm]

theorem fields?_next (hs : skipBlanks s = ',' :: text) (ht : skipBlanks text = more)
    (hf : Reads (field? more) field rest) (hi : Reads (fields? rest) fields tail) :
    Reads (fields? s) (field :: fields) tail := by
  subst ht
  obtain ⟨hlt, hm⟩ := oneOf?_of_eq hs (by decide : ',' ∈ [',', '}'])
  obtain ⟨hlt', hf⟩ := hf
  obtain ⟨hlt'', hi⟩ := hi
  have := length_skipBlanks_le s
  have := length_skipBlanks_le text
  refine ⟨by omega, ?_⟩
  rw [fields?]
  simp [hm, hf, hi]

end

/-! Documents as they are written. -/

theorem exists_cons_toString (z : Int) :
    ∃ c more, (toString z).toList = c :: more ∧ (c = '-' ∨ c.isDigit = true) := by
  have hn : (toString z).toList ≠ [] := mt String.toList_eq_nil_iff.mp toString_ne_empty
  obtain ⟨c, more, hs⟩ := List.exists_cons_of_ne_nil hn
  exact ⟨c, more, hs, mem_toString (hs ▸ List.mem_cons_self)⟩

/-- A datum begins with a character that is neither a blank nor the end of an array. -/
theorem head_write (level : Nat) (v : Json) :
    ∃ c rest, write level v = c :: rest ∧ c ∉ ']' :: blanks := by
  cases v with
  | number z =>
    obtain ⟨c, more, hs, hc⟩ := exists_cons_toString z
    have hb : (']' :: blanks).all fun d => d ≠ '-' ∧ d.isDigit = false := by decide
    refine ⟨c, more, hs, fun hm => ?_⟩
    obtain ⟨hne, hd⟩ := by simpa using List.all_eq_true.mp hb c hm
    rcases hc with hc | hc
    · exact hne hc
    · simp [hd] at hc
  | string value => exact ⟨_, _, rfl, by decide⟩
  | array items => cases items <;> exact ⟨_, _, rfl, by decide⟩
  | object fields => cases fields <;> exact ⟨_, _, rfl, by decide⟩

theorem skipBlanks_newline (level : Nat) (s : List Char) :
    skipBlanks (newline level ++ s) = skipBlanks s := by
  have hb : ∀ c ∈ newline level, blanks.contains c = true := by
    intro c hc
    rcases List.mem_cons.mp hc with rfl | hc
    · decide
    · rw [List.eq_of_mem_replicate hc]
      decide
  rw [skipBlanks, List.dropWhile_append_of_pos hb, skipBlanks]

theorem skipBlanks_cons (hc : c ∉ blanks) : skipBlanks (c :: s) = c :: s := by
  simp [skipBlanks, hc]

theorem skipBlanks_newline_cons (hc : c ∉ blanks) : skipBlanks (newline level ++ c :: s) = c :: s :=
  (skipBlanks_newline level _).trans (skipBlanks_cons hc)

theorem skipBlanks_write (level : Nat) (v : Json) (rest : List Char) :
    skipBlanks (write level v ++ rest) = write level v ++ rest := by
  obtain ⟨c, more, hw, hc⟩ := head_write level v
  rw [hw]
  exact skipBlanks_cons fun hb => hc (List.mem_cons_of_mem _ hb)

theorem skipBlanks_newline_write (outer level : Nat) (v : Json) (rest : List Char) :
    skipBlanks (newline outer ++ (write level v ++ rest)) = write level v ++ rest :=
  (skipBlanks_newline outer _).trans (skipBlanks_write level v rest)

theorem skipBlanks_newline_key (key : String) :
    skipBlanks (newline outer ++ (writeKey key ++ rest)) = writeKey key ++ rest :=
  skipBlanks_newline_cons (by decide)

theorem ends_newline (level : Nat) (rest : List Char) : Ends (newline level ++ rest) := by
  intro c hc
  right
  simpa [newline, eq_comm] using hc

theorem ends_writeItems (items : List Json) (level outer : Nat) (rest : List Char) :
    Ends (writeItems level items ++ (newline outer ++ rest)) := by
  cases items with
  | nil => exact ends_newline outer rest
  | cons item items =>
    intro c hc
    left
    simpa [writeItems, eq_comm] using hc

theorem ends_writeFields (fields : List (String × Json)) (level outer : Nat)
    (rest : List Char) : Ends (writeFields level fields ++ (newline outer ++ rest)) := by
  cases fields with
  | nil => exact ends_newline outer rest
  | cons field fields =>
    intro c hc
    left
    simpa [writeFields, eq_comm] using hc

theorem datum?_toString (z : Int) (hr : Ends rest) :
    Reads (datum? ((toString z).toList ++ rest)) (.number z 0) rest := by
  have hn := number?_toString z hr
  obtain ⟨c, more, hs, hc⟩ := exists_cons_toString z
  rw [hs, List.cons_append] at hn ⊢
  rwa [datum?_number hc]

/-- A string is read back from behind its opening quotation mark. -/
theorem text?_writeString (value : String) (rest : List Char) :
    ∃ s, writeString value ++ rest = '"' :: s ∧ Reads (text? s) value.toList rest := by
  refine ⟨value.toList.flatMap escape ++ '"' :: rest, ?_, text?_flatMap value.toList rest⟩
  simp [writeString]

theorem datum?_writeString (value : String) (rest : List Char) :
    Reads (datum? (writeString value ++ rest)) (.string value) rest := by
  obtain ⟨s, hs, ht⟩ := text?_writeString value rest
  have hd := datum?_string ht
  rwa [← hs, String.ofList_toList] at hd

theorem field?_writeKey {first : Datum} (key : String) (hs : skipBlanks text = text)
    (hf : Reads (datum? text) first rest) :
    Reads (field? (writeKey key ++ text)) (key, first) rest := by
  obtain ⟨s, hk, hn⟩ := text?_writeString key (':' :: ' ' :: text)
  have he : writeKey key ++ text = '"' :: s := by simpa [writeKey] using hk
  have hf := field?_name hn (skipBlanks_cons (by decide)) hs hf
  rwa [← he, String.ofList_toList] at hf

theorem write_array (item : Json) (items : List Json) (level : Nat) (rest : List Char) :
    write level (.array (item :: items)) ++ rest =
      '[' :: (newline (level + 1) ++ (write (level + 1) item ++
        (writeItems (level + 1) items ++ (newline level ++ ']' :: rest)))) := by
  simp [write]

theorem write_object (key : String) (value : Json) (fields : List (String × Json)) (level : Nat)
    (rest : List Char) :
    write level (.object ((key, value) :: fields)) ++ rest =
      '{' :: (newline (level + 1) ++ (writeKey key ++ (write (level + 1) value ++
        (writeFields (level + 1) fields ++ (newline level ++ '}' :: rest))))) := by
  simp [write]

theorem writeItems_cons (item : Json) (items : List Json) (level : Nat) (rest : List Char) :
    writeItems level (item :: items) ++ rest =
      ',' :: (newline level ++ (write level item ++ (writeItems level items ++ rest))) := by
  simp [writeItems]

theorem writeFields_cons (key : String) (value : Json) (fields : List (String × Json))
    (level : Nat) (rest : List Char) :
    writeFields level ((key, value) :: fields) ++ rest =
      ',' :: (newline level ++ (writeKey key ++ (write level value ++
        (writeFields level fields ++ rest)))) := by
  simp [writeFields]

theorem head_write_append (level : Nat) (v : Json) (rest : List Char) :
    (write level v ++ rest).head? ≠ some ']' := by
  obtain ⟨c, more, hw, hc⟩ := head_write level v
  rw [hw]
  intro h
  obtain rfl : c = ']' := Option.some.inj h
  exact hc List.mem_cons_self

mutual

/-- What is written is read back, whatever may come after it. -/
theorem datum?_write (level : Nat) (rest : List Char) (hr : Ends rest) :
    (v : Json) → Reads (datum? (write level v ++ rest)) v.datum rest
  | .number z => datum?_toString z hr
  | .string value => datum?_writeString value rest
  | .array [] => datum?_emptyArray
  | .array (item :: items) => by
    rw [write_array]
    exact datum?_array (skipBlanks_newline_write ..) (head_write_append _ _ _)
      (datum?_write (level + 1) _ (ends_writeItems _ _ _ _) item)
      (items?_write (level + 1) level rest items)
  | .object [] => datum?_emptyObject
  | .object ((key, value) :: fields) => by
    rw [write_object]
    exact datum?_object (skipBlanks_newline_key key) nofun
      (field?_writeKey key (skipBlanks_write ..)
        (datum?_write (level + 1) _ (ends_writeFields _ _ _ _) value))
      (fields?_write (level + 1) level rest fields)

theorem items?_write (level outer : Nat) (rest : List Char) :
    (items : List Json) →
      Reads (items? (writeItems level items ++ (newline outer ++ ']' :: rest))) (data items) rest
  | [] => items?_close (skipBlanks_newline_cons (by decide))
  | item :: items => by
    rw [writeItems_cons]
    exact items?_next (skipBlanks_cons (by decide)) (skipBlanks_newline_write ..)
      (datum?_write level _ (ends_writeItems _ _ _ _) item) (items?_write level outer rest items)

theorem fields?_write (level outer : Nat) (rest : List Char) :
    (fields : List (String × Json)) →
      Reads (fields? (writeFields level fields ++ (newline outer ++ '}' :: rest)))
        (fieldData fields) rest
  | [] => fields?_close (skipBlanks_newline_cons (by decide))
  | (key, value) :: fields => by
    rw [writeFields_cons]
    exact fields?_next (skipBlanks_cons (by decide)) (skipBlanks_newline_key key)
      (field?_writeKey key (skipBlanks_write ..)
        (datum?_write level _ (ends_writeFields _ _ _ _) value))
      (fields?_write level outer rest fields)

end

theorem decode_render (v : Json) : decode v.render = some v.datum := by
  have hb := skipBlanks_write 0 v []
  have hd := datum?_write 0 [] nofun v
  rw [List.append_nil] at hb hd
  obtain ⟨_, hd⟩ := hd
  have ht : v.render.toList = write 0 v := String.toList_ofList
  rw [decode, ht, hb, hd]
  rfl

end TokenStream.Json
