import TokenStream.Toml.Scalar

/-! The strings of a TOML document, on one line or on several. -/
namespace TokenStream.Toml

variable {s : List Char}

/-- What stands before a delimiter, and what after it. -/
def cut (delimiter : List Char) : List Char → Option (List Char × List Char)
  | [] => none
  | c :: rest =>
    if delimiter.isPrefixOf (c :: rest) then some ([], (c :: rest).drop delimiter.length)
    else (cut delimiter rest).map fun (before, after) => (c :: before, after)

theorem length_of_cut {delimiter before after : List Char} (hd : delimiter ≠ [])
    (h : cut delimiter s = some (before, after)) : after.length < s.length := by
  induction s generalizing before after with
  | nil => simp [cut] at h
  | cons c rest ih =>
    have hl := List.length_pos_iff.2 hd
    rw [cut] at h
    split at h
    · obtain ⟨-, rfl⟩ := by simpa using h
      simp only [List.length_drop, List.length_cons]
      omega
    · obtain ⟨x, hx, heq⟩ := Option.map_eq_some_iff.1 h
      obtain ⟨-, rfl⟩ := by simpa using heq
      have := ih hx
      simp only [List.length_cons]
      omega

/-- A literal string from behind its opening delimiter to its closing one. -/
def literal (delimiter : String) (isIllegal : Char → Bool) (hd : delimiter.toList ≠ [])
    (s : List Char) : Reading (List Char) s :=
  match h : cut delimiter.toList s with
  | none => .error ⟨.delimiterMissing delimiter, []⟩
  | some (body, rest) =>
    match body.find? isIllegal with
    | some c => .error ⟨.foundInvalid c, s.dropWhile (!isIllegal ·)⟩
    | none => .ok ⟨body, rest, length_of_cut hd h⟩

/-- The characters that an escape of one letter stands for. -/
def escapes : List (Char × Char) :=
  [('b', '\u0008'), ('t', '\t'), ('n', '\n'), ('f', '\u000c'), ('r', '\r'), ('"', '"'),
    ('\\', '\\')]

/-- A character by the digits of its code point. -/
def codePoint (count : Nat) (s : List Char) :
    Except Fault (Char × { r : List Char // r.length ≤ s.length }) :=
  let digits := s.take count
  if digits.length = count ∧ digits.all isHexDigit then
    let n := ofDigits 16 digits
    if h : n.isValidChar then .ok (Char.ofNatAux n h, ⟨s.drop count, by simp⟩)
    else .error ⟨.notScalar, s.drop count⟩
  else .error ⟨.badHexadecimal, s⟩

/-- An escape from behind its backslash. In a string on several lines a backslash before a line
break stands for nothing, and so do the blanks and the line breaks that follow. -/
def escape (inLines : Bool) (s : List Char) :
    Except Fault (List Char × { r : List Char // r.length ≤ s.length }) :=
  match s with
  | [] => .error ⟨.badEscape, []⟩
  | c :: rest =>
    if inLines && isBlankOrBreak c then
      match h : skipBlanks (c :: rest) with
      | [] => .ok ([], ⟨[], Nat.zero_le _⟩)
      | d :: after =>
        have ha := length_lt_of_cons h (length_skipBlanks_le _)
        if d = '\n' then
          .ok ([], ⟨after.dropWhile isBlankOrBreak,
            Nat.le_trans (length_dropWhile_le ..) (Nat.le_of_lt ha)⟩)
        else .error ⟨.badEscape, d :: after⟩
    else if c = 'u' ∨ c = 'U' then do
      let (char, after) ← codePoint (if c = 'u' then 4 else 8) rest
      return ([char], ⟨after.val, Nat.le_succ_of_le after.property⟩)
    else
      match escapes.lookup c with
      | some char => .ok ([char], ⟨rest, Nat.le_succ _⟩)
      | none => .error ⟨.badEscape, rest⟩

/-- A basic string from behind its opening delimiter to its closing one. -/
def basic (inLines : Bool) : (s : List Char) → Reading (List Char) s
  | [] => .error ⟨.unterminatedString, []⟩
  | '"' :: rest =>
    if inLines then
      match rest with
      | '"' :: '"' :: rest => .ok ⟨[], rest, Nat.lt_add_of_pos_right (Nat.succ_pos 2)⟩
      | rest => do
        let more ← basic inLines rest
        return (more.map ('"' :: ·)).widen (Nat.le_succ _)
    else .ok ⟨[], rest, Nat.lt_succ_self _⟩
  | '\\' :: rest => do
    let (characters, after) ← escape inLines rest
    have := after.property
    let more ← basic inLines after.val
    return (more.map (characters ++ ·)).widen (Nat.le_succ_of_le after.property)
  | c :: rest =>
    if (if inLines then isIllegalInLines c else isIllegal c) then
      .error ⟨.illegalCharacter c, c :: rest⟩
    else do
      let more ← basic inLines rest
      return (more.map (c :: ·)).widen (Nat.le_succ _)
termination_by s => s.length
decreasing_by all_goals simp only [List.length_cons]; omega

/-- Up to two quotes that belong to the string although its delimiter seems to come first. -/
def lateQuotes (quote : Char) (x : Taken (List Char) s) : Taken (List Char) s :=
  have h := x.shorter
  match hr : x.rest with
  | a :: b :: rest =>
    if a = quote then
      if b = quote then ⟨x.value ++ [quote, quote], rest, by simp [hr] at h; omega⟩
      else ⟨x.value ++ [quote], b :: rest, by simp [hr] at h ⊢; omega⟩
    else x
  | [a] => if a = quote then ⟨x.value ++ [quote], [], by simp [hr] at h ⊢; omega⟩ else x
  | [] => x

/-- A line break right behind an opening delimiter is not part of the string. -/
def dropBreak (s : List Char) : { r : List Char // r.length ≤ s.length } :=
  match s with
  | '\n' :: rest => ⟨rest, Nat.le_succ _⟩
  | s => untouched s

/-- A string on several lines from behind its opening delimiter. -/
def lines (quote : Char) (s : List Char) : Reading (List Char) s := do
  let start := dropBreak s
  let body ←
    if quote = '"' then basic true start.val
    else literal "'''" isIllegalInLines (by decide) start.val
  return (lateQuotes quote body).widen start.property

/-- A string on one line, of either kind. -/
def lineString? : (s : List Char) → Option (Reading String s)
  | '"' :: rest =>
    some ((basic false rest).map fun x => (x.map String.ofList).widen (Nat.le_succ _))
  | '\'' :: rest =>
    some ((literal "'" isIllegal (by decide) rest).map fun x =>
      (x.map String.ofList).widen (Nat.le_succ _))
  | _ => none

/-- A string of any kind. -/
def string? : (s : List Char) → Option (Reading String s)
  | '"' :: '"' :: '"' :: rest =>
    some ((lines '"' rest).map fun x => (x.map String.ofList).widen (by simp; omega))
  | '\'' :: '\'' :: '\'' :: rest =>
    some ((lines '\'' rest).map fun x => (x.map String.ofList).widen (by simp; omega))
  | s => lineString? s

end TokenStream.Toml
