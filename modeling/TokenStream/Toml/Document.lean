import TokenStream.Toml.Strings
import TokenStream.Toml.Tables

/-! Reading a TOML document, statement by statement. -/
namespace TokenStream.Toml

variable {s : List Char}

def isBare (c : Char) : Bool := c.isAlphanum || c = '-' || c = '_'

/-- A part of a key. -/
def keyPart (s : List Char) : Reading String s :=
  match s with
  | [] => .error ⟨.keyStart, []⟩
  | c :: rest =>
    if isBare c then
      .ok ⟨String.ofList (c :: rest.takeWhile isBare), rest.dropWhile isBare,
        Nat.lt_succ_of_le (length_dropWhile_le ..)⟩
    else (lineString? (c :: rest)).getD (.error ⟨.keyStart, c :: rest⟩)

/-- A key of one or more parts, and the blanks after it. -/
def key (s : List Char) : Reading Key s := do
  let first := (← keyPart s).skipBlanks
  match h : first.rest with
  | '.' :: rest => do
    have hr := length_lt_of_cons h (Nat.le_of_lt first.shorter)
    have hs := Nat.lt_of_le_of_lt (length_skipBlanks_le rest) hr
    let more ← key (skipBlanks rest)
    return (more.map (first.value :: ·)).widen (Nat.le_of_lt hs)
  | _ => return ⟨[first.value], first.rest, first.shorter⟩
termination_by s.length

/-- A key, the equals sign and the blanks after it: what stands before a value. -/
def keyAndEquals (s : List Char) : Reading Key s := do
  let name ← key s
  match h : name.rest with
  | '=' :: rest =>
    have hr := length_lt_of_cons h (Nat.le_of_lt name.shorter)
    return ⟨name.value, skipBlanks rest, Nat.lt_of_le_of_lt (length_skipBlanks_le _) hr⟩
  | rest => .error ⟨.equalsMissing, rest⟩

/-- An inline table while it is read: its fields, and the keys of the complete values in it. -/
structure Inline where
  table : Table
  marks : Marks

def Inline.define (t : Inline) (key : Key) (value : Value) : Except Cause Inline := do
  if t.marks.isComplete key then throw (.immutable key)
  let part := key.getLastD ""
  let table ← t.table.modify false (Table.define (.duplicateKey part) part value) key.dropLast
  return ⟨table, if Draft.isContainer value then t.marks.finish key else t.marks⟩

mutual

def value (s : List Char) : Reading Value s :=
  match s with
  | '[' :: rest => do
    let start ← skipVoid rest
    have := start.property
    match h : start.val with
    | ']' :: rest => return ⟨.array [], rest, by simp [h] at this ⊢; omega⟩
    | items =>
      let items ← arrayItems [] items
      return (items.map .array).widen (by simp [h] at this ⊢; omega)
  | '{' :: rest => do
    have := length_skipBlanks_le rest
    match h : skipBlanks rest with
    | '}' :: rest => return ⟨.table [], rest, by simp [h] at this ⊢; omega⟩
    | fields =>
      let fields ← inlineFields ⟨[], .empty⟩ fields
      return (fields.map .table).widen (by simp [h] at this ⊢; omega)
  | s =>
    match string? s with
    | some text => text.map (·.map .string)
    | none =>
      if let some truth := word? ['t', 'r', 'u', 'e'] s then
        .ok (truth.map fun _ => .boolean true)
      else if let some falsity := word? ['f', 'a', 'l', 's', 'e'] s then
        .ok (falsity.map fun _ => .boolean false)
      else (scalar? s).getD (.error ⟨.invalidValue, s⟩)
termination_by (s.length, 0)
decreasing_by all_goals simp_wf; simp_all; omega

/-- The items of an array, at least one, and the bracket that closes it. -/
def arrayItems (earlier : List Value) (s : List Char) : Reading (List Value) s := do
  let item ← value s
  let items := earlier ++ [item.value]
  let after ← skipVoid item.rest
  have := item.shorter
  have := after.property
  match h : after.val with
  | ']' :: rest => return ⟨items, rest, by simp [h] at this; omega⟩
  | ',' :: rest => do
    let next ← skipVoid rest
    have := next.property
    match h' : next.val with
    | ']' :: rest => return ⟨items, rest, by simp [h, h'] at *; omega⟩
    | s' =>
      have : s'.length < s.length := by simp [h, h'] at *; omega
      let more ← arrayItems items s'
      return more.widen (by omega)
  | rest => .error ⟨.arrayUnclosed, rest⟩
termination_by (s.length, 1)

/-- The fields of an inline table, at least one, and the brace that closes it. -/
def inlineFields (earlier : Inline) (s : List Char) : Reading Table s := do
  let name ← keyAndEquals s
  have := name.shorter
  let field ← value name.rest
  have := field.shorter
  let table ← (earlier.define name.value field.value).mapError (⟨·, field.rest⟩)
  have := length_skipBlanks_le field.rest
  match h : skipBlanks field.rest with
  | '}' :: rest => return ⟨table.table, rest, by simp [h] at *; omega⟩
  | ',' :: rest => do
    have := length_skipBlanks_le rest
    have : (skipBlanks rest).length < s.length := by simp [h] at *; omega
    let more ← inlineFields table (skipBlanks rest)
    return more.widen (by omega)
  | rest => .error ⟨.inlineTableUnclosed, rest⟩
termination_by (s.length, 1)

end

/-- A definition, and the draft after it. -/
def definition (d : Draft) (s : List Char) : Reading Draft s := do
  let name ← keyAndEquals s
  let given ← value name.rest
  let d ← (d.defineKey name.value given.value).mapError (⟨·, given.rest⟩)
  return (given.map fun _ => d).widen (Nat.le_of_lt name.shorter)

/-- A declaration of a table or of one more table in an array, and the draft after it. -/
def declaration (d : Draft) (s : List Char) : Reading Draft s :=
  let d := d.settle
  match s with
  | '[' :: '[' :: rest => do
    let name ← key (skipBlanks rest)
    have := name.shorter
    have := length_skipBlanks_le rest
    let d ← (d.declareArray name.value).mapError (⟨·, name.rest⟩)
    match h : name.rest with
    | ']' :: ']' :: after => return ⟨d, after, by simp [h] at *; omega⟩
    | after => .error ⟨.tableArrayEndMissing, after⟩
  | '[' :: rest => do
    let name ← key (skipBlanks rest)
    have := name.shorter
    have := length_skipBlanks_le rest
    let d ← (d.declareTable name.value).mapError (⟨·, name.rest⟩)
    match h : name.rest with
    | ']' :: after => return ⟨d, after, by simp [h] at *; omega⟩
    | after => .error ⟨.tableEndMissing, after⟩
  | s => .error ⟨.invalidStatement, s⟩

/-- A statement that is neither blank nor a comment. -/
def statement (d : Draft) (s : List Char) : Reading Draft s :=
  match s with
  | [] => .error ⟨.invalidStatement, []⟩
  | c :: rest =>
    if c = '[' then declaration d (c :: rest)
    else if isBare c || c = '"' || c = '\'' then definition d (c :: rest)
    else .error ⟨.invalidStatement, c :: rest⟩

/-- The end of a line, after blanks and a comment: what is left after its break, if there is one. -/
def lineEnd (s : List Char) : Except Fault (Option { r : List Char // r.length < s.length }) := do
  have hs := length_skipBlanks_le s
  let ended : { r : List Char // r.length ≤ s.length } ←
    match h : skipBlanks s with
    | '#' :: rest => do
      let ended ← comment rest
      pure ⟨ended.val, Nat.le_trans ended.property (Nat.le_of_lt (length_lt_of_cons h hs))⟩
    | rest => pure ⟨rest, h ▸ hs⟩
  match h : ended.val with
  | [] => return none
  | '\n' :: rest =>
    return some ⟨rest, length_lt_of_cons h ended.property⟩
  | rest => .error ⟨.newlineMissing, rest⟩

/-- The table that the statements of a text define, added to a draft. -/
def statements (d : Draft) (s : List Char) : Except Fault Table := do
  let t := skipBlanks s
  have : t.length ≤ s.length := length_skipBlanks_le s
  if t.head?.all fun c => c = '\n' || c = '#' then
    match ← lineEnd t with
    | none => return d.table
    | some after =>
      have := after.property
      statements d after.val
  else
    let read ← statement d t
    have := read.shorter
    match ← lineEnd read.rest with
    | none => return read.value.table
    | some after =>
      have := after.property
      statements read.value after.val
termination_by s.length

/-- A carriage return before a line feed is dropped. -/
def joinBreaks : List Char → List Char
  | '\r' :: '\n' :: rest => '\n' :: joinBreaks rest
  | c :: rest => c :: joinBreaks rest
  | [] => []

/-- The table that a document defines. -/
def read (document : String) : Except ReadError Table :=
  let text := joinBreaks document.toList
  (statements .empty text).mapError (·.toReadError text)

end TokenStream.Toml
