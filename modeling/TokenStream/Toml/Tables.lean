import TokenStream.Toml.Fault

/-!
How statements define tables. A table may be named before its own declaration, by a longer key; it
is declared at most once; and what a statement gave in full is never added to.
-/
namespace TokenStream.Toml

/-- Puts a value at a key that is in a table. -/
def Table.replace (table : Table) (part : String) (value : Value) : Table :=
  table.map fun field => if field.1 = part then (part, value) else field

/-- Changes the table at a key, which comes into being with the tables that lead to it. Where an
array of tables stands on the way, its last table is meant, if arrays are to be entered at all. -/
def Table.modify (intoArrays : Bool) (change : Table → Except Cause Table) :
    Key → Table → Except Cause Table
  | [], table => change table
  | part :: parts, table =>
    match table.lookup part with
    | none => do return table ++ [(part, .table (← modify intoArrays change parts []))]
    | some (.table inner) => do
      return replace table part (.table (← modify intoArrays change parts inner))
    | some (.array items) =>
      match intoArrays, items.getLast? with
      | true, some (.table inner) => do
        let changed ← modify intoArrays change parts inner
        return replace table part (.array (items.dropLast ++ [.table changed]))
      | _, _ => .error .overwritten
    | some _ => .error .overwritten

/-- Adds a field to a table. -/
def Table.define (taken : Cause) (part : String) (value : Value) (table : Table) :
    Except Cause Table :=
  if (table.lookup part).isSome then .error taken else .ok (table ++ [(part, value)])

/-- Adds an empty table to the array of tables at a key. -/
def Table.append (part : String) (table : Table) : Except Cause Table :=
  match table.lookup part with
  | none => .ok (table ++ [(part, .array [.table []])])
  | some (.array items) => .ok (table.replace part (.array (items ++ [.table []])))
  | some _ => .error .overwritten

/-- The keys of tables that cannot be declared any more, and of values that are complete. -/
structure Marks where
  declared : List Key
  complete : List Key

namespace Marks

def empty : Marks := ⟨[], []⟩

def isDeclared (m : Marks) (key : Key) : Bool := m.declared.contains key

/-- Whether the key is that of a complete value or of a part of one. -/
def isComplete (m : Marks) (key : Key) : Bool := m.complete.any (·.isPrefixOf key)

def declare (m : Marks) (key : Key) : Marks := { m with declared := key :: m.declared }

def finish (m : Marks) (key : Key) : Marks := { m with complete := key :: m.complete }

/-- Forgets what is known of a key and of all below it. -/
def forget (m : Marks) (key : Key) : Marks :=
  ⟨m.declared.filter (!key.isPrefixOf ·), m.complete.filter (!key.isPrefixOf ·)⟩

end Marks

/-- A document as far as it is read. -/
structure Draft where
  table : Table
  marks : Marks
  /-- Tables that dotted keys led through since the last declaration. At the next declaration they
  count as declared. -/
  pending : List Key
  /-- The key of the table that is being filled. -/
  header : Key

namespace Draft

def empty : Draft := ⟨[], .empty, [], []⟩

/-- The draft when a declaration begins. -/
def settle (d : Draft) : Draft :=
  { d with marks := d.pending.foldl Marks.declare d.marks, pending := [] }

/-- The declaration of a table. -/
def declareTable (d : Draft) (key : Key) : Except Cause Draft := do
  if d.marks.isDeclared key || d.marks.isComplete key then throw (.declaredTwice key)
  let table ← d.table.modify true .ok key
  return { d with table, marks := d.marks.declare key, header := key }

/-- The declaration of one more table in an array of tables. -/
def declareArray (d : Draft) (key : Key) : Except Cause Draft := do
  if d.marks.isComplete key then throw (.immutable key)
  let table ← d.table.modify true (Table.append (key.getLastD "")) key.dropLast
  return { d with table, marks := (d.marks.forget key).declare key, header := key }

def isContainer : Value → Bool
  | .array _ | .table _ => true
  | _ => false

/-- Leads through a table on the way to a dotted key. -/
def passThrough (d : Draft) (key : Key) : Except Cause Draft :=
  if d.marks.isDeclared key then .error (.redefined key)
  else .ok { d with pending := key :: d.pending }

/-- The definition of a key in the table that is being filled. -/
def defineKey (d : Draft) (key : Key) (value : Value) : Except Cause Draft := do
  let ways := (List.range (key.length - 1)).map fun n => d.header ++ key.take (n + 1)
  let d ← ways.foldlM passThrough d
  let parent := d.header ++ key.dropLast
  if d.marks.isComplete parent then throw (.immutable parent)
  let table ← d.table.modify true (Table.define .overwritten (key.getLastD "") value) parent
  let marks := if isContainer value then d.marks.finish (d.header ++ key) else d.marks
  return { d with table, marks }

end Draft
end TokenStream.Toml
