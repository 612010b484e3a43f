import TokenStream.FileTree
import TokenStream.Workspace

/-!
Stores: workspaces of documents and trees of files. What is put into a store is found under its key,
and what is found under any other key stays. A file that was written by way of a path is read by way
of the same path.
-/
namespace TokenStream

/-! ### Errors in other words -/

section
variable {α ε ε' : Type}

@[simp] theorem mapError_ok (f : ε → ε') (a : α) :
    (Except.ok a : Except ε α).mapError f = .ok a := rfl

@[simp] theorem mapError_error (f : ε → ε') (e : ε) :
    (Except.error e : Except ε α).mapError f = .error (f e) := rfl

end

/-! ### Entries -/

section
variable {α β : Type} [BEq α] [LawfulBEq α] {entries : List (α × β)} {k k' : α} {v : β}

theorem lookup_filter_ne (h : k' ≠ k) :
    (entries.filter fun entry => entry.1 != k).lookup k' = entries.lookup k' := by
  induction entries with
  | nil => rfl
  | cons entry entries ih =>
    obtain ⟨key, value⟩ := entry
    by_cases hk : key = k
    · subst hk
      have hb : (k' == key) = false := beq_eq_false_iff_ne.mpr h
      simpa [List.lookup_cons, hb] using ih
    · simp [hk, List.lookup_cons, ih]

/-- An entry in front of all entries that have another key. -/
theorem lookup_replaced [Decidable (k' = k)] :
    ((k, v) :: entries.filter fun entry => entry.1 != k).lookup k' =
      if k' = k then some v else entries.lookup k' := by
  by_cases h : k' = k
  · simp [h]
  · have hb : (k' == k) = false := beq_eq_false_iff_ne.mpr h
    rw [List.lookup_cons, hb, if_neg h, lookup_filter_ne h]

end

theorem Workspace.text?_put (w : Workspace) (uri text name : String) :
    (w.put uri text).text? name = if name = uri then some text else w.text? name :=
  lookup_replaced

namespace FileTree

variable {tree after : FileTree} {names other : List String} {node : Node} {target next : Target}
  {name : String} {parts : List String} {content : ByteArray} {path : Path}

theorem node?_put (hn : names ≠ []) :
    (tree.put names node).node? other = if other = names then some node else tree.node? other := by
  by_cases ho : other = []
  · subst ho
    simp [node?, Ne.symm hn]
  · rw [node?, if_neg ho, node?, if_neg ho]
    exact lookup_replaced

/-! ### Places for files -/

/-- Names that a file has, or that a file may be made under. -/
def HoldsFile (tree : FileTree) (names : List String) : Prop :=
  names ≠ [] ∧ tree.node? names ≠ some .directory

/-- The names of a target that is not a directory. -/
def Target.place? : Target → Option (List String)
  | .directory _ => none
  | .file names _ => some names
  | .absent names => some names

/-- All that a name further along a path may lead to from a directory. -/
inductive Entered (tree : FileTree) (above : List String) (name : String) : Target → Prop
  | up (h : name = "..") : Entered tree above name (.directory above.dropLast)
  | directory (h : name ≠ "..") (hs : name.utf8ByteSize ≤ maxNameSize)
    (hn : tree.node? (above ++ [name]) = some .directory) :
    Entered tree above name (.directory (above ++ [name]))
  | file {content : ByteArray} (h : name ≠ "..") (hs : name.utf8ByteSize ≤ maxNameSize)
    (hn : tree.node? (above ++ [name]) = some (.file content)) :
    Entered tree above name (.file (above ++ [name]) content)
  | absent (h : name ≠ "..") (hs : name.utf8ByteSize ≤ maxNameSize)
    (hn : tree.node? (above ++ [name]) = none) :
    Entered tree above name (.absent (above ++ [name]))

theorem enter_eq_ok_iff :
    tree.enter target name = .ok next ↔
      ∃ above, target = .directory above ∧ tree.Entered above name next := by
  constructor
  · intro h
    cases target with
    | file => simp [enter] at h
    | absent => simp [enter] at h
    | directory above =>
      refine ⟨above, rfl, ?_⟩
      simp only [enter] at h
      split at h
      · next hu =>
        obtain rfl := Except.ok.inj h
        exact .up hu
      next hu =>
      split at h
      · exact nomatch h
      next hs =>
      have hs := Nat.le_of_not_lt hs
      split at h
      · next hn =>
        obtain rfl := Except.ok.inj h
        exact .directory hu hs hn
      · next hn =>
        obtain rfl := Except.ok.inj h
        exact .file hu hs hn
      · next hn =>
        obtain rfl := Except.ok.inj h
        exact .absent hu hs hn
  · rintro ⟨above, rfl, h⟩
    cases h with
    | up h => simp [enter, h]
    | directory h hs hn | file h hs hn | absent h hs hn => simp [enter, h, Nat.not_lt_of_le hs, hn]

theorem holdsFile_enter (h : tree.enter target name = .ok next) (hp : next.place? = some names) :
    tree.HoldsFile names := by
  obtain ⟨above, rfl, he⟩ := enter_eq_ok_iff.mp h
  cases he with
  | up | directory => simp [Target.place?] at hp
  | file _ _ hn | absent _ _ hn =>
    obtain rfl := Option.some.inj hp
    exact ⟨by simp, by simp [hn]⟩

theorem holdsFile_foldlM (h : parts.foldlM tree.enter target = .ok next)
    (ht : ∀ names, target.place? = some names → tree.HoldsFile names)
    (hp : next.place? = some names) : tree.HoldsFile names := by
  induction parts generalizing target with
  | nil =>
    obtain rfl := Except.ok.inj h
    exact ht _ hp
  | cons name parts ih =>
    rw [List.foldlM_cons] at h
    cases he : tree.enter target name with
    | error cause => simp [he, bind, Except.bind] at h
    | ok middle =>
      rw [he] at h
      exact ih h fun _ => holdsFile_enter he

/-! ### Writing and reading back -/

/-- Where a path leads when `names` has a file of the given content, if it led to `target`. -/
def Target.filled (names : List String) (content : ByteArray) : Target → Target
  | .file other old => if other = names then .file names content else .file other old
  | .absent other => if other = names then .file names content else .absent other
  | .directory other => .directory other

/-- A step along a path leads to the same place as before. -/
theorem enter_put (hf : tree.HoldsFile names) (h : tree.enter target name = .ok next) :
    (tree.put names (.file content)).enter (target.filled names content) name =
      .ok (next.filled names content) := by
  obtain ⟨above, rfl, he⟩ := enter_eq_ok_iff.mp h
  refine enter_eq_ok_iff.mpr ⟨above, rfl, ?_⟩
  have hput := @node?_put tree names (above ++ [name]) (.file content) hf.1
  by_cases hn : above ++ [name] = names
  · subst hn
    rw [if_pos rfl] at hput
    cases he with
    | up hu => exact .up hu
    | directory _ _ hd => exact absurd hd hf.2
    | file hu hs _ | absent hu hs _ => simpa [Target.filled] using Entered.file hu hs hput
  · rw [if_neg hn] at hput
    cases he with
    | up hu => exact .up hu
    | directory hu hs hd => exact .directory hu hs (hput.trans hd)
    | file hu hs hd => simpa [Target.filled, hn] using Entered.file hu hs (hput.trans hd)
    | absent hu hs hd => simpa [Target.filled, hn] using Entered.absent hu hs (hput.trans hd)

theorem foldlM_put (hf : tree.HoldsFile names) (h : parts.foldlM tree.enter target = .ok next) :
    parts.foldlM (tree.put names (.file content)).enter (target.filled names content) =
      .ok (next.filled names content) := by
  induction parts generalizing target with
  | nil =>
    obtain rfl := Except.ok.inj h
    rfl
  | cons name parts ih =>
    rw [List.foldlM_cons] at h ⊢
    cases he : tree.enter target name with
    | error cause => simp [he, bind, Except.bind] at h
    | ok middle =>
      rw [he] at h
      rw [enter_put hf he]
      exact ih h

/-- A path that can be opened leads somewhere step by step. -/
theorem locate_eq_ok_iff :
    tree.locate path = .ok target ↔ hasNul path = false ∧ tree.resolve path = .ok target := by
  unfold locate
  cases hasNul path <;> cases tree.resolve path <;> simp

theorem holdsFile_locate (h : tree.locate path = .ok target) (hp : target.place? = some names) :
    tree.HoldsFile names := by
  obtain ⟨-, hr⟩ := locate_eq_ok_iff.mp h
  unfold resolve at hr
  split at hr
  · exact nomatch hr
  · exact holdsFile_foldlM hr nofun hp

theorem locate_put (hf : tree.HoldsFile names) (h : tree.locate path = .ok target) :
    (tree.put names (.file content)).locate path = .ok (target.filled names content) := by
  obtain ⟨hn, hr⟩ := locate_eq_ok_iff.mp h
  refine locate_eq_ok_iff.mpr ⟨hn, ?_⟩
  unfold resolve at hr ⊢
  split at hr
  · exact nomatch hr
  · next hs =>
    rw [if_neg hs]
    exact foldlM_put hf hr

theorem write_eq_ok_iff :
    tree.write path content = .ok after ↔
      ∃ target names, tree.locate path = .ok target ∧ target.place? = some names ∧
        after = tree.put names (.file content) := by
  unfold write
  cases tree.locate path with
  | error e => simp
  | ok target => cases target <;> simp [Target.place?, eq_comm]

/-- What writing a file by way of a path does: the path leads to the new content, and every name but
that of the file stands for what it stood for. -/
structure Written (before : FileTree) (path : Path) (content : ByteArray) (after : FileTree) :
    Prop where
  home_eq : after.home = before.home
  read_eq : after.read path = .ok content
  others : ∃ target names, before.locate path = .ok target ∧ target.place? = some names ∧
    after.node? names = some (.file content) ∧
    ∀ other, other ≠ names → after.node? other = before.node? other

theorem written_of_write (h : tree.write path content = .ok after) :
    tree.Written path content after := by
  obtain ⟨target, names, hl, hp, rfl⟩ := write_eq_ok_iff.mp h
  have hf := holdsFile_locate hl hp
  refine ⟨rfl, ?_, target, names, hl, hp, ?_, ?_⟩
  · rw [read, locate_put hf hl]
    cases target with
    | directory => simp [Target.place?] at hp
    | file other old =>
      obtain rfl := Option.some.inj hp
      simp [Target.filled]
    | absent other =>
      obtain rfl := Option.some.inj hp
      simp [Target.filled]
  · rw [node?_put hf.1, if_pos rfl]
  · intro other ho
    rw [node?_put hf.1, if_neg ho]

end FileTree
end TokenStream
