import TokenStream.Proofs.Stores
import TokenStream.Options

/-!
What configurations lead to. A configuration may be absent, may be wrong, or may break the run off
where nobody can tell whether it is wrong.
-/
namespace TokenStream.Options

open CommandLine (Arguments)

variable {tree : FileTree} {path : Path} {bytes : ByteArray} {args : Arguments} {crash : Crash}

theorem decode_cases (bytes : ByteArray) :
    (∃ text, decode bytes = .ok text) ∨ decode bytes = .error .undecodable := by
  unfold decode
  split
  · exact .inl ⟨_, rfl⟩
  · exact .inr rfl

theorem exists_read_of_isFile (h : tree.isFile path = .ok true) :
    ∃ bytes, tree.read path = .ok bytes := by
  unfold FileTree.isFile at h
  cases hn : FileTree.hasNul path with
  | true => simp [hn] at h
  | false =>
    cases hr : tree.resolve path with
    | error cause => cases cause <;> simp [hn, hr] at h
    | ok target =>
      have hl := FileTree.locate_eq_ok_iff.mpr ⟨hn, hr⟩
      cases target with
      | file names content => exact ⟨content, by rw [FileTree.read, hl]⟩
      | directory | absent => simp [hn, hr] at h

/-- The file of a configuration, if there is one, is read as text. -/
inductive ConfigText (tree : FileTree) (path : Path) : Except Crash (Option String) → Prop
  | absent (hf : tree.isFile path = .ok false) : ConfigText tree path (.ok none)
  | present {bytes : ByteArray} {text : String} (hf : tree.isFile path = .ok true)
    (hb : tree.read path = .ok bytes) (hd : decode bytes = .ok text) :
    ConfigText tree path (.ok (some text))
  | name {e : FileError} (hf : tree.isFile path = .error e) :
    ConfigText tree path (.error (.access (.system e)))
  | encoding {bytes : ByteArray} (hf : tree.isFile path = .ok true)
    (hb : tree.read path = .ok bytes) (hd : decode bytes = .error .undecodable) :
    ConfigText tree path (.error .undecodable)

theorem exists_configText (tree : FileTree) (path : Path) :
    ∃ result, ConfigText tree path result := by
  cases hf : tree.isFile path with
  | error e => exact ⟨_, .name hf⟩
  | ok found =>
    cases found with
    | false => exact ⟨_, .absent hf⟩
    | true =>
      obtain ⟨bytes, hb⟩ := exists_read_of_isFile hf
      obtain ⟨text, hd⟩ | hd := decode_cases bytes
      · exact ⟨_, .present hf hb hd⟩
      · exact ⟨_, .encoding hf hb hd⟩

/-- The configuration that a file makes, if there is one. -/
def configOf : Except Crash (Option String) → Except OptionError Toml.Table
  | .ok none => .ok []
  | .ok (some text) => (Toml.read text).mapError .ofReadError
  | .error crash => .error (.crash crash)

theorem readConfig_of_configText {result : Except Crash (Option String)}
    (h : ConfigText tree path result) : readConfig tree path = configOf result := by
  cases h with
  | absent hf | name hf =>
    rw [readConfig, hf]
    rfl
  | present hf hb hd | encoding hf hb hd =>
    rw [readConfig, hf, hb]
    simp only [bind, Except.bind, mapError_ok, hd]
    rfl

/-- All that breaks a run off at its configuration. -/
inductive ConfigAccident (tree : FileTree) (path : Path) : Crash → Prop
  | text {crash : Crash} (h : ConfigText tree path (.error crash)) :
    ConfigAccident tree path crash
  | integer {text : String} {count : Nat} (h : ConfigText tree path (.ok (some text)))
    (ht : Toml.read text = .error (.tooManyDigits count)) :
    ConfigAccident tree path (.tooManyDigits (some count))
  | format {config : Toml.Table} (hc : readConfig tree path = .ok config)
    (hs : (setting? config "output" "format").all Toml.Value.isShowable = false) :
    ConfigAccident tree path (.tooManyDigits none)

theorem readConfig_eq_crash (h : readConfig tree path = .error (.crash crash)) :
    ConfigAccident tree path crash := by
  obtain ⟨result, hr⟩ := exists_configText tree path
  rw [readConfig_of_configText hr] at h
  match result with
  | .ok none => exact nomatch h
  | .error crash' =>
    obtain rfl : crash' = crash := by simpa [configOf] using h
    exact .text hr
  | .ok (some text) =>
    rw [configOf] at h
    cases ht : Toml.read text with
    | ok config => simp [ht] at h
    | error e =>
      cases e with
      | malformed message => simp [ht, OptionError.ofReadError] at h
      | tooManyDigits count =>
        obtain rfl : .tooManyDigits (some count) = crash := by
          simpa [ht, OptionError.ofReadError] using h
        exact .integer hr ht

theorem resolve_eq_crash_iff :
    resolve tree args = .error (.crash crash) ↔ ConfigAccident tree (configPath args) crash := by
  constructor
  · intro h
    unfold resolve at h
    cases hc : readConfig tree (configPath args) with
    | error e =>
      rw [hc] at h
      obtain rfl := Except.error.inj h
      exact readConfig_eq_crash hc
    | ok config =>
      simp only [hc, bind, Except.bind] at h
      split at h
      · cases hm : merge args config <;> simp [hm] at h
      · next hs =>
        change Except.error _ = _ at h
        obtain rfl : .tooManyDigits none = crash := by simpa using h
        exact .format hc (by simpa using hs)
  · intro h
    unfold resolve
    cases h with
    | text h =>
      rw [readConfig_of_configText h]
      rfl
    | integer h ht =>
      rw [readConfig_of_configText h, configOf, ht]
      rfl
    | format hc hs =>
      rw [hc]
      simp only [bind, Except.bind, hs]
      rfl

end TokenStream.Options
