import TokenStream.Proofs.Presentation

/-!
Which setting counts. An option is what the arguments say of it, or else what the configuration says
of it, or else a default. A configured value that is not of the type of its option counts as unsaid
for the keywords, but for the format as the text that it is shown as.
-/
namespace TokenStream.Options

open CommandLine (Arguments)

variable {args : Arguments} {config config' : Toml.Table} {table key : String}
  {value : Toml.Value} {name : Option String} {format : Format} {e : SettingError}
  {keywords : Bool} {o : Options} {crash : Crash}

/-! ### What a configuration says -/

/-- A configuration has a table in which a key has a value. -/
def Says (config : Toml.Table) (table key : String) (value : Toml.Value) : Prop :=
  ∃ fields, config.lookup table = some (.table fields) ∧ fields.lookup key = some value

theorem setting?_eq_some_iff :
    setting? config table key = some value ↔ Says config table key value := by
  unfold setting? Says
  constructor
  · intro h
    split at h
    · next fields ht => exact ⟨fields, ht, h⟩
    · exact nomatch h
  · rintro ⟨fields, ht, hk⟩
    rw [ht]
    exact hk

theorem setting?_eq_none (h : ∀ value, ¬ Says config table key value) :
    setting? config table key = none :=
  Option.eq_none_iff_forall_ne_some.mpr fun value hv => h value (setting?_eq_some_iff.mp hv)

/-- Configurations that say the same of all that options are made from. -/
structure SameSettings (config config' : Toml.Table) : Prop where
  keywords : ∀ value, Says config "lexer" "keyword_operators" value ↔
    Says config' "lexer" "keyword_operators" value
  format : ∀ value, Says config "output" "format" value ↔ Says config' "output" "format" value

theorem setting?_congr
    (h : ∀ value, Says config table key value ↔ Says config' table key value) :
    setting? config table key = setting? config' table key :=
  Option.ext fun value => by rw [setting?_eq_some_iff, setting?_eq_some_iff, h]

/-- What holds of one value only, and of some value, holds of that one. -/
theorem iff_eq_of_unique {β : Type} {p : β → Prop} {a b : β} (hu : ∀ x, p x → a = x)
    (he : ∃ x, p x) : p b ↔ a = b := by
  refine ⟨hu b, ?_⟩
  rintro rfl
  obtain ⟨x, hx⟩ := he
  rwa [hu x hx]

/-! ### Keywords -/

/-- Whether keywords are operators: no, if the arguments say so; or else as the configuration says,
if it is a truth value; or else yes. -/
inductive EffectiveKeywords (args : Arguments) (config : Toml.Table) : Bool → Prop
  | switched (h : args.noKeywordOperators = true) : EffectiveKeywords args config false
  | configured {keywords : Bool} (h : args.noKeywordOperators = false)
    (hs : Says config "lexer" "keyword_operators" (.boolean keywords)) :
    EffectiveKeywords args config keywords
  | default (h : args.noKeywordOperators = false)
    (hs : ∀ keywords, ¬ Says config "lexer" "keyword_operators" (.boolean keywords)) :
    EffectiveKeywords args config true

theorem keywordOperatorsOf_of_effective (h : EffectiveKeywords args config keywords) :
    keywordOperatorsOf args config = keywords := by
  unfold keywordOperatorsOf
  cases h with
  | switched h => rw [if_pos h]
  | configured h hs => rw [if_neg (by simp [h]), setting?_eq_some_iff.mpr hs]
  | default h hs =>
    rw [if_neg (by simp [h])]
    split
    · next value hv => exact absurd (setting?_eq_some_iff.mp hv) (hs value)
    · rfl

theorem exists_effectiveKeywords (args : Arguments) (config : Toml.Table) :
    ∃ keywords, EffectiveKeywords args config keywords := by
  cases h : args.noKeywordOperators with
  | true => exact ⟨false, .switched h⟩
  | false =>
    by_cases hs : ∃ keywords, Says config "lexer" "keyword_operators" (.boolean keywords)
    · obtain ⟨keywords, hs⟩ := hs
      exact ⟨keywords, .configured h hs⟩
    · exact ⟨true, .default h fun keywords hk => hs ⟨keywords, hk⟩⟩

theorem effectiveKeywords_iff :
    EffectiveKeywords args config keywords ↔ keywordOperatorsOf args config = keywords :=
  iff_eq_of_unique (fun _ => keywordOperatorsOf_of_effective) (exists_effectiveKeywords args config)

/-! ### The format -/

/-- The name of the format: that of the arguments, which is none where the value of the switch is
missing; or else the value that the configuration gives, as a text; or else text. -/
inductive EffectiveFormat (args : Arguments) (config : Toml.Table) : Option String → Prop
  | named {format : Format} (h : args.format = .named format) :
    EffectiveFormat args config (some format.name)
  | valueless (h : args.format = .valueless) : EffectiveFormat args config none
  | configured {value : Toml.Value} (h : args.format = .unsaid)
    (hs : Says config "output" "format" value) : EffectiveFormat args config (some value.text)
  | default (h : args.format = .unsaid) (hs : ∀ value, ¬ Says config "output" "format" value) :
    EffectiveFormat args config (some "text")

/-- The format that goes by a name, or by none. -/
def formatCalled : Option String → Except SettingError Format
  | some name => namedFormat name
  | none => .error .formatMissing

/-- What is wrong with a name that no format has. -/
def refusal : Option String → SettingError
  | some name => .unknownFormat name
  | none => .formatMissing

theorem ofName?_eq_some_iff {name : String} :
    Format.ofName? name = some format ↔ name = format.name := by
  constructor
  · intro h
    unfold Format.ofName? at h
    have hn := List.find?_some h
    exact (eq_of_beq hn).symm
  · rintro rfl
    cases format <;> decide

theorem formatCalled_eq_ok_iff : formatCalled name = .ok format ↔ name = some format.name := by
  cases name with
  | none => simp [formatCalled]
  | some name =>
    rw [formatCalled, namedFormat, Option.some_inj, ← ofName?_eq_some_iff]
    cases Format.ofName? name <;> simp

theorem formatCalled_cases (name : Option String) :
    (∃ format, formatCalled name = .ok format) ∨ formatCalled name = .error (refusal name) := by
  cases name with
  | none => exact .inr rfl
  | some name =>
    rw [formatCalled, namedFormat]
    cases Format.ofName? name with
    | some format => exact .inl ⟨format, rfl⟩
    | none => exact .inr rfl

theorem formatCalled_eq_error_iff :
    formatCalled name = .error e ↔
      (∀ format : Format, name ≠ some format.name) ∧ e = refusal name := by
  constructor
  · intro h
    have hn (format : Format) : name ≠ some format.name := by
      intro hf
      rw [formatCalled_eq_ok_iff.mpr hf] at h
      exact nomatch h
    obtain ⟨format, hf⟩ | hr := formatCalled_cases name
    · exact absurd (formatCalled_eq_ok_iff.mp hf) (hn format)
    · exact ⟨hn, Except.error.inj (h.symm.trans hr)⟩
  · rintro ⟨hn, rfl⟩
    obtain ⟨format, hf⟩ | hr := formatCalled_cases name
    · exact absurd (formatCalled_eq_ok_iff.mp hf) (hn format)
    · exact hr

/-- Text and JSON are all the formats there are. -/
theorem forall_format_iff :
    (∀ format : Format, name ≠ some format.name) ↔ name ≠ some "text" ∧ name ≠ some "json" :=
  ⟨fun h => ⟨h .text, h .json⟩, fun ⟨ht, hj⟩ format => by cases format <;> assumption⟩

/-- The name that the format is looked up by. -/
def formatName (args : Arguments) (config : Toml.Table) : Option String :=
  match args.format with
  | .named format => some format.name
  | .valueless => none
  | .unsaid => some (((setting? config "output" "format").map Toml.Value.text).getD "text")

theorem formatOf_eq (args : Arguments) (config : Toml.Table) :
    formatOf args config = formatCalled (formatName args config) := by
  unfold formatOf formatName
  cases args.format with
  | named format => exact (formatCalled_eq_ok_iff.mpr rfl).symm
  | valueless => rfl
  | unsaid =>
    cases setting? config "output" "format" with
    | some value => rfl
    | none =>
      have hd : formatCalled (some "text") = .ok .text := formatCalled_eq_ok_iff.mpr rfl
      exact hd.symm

theorem formatName_of_effective (h : EffectiveFormat args config name) :
    formatName args config = name := by
  unfold formatName
  cases h with
  | named h | valueless h => rw [h]
  | configured h hs => simp [h, setting?_eq_some_iff.mpr hs]
  | default h hs => simp [h, setting?_eq_none hs]

theorem exists_effectiveFormat (args : Arguments) (config : Toml.Table) :
    ∃ name, EffectiveFormat args config name := by
  cases h : args.format with
  | named format => exact ⟨_, .named h⟩
  | valueless => exact ⟨_, .valueless h⟩
  | unsaid =>
    by_cases hs : ∃ value, Says config "output" "format" value
    · obtain ⟨value, hs⟩ := hs
      exact ⟨_, .configured h hs⟩
    · exact ⟨_, .default h fun value hv => hs ⟨value, hv⟩⟩

theorem effectiveFormat_iff :
    EffectiveFormat args config name ↔ formatName args config = name :=
  iff_eq_of_unique (fun _ => formatName_of_effective) (exists_effectiveFormat args config)

theorem formatOf_eq_ok_iff :
    formatOf args config = .ok format ↔ EffectiveFormat args config (some format.name) := by
  rw [formatOf_eq, formatCalled_eq_ok_iff, effectiveFormat_iff]

theorem formatOf_eq_error_iff :
    formatOf args config = .error e ↔
      ∃ name, EffectiveFormat args config name ∧ name ≠ some "text" ∧ name ≠ some "json" ∧
        e = refusal name := by
  simp only [formatOf_eq, formatCalled_eq_error_iff, forall_format_iff, effectiveFormat_iff,
    exists_eq_left', and_assoc]

/-! ### Options -/

/-- Whatever a configuration says of the format can be shown as a text. -/
def FormatShowable (config : Toml.Table) : Prop :=
  ∀ value, Says config "output" "format" value → value.isShowable = true

/-- The options that arguments make with a configuration. -/
def ofConfig (args : Arguments) (config : Toml.Table) : Except OptionError Options :=
  if (setting? config "output" "format").all Toml.Value.isShowable then
    (merge args config).mapError .setting
  else .error (.crash (.tooManyDigits none))

theorem resolve_eq_bind (tree : FileTree) (args : Arguments) :
    resolve tree args = (readConfig tree (configPath args)).bind (ofConfig args) := rfl

theorem formatShowable_iff :
    FormatShowable config ↔
      (setting? config "output" "format").all Toml.Value.isShowable = true := by
  simp only [FormatShowable, ← setting?_eq_some_iff]
  cases setting? config "output" "format" <;> simp

theorem merge_eq_map (args : Arguments) (config : Toml.Table) :
    merge args config = (formatOf args config).map (shownAs args · config) := by
  unfold merge
  cases formatOf args config <;> rfl

theorem merge_eq_ok_iff :
    merge args config = .ok o ↔
      EffectiveFormat args config (some o.format.name) ∧
        EffectiveKeywords args config o.keywordOperators ∧
        o.input = inputOf args ∧ o.output = outputOf args ∧ o.debug = args.debug := by
  rw [merge_eq_map, ← formatOf_eq_ok_iff, effectiveKeywords_iff]
  cases formatOf args config with
  | error e => simp [Except.map]
  | ok format =>
    obtain ⟨input, output, format', keywords, debug⟩ := o
    simp only [Except.map, shownAs, Except.ok.injEq, Options.mk.injEq]
    constructor
    · rintro ⟨rfl, rfl, rfl, rfl, rfl⟩
      exact ⟨rfl, rfl, rfl, rfl, rfl⟩
    · rintro ⟨rfl, rfl, rfl, rfl, rfl⟩
      exact ⟨rfl, rfl, rfl, rfl, rfl⟩

theorem merge_eq_error_iff :
    merge args config = .error e ↔
      ∃ name, EffectiveFormat args config name ∧ name ≠ some "text" ∧ name ≠ some "json" ∧
        e = refusal name := by
  rw [merge_eq_map, ← formatOf_eq_error_iff]
  cases formatOf args config <;> simp [Except.map]

theorem ofConfig_of_showable (h : FormatShowable config) :
    ofConfig args config = (merge args config).mapError .setting :=
  if_pos (formatShowable_iff.mp h)

theorem ofConfig_of_not_showable (h : ¬ FormatShowable config) :
    ofConfig args config = .error (.crash (.tooManyDigits none)) :=
  if_neg (mt formatShowable_iff.mpr h)

theorem ofConfig_congr (h : SameSettings config config') :
    ofConfig args config = ofConfig args config' := by
  simp only [ofConfig, merge, formatOf, keywordOperatorsOf, setting?_congr h.keywords,
    setting?_congr h.format]

/-- What comes of arguments and a configuration. There is one name of a format and one choice of
keywords to go by. They make options, or a refusal where no format has the name; but a configured
format that cannot be shown breaks the run off, whether it is the one that counts or not. -/
structure ByPrecedence (args : Arguments) (config : Toml.Table)
    (result : Except OptionError Options) : Prop where
  format : ∃! name, EffectiveFormat args config name
  keywords : ∃! keywords, EffectiveKeywords args config keywords
  options : ∀ o, result = .ok o ↔
    FormatShowable config ∧ EffectiveFormat args config (some o.format.name) ∧
      EffectiveKeywords args config o.keywordOperators ∧
      o.input = inputOf args ∧ o.output = outputOf args ∧ o.debug = args.debug
  refused : ∀ e, result = .error (.setting e) ↔
    FormatShowable config ∧ ∃ name, EffectiveFormat args config name ∧
      name ≠ some "text" ∧ name ≠ some "json" ∧ e = refusal name
  crashed : ∀ crash, result = .error (.crash crash) ↔
    ¬ FormatShowable config ∧ crash = .tooManyDigits none

theorem existsUnique_effectiveFormat (args : Arguments) (config : Toml.Table) :
    ∃! name, EffectiveFormat args config name :=
  ⟨_, effectiveFormat_iff.mpr rfl, fun _ h => (effectiveFormat_iff.mp h).symm⟩

theorem existsUnique_effectiveKeywords (args : Arguments) (config : Toml.Table) :
    ∃! keywords, EffectiveKeywords args config keywords :=
  ⟨_, effectiveKeywords_iff.mpr rfl, fun _ h => (effectiveKeywords_iff.mp h).symm⟩

theorem ofConfig_byPrecedence (args : Arguments) (config : Toml.Table) :
    ByPrecedence args config (ofConfig args config) := by
  have hformat := existsUnique_effectiveFormat args config
  have hkeywords := existsUnique_effectiveKeywords args config
  -- The check comes before the format is looked up, so it splits the cases first.
  by_cases hs : FormatShowable config
  · rw [ofConfig_of_showable hs]
    refine ⟨hformat, hkeywords, fun o => ?_, fun e => ?_, fun crash => ?_⟩
    · rw [← merge_eq_ok_iff]
      cases merge args config <;> simp [hs]
    · rw [← merge_eq_error_iff]
      cases merge args config <;> simp [hs]
    · cases merge args config <;> simp [hs]
  · rw [ofConfig_of_not_showable hs]
    refine ⟨hformat, hkeywords, fun o => ?_, fun e => ?_, fun crash => ?_⟩
    · simp [hs]
    · simp [hs]
    · simp [hs, eq_comm]

/-- Options follow the arguments before the configuration, and the configuration before the
defaults. All that a configuration can change are the keywords and the format, by what it says of
them. -/
theorem options_by_precedence (args : Arguments) :
    (∀ tree, resolve tree args = (readConfig tree (configPath args)).bind (ofConfig args)) ∧
      (∀ config, ByPrecedence args config (ofConfig args config)) ∧
      (∀ config config', SameSettings config config' →
        ofConfig args config = ofConfig args config') ∧
      ∀ config config' o o', ofConfig args config = .ok o → ofConfig args config' = .ok o' →
        o'.input = o.input ∧ o'.output = o.output ∧ o'.debug = o.debug := by
  refine ⟨fun tree => resolve_eq_bind tree args, ofConfig_byPrecedence args,
    fun _ _ => ofConfig_congr, ?_⟩
  intro config config' o o' h h'
  obtain ⟨-, -, -, hi, ho, hd⟩ := ((ofConfig_byPrecedence args config).options o).mp h
  obtain ⟨-, -, -, hi', ho', hd'⟩ := ((ofConfig_byPrecedence args config').options o').mp h'
  exact ⟨hi'.trans hi.symm, ho'.trans ho.symm, hd'.trans hd.symm⟩

/-- The arguments name the format, and the run breaks off at another one that does not count. -/
theorem crash_of_wide_format :
    let args : Arguments := ⟨"-", none, .named .json, none, false, false⟩
    let wide : Toml.Value := .integer (Nat.pow 16 4000 - 1 : Nat)
    let config : Toml.Table := [("output", .table [("format", wide)])]
    EffectiveFormat args config (some "json") ∧
      ofConfig args config = .error (.crash (.tooManyDigits none)) := by
  intro args wide config
  refine ⟨@EffectiveFormat.named args config .json rfl, ?_⟩
  -- Only the kernel computes powers of this size.
  decide +kernel

end TokenStream.Options
