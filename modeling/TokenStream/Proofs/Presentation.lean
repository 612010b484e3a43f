import TokenStream.Proofs.Endings
import TokenStream.Proofs.KeywordSwitch
import TokenStream.Proofs.SharedStream

/-!
How runs are shown. Formats, keywords and debugging decide what a run prints, but not how it ends:
whether it is refused, breaks off or goes through depends on its configuration, its input and its
output alone.
-/
namespace TokenStream

open CommandLine (Arguments)

/-- Arguments for the same work, each of which name a format to show it in. -/
structure CommandLine.Arguments.SameWork (args args' : Arguments) : Prop where
  input : args'.input = args.input
  output : args'.output = args.output
  config : args'.config = args.config
  named : ∃ format, args.format = .named format
  named' : ∃ format, args'.format = .named format

/-! ### Options -/

namespace Options

variable {tree : FileTree} {args args' : Arguments} {o : Options} {e : OptionError}
  {format : Format} {config : Toml.Table}

/-- The configuration that options can be made with. -/
def usableConfig (tree : FileTree) (path : Path) : Except OptionError Toml.Table := do
  let config ← readConfig tree path
  if (setting? config "output" "format").all Toml.Value.isShowable then return config
  else throw (.crash (.tooManyDigits none))

/-- The options of arguments that name a format. -/
def shownAs (args : Arguments) (format : Format) (config : Toml.Table) : Options :=
  ⟨inputOf args, outputOf args, format, keywordOperatorsOf args config, args.debug⟩

theorem resolve_of_named (h : args.format = .named format) :
    resolve tree args = (usableConfig tree (configPath args)).map (shownAs args format) := by
  have hm (config : Toml.Table) : merge args config = .ok (shownAs args format config) := by
    simp only [merge, formatOf, h]
    rfl
  unfold resolve usableConfig
  cases readConfig tree (configPath args) with
  | error e => rfl
  | ok config =>
    simp only [hm, bind, Except.bind]
    split <;> rfl

theorem exists_config_of_resolve (hf : args.format = .named format)
    (hr : resolve tree args = .ok o) :
    ∃ config, usableConfig tree (configPath args) = .ok config ∧
      o = shownAs args format config := by
  rw [resolve_of_named hf] at hr
  cases hc : usableConfig tree (configPath args) with
  | error e =>
    rw [hc] at hr
    exact nomatch hr
  | ok config =>
    rw [hc] at hr
    exact ⟨config, rfl, (Except.ok.inj hr).symm⟩

theorem debug_of_resolve (hf : args.format = .named format) (hr : resolve tree args = .ok o) :
    o.debug = args.debug := by
  obtain ⟨config, -, rfl⟩ := exists_config_of_resolve hf hr
  rfl

theorem configPath_sameWork (h : args.SameWork args') : configPath args' = configPath args := by
  simp only [configPath, inputOf, h.input, h.config]

/-- The same work is done in the same places. -/
theorem resolve_ok_sameWork (h : args.SameWork args') (hr : resolve tree args = .ok o) :
    ∃ o', resolve tree args' = .ok o' ∧ o'.input = o.input ∧ o'.output = o.output := by
  obtain ⟨format, hf⟩ := h.named
  obtain ⟨format', hf'⟩ := h.named'
  obtain ⟨config, hc, rfl⟩ := exists_config_of_resolve hf hr
  refine ⟨shownAs args' format' config, ?_, ?_, ?_⟩
  · rw [resolve_of_named hf', configPath_sameWork h, hc]
    rfl
  · simp only [shownAs, inputOf, h.input]
  · simp only [shownAs, outputOf, h.output]

/-- The same work is refused for the same reason. -/
theorem resolve_error_sameWork (h : args.SameWork args') (hr : resolve tree args = .error e) :
    resolve tree args' = .error e := by
  obtain ⟨format, hf⟩ := h.named
  obtain ⟨format', hf'⟩ := h.named'
  rw [resolve_of_named hf] at hr
  rw [resolve_of_named hf', configPath_sameWork h]
  cases hc : usableConfig tree (configPath args) with
  | error e' =>
    rw [hc] at hr
    exact hr
  | ok config =>
    rw [hc] at hr
    exact nomatch hr

/-- The options, with debugging. -/
def debugged (o : Options) : Options := { o with debug := true }

/-- Debugging is an option of its own. -/
theorem resolve_debug (hf : args.format = .named format) :
    resolve tree { args with debug := true } = (resolve tree args).map debugged := by
  have hf' : { args with debug := true }.format = .named format := hf
  have hp : configPath { args with debug := true } = configPath args := rfl
  rw [resolve_of_named hf, resolve_of_named hf', hp]
  cases usableConfig tree (configPath args) <;> rfl

theorem resolve_debug_ok (hf : args.format = .named format) (hr : resolve tree args = .ok o) :
    resolve tree { args with debug := true } = .ok o.debugged := by
  rw [resolve_debug hf, hr]
  rfl

theorem resolve_debug_error (hf : args.format = .named format)
    (hr : resolve tree args = .error e) : resolve tree { args with debug := true } = .error e := by
  rw [resolve_debug hf, hr]
  rfl

end Options

/-! ### Writing -/

namespace FileTree

variable {tree after : FileTree} {path : Path} {content : ByteArray} {e : AccessError}

theorem exists_write_of_write (h : tree.write path content = .ok after) (content' : ByteArray) :
    ∃ after', tree.write path content' = .ok after' := by
  obtain ⟨target, names, hl, hp, -⟩ := write_eq_ok_iff.mp h
  exact ⟨_, write_eq_ok_iff.mpr ⟨target, names, hl, hp, rfl⟩⟩

theorem write_error_of_write (h : tree.write path content = .error e) (content' : ByteArray) :
    tree.write path content' = .error e := by
  unfold write at h ⊢
  cases hl : tree.locate path with
  | error e' =>
    rw [hl] at h
    exact h
  | ok target =>
    rw [hl] at h
    cases target with
    | directory names => exact h
    | file | absent => exact nomatch h

end FileTree

/-! ### Endings -/

namespace Program

variable {w : World} {args args' : Arguments} {o o' : Options} {ending : Ending}
  {result : Except Crash String} {text : String} {tokens : List Token} {e : LexError}
  {outcome : Outcome}

theorem inputBytes_congr (h : o'.input = o.input) : inputBytes w o' = inputBytes w o := by
  simp only [inputBytes, h]

theorem input_congr (h : o'.input = o.input) (hi : Input w o result) : Input w o' result := by
  have hb := @inputBytes_congr w o o' h
  cases hi with
  | text hbytes hd => exact .text (hb.trans hbytes) hd
  | closed ho he => exact .closed (h.trans ho) he
  | encoding hbytes hd => exact .encoding (hb.trans hbytes) hd

theorem reason_sameWork (h : args.SameWork args') (hr : Reason w args ending) :
    Reason w args' ending := by
  cases hr with
  | refused hr => exact .refused (Options.resolve_error_sameWork h hr)
  | unconfigured hc =>
    rw [← Options.configPath_sameWork h] at hc
    exact .unconfigured hc
  | done hr hi ht hw =>
    obtain ⟨o', hr', hin, hout⟩ := Options.resolve_ok_sameWork h hr
    obtain ⟨tokens', ht'⟩ := exists_tokenize_switched o'.keywordOperators ht
    refine .done hr' (input_congr hin hi) ht' ?_
    intro path hp
    obtain ⟨after, hw⟩ := hw path (hout.symm.trans hp)
    exact FileTree.exists_write_of_write hw _
  | flawed hr hi ht =>
    obtain ⟨o', hr', hin, -⟩ := Options.resolve_ok_sameWork h hr
    exact .flawed hr' (input_congr hin hi) (tokenize_switched o'.keywordOperators ht)
  | missing hr ho he =>
    obtain ⟨o', hr', hin, -⟩ := Options.resolve_ok_sameWork h hr
    exact .missing hr' (hin.trans ho) he
  | unnamed hr ho he =>
    obtain ⟨o', hr', hin, -⟩ := Options.resolve_ok_sameWork h hr
    exact .unnamed hr' (hin.trans ho) he
  | undecoded hr hb hd =>
    obtain ⟨o', hr', hin, -⟩ := Options.resolve_ok_sameWork h hr
    exact .undecoded hr' ((inputBytes_congr hin).trans hb) hd
  | unwritten hr hi ht ho hw =>
    obtain ⟨o', hr', hin, hout⟩ := Options.resolve_ok_sameWork h hr
    obtain ⟨tokens', ht'⟩ := exists_tokenize_switched o'.keywordOperators ht
    exact .unwritten hr' (input_congr hin hi) ht' (hout.trans ho)
      (FileTree.write_error_of_write hw _)

/-! ### Debugging -/

/-- A lexer that is asked for all tokens of a source reports the end of them, or the error. -/
theorem exists_collect (source : String) (keywordOperators : Bool) :
    ∃ lexer, (Lexer.ofSource source keywordOperators).collect =
        (tokenize source keywordOperators, lexer) ∧
      lexer.log =
        match tokenize source keywordOperators with
        | .ok tokens => [.exhausted tokens.length]
        | .error (.lexical e) => [.failed e.offset e.message]
        | .error _ => [] := by
  refine ⟨_, rfl, ?_⟩
  have hl := Lexer.log_of_run (Lexer.run_drain (Lexer.ofSource source keywordOperators)) rfl
  simp only [tokenize, Lexer.collect]
  generalize (Lexer.ofSource source keywordOperators).drain = drained at hl
  obtain ⟨tokens, failure, lexer⟩ := drained
  rcases failure with - | (e | e | c) <;> simpa [Lexer.report, Lexer.ofSource] using hl

theorem logText_exhausted (o : Options) (count : Nat) :
    logText o [.exhausted count] =
      s!"DEBUG:nlex.lexer:{inputName o}: exhausted after {count} tokens\n" := by
  have ht : " tokens" ++ "\n" = " tokens\n" := rfl
  simp only [logText, LogEntry.render, List.map_cons, List.map_nil, String.join_cons,
    String.join_nil, String.append_empty, toString, String.append_assoc, ht]

theorem logText_failed (o : Options) (offset : Int) (message : String) :
    logText o [.failed offset message] =
      s!"DEBUG:nlex.lexer:{inputName o}: lex error at offset {offset}: {message}\n" := by
  simp only [logText, LogEntry.render, List.map_cons, List.map_nil, String.join_cons,
    String.join_nil, String.append_empty, toString, String.append_assoc]

theorem debugText_of_tokens (hi : inputText w o = .ok text)
    (ht : tokenize text o.keywordOperators = .ok tokens) (hd : o.debug = true) :
    debugText w o =
      s!"DEBUG:nlex.lexer:{inputName o}: exhausted after {tokens.length} tokens\n" ++
        listing tokens := by
  obtain ⟨lexer, hc, hl⟩ := exists_collect text o.keywordOperators
  rw [ht] at hc hl
  simp only [debugText, tokenizeInput, hi, hc, hl, hd, if_true, logText_exhausted]

theorem debugText_of_failure (hi : inputText w o = .ok text)
    (ht : tokenize text o.keywordOperators = .error (.lexical e)) (hd : o.debug = true) :
    debugText w o =
      s!"DEBUG:nlex.lexer:{inputName o}: lex error at offset {e.offset}: {e.message}\n" := by
  obtain ⟨lexer, hc, hl⟩ := exists_collect text o.keywordOperators
  rw [ht] at hc hl
  simp only [debugText, tokenizeInput, hi, hc, hl, hd, if_true, logText_failed,
    String.append_empty]

theorem input_debugged (h : Input w o result) : Input w o.debugged result :=
  input_congr (o := o) rfl h

/-- Debugging shows more in front of what is shown without it, and changes nothing else. -/
theorem ends_debug (hf : args.format = .named format) (hd : args.debug = false)
    (h : Ends w args outcome) :
    ∃ log, Ends w { args with debug := true } { outcome with stderr := log ++ outcome.stderr } := by
  have quiet {o : Options} (hr : Options.resolve w.tree args = .ok o) : debugText w o = "" := by
    simp [debugText, (Options.debug_of_resolve hf hr).trans hd]
  cases h with
  | refused hr => exact ⟨"", .refused (Options.resolve_debug_error hf hr)⟩
  | unconfigured hr => exact ⟨"", .unconfigured (Options.resolve_debug_error hf hr)⟩
  | missing hr hi =>
    exact ⟨"", .missing (Options.resolve_debug_ok hf hr) (input_debugged hi)⟩
  | unnamed hr hi =>
    exact ⟨"", .unnamed (Options.resolve_debug_ok hf hr) (input_debugged hi)⟩
  | undecoded hr hi =>
    exact ⟨"", .undecoded (Options.resolve_debug_ok hf hr) (input_debugged hi)⟩
  | @flawed o _ _ hr hi ht =>
    refine ⟨debugText w o.debugged, ?_⟩
    rw [quiet hr, String.empty_append, ← String.append_assoc]
    exact .flawed (Options.resolve_debug_ok hf hr) (input_debugged hi) ht
  | @printed o _ _ hr hi ht ho =>
    refine ⟨debugText w o.debugged, ?_⟩
    rw [quiet hr, String.append_empty]
    exact .printed (Options.resolve_debug_ok hf hr) (input_debugged hi) ht ho
  | @written o _ _ _ _ hr hi ht ho hw =>
    refine ⟨debugText w o.debugged, ?_⟩
    rw [quiet hr, String.append_empty]
    exact .written (Options.resolve_debug_ok hf hr) (input_debugged hi) ht ho hw
  | @unwritten o _ _ _ _ hr hi ht ho hw =>
    refine ⟨debugText w o.debugged, ?_⟩
    rw [quiet hr, String.append_empty]
    exact .unwritten (Options.resolve_debug_ok hf hr) (input_debugged hi) ht ho hw

/-! ### Verdicts -/

/-- What is shown of an error in the input. -/
def errorText (debug : Bool) (name : String) (e : LexError) : String :=
  (if debug then s!"DEBUG:nlex.lexer:{name}: lex error at offset {e.offset}: {e.message}\n"
    else "") ++ e.snippet name ++ "\n"

theorem debugText_append_snippet (hf : args.format = .named format)
    (hr : Options.resolve w.tree args = .ok o) (hi : Input w o (.ok text))
    (ht : tokenize text o.keywordOperators = .error (.lexical e)) :
    debugText w o ++ e.snippet (inputName o) ++ "\n" = errorText args.debug (inputName o) e := by
  rw [errorText, ← Options.debug_of_resolve hf hr]
  cases hd : o.debug with
  | false => simp [debugText, hd]
  | true => rw [debugText_of_failure (inputText_of_input hi) ht hd, if_pos rfl]

/-- An error in the input of the same work is the same error, and shown alike. -/
theorem stderr_of_exit_one (h : args.SameWork args') (he : Ends w args outcome)
    (hz : outcome.ending = .exit 1) :
    ∃ o text e, Options.resolve w.tree args = .ok o ∧ inputText w o = .ok text ∧
      tokenize text o.keywordOperators = .error (.lexical e) ∧
      outcome.stderr = errorText args.debug (inputName o) e ∧
      (runArguments w args').stderr = errorText args'.debug (inputName o) e := by
  obtain ⟨format, hf⟩ := h.named
  obtain ⟨format', hf'⟩ := h.named'
  cases he with
  | refused | missing | printed | written => simp at hz
  | unconfigured | unnamed | undecoded | unwritten => simp at hz
  | @flawed o text e hr hi ht =>
    obtain ⟨o', hr', hin, -⟩ := Options.resolve_ok_sameWork h hr
    have hi' := input_congr hin hi
    have ht' := tokenize_switched o'.keywordOperators ht
    have hn : inputName o' = inputName o := by simp only [inputName, hin]
    refine ⟨o, text, e, hr, inputText_of_input hi, ht, debugText_append_snippet hf hr hi ht, ?_⟩
    rw [runArguments_of_ends (.flawed hr' hi' ht'), ← hn]
    exact debugText_append_snippet hf' hr' hi' ht'

/-- Where a run with debugging goes through, it shows how many tokens there are, and the tokens. -/
theorem stderr_of_exit_zero (hf : args.format = .named format) (hd : args.debug = true)
    (he : Ends w args outcome) (hz : outcome.ending = .exit 0) :
    ∃ o text tokens, Options.resolve w.tree args = .ok o ∧ inputText w o = .ok text ∧
      tokenize text o.keywordOperators = .ok tokens ∧
      outcome.stderr =
        s!"DEBUG:nlex.lexer:{inputName o}: exhausted after {tokens.length} tokens\n" ++
          listing tokens := by
  cases he with
  | refused | missing | flawed => simp at hz
  | unconfigured | unnamed | undecoded | unwritten => simp at hz
  | printed hr hi ht | written hr hi ht =>
    have hi := inputText_of_input hi
    exact ⟨_, _, _, hr, hi, ht,
      debugText_of_tokens hi ht ((Options.debug_of_resolve hf hr).trans hd)⟩

/-- Outcomes with the same verdict: they end the same way, and an error in the input, which is the
same one, is shown alike. -/
structure SameVerdict (w : World) (args args' : Arguments) (outcome outcome' : Outcome) : Prop where
  ending : outcome'.ending = outcome.ending
  error : outcome.ending = .exit 1 →
    ∃ o text e, Options.resolve w.tree args = .ok o ∧ inputText w o = .ok text ∧
      tokenize text o.keywordOperators = .error (.lexical e) ∧
      outcome.stderr = errorText args.debug (inputName o) e ∧
      outcome'.stderr = errorText args'.debug (inputName o) e

/-- An outcome, and what it is with debugging: more is shown in front of the rest, and where the run
goes through that is how many tokens there are, and the tokens. -/
structure WithDebugging (w : World) (args' : Arguments) (outcome outcome' : Outcome) : Prop where
  stdout : outcome'.stdout = outcome.stdout
  tree : outcome'.tree = outcome.tree
  stderr : ∃ log, outcome'.stderr = log ++ outcome.stderr
  tokens : outcome'.ending = .exit 0 →
    ∃ o text tokens, Options.resolve w.tree args' = .ok o ∧ inputText w o = .ok text ∧
      tokenize text o.keywordOperators = .ok tokens ∧
      outcome'.stderr =
        s!"DEBUG:nlex.lexer:{inputName o}: exhausted after {tokens.length} tokens\n" ++
          listing tokens

end Program

end TokenStream
