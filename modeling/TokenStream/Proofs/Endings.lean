import TokenStream.Proofs.Breaks
import TokenStream.Proofs.Configuration
import TokenStream.Proofs.Invocation
import TokenStream.Proofs.Stream

/-!
How runs end. With arguments to work with, a run goes through its configuration, its input, the
lexer and its output. Each of them may refuse or break the run off, and only behind the last is
anything different from before: the output, in one place.
-/
namespace TokenStream.Program

open CommandLine (Arguments)

/-! ### Inputs -/

/-- The text of an input, or what stops the reading of it. -/
inductive Input (w : World) (o : Options) : Except Crash String → Prop
  | text {bytes : ByteArray} {text : String} (hb : inputBytes w o = .ok bytes)
    (hd : Options.decode bytes = .ok text) : Input w o (.ok (normalizeBreaks text))
  | closed {path : Path} {e : AccessError} (ho : o.input = some path)
    (he : w.tree.read path = .error e) : Input w o (.error (.access e))
  | encoding {bytes : ByteArray} (hb : inputBytes w o = .ok bytes)
    (hd : Options.decode bytes = .error .undecodable) : Input w o (.error .undecodable)

variable {w : World} {words : List String} {args : Arguments} {outcome : Outcome} {o : Options}
  {ending : Ending} {crash : Crash} {result : Except Crash String}

theorem input_of_inputBytes {bytes : ByteArray} (hb : inputBytes w o = .ok bytes) :
    ∃ result, Input w o result := by
  obtain ⟨text, hd⟩ | hd := Options.decode_cases bytes
  · exact ⟨_, .text hb hd⟩
  · exact ⟨_, .encoding hb hd⟩

theorem exists_input (w : World) (o : Options) : ∃ result, Input w o result := by
  cases ho : o.input with
  | none =>
    have hb : inputBytes w o = .ok w.stdin := by rw [inputBytes, ho]
    exact input_of_inputBytes hb
  | some path =>
    cases he : w.tree.read path with
    | error e => exact ⟨_, .closed ho he⟩
    | ok bytes =>
      have hb : inputBytes w o = .ok bytes := by
        simp only [inputBytes, ho, he, mapError_ok]
      exact input_of_inputBytes hb

theorem inputText_of_input (h : Input w o result) : inputText w o = result := by
  cases h with
  | closed ho he =>
    simp only [inputText, inputBytes, ho, he, mapError_error]
    rfl
  | text hb hd =>
    simp only [inputText, hb, bind, Except.bind, hd]
    rfl
  | encoding hb hd => simp only [inputText, hb, bind, Except.bind, hd]

theorem tokenizeInput_of_error (h : inputText w o = .error crash) :
    tokenizeInput w o = ⟨.error (.crash crash), [], ""⟩ := by
  simp only [tokenizeInput, h]

/-! ### Ends -/

/-- What debugging shows. -/
def debugText (w : World) (o : Options) : String :=
  let tokenized := tokenizeInput w o
  if o.debug then logText o tokenized.log ++ tokenized.dump else ""

theorem debugText_of_error (h : inputText w o = .error crash) : debugText w o = "" := by
  simp [debugText, tokenizeInput_of_error h, logText]

/-- All that may become of a run with arguments. -/
inductive Ends (w : World) (args : Arguments) : Outcome → Prop
  | refused {e : SettingError} (hr : Options.resolve w.tree args = .error (.setting e)) :
    Ends w args ⟨.exit 2, "", errorLine e.message, w.tree⟩
  | unconfigured {crash : Crash} (hr : Options.resolve w.tree args = .error (.crash crash)) :
    Ends w args ⟨.crash crash, "", "", w.tree⟩
  | missing {o : Options} {e : FileError} (hr : Options.resolve w.tree args = .ok o)
    (hi : Input w o (.error (.access (.system e)))) :
    Ends w args ⟨.exit 2, "", errorLine e.message, w.tree⟩
  | unnamed {o : Options} (hr : Options.resolve w.tree args = .ok o)
    (hi : Input w o (.error (.access .nulInPath))) :
    Ends w args ⟨.crash (.access .nulInPath), "", "", w.tree⟩
  | undecoded {o : Options} (hr : Options.resolve w.tree args = .ok o)
    (hi : Input w o (.error .undecodable)) : Ends w args ⟨.crash .undecodable, "", "", w.tree⟩
  | flawed {o : Options} {text : String} {e : LexError}
    (hr : Options.resolve w.tree args = .ok o) (hi : Input w o (.ok text))
    (ht : tokenize text o.keywordOperators = .error (.lexical e)) :
    Ends w args ⟨.exit 1, "", debugText w o ++ e.snippet (inputName o) ++ "\n", w.tree⟩
  | printed {o : Options} {text : String} {tokens : List Token}
    (hr : Options.resolve w.tree args = .ok o) (hi : Input w o (.ok text))
    (ht : tokenize text o.keywordOperators = .ok tokens) (ho : o.output = none) :
    Ends w args ⟨.exit 0, print o.format tokens, debugText w o, w.tree⟩
  | written {o : Options} {text : String} {tokens : List Token} {path : Path} {after : FileTree}
    (hr : Options.resolve w.tree args = .ok o) (hi : Input w o (.ok text))
    (ht : tokenize text o.keywordOperators = .ok tokens) (ho : o.output = some path)
    (hw : w.tree.write path (print o.format tokens).toUTF8 = .ok after) :
    Ends w args ⟨.exit 0, "", debugText w o, after⟩
  | unwritten {o : Options} {text : String} {tokens : List Token} {path : Path} {e : AccessError}
    (hr : Options.resolve w.tree args = .ok o) (hi : Input w o (.ok text))
    (ht : tokenize text o.keywordOperators = .ok tokens) (ho : o.output = some path)
    (hw : w.tree.write path (print o.format tokens).toUTF8 = .error e) :
    Ends w args ⟨.crash (.access e), "", debugText w o, w.tree⟩

/-- A run has one of the ends, because every stage has a result and each result an end. -/
theorem exists_ends (w : World) (args : Arguments) : ∃ outcome, Ends w args outcome := by
  cases hr : Options.resolve w.tree args with
  | error e =>
    cases e with
    | setting => exact ⟨_, .refused hr⟩
    | crash => exact ⟨_, .unconfigured hr⟩
  | ok o =>
    obtain ⟨result, hi⟩ := exists_input w o
    cases hi with
    | encoding hb hd => exact ⟨_, .undecoded hr (.encoding hb hd)⟩
    | @closed _ e ho he =>
      cases e with
      | system => exact ⟨_, .missing hr (.closed ho he)⟩
      | nulInPath => exact ⟨_, .unnamed hr (.closed ho he)⟩
    | @text _ text hb hd =>
      have hi := Input.text hb hd
      generalize ht : tokenize (normalizeBreaks text) o.keywordOperators = result
      cases lexed_of_tokenize ht with
      | stopped => exact ⟨_, .flawed hr hi ht⟩
      | @whole tokens =>
        cases ho : o.output with
        | none => exact ⟨_, .printed hr hi ht ho⟩
        | some path =>
          cases hw : w.tree.write path (print o.format tokens).toUTF8 with
          | ok after => exact ⟨_, .written hr hi ht ho hw⟩
          | error e => exact ⟨_, .unwritten hr hi ht ho hw⟩

theorem runOptions_eq (w : World) (o : Options) :
    runOptions w o =
      match (tokenizeInput w o).output with
      | .ok text => deliver w o (debugText w o) text
      | .error (.lexical e) =>
        ⟨.exit 1, "", debugText w o ++ e.snippet (inputName o) ++ "\n", w.tree⟩
      | .error (.crash (.access (.system e))) =>
        ⟨.exit 2, "", debugText w o ++ errorLine e.message, w.tree⟩
      | .error (.crash crash) => ⟨.crash crash, "", debugText w o, w.tree⟩ :=
  rfl

theorem runArguments_of_ends (h : Ends w args outcome) : runArguments w args = outcome := by
  cases h with
  | refused hr | unconfigured hr => rw [runArguments, hr]
  | missing hr hi | unnamed hr hi | undecoded hr hi =>
    have hi := inputText_of_input hi
    simp only [runArguments, hr, runOptions_eq, tokenizeInput_of_error hi, debugText_of_error hi,
      String.empty_append]
  | flawed hr hi ht =>
    have hi := inputText_of_input hi
    simp only [runArguments, hr, runOptions_eq, output_tokenizeInput hi, ht]
  | printed hr hi ht ho =>
    have hi := inputText_of_input hi
    simp only [runArguments, hr, runOptions_eq, output_tokenizeInput hi, ht, deliver, ho]
  | written hr hi ht ho hw | unwritten hr hi ht ho hw =>
    have hi := inputText_of_input hi
    simp only [runArguments, hr, runOptions_eq, output_tokenizeInput hi, ht, deliver, ho, hw]

theorem run_of_read (h : Arguments.read words = .ok args) : run w words = runArguments w args := by
  rw [run, h]

theorem ends_of_run (h : Arguments.read words = .ok args) : Ends w args (run w words) := by
  obtain ⟨outcome, he⟩ := exists_ends w args
  rwa [run_of_read h, runArguments_of_ends he]

/-! ### Output -/

/-- The text is in the one place that the options name, and no other place is different. -/
def Delivered (w : World) (o : Options) (text : String) (outcome : Outcome) : Prop :=
  match o.output with
  | none => outcome.stdout = text ∧ outcome.tree = w.tree
  | some path => outcome.stdout = "" ∧ w.tree.Written path text.toUTF8 outcome.tree

theorem delivered_of_ends (h : Ends w args outcome) (hz : outcome.ending = .exit 0) :
    ∃ o text, Options.resolve w.tree args = .ok o ∧ (tokenizeInput w o).output = .ok text ∧
      Delivered w o text outcome := by
  cases h with
  | refused | missing | flawed => simp at hz
  | unconfigured | unnamed | undecoded | unwritten => simp at hz
  | printed hr hi ht ho =>
    refine ⟨_, _, hr, by rw [output_tokenizeInput (inputText_of_input hi), ht], ?_⟩
    rw [Delivered, ho]
    exact ⟨rfl, rfl⟩
  | written hr hi ht ho hw =>
    refine ⟨_, _, hr, by rw [output_tokenizeInput (inputText_of_input hi), ht], ?_⟩
    rw [Delivered, ho]
    exact ⟨rfl, FileTree.written_of_write hw⟩

theorem untouched_of_ends (h : Ends w args outcome) (hz : outcome.ending ≠ .exit 0) :
    outcome.stdout = "" ∧ outcome.tree = w.tree := by
  cases h with
  | printed | written => exact absurd rfl hz
  | refused | missing | flawed => exact ⟨rfl, rfl⟩
  | unconfigured | unnamed | undecoded | unwritten => exact ⟨rfl, rfl⟩

/-- Why a run ends as it does. -/
inductive Reason (w : World) (args : Arguments) : Ending → Prop
  | done {o : Options} {text : String} {tokens : List Token}
    (hr : Options.resolve w.tree args = .ok o) (hi : Input w o (.ok text))
    (ht : tokenize text o.keywordOperators = .ok tokens)
    (hw : ∀ path, o.output = some path →
      ∃ after, w.tree.write path (print o.format tokens).toUTF8 = .ok after) :
    Reason w args (.exit 0)
  | flawed {o : Options} {text : String} {e : LexError}
    (hr : Options.resolve w.tree args = .ok o) (hi : Input w o (.ok text))
    (ht : tokenize text o.keywordOperators = .error (.lexical e)) : Reason w args (.exit 1)
  | refused {e : SettingError} (hr : Options.resolve w.tree args = .error (.setting e)) :
    Reason w args (.exit 2)
  | missing {o : Options} {path : Path} {e : FileError}
    (hr : Options.resolve w.tree args = .ok o) (ho : o.input = some path)
    (he : w.tree.read path = .error (.system e)) : Reason w args (.exit 2)
  | unconfigured {crash : Crash}
    (hc : Options.ConfigAccident w.tree (Options.configPath args) crash) :
    Reason w args (.crash crash)
  | unnamed {o : Options} {path : Path} (hr : Options.resolve w.tree args = .ok o)
    (ho : o.input = some path) (he : w.tree.read path = .error .nulInPath) :
    Reason w args (.crash (.access .nulInPath))
  | undecoded {o : Options} {bytes : ByteArray} (hr : Options.resolve w.tree args = .ok o)
    (hb : inputBytes w o = .ok bytes) (hd : Options.decode bytes = .error .undecodable) :
    Reason w args (.crash .undecodable)
  | unwritten {o : Options} {text : String} {tokens : List Token} {path : Path} {e : AccessError}
    (hr : Options.resolve w.tree args = .ok o) (hi : Input w o (.ok text))
    (ht : tokenize text o.keywordOperators = .ok tokens) (ho : o.output = some path)
    (hw : w.tree.write path (print o.format tokens).toUTF8 = .error e) :
    Reason w args (.crash (.access e))

theorem reason_of_ends (h : Ends w args outcome) : Reason w args outcome.ending := by
  cases h with
  | refused hr => exact .refused hr
  | unconfigured hr => exact .unconfigured (Options.resolve_eq_crash_iff.mp hr)
  | missing hr hi =>
    cases hi with
    | closed ho he => exact .missing hr ho he
  | unnamed hr hi =>
    cases hi with
    | closed ho he => exact .unnamed hr ho he
  | undecoded hr hi =>
    cases hi with
    | encoding hb hd => exact .undecoded hr hb hd
  | flawed hr hi ht => exact .flawed hr hi ht
  | printed hr hi ht ho => exact .done hr hi ht (by simp [ho])
  | written hr hi ht ho hw =>
    refine .done hr hi ht ?_
    intro path hp
    obtain rfl := Option.some.inj (ho.symm.trans hp)
    exact ⟨_, hw⟩
  | unwritten hr hi ht ho hw => exact .unwritten hr hi ht ho hw

theorem ending_of_reason (h : Reason w args ending) :
    (runArguments w args).ending = ending := by
  cases h with
  | @done o _ _ hr hi ht hw =>
    cases ho : o.output with
    | none => rw [runArguments_of_ends (.printed hr hi ht ho)]
    | some path =>
      obtain ⟨after, hw⟩ := hw path ho
      rw [runArguments_of_ends (.written hr hi ht ho hw)]
  | flawed hr hi ht => rw [runArguments_of_ends (.flawed hr hi ht)]
  | refused hr => rw [runArguments_of_ends (.refused hr)]
  | missing hr ho he => rw [runArguments_of_ends (.missing hr (.closed ho he))]
  | unconfigured hc =>
    rw [runArguments_of_ends (.unconfigured (Options.resolve_eq_crash_iff.mpr hc))]
  | unnamed hr ho he => rw [runArguments_of_ends (.unnamed hr (.closed ho he))]
  | undecoded hr hb hd => rw [runArguments_of_ends (.undecoded hr (.encoding hb hd))]
  | unwritten hr hi ht ho hw => rw [runArguments_of_ends (.unwritten hr hi ht ho hw)]

theorem stderr_of_exit_two (h : Ends w args outcome) (hz : outcome.ending = .exit 2) :
    ∃ message, outcome.stderr = errorLine message := by
  cases h with
  | refused | missing => exact ⟨_, rfl⟩
  | flawed | printed | written => simp at hz
  | unconfigured | unnamed | undecoded | unwritten => simp at hz

end TokenStream.Program
