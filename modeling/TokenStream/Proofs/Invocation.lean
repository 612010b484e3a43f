import TokenStream.Program

/-!
Runs with one word. A word that is the name of a file and no switch, or the hyphen that stands for
the standard input, leads to the default options where there is no configuration.
-/
namespace TokenStream

/-! ### Names -/

namespace Path

variable {text : List Char} {name : String}

theorem pieces_of_not_mem (h : '/' ∉ text) : pieces text = [text] := by
  induction text with
  | nil => rfl
  | cons c rest ih =>
    obtain ⟨hc, hr⟩ := by simpa using h
    simp [pieces, Ne.symm hc, ih hr]

theorem rootOf_of_not_mem (h : '/' ∉ text) : rootOf text = "" := by
  cases text with
  | nil => rfl
  | cons c rest =>
    obtain ⟨hc, hr⟩ := by simpa using h
    simp [rootOf, Ne.symm hc]

/-- The path of a name is that name, unless the name is one for the working directory. -/
theorem ofString_of_not_mem (h : '/' ∉ name.toList) :
    ofString name = here ∨ ofString name = here.join name := by
  rw [ofString, rootOf_of_not_mem h, pieces_of_not_mem h]
  by_cases hn : name = "" ∨ name = "."
  · left
    rcases hn with rfl | rfl <;> rfl
  · right
    simp_all [here, join]

theorem render_join : (here.join name).render = name := by
  simp [here, join, render]

end Path

theorem FileTree.read_here (tree : FileTree) :
    tree.read .here = .error (.system ⟨.isDirectory, .here⟩) := rfl

variable {tree : FileTree} {name : String} {content : ByteArray}

theorem FileTree.ofString_of_read (h : '/' ∉ name.toList)
    (hr : tree.read (.ofString name) = .ok content) : Path.ofString name = Path.here.join name := by
  refine (Path.ofString_of_not_mem h).resolve_left fun hh => ?_
  rw [hh, read_here] at hr
  exact nomatch hr

/-! ### Words -/

namespace CommandLine

/-- The arguments that a word alone makes. -/
def Arguments.ofInput (input : String) : Arguments := ⟨input, none, .unsaid, none, false, false⟩

theorem Word.ofText_of_head (h : name.toList.head? ≠ some '-') :
    ofText name = .ok (.plain name) := by
  unfold ofText
  split
  · next hl => simp [hl] at h
  · rfl

theorem Arguments.read_of_plain (hs : name ≠ "--") (h : Word.ofText name = .ok (.plain name)) :
    read [name] = .ok (ofInput name) := by
  simp [read, Word.ofTexts, hs, h]
  rfl

theorem Arguments.read_name (h : name.toList.head? ≠ some '-') :
    read [name] = .ok (ofInput name) := by
  refine read_of_plain ?_ (Word.ofText_of_head h)
  rintro rfl
  exact h rfl

theorem Arguments.read_hyphen : read ["-"] = .ok (ofInput "-") :=
  read_of_plain (by decide) rfl

end CommandLine

/-! ### Options -/

namespace Options

open CommandLine (Arguments)

/-- The options where nothing is said but the input. -/
def ofInput (input : Option Path) : Options := ⟨input, none, .text, true, false⟩

theorem inputOf_name (h : name.toList.head? ≠ some '-') :
    inputOf (.ofInput name) = some (.ofString name) := by
  refine if_neg ?_
  rintro rfl
  exact h rfl

/-- The configuration is looked for next to the input. -/
theorem configPath_ofInput {input : Option Path} (hi : inputOf (.ofInput name) = input) :
    configPath (.ofInput name) = ((input.map Path.parent).getD .here).join "nlex.toml" := by
  rw [configPath, hi]
  rfl

/-- Where there is no configuration, the arguments alone make the options. -/
theorem resolve_of_unconfigured {args : Arguments} (h : tree.isFile (configPath args) = .ok false) :
    resolve tree args = (merge args []).mapError .setting := by
  have hc : readConfig tree (configPath args) = .ok [] := by
    rw [readConfig, h]
    rfl
  rw [resolve, hc]
  rfl

theorem decode_toUTF8 (text : String) : decode text.toUTF8 = .ok text := by
  have : String.fromUTF8? text.toUTF8 = some text := dif_pos text.isValidUTF8
  rw [decode, this]

end Options

/-! ### Runs -/

namespace Program

open CommandLine (Arguments)
open Options (inputOf)

variable {w : World} {word text : String} {o : Options} {input : Option Path}
  {tokens : List Token} {e : LexError}

theorem run_word (hr : Arguments.read [word] = .ok (.ofInput word))
    (hi : inputOf (.ofInput word) = input) (hp : (input.map Path.parent).getD .here = .here)
    (hc : w.tree.isFile (Path.here.join "nlex.toml") = .ok false) :
    run w [word] = runOptions w (.ofInput input) := by
  have hcp := Options.configPath_ofInput hi
  rw [hp] at hcp
  rw [← hcp] at hc
  have hm : Options.merge (.ofInput word) [] = .ok (.ofInput (inputOf (.ofInput word))) := rfl
  rw [run, hr]
  simp only [runArguments, Options.resolve_of_unconfigured hc, hm, hi]
  rfl

theorem inputText_of_inputBytes (h : inputBytes w o = .ok text.toUTF8) :
    inputText w o = .ok (normalizeBreaks text) := by
  rw [inputText, h]
  change (Options.decode text.toUTF8).bind _ = _
  rw [Options.decode_toUTF8]
  rfl

/-- What becomes of a text, apart from what is reported on the way. -/
theorem output_tokenizeInput (h : inputText w o = .ok text) :
    (tokenizeInput w o).output =
      match tokenize text o.keywordOperators with
      | .ok tokens => .ok (print o.format tokens)
      | .error (.lexical e) => .error (.lexical e)
      | .error failure => .error (.crash (.lexer failure)) := by
  simp only [tokenizeInput, h, tokenize]
  generalize (Lexer.ofSource text o.keywordOperators).collect = reply
  rcases reply with ⟨⟨_ | _ | _⟩ | tokens, lexer⟩ <;> rfl

theorem runOptions_of_tokens (h : inputText w (.ofInput input) = .ok text)
    (ht : tokenize text true = .ok tokens) :
    runOptions w (.ofInput input) = ⟨.exit 0, listing tokens, "", w.tree⟩ := by
  have ho := output_tokenizeInput h
  rw [Options.ofInput] at ho ⊢
  rw [ht] at ho
  simp [runOptions, ho, deliver, print]

theorem runOptions_of_error (h : inputText w (.ofInput input) = .ok text)
    (ht : tokenize text true = .error (.lexical e)) :
    runOptions w (.ofInput input) =
      ⟨.exit 1, "", e.snippet (inputName (.ofInput input)) ++ "\n", w.tree⟩ := by
  have ho := output_tokenizeInput h
  rw [Options.ofInput] at ho ⊢
  rw [ht] at ho
  simp [runOptions, ho]

end Program
end TokenStream
