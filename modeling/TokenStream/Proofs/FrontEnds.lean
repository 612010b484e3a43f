import TokenStream.Proofs.EditorSession
import TokenStream.Proofs.Invocation
import TokenStream.Proofs.SingleBreaks
import TokenStream.Proofs.Snippet

/-!
One text in three places: open in an editor, in a file, and on the standard input. Only the editor
sees the breaks of the text as they are, but what is wrong with the text, and where, is the same.
-/
namespace TokenStream

/-- A name of a file in the working directory, which no switch looks like. -/
structure PlainName (name : String) : Prop where
  no_slash : '/' ∉ name.toList
  no_newline : '\n' ∉ name.toList
  no_hyphen : name.toList.head? ≠ some '-'

/-- The text of lines that each end in a line feed. -/
def unlines (lines : List String) : String := String.join (lines.map (· ++ "\n"))

/-- The lines that tell of a diagnostic of a text that has a name, with some carets below the text's
line. -/
def Diagnostic.report (d : Diagnostic) (text name : String) (carets : Nat) : List String :=
  let number := toString (d.start.line + 1)
  let gutter := LexError.spaces (number.length + 1)
  let line := ((splitLines text)[d.start.line]?).getD ""
  [s!"error: {d.message}",
    s!"{gutter}--> {name}:{number}:{d.start.character + 1}",
    s!"{gutter}|",
    s!"{number} | {line}",
    s!"{gutter}| {LexError.spaces d.start.character.toNat}{LexError.carets carets}"]

/-- What is published of a text agrees with a run on a file that holds it and with a run on it as
the standard input: all find nothing, or all tell of one diagnostic, each line of whose report is
one line. -/
inductive Agree (tree : FileTree) (text name uri : String) :
    List Publication → Outcome → Outcome → Prop
  | clean (output : String) :
    Agree tree text name uri [⟨uri, []⟩] ⟨.exit 0, output, "", tree⟩ ⟨.exit 0, output, "", tree⟩
  | flawed (d : Diagnostic) (carets : Nat)
    (h : ∀ n ∈ [name, "<stdin>"], ∀ line ∈ d.report text n carets, '\n' ∉ line.toList) :
    Agree tree text name uri [⟨uri, [d]⟩]
      ⟨.exit 1, "", unlines (d.report text name carets), tree⟩
      ⟨.exit 1, "", unlines (d.report text "<stdin>" carets), tree⟩

variable {tree : FileTree} {stdin : ByteArray} {text name uri : String} {w : Workspace}
  {tokens : List Token} {e : LexError} {d : Diagnostic} {carets : Nat}

/-! ### Reports -/

theorem one_le_line : 1 ≤ e.position.line := Lines.le_last _

theorem snippet_eq_report :
    e.snippet name ++ "\n" =
      unlines ((Diagnostic.ofError e).report e.source name e.underline) := by
  have hl : e.position.line - 1 + 1 = e.position.line := Nat.sub_add_cancel one_le_line
  have hc : e.position.column - 1 + 1 = e.position.column := by omega
  -- As characters, so that the line feeds within the snippet stand apart from the lines.
  apply String.toList_injective
  simp [unlines, Diagnostic.report, Diagnostic.ofError, LexError.snippet, LexError.sourceLine, hl,
    hc, toString]

theorem newline_not_mem_report (hm : '\n' ∉ d.message.toList) (hn : '\n' ∉ name.toList) :
    ∀ line ∈ d.report text name carets, '\n' ∉ line.toList := by
  have hc : '\n' ∉ (d.start.character + 1).repr.toList :=
    newline_not_mem (printable_toString (d.start.character + 1))
  have hnum : '\n' ∉ (d.start.line + 1).repr.toList :=
    newline_not_mem (printable_toString (d.start.line + 1 : Nat))
  rw [Nat.toList_repr] at hnum
  have hl : '\n' ∉ (((splitLines text)[d.start.line]?).getD "").toList := by
    cases hs : (splitLines text)[d.start.line]? with
    | none => simp
    | some line =>
      obtain ⟨characters, hm, rfl⟩ := List.mem_map.mp (List.mem_of_getElem? hs)
      simpa using Lines.newline_not_mem_split _ hm
  simp [Diagnostic.report, LexError.spaces, LexError.carets, hm, hn, hc, hl, hnum, toString]

/-! ### Front ends -/

theorem published_opened :
    (w.handle (.opened uri text)).1.published =
      (Diagnostic.ofText text).1.toList.map (⟨uri, ·⟩) := by
  rw [ofText_eq_some]
  exact published_handle w (.opened uri text)

open CommandLine (Arguments)

theorem run_name (hp : PlainName name) (hr : tree.read (.ofString name) = .ok text.toUTF8)
    (hc : tree.isFile (Path.here.join "nlex.toml") = .ok false) :
    Program.run ⟨tree, stdin⟩ [name] =
      Program.runOptions ⟨tree, stdin⟩ (.ofInput (some (Path.here.join name))) := by
  have hi := Options.inputOf_name hp.no_hyphen
  rw [FileTree.ofString_of_read hp.no_slash hr] at hi
  exact Program.run_word (Arguments.read_name hp.no_hyphen) hi rfl hc

theorem run_hyphen (hc : tree.isFile (Path.here.join "nlex.toml") = .ok false) :
    Program.run ⟨tree, stdin⟩ ["-"] = Program.runOptions ⟨tree, stdin⟩ (.ofInput none) :=
  Program.run_word Arguments.read_hyphen rfl rfl hc

theorem inputText_name (hp : PlainName name) (hr : tree.read (.ofString name) = .ok text.toUTF8) :
    Program.inputText ⟨tree, stdin⟩ (.ofInput (some (Path.here.join name))) =
      .ok (normalizeBreaks text) := by
  apply Program.inputText_of_inputBytes
  rw [FileTree.ofString_of_read hp.no_slash hr] at hr
  simp [Program.inputBytes, Options.ofInput, hr]

theorem inputText_stdin :
    Program.inputText ⟨tree, text.toUTF8⟩ (.ofInput none) = .ok (normalizeBreaks text) :=
  Program.inputText_of_inputBytes rfl

/-- Neither the breaks of a text nor the way by which it comes in change what is told of it. -/
theorem front_ends_agree (tree : FileTree) (stdin : ByteArray) (text name uri : String)
    (w : Workspace) (hp : PlainName name) (hr : tree.read (.ofString name) = .ok text.toUTF8)
    (hc : tree.isFile (Path.here.join "nlex.toml") = .ok false) :
    Agree tree text name uri (w.handle (.opened uri text)).1.published
      (Program.run ⟨tree, stdin⟩ [name]) (Program.run ⟨tree, text.toUTF8⟩ ["-"]) := by
  -- Both runs lex the text with single breaks, the editor lexes it as it is.
  have hf := @inputText_name tree stdin text name hp hr
  have hs := @inputText_stdin tree text
  obtain ⟨tokens, tokens', ending, ending', ht, ht', -, he⟩ := tokenize_alike text true
  rw [run_name hp hr hc, run_hyphen hc, published_opened, ofText_eq, ht]
  cases he with
  | finished =>
    rw [Program.runOptions_of_tokens hf ht', Program.runOptions_of_tokens hs ht']
    exact .clean (listing tokens')
  | @failed c s e' h =>
    rw [Program.runOptions_of_error hf ht', Program.runOptions_of_error hs ht', h.snippet,
      h.snippet, snippet_eq_report, snippet_eq_report]
    have hn : Program.inputName (.ofInput (some (Path.here.join name))) = name := Path.render_join
    rw [hn]
    refine .flawed _ _ ?_
    intro n hn
    refine newline_not_mem_report (newline_not_mem_blame c) ?_
    rcases List.mem_cons.mp hn with rfl | hn
    · exact hp.no_newline
    · obtain rfl := List.mem_singleton.mp hn
      decide

/-- A literal that is never closed, behind a line that ends in a carriage return and a line feed. -/
theorem front_ends_agree_on_open_literal :
    let text := "a\r\n\"b"
    let tree : FileTree :=
      ⟨["home"], [(["home"], .directory), (["home", "notes"], .file text.toUTF8)]⟩
    PlainName "notes" ∧ tree.read (.ofString "notes") = .ok text.toUTF8 ∧
      tree.isFile (Path.here.join "nlex.toml") = .ok false ∧
      Agree tree text "notes" "file:///home/notes"
        (Workspace.empty.handle (.opened "file:///home/notes" text)).1.published
        (Program.run ⟨tree, .empty⟩ ["notes"]) (Program.run ⟨tree, text.toUTF8⟩ ["-"]) := by
  intro text tree
  have hp : PlainName "notes" := ⟨by decide, by decide, by decide⟩
  have hr : tree.read (.ofString "notes") = .ok text.toUTF8 := rfl
  have hc : tree.isFile (Path.here.join "nlex.toml") = .ok false := rfl
  exact ⟨hp, hr, hc, front_ends_agree tree .empty text "notes" _ _ hp hr hc⟩

end TokenStream
