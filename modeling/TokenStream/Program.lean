import TokenStream.CommandLine.Usage
import TokenStream.Options
import TokenStream.Token.Document
import TokenStream.Token.Listing

/-!
The program: it reads its arguments and its configuration, reads and lexes its input, and prints the
tokens to one place, or else tells what is wrong.
-/
namespace TokenStream

/-- What the program finds when it starts. -/
structure World where
  tree : FileTree
  stdin : ByteArray

/-- How the program ends: with a code, with a code before it has arguments to work with, or by an
accident. -/
inductive Ending where
  | exit (code : Nat)
  | halt (code : Nat)
  | crash (crash : Crash)

/-- What the program leaves behind. -/
structure Outcome where
  ending : Ending
  stdout : String
  stderr : String
  tree : FileTree

/-- Why there is no output. -/
inductive InputError where
  | lexical (error : LexError)
  | crash (crash : Crash)

/-- What becomes of the input: the output, what the lexer reports, and the listing for debugging. -/
structure Tokenized where
  output : Except InputError String
  log : List LogEntry
  dump : String

namespace Program

/-- The name of the input in messages. -/
def inputName (o : Options) : String :=
  match o.input with
  | some path => path.render
  | none => "<stdin>"

def inputBytes (w : World) (o : Options) : Except Crash ByteArray :=
  match o.input with
  | some path => (w.tree.read path).mapError .access
  | none => .ok w.stdin

/-- The text of the input, with every line break as one line feed. -/
def inputText (w : World) (o : Options) : Except Crash String := do
  return normalizeBreaks (← Options.decode (← inputBytes w o))

def print : Format → List Token → String
  | .text => listing
  | .json => document

/-- Reads, lexes and renders the input. -/
def tokenizeInput (w : World) (o : Options) : Tokenized :=
  match inputText w o with
  | .error crash => ⟨.error (.crash crash), [], ""⟩
  | .ok text =>
    match (Lexer.ofSource text o.keywordOperators).collect with
    | (.ok tokens, lexer) =>
      ⟨.ok (print o.format tokens), lexer.log, if o.debug then listing tokens else ""⟩
    | (.error (.lexical e), lexer) => ⟨.error (.lexical e), lexer.log, ""⟩
    | (.error failure, lexer) => ⟨.error (.crash (.lexer failure)), lexer.log, ""⟩

/-- The lines that debugging shows of what the lexer reports. -/
def logText (o : Options) (log : List LogEntry) : String :=
  String.join (log.map fun entry => s!"DEBUG:nlex.lexer:{entry.render (inputName o)}\n")

def errorLine (message : String) : String := s!"error: {message}\n"

/-- Prints the output where the options want it. -/
def deliver (w : World) (o : Options) (stderr text : String) : Outcome :=
  match o.output with
  | none => ⟨.exit 0, text, stderr, w.tree⟩
  | some path =>
    match w.tree.write path text.toUTF8 with
    | .ok tree => ⟨.exit 0, "", stderr, tree⟩
    | .error e => ⟨.crash (.access e), "", stderr, w.tree⟩

/-- The run with options. Only an error of the system counts as one of the input; other accidents
with it are crashes. -/
def runOptions (w : World) (o : Options) : Outcome :=
  let tokenized := tokenizeInput w o
  let stderr := if o.debug then logText o tokenized.log ++ tokenized.dump else ""
  match tokenized.output with
  | .ok text => deliver w o stderr text
  | .error (.lexical e) => ⟨.exit 1, "", stderr ++ e.snippet (inputName o) ++ "\n", w.tree⟩
  | .error (.crash (.access (.system e))) =>
    ⟨.exit 2, "", stderr ++ errorLine e.message, w.tree⟩
  | .error (.crash crash) => ⟨.crash crash, "", stderr, w.tree⟩

def runArguments (w : World) (args : CommandLine.Arguments) : Outcome :=
  match Options.resolve w.tree args with
  | .ok o => runOptions w o
  | .error (.setting e) => ⟨.exit 2, "", errorLine e.message, w.tree⟩
  | .error (.crash crash) => ⟨.crash crash, "", "", w.tree⟩

/-- The run with the words of a command line. -/
def run (w : World) (words : List String) : Outcome :=
  match CommandLine.Arguments.read words with
  | .ok args => runArguments w args
  | .error .help => ⟨.halt 0, CommandLine.help, "", w.tree⟩
  | .error (.usage e) => ⟨.halt 2, "", e.report, w.tree⟩

end Program
end TokenStream
