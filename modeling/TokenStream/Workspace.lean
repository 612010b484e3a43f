import TokenStream.Lexer

/-!
Diagnostics for an editor. A workspace holds the latest text of each document; whenever a document
is opened or changed its text is lexed, and what is wrong with it is published under its name.
-/
namespace TokenStream

/-- A place in a document. Lines and characters count from zero. -/
structure Place where
  line : Nat
  character : Int
deriving DecidableEq, Repr

structure Diagnostic where
  start : Place
  stop : Place
  message : String
deriving DecidableEq, Repr

/-- All that is wrong with the document of the given name. It replaces what was published before. -/
structure Publication where
  uri : String
  diagnostics : List Diagnostic
deriving DecidableEq, Repr

namespace Diagnostic

/-- Every diagnostic is an error. -/
def severity : Nat := 1

/-- The tool that finds the diagnostics. -/
def source : String := "nlex"

/-- The character that an error is at. -/
def ofError (e : LexError) : Diagnostic :=
  let line := e.position.line - 1
  let character := e.position.column - 1
  ⟨⟨line, character⟩, ⟨line, character + 1⟩, e.message⟩

/-- The diagnostics of a text, or none at all if the lexer stops for another reason than an error in
the text; and what the lexer reports. -/
def ofText (text : String) : Option (List Diagnostic) × List LogEntry :=
  match (Lexer.ofSource text true).collect with
  | (.ok _, lexer) => (some [], lexer.log)
  | (.error (.lexical e), lexer) => (some [ofError e], lexer.log)
  | (.error _, lexer) => (none, lexer.log)

end Diagnostic

/-- What an editor tells: the name of a document and its whole text. -/
inductive Event where
  | opened (uri text : String)
  | changed (uri text : String)

namespace Event

def uri : Event → String
  | opened uri _ => uri
  | changed uri _ => uri

def text : Event → String
  | opened _ text => text
  | changed _ text => text

end Event

/-- The documents that are open, each with its text. -/
structure Workspace where
  documents : List (String × String)

namespace Workspace

def empty : Workspace := ⟨[]⟩

def text? (w : Workspace) (uri : String) : Option String := w.documents.lookup uri

def put (w : Workspace) (uri text : String) : Workspace :=
  ⟨(uri, text) :: w.documents.filter fun document => document.1 != uri⟩

/-- The part of a document's name after the last slash. -/
def filename (uri : String) : String :=
  String.ofList (uri.toList.reverse.takeWhile (· != '/')).reverse

/-- What an event leads to. -/
structure Response where
  published : List Publication
  log : List String

/-- Lexes the text that the workspace holds for a document. -/
def validate (w : Workspace) (uri : String) : Response :=
  match w.text? uri with
  | none => ⟨[], []⟩
  | some text =>
    let (diagnostics, log) := Diagnostic.ofText text
    ⟨diagnostics.toList.map (⟨uri, ·⟩), log.map (LogEntry.render (filename uri))⟩

def handle (w : Workspace) (event : Event) : Response × Workspace :=
  let next := w.put event.uri event.text
  (next.validate event.uri, next)

/-- The responses to a run of events, and the workspace after it. -/
def run (w : Workspace) : List Event → List Response × Workspace
  | [] => ([], w)
  | event :: events =>
    let (response, next) := w.handle event
    let (responses, last) := run next events
    (response :: responses, last)

end Workspace
end TokenStream
