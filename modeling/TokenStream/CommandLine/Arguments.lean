import TokenStream.Text.Quoted
import TokenStream.Token.Spelling

/-!
The words of a command line, read into arguments. Switches take effect from left to right; the first
word that is no switch and no value of one is the input.
-/
namespace TokenStream

/-- The forms in which tokens can be printed. -/
inductive Format where
  | text | json
deriving DecidableEq, Repr

namespace Format

def name : Format → String
  | text => "text"
  | json => "json"

def all : List Format := [text, json]

def ofName? (name : String) : Option Format := all.find? (·.name == name)

end Format

namespace CommandLine

inductive Switch where
  | help | output | format | config | noKeywordOperators | debug
deriving DecidableEq, Repr

namespace Switch

/-- Every spelling of a switch. -/
def spellings : List (String × Switch) :=
  [("-h", help), ("--help", help), ("-o", output), ("--output", output), ("--format", format),
    ("--config", config), ("--no-keyword-operators", noKeywordOperators), ("--debug", debug)]

/-- The name of a switch in messages. -/
def label (switch : Switch) : String :=
  "/".intercalate ((spellings.filter fun spelling => spelling.2 = switch).map Prod.fst)

def takesValue : Switch → Bool
  | output | format | config => true
  | _ => false

end Switch

/-- What is wrong with a command line. -/
inductive UsageError where
  /-- An abbreviation of several switches. -/
  | ambiguous (word : String) (candidates : List String)
  /-- A switch without the value it takes. -/
  | valueMissing (switch : Switch)
  /-- A switch that takes no value with one attached. -/
  | valueIgnored (switch : Switch) (value : String)
  | unknownFormat (value : String)
  | inputMissing
  | unrecognized (words : List String)
deriving DecidableEq, Repr

def UsageError.message : UsageError → String
  | ambiguous word candidates =>
    s!"ambiguous option: {word} could match " ++ ", ".intercalate candidates
  | valueMissing switch => s!"argument {switch.label}: expected one argument"
  | valueIgnored switch value =>
    s!"argument {switch.label}: ignored explicit argument {quoted value}"
  | unknownFormat value =>
    s!"argument {Switch.format.label}: invalid choice: {quoted value} (choose from " ++
      ", ".intercalate (Format.all.map fun format => quoted format.name) ++ ")"
  | inputMissing => "the following arguments are required: input"
  | unrecognized words => "unrecognized arguments: " ++ " ".intercalate words

/-- Why a command line gives no arguments: it asks for help, or it is wrong. -/
inductive Halt where
  | help
  | usage (error : UsageError)
deriving DecidableEq, Repr

/-- What the words say of the format. -/
inductive FormatChoice where
  | unsaid
  | named (format : Format)
  /-- The switch is there, but not its value. -/
  | valueless
deriving DecidableEq, Repr

structure Arguments where
  input : String
  output : Option String
  format : FormatChoice
  config : Option String
  noKeywordOperators : Bool
  debug : Bool
deriving DecidableEq, Repr

/-- A word of a command line. -/
inductive Word where
  /-- A switch, and the value that an equals sign attaches to it. -/
  | switch (switch : Switch) (value : Option String)
  /-- A switch of one letter with more letters behind it. -/
  | letters (switch : Switch) (more : List Char)
  | unknown (text : String)
  | plain (text : String)
  | separator
deriving DecidableEq, Repr

namespace Word

/-- The parts of a text before and after the first equals sign. -/
def splitEquals : List Char → Option (List Char × List Char)
  | [] => none
  | c :: rest =>
    if c = '=' then some ([], rest)
    else (splitEquals rest).map fun (before, after) => (c :: before, after)

/-- A negative number, which a line feed may end. -/
def isNegativeNumber : List Char → Bool
  | '-' :: text =>
    let ends (rest : List Char) : Bool := rest = [] || rest = ['\n']
    let afterDigits := text.dropWhile isDigit
    match afterDigits with
    | '.' :: fraction => (fraction.head?.any isDigit) && ends (fraction.dropWhile isDigit)
    | rest => (text.head?.any isDigit) && ends rest
  | _ => false

/-- A word that begins with a hyphen and is no switch. -/
def ofOther (text : String) : Word :=
  if isNegativeNumber text.toList || text.toList.contains ' ' then plain text else unknown text

/-- A word that begins with two hyphens and spells no switch in full. -/
def ofAbbreviation (text : String) : Except UsageError Word :=
  let (name, attached) :=
    match splitEquals text.toList with
    | some (name, value) => (name, some (String.ofList value))
    | none => (text.toList, none)
  match Switch.spellings.filter fun spelling => name.isPrefixOf spelling.1.toList with
  | [] => .ok (ofOther text)
  | [(_, found)] => .ok (.switch found attached)
  | candidates => .error (.ambiguous text (candidates.map Prod.fst))

/-- A word that begins with one hyphen and spells no switch. -/
def ofLetter (letter : Char) (more : List Char) (text : String) : Word :=
  match Switch.spellings.lookup (String.ofList ['-', letter]) with
  | some found => .letters found more
  | none => ofOther text

/-- The switch that a word spells in full, with what an equals sign attaches to it. Between a letter
and what follows it the sign makes no difference. -/
def ofFullSpelling? (text : String) : Option Word :=
  match Switch.spellings.lookup text with
  | some found => some (.switch found none)
  | none => do
    let (name, value) ← splitEquals text.toList
    let found ← Switch.spellings.lookup (String.ofList name)
    return if name.length = 2 ∧ value ≠ [] then .letters found value
      else .switch found (some (String.ofList value))

/-- A word before the separator. -/
def ofText (text : String) : Except UsageError Word :=
  match text.toList with
  | '-' :: second :: rest =>
    match ofFullSpelling? text with
    | some word => .ok word
    | none => if second = '-' then ofAbbreviation text else .ok (ofLetter second rest text)
  | _ => .ok (plain text)

/-- The words of a command line. After the first separator all are plain. -/
def ofTexts : List String → Except UsageError (List Word)
  | [] => .ok []
  | text :: rest =>
    if text = "--" then .ok (separator :: rest.map plain)
    else do return (← ofText text) :: (← ofTexts rest)

end Word

/-- What is known after some of the words. -/
structure Draft where
  input : Option String
  output : Option String
  format : FormatChoice
  config : Option String
  noKeywordOperators : Bool
  debug : Bool
  /-- The words that nothing takes. -/
  unused : List String

namespace Draft

def empty : Draft := ⟨none, none, .unsaid, none, false, false, []⟩

def leave (d : Draft) (text : String) : Draft := { d with unused := d.unused ++ [text] }

/-- The value that a text gives to a switch. The separator is dropped here too, so that it gives
none. -/
def given? (text : String) : Option String := if text = "--" then none else some text

/-- The draft with a switch and the text that gives its value. A later one replaces an earlier one
even if it gives none. -/
def takeValue (d : Draft) (switch : Switch) (text : String) : Except Halt Draft :=
  match switch with
  | .output => .ok { d with output := given? text }
  | .config => .ok { d with config := given? text }
  | .format =>
    match given? text with
    | none => .ok { d with format := .valueless }
    | some name =>
      match Format.ofName? name with
      | some format => .ok { d with format := .named format }
      | none => .error (.usage (.unknownFormat name))
  | .help | .noKeywordOperators | .debug => .error (.usage (.valueIgnored switch text))

/-- The draft with a switch that takes no value. -/
def turnOn (d : Draft) : Switch → Except Halt Draft
  | .help => .error .help
  | .noKeywordOperators => .ok { d with noKeywordOperators := true }
  | .debug => .ok { d with debug := true }
  | switch => .error (.usage (.valueMissing switch))

/-- What the letters behind the letter of help make of it, before the word `next`. They are read as
switches too, and all must be before the first one acts. -/
def helpWith (next : Option Word) : List Char → Halt
  | [] => .help
  | 'h' :: more => helpWith next more
  | ['o'] =>
    match next with
    | some (.plain _) => .help
    | _ => .usage (.valueMissing .output)
  | 'o' :: _ => .help
  | more => .usage (.valueIgnored .help (String.ofList more))

/-- The draft after all words. A separator is dropped where it is next to the input. -/
def consume : List Word → Draft → Except Halt Draft
  | [], d => .ok d
  | .plain text :: rest, d =>
    if d.input.isSome then consume rest (d.leave text)
    else
      match rest with
      | .separator :: rest => consume rest { d with input := some text }
      | rest => consume rest { d with input := some text }
  | .separator :: rest, d =>
    match d.input, rest with
    | none, .plain text :: rest => consume rest { d with input := some text }
    | _, rest => consume rest (d.leave "--")
  | .unknown text :: rest, d => consume rest (d.leave text)
  | .letters .help more :: rest, _ => .error (helpWith rest.head? more)
  | .letters switch more :: rest, d => do
    consume rest (← d.takeValue switch (String.ofList more))
  | .switch switch (some value) :: rest, d => do consume rest (← d.takeValue switch value)
  | .switch switch none :: rest, d =>
    if switch.takesValue then
      match rest with
      | .plain value :: rest => do consume rest (← d.takeValue switch value)
      | _ => .error (.usage (.valueMissing switch))
    else do consume rest (← d.turnOn switch)

/-- The arguments, if there is an input and no word is left over. -/
def finish (d : Draft) : Except Halt Arguments :=
  match d.input, d.unused with
  | none, _ => .error (.usage .inputMissing)
  | some input, [] =>
    .ok ⟨input, d.output, d.format, d.config, d.noKeywordOperators, d.debug⟩
  | some _, words => .error (.usage (.unrecognized words))

end Draft

def Arguments.read (words : List String) : Except Halt Arguments := do
  let words ← (Word.ofTexts words).mapError .usage
  let draft ← Draft.consume words .empty
  draft.finish

end CommandLine
end TokenStream
