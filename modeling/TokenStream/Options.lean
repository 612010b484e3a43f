import TokenStream.CommandLine.Arguments
import TokenStream.FileTree
import TokenStream.Lexer
import TokenStream.Toml.Document

/-!
What the program is told to do: the defaults, changed by a configuration file, changed by the
arguments.
-/
namespace TokenStream

open CommandLine (Arguments)

structure Options where
  /-- The file to read, or nothing for the standard input. -/
  input : Option Path
  /-- The file to write, or nothing for the standard output. -/
  output : Option Path
  format : Format
  keywordOperators : Bool
  debug : Bool
deriving DecidableEq, Repr

/-- An accident that ends the program without an answer. -/
inductive Crash where
  /-- A text that is not in the encoding that all texts are in. -/
  | undecodable
  | access (error : AccessError)
  /-- An integer of too many digits in a configuration. -/
  | tooManyDigits (count : Option Nat)
  /-- A lexer that stops for another reason than an error in its source. -/
  | lexer (failure : Failure)
deriving DecidableEq, Repr

def Crash.message : Crash → String
  | undecodable => "the text is not in UTF-8"
  | access error => error.message
  | tooManyDigits count => Toml.maxDigitsMessage count
  | lexer failure => failure.message

/-- What is wrong with the settings. -/
inductive SettingError where
  | unknownFormat (name : String)
  /-- The switch of the format without its value. -/
  | formatMissing
  /-- A configuration file that cannot be read as one. -/
  | badDocument (message : String)
deriving DecidableEq, Repr

/-- The message about a format, which is shown as the given text. -/
def invalidFormat (shown : String) : String :=
  s!"invalid output format {shown} (expected one of " ++
    ", ".intercalate (Format.all.map Format.name) ++ ")"

def SettingError.message : SettingError → String
  | unknownFormat name => invalidFormat (quoted name)
  | formatMissing => invalidFormat "[]"
  | badDocument message => message

/-- Why there are no options. -/
inductive OptionError where
  | setting (error : SettingError)
  | crash (crash : Crash)
deriving DecidableEq, Repr

def OptionError.ofReadError : Toml.ReadError → OptionError
  | .malformed message => .setting (.badDocument message)
  | .tooManyDigits count => .crash (.tooManyDigits (some count))

namespace Options

def inputOf (args : Arguments) : Option Path :=
  if args.input = "-" then none else some (.ofString args.input)

/-- An empty name of an output file counts as none. -/
def outputOf (args : Arguments) : Option Path :=
  args.output.bind fun name => if name = "" then none else some (.ofString name)

/-- The configuration file: the one that is named, or else the one next to the input. -/
def configPath (args : Arguments) : Path :=
  let beside := (((inputOf args).map Path.parent).getD .here).join "nlex.toml"
  match args.config with
  | some name => if name = "" then beside else .ofString name
  | none => beside

/-- The value of a key in a section of a configuration, if the section is a table. -/
def setting? (config : Toml.Table) (table key : String) : Option Toml.Value :=
  match config.lookup table with
  | some (.table fields) => fields.lookup key
  | _ => none

/-- Keywords are operators unless the arguments say no, or else the configuration. -/
def keywordOperatorsOf (args : Arguments) (config : Toml.Table) : Bool :=
  if args.noKeywordOperators then false
  else
    match setting? config "lexer" "keyword_operators" with
    | some (.boolean value) => value
    | _ => true

/-- A format by its name. -/
def namedFormat (name : String) : Except SettingError Format :=
  match Format.ofName? name with
  | some format => .ok format
  | none => .error (.unknownFormat name)

/-- The format that the arguments give, or else the configuration, whose value need not be a text;
otherwise text. -/
def formatOf (args : Arguments) (config : Toml.Table) : Except SettingError Format :=
  match args.format with
  | .named format => .ok format
  | .valueless => .error .formatMissing
  | .unsaid =>
    match setting? config "output" "format" with
    | some value => namedFormat value.text
    | none => .ok .text

/-- The options that arguments and a configuration make. -/
def merge (args : Arguments) (config : Toml.Table) : Except SettingError Options := do
  return {
    input := inputOf args
    output := outputOf args
    format := ← formatOf args config
    keywordOperators := keywordOperatorsOf args config
    debug := args.debug }

def decode (bytes : ByteArray) : Except Crash String :=
  match String.fromUTF8? bytes with
  | some text => .ok text
  | none => .error .undecodable

/-- The configuration that a file holds. Where there is no file it is empty. -/
def readConfig (tree : FileTree) (path : Path) : Except OptionError Toml.Table := do
  if ← (tree.isFile path).mapError fun e => .crash (.access (.system e)) then
    let bytes ← (tree.read path).mapError fun e => .crash (.access e)
    let text ← (decode bytes).mapError .crash
    (Toml.read text).mapError .ofReadError
  else return []

/-- The options that arguments make with the configuration that they lead to. The format in it must
be one that can be shown, even where the arguments give another. -/
def resolve (tree : FileTree) (args : Arguments) : Except OptionError Options := do
  let config ← readConfig tree (configPath args)
  if (setting? config "output" "format").all Toml.Value.isShowable then
    (merge args config).mapError .setting
  else throw (.crash (.tooManyDigits none))

end Options

end TokenStream
