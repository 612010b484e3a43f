import TokenStream.CommandLine.Arguments

/-! What the command line tells about itself. -/
namespace TokenStream.CommandLine

def usage : String :=
  "usage: nlex [-h] [-o OUTPUT] [--format \x7btext,json\x7d] [--config FILE]\n" ++
  "            [--no-keyword-operators] [--debug]\n" ++
  "            input\n"

def help : String :=
  usage ++
  "\n" ++
  "Tokenize a source file and print the token stream\n" ++
  "\n" ++
  "positional arguments:\n" ++
  "  input                 Input file, or - for stdin\n" ++
  "\n" ++
  "options:\n" ++
  "  -h, --help            show this help message and exit\n" ++
  "  -o OUTPUT, --output OUTPUT\n" ++
  "                        Output file (default: stdout)\n" ++
  "  --format \x7btext,json\x7d  Output format (default: text)\n" ++
  "  --config FILE         Config file (default: auto-discover nlex.toml)\n" ++
  "  --no-keyword-operators\n" ++
  "                        Lex AND/OR/XOR/XAND as plain identifiers\n" ++
  "  --debug               Debug logging and token dump to stderr\n"

/-- What a wrong command line is answered with. -/
def UsageError.report (e : UsageError) : String := usage ++ s!"nlex: error: {e.message}\n"

end TokenStream.CommandLine
