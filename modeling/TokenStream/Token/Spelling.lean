import TokenStream.CharSet.Blank
import TokenStream.CharSet.Decimal
import TokenStream.CharSet.Letter
import TokenStream.Token.Kind

/-!
How tokens are spelled: the tables of marks, operators and keywords, and the character classes.
-/
namespace TokenStream

/-- Marks of one character, by code point. The quotes are not among them: they open a literal. -/
def symbols : List (Char × TokenKind) :=
  [('!', .exclamation), ('#', .numberSign), ('$', .dollarSign), ('%', .percent),
    ('&', .ampersand), ('(', .lparen), (')', .rparen), ('*', .asterisk), ('+', .plus),
    (',', .comma), ('-', .hyphen), ('.', .dot), ('/', .forwardSlash), (':', .colon),
    (';', .semicolon), ('<', .lessThan), ('=', .equals), ('>', .greaterThan), ('?', .question),
    ('@', .atSign), ('[', .lbracket), ('\\', .backslash), (']', .rbracket), ('^', .caret),
    ('_', .underscore), ('`', .graveAccent), ('{', .lbrace), ('|', .pipe), ('}', .rbrace),
    ('~', .tilde), ('¤', .currencySign), ('§', .sectionSign), ('´', .diacritical),
    ('\u00b5', .micro), ('€', .euroSign)]

/-- Operators of two characters: for each first character, the second ones. -/
def operators : List (Char × List (Char × TokenKind)) :=
  [('*', [('*', .power), ('=', .multiplicationAssignment)]),
    ('+', [('+', .increment), ('=', .additionAssignment)]),
    ('-', [('-', .decrement), ('=', .subtractionAssignment)]),
    ('/', [('=', .divisionAssignment)]),
    ('<', [('<', .bitwiseShiftLeft)]),
    ('>', [('>', .bitwiseShiftRight)])]

/-- The words that stand for bitwise operators. -/
def keywords : List (String × TokenKind) :=
  [("AND", .ampersand), ("OR", .pipe), ("XAND", .bitwiseExclusiveAnd),
    ("XOR", .bitwiseExclusiveOr)]

/-- The quotes, with the kinds of the literals they enclose. -/
def quotes : List (Char × TokenKind) :=
  [('"', .stringLiteral), ('\'', .charLiteral)]

def newlines : List Char := ['\n', '\r']

/-- White space other than tabs and line breaks. -/
def isSpace (c : Char) : Bool :=
  CharSet.blank.contains c && c != '\t' && !newlines.contains c

def isDigit (c : Char) : Bool := CharSet.decimal.contains c

/-- A letter that is not itself a mark. -/
def isIdentStart (c : Char) : Bool :=
  CharSet.letter.contains c && (symbols.lookup c).isNone

def isIdentChar (c : Char) : Bool := isIdentStart c || isDigit c

end TokenStream
