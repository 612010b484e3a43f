/-! The kinds of tokens, with their names and their numbers. -/
namespace TokenStream

inductive TokenKind where
  | whitespace | tab | newline
  | doubleQuote | singleQuote
  | ampersand | dollarSign | euroSign | numberSign | exclamation
  | lparen | rparen | lbrace | rbrace | lbracket | rbracket
  | lessThan | greaterThan | asterisk | forwardSlash | backslash
  | sectionSign | plus | hyphen | caret | underscore | dot | comma
  | colon | semicolon | pipe | currencySign | tilde | graveAccent
  | diacritical | equals | micro | percent | question | atSign
  | numericLiteral | stringLiteral | charLiteral | identifier
  | increment | decrement | power
  | additionAssignment | subtractionAssignment
  | multiplicationAssignment | divisionAssignment
  | bitwiseExclusiveAnd | bitwiseExclusiveOr
  | bitwiseShiftRight | bitwiseShiftLeft
deriving DecidableEq, Repr

namespace TokenKind

/-- The name that listings and documents show. -/
def name : TokenKind → String
  | whitespace => "WHITESPACE"
  | tab => "TAB"
  | newline => "NEWLINE"
  | doubleQuote => "DOUBLE_QUOTE"
  | singleQuote => "SINGLE_QUOTE"
  | ampersand => "AMPERSAND"
  | dollarSign => "DOLLAR_SIGN"
  | euroSign => "EURO_SIGN"
  | numberSign => "NUMBER_SIGN"
  | exclamation => "EXCLAMATION"
  | lparen => "LPAREN"
  | rparen => "RPAREN"
  | lbrace => "LBRACE"
  | rbrace => "RBRACE"
  | lbracket => "LBRACKET"
  | rbracket => "RBRACKET"
  | lessThan => "LESS_THAN"
  | greaterThan => "GREATER_THAN"
  | asterisk => "ASTERISK"
  | forwardSlash => "FORWARD_SLASH"
  | backslash => "BACKSLASH"
  | sectionSign => "SECTION_SIGN"
  | plus => "PLUS"
  | hyphen => "HYPHEN"
  | caret => "CARET"
  | underscore => "UNDERSCORE"
  | dot => "DOT"
  | comma => "COMMA"
  | colon => "COLON"
  | semicolon => "SEMICOLON"
  | pipe => "PIPE"
  | currencySign => "CURRENCY_SIGN"
  | tilde => "TILDE"
  | graveAccent => "GRAVE_ACCENT"
  | diacritical => "DIACRITICAL"
  | equals => "EQUALS"
  | micro => "MICRO"
  | percent => "PERCENT"
  | question => "QUESTION"
  | atSign => "AT_SIGN"
  | numericLiteral => "NUMERIC_LITERAL"
  | stringLiteral => "STRING_LITERAL"
  | charLiteral => "CHAR_LITERAL"
  | identifier => "IDENTIFIER"
  | increment => "INCREMENT"
  | decrement => "DECREMENT"
  | power => "POWER"
  | additionAssignment => "ADDITION_ASSIGNMENT"
  | subtractionAssignment => "SUBTRACTION_ASSIGNMENT"
  | multiplicationAssignment => "MULTIPLICATION_ASSIGNMENT"
  | divisionAssignment => "DIVISION_ASSIGNMENT"
  | bitwiseExclusiveAnd => "BITWISE_EXCLUSIVE_AND"
  | bitwiseExclusiveOr => "BITWISE_EXCLUSIVE_OR"
  | bitwiseShiftRight => "BITWISE_SHIFT_RIGHT"
  | bitwiseShiftLeft => "BITWISE_SHIFT_LEFT"

/-- Every kind once, in the order of their numbers. -/
def all : List TokenKind :=
  [whitespace, tab, newline, doubleQuote, singleQuote, ampersand, dollarSign, euroSign, numberSign,
    exclamation, lparen, rparen, lbrace, rbrace, lbracket, rbracket, lessThan, greaterThan,
    asterisk, forwardSlash, backslash, sectionSign, plus, hyphen, caret, underscore, dot, comma,
    colon, semicolon, pipe, currencySign, tilde, graveAccent, diacritical, equals, micro, percent,
    question, atSign, numericLiteral, stringLiteral, charLiteral, identifier, increment, decrement,
    power, additionAssignment, subtractionAssignment, multiplicationAssignment, divisionAssignment,
    bitwiseExclusiveAnd, bitwiseExclusiveOr, bitwiseShiftRight, bitwiseShiftLeft]

/-- Kinds are numbered from one. -/
def number (kind : TokenKind) : Nat := all.idxOf kind + 1

def ofNumber? (n : Int) : Option TokenKind :=
  all.find? fun kind => kind.number == n

/-- Second names of two kinds. -/
def aliases : List (String × TokenKind) :=
  [("BITWISE_AND", ampersand), ("BITWISE_OR", pipe)]

/-- Every name, second names included. -/
def names : List (String × TokenKind) :=
  all.map (fun kind => (kind.name, kind)) ++ aliases

def ofName? (name : String) : Option TokenKind := names.lookup name

theorem mem_all (kind : TokenKind) : kind ∈ all := by
  cases kind <;> decide

theorem ofNumber?_number (kind : TokenKind) : ofNumber? kind.number = some kind := by
  cases kind <;> decide

end TokenKind
end TokenStream
