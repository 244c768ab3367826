/-
The kinds of tokens.

A token is a literal, a piece of a template, a punctuation mark, a name or a reserved
word; two more kinds mark the end of the source and the lack of a token.  Each kind has a
number, its place in the declaration, which the syntax tree uses for leaves and operators,
and the classes of kinds are runs of neighbours in that order.

Punctuation marks and reserved words are spelled in one way.  `punctuation?` and
`keyword?` give the spelling of a kind, `ofKeyword?` reads a reserved word back, and
`description` is how an error message speaks of a kind.
-/

namespace Shapewire

/-- The kind of a token. -/
inductive TokenKind where
  -- The marks of no token and of the end.
  | unknown | endOfFile
  -- Literals and the pieces of a template.
  | numericLiteral | stringLiteral | plainTemplate | regexLiteral | templateHead
  | templateMiddle | templateTail
  -- Punctuation.
  | openBrace | closeBrace | openParen | closeParen | openBracket | closeBracket | dot
  | ellipsis | semicolon | comma | questionDot | less | greater | lessEqual | greaterEqual
  | equal | notEqual | same | notSame | arrow | plus | minus | star | power | slash | percent
  | increment | decrement | shiftLeft | shiftRight | shiftRightZero | ampersand | bar | caret
  | bang | tilde | logicalAnd | logicalOr | question | colon | coalesce
  -- Assignment operators.
  | assign | plusAssign | minusAssign | starAssign | powerAssign | slashAssign | percentAssign
  | shiftLeftAssign | shiftRightAssign | shiftRightZeroAssign | ampersandAssign | barAssign
  | caretAssign | logicalOrAssign | logicalAndAssign | coalesceAssign
  -- Names.
  | identifier
  -- Reserved words.
  | breakKeyword | caseKeyword | catchKeyword | classKeyword | constKeyword | continueKeyword
  | defaultKeyword | deleteKeyword | doKeyword | elseKeyword | falseKeyword | finallyKeyword
  | forKeyword | functionKeyword | ifKeyword | inKeyword | instanceOfKeyword | newKeyword
  | nullKeyword | returnKeyword | switchKeyword | thisKeyword | throwKeyword | trueKeyword
  | tryKeyword | typeOfKeyword | varKeyword | voidKeyword | whileKeyword | letKeyword
deriving DecidableEq, Repr, Inhabited

namespace TokenKind

/-- Every kind, in declaration order. -/
def all : List TokenKind :=
  [.unknown, .endOfFile, .numericLiteral, .stringLiteral, .plainTemplate, .regexLiteral,
   .templateHead, .templateMiddle, .templateTail, .openBrace, .closeBrace, .openParen,
   .closeParen, .openBracket, .closeBracket, .dot, .ellipsis, .semicolon, .comma, .questionDot,
   .less, .greater, .lessEqual, .greaterEqual, .equal, .notEqual, .same, .notSame, .arrow, .plus,
   .minus, .star, .power, .slash, .percent, .increment, .decrement, .shiftLeft, .shiftRight,
   .shiftRightZero, .ampersand, .bar, .caret, .bang, .tilde, .logicalAnd, .logicalOr, .question,
   .colon, .coalesce, .assign, .plusAssign, .minusAssign, .starAssign, .powerAssign,
   .slashAssign, .percentAssign, .shiftLeftAssign, .shiftRightAssign, .shiftRightZeroAssign,
   .ampersandAssign, .barAssign, .caretAssign, .logicalOrAssign, .logicalAndAssign,
   .coalesceAssign, .identifier, .breakKeyword, .caseKeyword, .catchKeyword, .classKeyword,
   .constKeyword, .continueKeyword, .defaultKeyword, .deleteKeyword, .doKeyword, .elseKeyword,
   .falseKeyword, .finallyKeyword, .forKeyword, .functionKeyword, .ifKeyword, .inKeyword,
   .instanceOfKeyword, .newKeyword, .nullKeyword, .returnKeyword, .switchKeyword, .thisKeyword,
   .throwKeyword, .trueKeyword, .tryKeyword, .typeOfKeyword, .varKeyword, .voidKeyword,
   .whileKeyword, .letKeyword]

/-- The number of a kind: its place in the declaration. -/
def code (k : TokenKind) : Nat := k.ctorIdx

/-- The kind with a number. -/
def ofCode? (n : Nat) : Option TokenKind := all[n]?

/-- The full name of a kind. -/
def name : TokenKind → String
  | unknown => "Unknown"
  | endOfFile => "EndOfFileToken"
  | numericLiteral => "NumericLiteral"
  | stringLiteral => "StringLiteral"
  | plainTemplate => "NoSubstitutionTemplateLiteral"
  | regexLiteral => "RegularExpressionLiteral"
  | templateHead => "TemplateHead"
  | templateMiddle => "TemplateMiddle"
  | templateTail => "TemplateTail"
  | openBrace => "OpenBraceToken"
  | closeBrace => "CloseBraceToken"
  | openParen => "OpenParenToken"
  | closeParen => "CloseParenToken"
  | openBracket => "OpenBracketToken"
  | closeBracket => "CloseBracketToken"
  | dot => "DotToken"
  | ellipsis => "DotDotDotToken"
  | semicolon => "SemicolonToken"
  | comma => "CommaToken"
  | questionDot => "QuestionDotToken"
  | less => "LessThanToken"
  | greater => "GreaterThanToken"
  | lessEqual => "LessThanEqualsToken"
  | greaterEqual => "GreaterThanEqualsToken"
  | equal => "EqualsEqualsToken"
  | notEqual => "ExclamationEqualsToken"
  | same => "EqualsEqualsEqualsToken"
  | notSame => "ExclamationEqualsEqualsToken"
  | arrow => "EqualsGreaterThanToken"
  | plus => "PlusToken"
  | minus => "MinusToken"
  | star => "AsteriskToken"
  | power => "AsteriskAsteriskToken"
  | slash => "SlashToken"
  | percent => "PercentToken"
  | increment => "PlusPlusToken"
  | decrement => "MinusMinusToken"
  | shiftLeft => "LessThanLessThanToken"
  | shiftRight => "GreaterThanGreaterThanToken"
  | shiftRightZero => "GreaterThanGreaterThanGreaterThanToken"
  | ampersand => "AmpersandToken"
  | bar => "BarToken"
  | caret => "CaretToken"
  | bang => "ExclamationToken"
  | tilde => "TildeToken"
  | logicalAnd => "AmpersandAmpersandToken"
  | logicalOr => "BarBarToken"
  | question => "QuestionToken"
  | colon => "ColonToken"
  | coalesce => "QuestionQuestionToken"
  | assign => "EqualsToken"
  | plusAssign => "PlusEqualsToken"
  | minusAssign => "MinusEqualsToken"
  | starAssign => "AsteriskEqualsToken"
  | powerAssign => "AsteriskAsteriskEqualsToken"
  | slashAssign => "SlashEqualsToken"
  | percentAssign => "PercentEqualsToken"
  | shiftLeftAssign => "LessThanLessThanEqualsToken"
  | shiftRightAssign => "GreaterThanGreaterThanEqualsToken"
  | shiftRightZeroAssign => "GreaterThanGreaterThanGreaterThanEqualsToken"
  | ampersandAssign => "AmpersandEqualsToken"
  | barAssign => "BarEqualsToken"
  | caretAssign => "CaretEqualsToken"
  | logicalOrAssign => "BarBarEqualsToken"
  | logicalAndAssign => "AmpersandAmpersandEqualsToken"
  | coalesceAssign => "QuestionQuestionEqualsToken"
  | identifier => "Identifier"
  | breakKeyword => "BreakKeyword"
  | caseKeyword => "CaseKeyword"
  | catchKeyword => "CatchKeyword"
  | classKeyword => "ClassKeyword"
  | constKeyword => "ConstKeyword"
  | continueKeyword => "ContinueKeyword"
  | defaultKeyword => "DefaultKeyword"
  | deleteKeyword => "DeleteKeyword"
  | doKeyword => "DoKeyword"
  | elseKeyword => "ElseKeyword"
  | falseKeyword => "FalseKeyword"
  | finallyKeyword => "FinallyKeyword"
  | forKeyword => "ForKeyword"
  | functionKeyword => "FunctionKeyword"
  | ifKeyword => "IfKeyword"
  | inKeyword => "InKeyword"
  | instanceOfKeyword => "InstanceOfKeyword"
  | newKeyword => "NewKeyword"
  | nullKeyword => "NullKeyword"
  | returnKeyword => "ReturnKeyword"
  | switchKeyword => "SwitchKeyword"
  | thisKeyword => "ThisKeyword"
  | throwKeyword => "ThrowKeyword"
  | trueKeyword => "TrueKeyword"
  | tryKeyword => "TryKeyword"
  | typeOfKeyword => "TypeOfKeyword"
  | varKeyword => "VarKeyword"
  | voidKeyword => "VoidKeyword"
  | whileKeyword => "WhileKeyword"
  | letKeyword => "LetKeyword"

/-- The spelling of a punctuation mark or assignment operator. -/
def punctuation? : TokenKind → Option String
  | openBrace => some "\x7b"
  | closeBrace => some "\x7d"
  | openParen => some "("
  | closeParen => some ")"
  | openBracket => some "["
  | closeBracket => some "]"
  | dot => some "."
  | ellipsis => some "..."
  | semicolon => some ";"
  | comma => some ","
  | questionDot => some "?."
  | less => some "<"
  | greater => some ">"
  | lessEqual => some "<="
  | greaterEqual => some ">="
  | equal => some "=="
  | notEqual => some "!="
  | same => some "==="
  | notSame => some "!=="
  | arrow => some "=>"
  | plus => some "+"
  | minus => some "-"
  | star => some "*"
  | power => some "**"
  | slash => some "/"
  | percent => some "%"
  | increment => some "++"
  | decrement => some "--"
  | shiftLeft => some "<<"
  | shiftRight => some ">>"
  | shiftRightZero => some ">>>"
  | ampersand => some "&"
  | bar => some "|"
  | caret => some "^"
  | bang => some "!"
  | tilde => some "~"
  | logicalAnd => some "&&"
  | logicalOr => some "||"
  | question => some "?"
  | colon => some ":"
  | coalesce => some "??"
  | assign => some "="
  | plusAssign => some "+="
  | minusAssign => some "-="
  | starAssign => some "*="
  | powerAssign => some "**="
  | slashAssign => some "/="
  | percentAssign => some "%="
  | shiftLeftAssign => some "<<="
  | shiftRightAssign => some ">>="
  | shiftRightZeroAssign => some ">>>="
  | ampersandAssign => some "&="
  | barAssign => some "|="
  | caretAssign => some "^="
  | logicalOrAssign => some "||="
  | logicalAndAssign => some "&&="
  | coalesceAssign => some "??="
  | _ => none

/-- The spelling of a reserved word. -/
def keyword? : TokenKind → Option String
  | breakKeyword => some "break"
  | caseKeyword => some "case"
  | catchKeyword => some "catch"
  | classKeyword => some "class"
  | constKeyword => some "const"
  | continueKeyword => some "continue"
  | defaultKeyword => some "default"
  | deleteKeyword => some "delete"
  | doKeyword => some "do"
  | elseKeyword => some "else"
  | falseKeyword => some "false"
  | finallyKeyword => some "finally"
  | forKeyword => some "for"
  | functionKeyword => some "function"
  | ifKeyword => some "if"
  | inKeyword => some "in"
  | instanceOfKeyword => some "instanceof"
  | newKeyword => some "new"
  | nullKeyword => some "null"
  | returnKeyword => some "return"
  | switchKeyword => some "switch"
  | thisKeyword => some "this"
  | throwKeyword => some "throw"
  | trueKeyword => some "true"
  | tryKeyword => some "try"
  | typeOfKeyword => some "typeof"
  | varKeyword => some "var"
  | voidKeyword => some "void"
  | whileKeyword => some "while"
  | letKeyword => some "let"
  | _ => none

/-- Whether the kind is a reserved word. -/
def isKeyword (k : TokenKind) : Bool :=
  breakKeyword.code ≤ k.code && k.code ≤ letKeyword.code

/-- Whether the kind is a name, reserved or not. -/
def isName (k : TokenKind) : Bool := k == identifier || k.isKeyword

/-- Whether the kind is a punctuation mark or assignment operator. -/
def isPunctuation (k : TokenKind) : Bool :=
  openBrace.code ≤ k.code && k.code ≤ coalesceAssign.code

/-- Whether the kind is an assignment operator, plain or compound. -/
def isAssignment (k : TokenKind) : Bool :=
  assign.code ≤ k.code && k.code ≤ coalesceAssign.code

/-- Whether the kind is a literal that is complete in one token. -/
def isLiteral : TokenKind → Bool
  | numericLiteral | stringLiteral | plainTemplate | regexLiteral => true
  | _ => false

/-- The reserved words with their kinds. -/
def keywords : List (String × TokenKind) :=
  all.filterMap fun k => k.keyword?.map fun text => (text, k)

/-- The kind of a reserved word. -/
def ofKeyword? (text : String) : Option TokenKind := keywords.lookup text

/-- How a message speaks of a kind: by its spelling if it has one. -/
def description (k : TokenKind) : String :=
  match k.punctuation?, k.keyword?, k with
  | some text, _, _ => text
  | none, some text, _ => text
  | none, none, endOfFile => "end of input"
  | none, none, identifier => "identifier"
  | none, none, numericLiteral => "number"
  | none, none, stringLiteral => "string"
  | none, none, regexLiteral => "regular expression"
  | none, none, plainTemplate | none, none, templateHead | none, none, templateMiddle
  | none, none, templateTail => "template literal"
  | none, none, _ => "unknown token"

end TokenKind

end Shapewire
