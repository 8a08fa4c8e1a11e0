/-!
# Faults in patterns

Why the text of a pattern is refused. A fault is at a part of the text, and the report
shows the text with that part marked: below its line, or by numbers if it goes over
several lines.
-/
namespace FantasyConsole.Text.Pattern

inductive Fault where
  | unclosedGroup | unopenedGroup | lookAround
  | emptyName | badName | unclosedName | repeatedName
  | missingOperand | emptyCount | unclosedCount | badCountRange | badNumber
  | unclosedClass | badRange | rangeBoundary | badClassEscape
  | endInEscape | unknownEscape | backReference | emptyHex | badHexDigit | badHexNumber
  | unclosedEdge | unknownEdge | edgeOrCount
  | danglingNegation | repeatedNegation | repeatedFlag | unknownFlag | endInFlags
  | tooDeep
  | badProperty | unknownProperty | unknownValue | wideClass | wideCase | wideChar | partOfChar
  deriving DecidableEq, Repr

/-- How deep parts of a pattern may stand in others. -/
def depthLimit : Nat := 250

def Fault.message : Fault → String
  | .unclosedGroup => "unclosed group"
  | .unopenedGroup => "unopened group"
  | .lookAround => "look-around, including look-ahead and look-behind, is not supported"
  | .emptyName => "empty capture group name"
  | .badName => "invalid capture group character"
  | .unclosedName => "unclosed capture group name"
  | .repeatedName => "duplicate capture group name"
  | .missingOperand => "repetition operator missing expression"
  | .emptyCount => "repetition quantifier expects a valid decimal"
  | .unclosedCount => "unclosed counted repetition"
  | .badCountRange => "invalid repetition count range, the start must be <= the end"
  | .badNumber => "decimal literal invalid"
  | .unclosedClass => "unclosed character class"
  | .badRange => "invalid character class range, the start must be <= the end"
  | .rangeBoundary => "invalid range boundary, must be a literal"
  | .badClassEscape => "invalid escape sequence found in character class"
  | .endInEscape => "incomplete escape sequence, reached end of pattern prematurely"
  | .unknownEscape => "unrecognized escape sequence"
  | .backReference => "backreferences are not supported"
  | .emptyHex => "hexadecimal literal empty"
  | .badHexDigit => "invalid hexadecimal digit"
  | .badHexNumber => "hexadecimal literal is not a Unicode scalar value"
  | .unclosedEdge =>
    "special word boundary assertion is either unclosed or contains an invalid character"
  | .unknownEdge =>
    "unrecognized special word boundary assertion, valid choices are: start, end, start-half or end-half"
  | .edgeOrCount =>
    "found either the beginning of a special word boundary or a bounded repetition on a \\b with an opening brace, "
      ++ "but no closing brace"
  | .danglingNegation => "dangling flag negation operator"
  | .repeatedNegation => "flag negation operator repeated"
  | .repeatedFlag => "duplicate flag"
  | .unknownFlag => "unrecognized flag"
  | .endInFlags => "expected flag but got end of regex"
  | .tooDeep =>
    "exceed the maximum number of nested parentheses/brackets (" ++ toString depthLimit ++ ")"
  | .badProperty => "invalid Unicode character class"
  | .unknownProperty => "Unicode property not found"
  | .unknownValue => "Unicode property value not found"
  | .wideClass =>
    "Unicode-aware Perl class not found (make sure the unicode-perl feature is enabled)"
  | .wideCase =>
    "Unicode-aware case insensitivity matching is not available (make sure the unicode-case feature is enabled)"
  | .wideChar => "Unicode not allowed here"
  | .partOfChar => "pattern can match invalid UTF-8"

/-- A part of a text: from one position up to another. -/
structure Span where
  start : Nat
  stop : Nat
  deriving DecidableEq, Repr

/-- From where one part starts to where another stops. -/
def Span.through (s t : Span) : Span := ⟨s.start, t.stop⟩

/-- A fault and the part that has it. What is there twice has an earlier part as well. -/
structure FaultAt where
  fault : Fault
  span : Span
  earlier : Option Span
  deriving DecidableEq, Repr

/-- Line and column of a position, both from 0. -/
structure Place where
  line : Nat
  column : Nat
  deriving DecidableEq, Repr

def Place.ofPosition (text : List Char) (i : Nat) : Place :=
  let before := text.take i
  ⟨before.count '\n', (before.reverse.takeWhile (· != '\n')).length⟩

/-- The lines of a text. A line feed ends a line, and a carriage return before it does not belong to
the line. -/
def lines (text : List Char) : List (List Char) :=
  let parts := text.splitOn '\n'
  let ended := parts.dropLast.map fun l => if l.getLast? = some '\r' then l.dropLast else l
  ended ++ parts.getLast?.toList.filter (· != [])

/-- Marks below some parts of a line, each under one character at least, from column `column` on. -/
def marks : (column : Nat) → List Span → List Char
  | _, [] => []
  | column, s :: rest =>
    List.replicate (s.start - column) ' ' ++ List.replicate (max 1 (s.stop - s.start)) '^'
      ++ marks (s.start + max 1 (s.stop - s.start)) rest

structure Extent where
  start : Place
  stop : Place

namespace Extent

def ofSpan (text : List Char) (s : Span) : Extent :=
  ⟨.ofPosition text s.start, .ofPosition text s.stop⟩

def isOneLine (e : Extent) : Bool := e.start.line = e.stop.line

/-- Where a part of several lines is, counted from 1. The last place is the last one in it. -/
def note (e : Extent) : String :=
  "on line " ++ toString (e.start.line + 1) ++ " (column " ++ toString (e.start.column + 1) ++
    ") through line "
    ++ toString (e.stop.line + 1) ++ " (column " ++ toString e.stop.column ++ ")\n"

end Extent

/-- The lines of a text, each with what stands before it and followed by the marks of the parts in
it, below four blanks or as many as are needed for the line's number. -/
def marked (text : List Char) (numbers : Option Nat) (extents : List Extent) : String :=
  let line (l : List Char) (i : Nat) : String :=
    let number := toString (i + 1)
    let margin := match numbers with
      | none => "    "
      | some width => String.ofList (List.replicate (width - number.length) ' ') ++ number ++ ": "
    let here := (extents.filter fun e => e.isOneLine && e.start.line = i).map fun e =>
      ⟨e.start.column, e.stop.column⟩
    let below :=
      if here.isEmpty then ""
      else String.ofList (List.replicate margin.length ' ' ++ marks 0 here) ++ "\n"
    margin ++ String.ofList l ++ "\n" ++ below
  String.join ((lines text).zipIdx.map fun (l, i) => line l i)

def FaultAt.report (f : FaultAt) (text : String) : String :=
  let text := text.toList
  let extents := (f.earlier.toList ++ [f.span]).map (Extent.ofSpan text)
  let body :=
    if !text.contains '\n' then marked text none extents
    else
      let rule := String.ofList (List.replicate 79 '~') ++ "\n"
      let width := (toString (text.splitOn '\n').length).length
      let notes := (extents.filter (!·.isOneLine)).map Extent.note
      rule ++ marked text (some width) extents ++ rule ++ String.join notes
  "regex parse error:\n" ++ body ++ "error: " ++ f.fault.message

def sizeLimit : Nat := 10485760

/-- Why a pattern is not taken: it has a fault, an edge of words whose characters are not known, or
is too large. -/
inductive Refusal where
  | fault (f : FaultAt)
  | wideEdge
  | tooLarge
  deriving DecidableEq, Repr

def Refusal.report (r : Refusal) (text : String) : String :=
  match r with
  | .fault f => f.report text
  | .wideEdge => "error building NFA"
  | .tooLarge => "Compiled regex exceeds size limit of " ++ toString sizeLimit ++ " bytes."

end FantasyConsole.Text.Pattern
