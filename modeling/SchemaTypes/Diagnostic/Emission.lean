/-
How diagnostics leave the program: as lines for a terminal, with or without
colors, or as JSON documents.

A rendering for the terminal is a list of pieces, some of them in a style. The
colors change how a piece is written and nothing else.
-/
import SchemaTypes.Diagnostic.Basic
import SchemaTypes.Json.Value

namespace SchemaTypes

/-- What is asked of an output for diagnostics. -/
inductive Emission where
  | one (d : Diagnostic)
  | all (ds : List Diagnostic)
  /-- The totals that close a report. -/
  | totals (errors warnings : Nat)
  /-- Writes out what is held back. -/
  | flush

/-- When terminal output is colored. -/
inductive ColorMode where
  /-- Only on a terminal. -/
  | auto
  | always
  | never
deriving DecidableEq, Repr

namespace ColorMode

def parse? : String → Option ColorMode
  | "auto" => some .auto
  | "always" => some .always
  | "never" => some .never
  | _ => none

def text : ColorMode → String
  | .auto => "auto"
  | .always => "always"
  | .never => "never"

/-- The complaint about a word that is no mode. -/
def complaint (word : String) : String :=
  "unknown color mode `" ++ word ++ "` (expected auto, always or never)"

def colors (m : ColorMode) (onTerminal : Bool) : Bool :=
  match m with
  | .auto => onTerminal
  | .always => true
  | .never => false

end ColorMode

/-! ## The terminal -/

namespace Terminal

inductive Style where
  | red
  | yellow
  | cyan
  | green
  | blue
  | bold
deriving DecidableEq, Repr

/-- The control sequence that turns a style on. -/
def Style.start : Style → String
  | .red => "\x1b[1;31m"
  | .yellow => "\x1b[1;33m"
  | .cyan => "\x1b[1;36m"
  | .green => "\x1b[1;32m"
  | .blue => "\x1b[1;34m"
  | .bold => "\x1b[1m"

/-- The control sequence that turns every style off. -/
def reset : String :=
  "\x1b[0m"

/-- A stretch of output. -/
inductive Piece where
  | plain (s : String)
  | styled (style : Style) (s : String)
deriving DecidableEq, Repr

def Piece.write (colored : Bool) : Piece → String
  | .plain s => s
  | .styled style s => if colored then style.start ++ s ++ reset else s

def write (colored : Bool) (pieces : List Piece) : String :=
  String.join (pieces.map (·.write colored))

def severityStyle : Severity → Style
  | .error => .red
  | .warning => .yellow
  | .note => .cyan

def labelPieces (l : Label) : List Piece :=
  [.plain ("  " ++ (if l.isPrimary then "-->" else "   ") ++ " " ++ l.span.text ++ ": "),
   .styled (if l.isPrimary then .red else .blue) l.message, .plain "\n"]

def notePieces (note : String) : List Piece :=
  [.plain "  = ", .styled .bold "note", .plain (": " ++ note ++ "\n")]

def suggestionPieces (hint : Suggestion) : List Piece :=
  [.plain "  = ", .styled .green "help", .plain (": " ++ hint.message ++ "\n")]

/-- One diagnostic, closed by an empty line. -/
def diagnosticPieces (d : Diagnostic) : List Piece :=
  [.styled (severityStyle d.severity) d.severity.text, .styled .bold ("[" ++ d.code.text ++ "]"),
    .plain (": " ++ d.message ++ "\n")]
  ++ d.labels.flatMap labelPieces
  ++ d.notes.flatMap notePieces
  ++ d.suggestions.flatMap suggestionPieces
  ++ [.plain "\n"]

/-- A number of things, with the plural where there is not exactly one. -/
def counted (n : Nat) (what : String) : String :=
  if n = 1 then "1 " ++ what else toString n ++ " " ++ what ++ "s"

/-- The closing line, which names no count that is zero. -/
def totalsPieces (errors warnings : Nat) : List Piece :=
  if errors > 0 then
    [.styled .red "error", .plain (": model check found " ++ counted errors "error"
      ++ (if warnings > 0 then " and " ++ counted warnings "warning" else "") ++ "\n")]
  else if warnings > 0 then
    [.styled .yellow "warning", .plain (": model check found " ++ counted warnings "warning"
      ++ "\n")]
  else []

/-- What one call writes. Nothing is ever held back. -/
def pieces : Emission → List Piece
  | .one d => diagnosticPieces d
  | .all ds => ds.flatMap diagnosticPieces
  | .totals errors warnings => totalsPieces errors warnings
  | .flush => []

/-- What a sequence of calls writes. -/
def output (colored : Bool) (calls : List Emission) : String :=
  write colored (calls.flatMap pieces)

end Terminal

/-! ## JSON -/

namespace Label

def toJson (l : Label) : Json.Value :=
  .object [("start", .number l.span.start), ("end", .number l.span.stop),
    ("message", .text l.message), ("primary", .bool l.isPrimary)]

end Label

namespace Suggestion

/-- A hint, with its replacement only if it has one. -/
def toJson (hint : Suggestion) : Json.Value :=
  .objectOf [some ("message", .text hint.message),
    hint.replacement.map fun r => ("replacement", .text r)]

end Suggestion

namespace Diagnostic

/-- A diagnostic, with notes and suggestions only if there are any. -/
def toJson (d : Diagnostic) : Json.Value :=
  .objectOf [
    some ("code", .text d.code.text),
    some ("severity", .text d.severity.text),
    some ("message", .text d.message),
    some ("labels", .list (d.labels.map Label.toJson)),
    if d.notes.isEmpty then none else some ("notes", .list (d.notes.map .text)),
    if d.suggestions.isEmpty then none
    else some ("suggestions", .list (d.suggestions.map Suggestion.toJson))]

end Diagnostic

/-- An output that holds diagnostics back and writes them as one JSON list at each flush. -/
structure JsonOutput where
  pending : List Diagnostic := []
  written : String := ""

namespace JsonOutput

/-- A batch as a document of its own. -/
def document (ds : List Diagnostic) : String :=
  (Json.Value.list (ds.map Diagnostic.toJson)).pretty ++ "\n"

/-- Totals are not written, since the list shows them. -/
def step (o : JsonOutput) : Emission → JsonOutput
  | .one d => { o with pending := o.pending ++ [d] }
  | .all ds => { o with pending := o.pending ++ ds }
  | .totals _ _ => o
  | .flush => { pending := [], written := o.written ++ document o.pending }

/-- What a sequence of calls writes. -/
def output (calls : List Emission) : String :=
  (calls.foldl step {}).written

end JsonOutput

end SchemaTypes
