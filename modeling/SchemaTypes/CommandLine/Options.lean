/-
The options that the commands on a document share, and the path of the
document among them. Options and path may stand in any order, and of an option
given twice the last counts.
-/
import SchemaTypes.Diagnostic.Emission

namespace SchemaTypes.CommandLine

inductive OutputFormat where
  | terminal
  | json
deriving DecidableEq, Repr

def OutputFormat.text : OutputFormat → String
  | .terminal => "terminal"
  | .json => "json"

def OutputFormat.parse? : String → Option OutputFormat
  | "terminal" => some .terminal
  | "json" => some .json
  | _ => none

structure Options where
  format : OutputFormat := .terminal
  color : ColorMode := .auto
  checkLengths : Bool := true
deriving DecidableEq, Repr

/-- Why arguments are refused. -/
inductive OptionFault where
  | unknownFormat (word : String)
  | unknownColor (word : String)
  | unknownOption (argument : String)
  | unexpectedArgument (argument : String)
  | missingFile
deriving DecidableEq, Repr

def OptionFault.message : OptionFault → String
  | .unknownFormat word => "unknown format `" ++ word ++ "` (expected terminal or json)"
  | .unknownColor word => ColorMode.complaint word
  | .unknownOption argument => "unknown option `" ++ argument ++ "`"
  | .unexpectedArgument argument => "unexpected argument `" ++ argument ++ "`"
  | .missingFile => "missing model file"

/-- What follows a beginning, in a text that has it. -/
def after? (beginning text : String) : Option String :=
  if beginning.toList.isPrefixOf text.toList then
    some (String.ofList (text.toList.drop beginning.toList.length))
  else none

/-- What one argument says. -/
inductive Argument where
  | format (word : String)
  | color (word : String)
  | noLengthChecks
  | otherOption (argument : String)
  | path (argument : String)
deriving DecidableEq, Repr

def Argument.ofText (a : String) : Argument :=
  match after? "--format=" a with
  | some word => .format word
  | none =>
    match after? "--color=" a with
    | some word => .color word
    | none =>
      if a = "--no-length-checks" then .noLengthChecks
      else if a.toList.head? = some '-' then .otherOption a
      else .path a

/-- Options and path after one more argument. -/
def takeArgument (o : Options) (path : Option String) :
    Argument → Except OptionFault (Options × Option String)
  | .format word =>
    match OutputFormat.parse? word with
    | some format => .ok ({ o with format }, path)
    | none => .error (.unknownFormat word)
  | .color word =>
    match ColorMode.parse? word with
    | some color => .ok ({ o with color }, path)
    | none => .error (.unknownColor word)
  | .noLengthChecks => .ok ({ o with checkLengths := false }, path)
  | .otherOption a => .error (.unknownOption a)
  | .path a =>
    match path with
    | none => .ok (o, some a)
    | some _ => .error (.unexpectedArgument a)

/-- Options and path after several arguments. -/
def takeArguments : Options → Option String → List String →
    Except OptionFault (Options × Option String)
  | o, path, [] => .ok (o, path)
  | o, path, a :: rest => do
    let (o, path) ← takeArgument o path (.ofText a)
    takeArguments o path rest

/-- The options and the path that arguments give. -/
def parseOptions (args : List String) : Except OptionFault (Options × String) := do
  let (o, path) ← takeArguments {} none args
  match path with
  | some path => pure (o, path)
  | none => throw .missingFile

end SchemaTypes.CommandLine
