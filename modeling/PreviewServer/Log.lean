import PreviewServer.Text.Blanks
import PreviewServer.Text.Case

/-!
# Logging

Records carry a level, the part of the program they come from, and a message. A filter text such as
`warn,server=debug` says up to which level the records of a part are shown.

The pattern for messages that a filter text may carry behind a slash, as in `info/GET`, is left out:
a slash is read here like any other character of a name.

## Main definitions

* `LogRecord`: a record
* `LogFilter.ofText`: reads a filter
* `LogFilter.admits`: whether a filter shows a record
-/

namespace PreviewServer

/-- The levels of records, most urgent first. -/
inductive LogLevel where
  | error
  | warn
  | info
  | debug
  | trace
  deriving DecidableEq, Repr

/-- The name of a level. -/
def LogLevel.name : LogLevel → String
  | .error => "ERROR"
  | .warn => "WARN"
  | .info => "INFO"
  | .debug => "DEBUG"
  | .trace => "TRACE"

/-- How much a filter must admit to show a level. -/
def LogLevel.verbosity : LogLevel → Nat
  | .error => 1
  | .warn => 2
  | .info => 3
  | .debug => 4
  | .trace => 5

/-- A log record. -/
structure LogRecord where
  level : LogLevel
  /-- The part of the program that made the record. -/
  part : String
  message : String
  deriving DecidableEq, Repr

/-- Level and message of a record. -/
def LogRecord.text (r : LogRecord) : String :=
  r.level.name ++ " " ++ r.message

/-- A record as a line of the error stream; the level takes five places. -/
def LogRecord.line (r : LogRecord) : String :=
  let level := r.level.name
  "[" ++ level ++ String.ofList (List.replicate (5 - level.length) ' ') ++ " " ++ r.part ++ "] " ++
    r.message

/-! ## Filters -/

/-- Up to which verbosity the parts whose names begin with `scope` are shown. The empty scope
stands for all parts. -/
structure LogDirective where
  scope : String
  verbosity : Nat
  deriving DecidableEq, Repr

/-- A filter: directives with different scopes. -/
structure LogFilter where
  directives : List LogDirective
  deriving DecidableEq, Repr

/-- The verbosity that a word names, in any case. -/
def verbosityOfText? (word : String) : Option Nat :=
  ["off", "error", "warn", "info", "debug", "trace"].findIdx? (· = asciiLower word)

/-- The greatest verbosity. -/
def fullVerbosity : Nat := 5

/-- Reads a directive: a level for all parts, the name of a part to be shown in full, or a name
and a level. The error is the text that cannot be read. -/
def LogDirective.ofChars (cs : List Char) : Except String LogDirective :=
  match (cs.splitOn '=').map String.ofList with
  | [word] =>
    match verbosityOfText? word with
    | some verbosity => .ok ⟨"", verbosity⟩
    | none => .ok ⟨word, fullVerbosity⟩
  | [scope, level] =>
    let level := String.ofList (trimBlanks level.toList)
    if level = "" then .ok ⟨scope, fullVerbosity⟩
    else
      match verbosityOfText? level with
      | some verbosity => .ok ⟨scope, verbosity⟩
      | none => .error level
  | _ => .error (String.ofList cs)

/-- The directives of a filter text without a slash and the parts of it that cannot be read. -/
def readDirectives (s : String) : List (Except String LogDirective) :=
  (((s.toList.splitOn ',').map trimBlanks).filter (!·.isEmpty)).map LogDirective.ofChars

/-- Adds a directive in place of an earlier one with the same scope. -/
def LogFilter.add (f : LogFilter) (d : LogDirective) : LogFilter :=
  ⟨f.directives.filter (·.scope ≠ d.scope) ++ [d]⟩

/-- The filter that a text describes. A text without directives shows errors only. -/
def LogFilter.ofText (s : String) : LogFilter :=
  let f := (readDirectives s).foldl
    (fun f d => match d with
      | .ok d => f.add d
      | .error _ => f)
    ⟨[]⟩
  if f.directives.isEmpty then ⟨[⟨"", LogLevel.error.verbosity⟩]⟩ else f

/-- The warnings about the parts of a filter text that cannot be read. -/
def filterWarnings (s : String) : List String :=
  (readDirectives s).filterMap fun d =>
    match d with
    | .ok _ => none
    | .error text => some ("warning: invalid logging spec '" ++ text ++ "', ignoring it")

/-- The directive with the longest scope among those for a part. -/
def LogFilter.directiveFor? (f : LogFilter) (part : String) : Option LogDirective :=
  (f.directives.filter fun d => d.scope.toList.isPrefixOf part.toList).foldl
    (fun best d =>
      match best with
      | none => some d
      | some b => if b.scope.length < d.scope.length then some d else some b)
    none

/-- Whether a filter shows a record. -/
def LogFilter.admits (f : LogFilter) (r : LogRecord) : Bool :=
  (f.directiveFor? r.part).any fun d => r.level.verbosity ≤ d.verbosity

end PreviewServer
