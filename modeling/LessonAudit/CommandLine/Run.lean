import LessonAudit.CommandLine.Arguments
import LessonAudit.CommandLine.LogFilter
import LessonAudit.Lesson
set_option autoImplicit false

namespace LessonAudit.CommandLine

variable [Libraries]

def report {σ : Type} (w : Workshop σ) (arguments : Arguments) (s : σ) :
    (Except Lesson.RootAbsent Report × List Event) × σ :=
  let start := Event.started arguments.source arguments.parser
  match Lesson.checkIn w (.ofRoot arguments.source) .standard s with
  | (.error fault, s) => ((.error fault, [start]), s)
  | (.ok (r, events), s) =>
      ((.ok r, start :: (events ++ [.finished r.checked r.findings.length])), s)

def levelWidth : Nat := 5

def logLine (e : Event) : String :=
  let level := e.level.text
  String.ofList (List.replicate (levelWidth - level.length) ' ') ++ level ++ " " ++ e.text ++ "\n"

structure Result where
  code : Nat
  stdout : String
  stderr : String
deriving DecidableEq, Repr

def written (r : Report) : Format → Except ReportFault (String × Nat)
  | .human => .ok (Journal.ofFindings r.findings).report
  | .json => if r.inText then .ok (r.text .json, r.exitStatus) else .error .malformedPath

def resultOf (filter : LogFilter) (format : Format) (outcome : Except Lesson.RootAbsent Report)
    (events : List Event) : Result :=
  let log := String.join ((events.filter filter.shows).map logLine)
  let failed (message : String) : Result := ⟨1, "", log ++ "Error: " ++ message ++ "\n"⟩
  match outcome with
  | .error fault => failed fault.message
  | .ok r =>
      match written r format, format with
      | .error fault, _ => failed fault.message
      | .ok (text, status), .human => ⟨status, "", log ++ text⟩
      | .ok (text, status), .json => ⟨status, text, log⟩

def runWith {σ : Type} (w : Workshop σ) (filter : LogFilter) (arguments : Arguments) (s : σ) :
    Result × σ :=
  let ((outcome, events), s) := report w arguments s
  (resultOf filter arguments.format outcome events, s)

def usage : String :=
  "Usage: lesson-check [-v] [--format human|json] [-s DIR] -p PATH\n"

def usageText : UsageError → String
  | .unknownArgument => "an argument is not known"
  | .missingArgument => "the option --parser is missing"
  | .invalidValue => "an option has no fit value"
  | .repeatedOption => "an option comes twice"
  | .unexpectedValue => "a flag takes no value"
  | .help => "check lesson structure, front matter and block classes"
  | .version => "lesson-check"

def run {σ : Type} (workshop : Path → Workshop σ) (asked : Option String)
    (words : List (List UInt8)) (s : σ) : Result × σ :=
  match Arguments.ofWords? words with
  | .error e =>
      let text := usageText e ++ "\n" ++ usage
      (if e.exitCode = 0 then ⟨0, text, ""⟩ else ⟨e.exitCode, "", "error: " ++ text⟩, s)
  | .ok arguments =>
      runWith (workshop arguments.parser) (.choose asked arguments.verbosity) arguments s

end LessonAudit.CommandLine
