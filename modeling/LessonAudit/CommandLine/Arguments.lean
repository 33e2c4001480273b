import LessonAudit.Policy
import LessonAudit.Report
set_option autoImplicit false

namespace LessonAudit

structure Arguments where
  parser : Path
  source : Path
  verbosity : Nat
  format : Format
deriving DecidableEq, Repr

inductive UsageError where
  | unknownArgument
  | missingArgument
  | invalidValue
  | repeatedOption
  | unexpectedValue
  | help
  | version
deriving DecidableEq, Repr

def UsageError.exitCode : UsageError → Nat
  | help => 0
  | version => 0
  | _ => 2

namespace Arguments

inductive Opt where
  | parser
  | source
  | format
deriving DecidableEq, Repr

inductive Flag where
  | verbose
  | help
  | version
deriving DecidableEq, Repr

/-- What has been read: the values of the options, and an option whose value is to be looked at,
if it came. Behind `--` only plain words may come, of which the command takes none. -/
structure State where
  parser : Option Path
  source : Option Path
  format : Option Format
  verbosity : Nat
  pending : Option (Opt × Option (List UInt8))
  plainOnly : Bool

def State.start : State := ⟨none, none, none, 0, none, false⟩

def greatestVerbosity : Nat := 255

def dash : UInt8 := 0x2D

def equals : UInt8 := 0x3D

def named? {α : Type} (names : List (String × α)) (word : List UInt8) : Option α :=
  (names.find? fun (name, _) => Text.Utf8.encode name == word).map fun (_, a) => a

def formats : List (String × Format) :=
  [("human", .human), ("json", .json)]

def longNames : List (String × (Opt ⊕ Flag)) :=
  [("parser", .inl .parser), ("source", .inl .source), ("format", .inl .format),
    ("verbose", .inr .verbose), ("help", .inr .help), ("version", .inr .version)]

def shortNames : List (String × (Opt ⊕ Flag)) :=
  [("p", .inl .parser), ("s", .inl .source), ("v", .inr .verbose), ("h", .inr .help),
    ("V", .inr .version)]

namespace State

def has (s : State) : Opt → Bool
  | .parser => s.parser.isSome
  | .source => s.source.isSome
  | .format => s.format.isSome

def set (s : State) (option : Opt) (value : Option (List UInt8)) : Except UsageError State :=
  match value with
  | none => .error .invalidValue
  | some value =>
      if s.has option then .error .repeatedOption
      else if value = [] then .error .invalidValue
      else
        match option with
        | .parser => .ok { s with parser := some ⟨value⟩ }
        | .source => .ok { s with source := some ⟨value⟩ }
        | .format =>
            match named? formats value with
            | some format => .ok { s with format := some format }
            | none => .error .invalidValue

def settle (s : State) : Except UsageError State :=
  match s.pending with
  | none => .ok s
  | some (option, value) => { s with pending := none }.set option value

def raise (s : State) (flag : Flag) : Except UsageError State := do
  let s ← s.settle
  match flag with
  | .verbose => .ok { s with verbosity := min (s.verbosity + 1) greatestVerbosity }
  | .help => .error .help
  | .version => .error .version

def take (s : State) (option : Opt) (attached : Option (List UInt8)) : Except UsageError State := do
  let s ← s.settle
  match attached with
  | some value => s.set option (some value)
  | none => .ok { s with pending := some (option, none) }

end State

def readLong (s : State) (word : List UInt8) : Except UsageError State :=
  let name := word.takeWhile (· != equals)
  let attached := (word.dropWhile (· != equals)).tail?
  match named? longNames name with
  | none => .error .unknownArgument
  | some (.inl option) => s.take option attached
  | some (.inr flag) => if attached.isSome then .error .unexpectedValue else s.raise flag

def readShort (s : State) : List UInt8 → Except UsageError State
  | [] => .ok s
  | letter :: rest =>
      match named? shortNames [letter] with
      | none => .error .unknownArgument
      | some (.inr flag) =>
          match s.raise flag with
          | .ok s => readShort s rest
          | .error e => .error e
      | some (.inl option) =>
          let value := if rest.head? = some equals then rest.tail else rest
          s.take option (if rest.isEmpty then none else some value)

def readPlain (s : State) (word : List UInt8) : Except UsageError State :=
  match s.pending with
  | some (option, none) => .ok { s with pending := some (option, some word) }
  | _ => .error .unknownArgument

def readWord (s : State) (word : List UInt8) : Except UsageError State :=
  if s.plainOnly then .error .unknownArgument
  else if word = [dash, dash] then .ok { s with plainOnly := true }
  else if [dash, dash].isPrefixOf word then readLong s (word.drop 2)
  else if [dash].isPrefixOf word && word != [dash] then readShort s word.tail
  else readPlain s word

def ofWords? (words : List (List UInt8)) : Except UsageError Arguments := do
  let s ← words.foldlM readWord .start
  let s ← s.settle
  match s.parser with
  | none => .error .missingArgument
  | some parser =>
      .ok ⟨parser, s.source.getD Source.standard.root, s.verbosity, s.format.getD .human⟩

end Arguments
end LessonAudit
