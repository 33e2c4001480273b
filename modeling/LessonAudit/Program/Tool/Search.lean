import LessonAudit.Program.Regex
import LessonAudit.Program.Tool.Places
set_option autoImplicit false

namespace LessonAudit.Program.Tool

open Work
open Regex (Spot)

inductive PatternForm where
  | basic
  | extended
  | fixed
deriving DecidableEq, Repr

inductive Extension where
  | anywhere
  | words
  | line
deriving DecidableEq, Repr

structure Matcher where
  dialect : Regex.Dialect
  patterns : List Regex
  extension : Extension

def plainText (text : Octets) : Regex :=
  text.foldr (fun c r => .sequence (Regex.exactly c) r) .empty

def withDigitClass : Octets → Octets
  | '\\' :: 'd' :: rest => "[0-9]".toList ++ withDigitClass rest
  | '\\' :: c :: rest => '\\' :: c :: withDigitClass rest
  | c :: rest => c :: withDigitClass rest
  | [] => []

def Matcher.read (form : PatternForm) (foldCase : Bool) (extension : Extension)
    (texts : List Octets) : Except Regex.Fault Matcher := do
  let d : Regex.Dialect := ⟨form = .extended, foldCase, true, false⟩
  let patterns ← texts.mapM fun text =>
    if form = .fixed then .ok (plainText text) else Regex.read d text
  return ⟨d, patterns, extension⟩

def Matcher.endAt? (m : Matcher) (s : Spot) : Option Spot :=
  let fits (e : Spot) : Bool :=
    match m.extension with
    | .anywhere => true
    | .words => !e.rest.head?.any Regex.isWord
    | .line => e.rest.isEmpty
  let mayStart :=
    match m.extension with
    | .anywhere => true
    | .words => !s.before.any Regex.isWord
    | .line => s.index == 0
  if !mayStart then none
  else
    let ends := m.patterns.flatMap fun r =>
      (Regex.spots m.dialect (r.depth + 2 * s.rest.length + 2) r s).filter fits
    ends.foldl
      (fun best e =>
        match best with
        | none => some e
        | some b => if b.index < e.index then some e else best)
      none

def Matcher.findFrom? (m : Matcher) : Nat → Spot → Option (Spot × Spot)
  | 0, _ => none
  | fuel + 1, s =>
      match m.endAt? s with
      | some e => some (s, e)
      | none => if s.rest.isEmpty then none else m.findFrom? fuel (s.skip 1)

def Matcher.hits (m : Matcher) (line : Octets) : Bool :=
  (m.findFrom? (line.length + 1) ⟨none, line, 0, []⟩).isSome

def Matcher.all (m : Matcher) : Nat → Spot → List (Nat × Octets)
  | 0, _ => []
  | fuel + 1, s =>
      match m.findFrom? (s.rest.length + 1) s with
      | none => []
      | some (a, b) =>
          if b.index = a.index then (if b.rest.isEmpty then [] else m.all fuel (b.skip 1))
          else (a.index, a.rest.take (b.index - a.index)) :: m.all fuel b

structure SearchView where
  inverse : Bool
  count : Bool
  names : Bool
  namesWithout : Bool
  quiet : Bool
  partsOnly : Bool
  numbers : Bool
  offsets : Bool
  named : Bool
  limit : Option Nat
  before : Nat
  after : Nat
  mark : Char
  asText : Bool
  silent : Bool

structure FoundLine where
  number : Nat
  offset : Nat
  text : Octets
  hit : Bool

def foundLines (m : Matcher) (v : SearchView) (octets : Octets) : List FoundLine :=
  let (lines, _) := (Octets.linesBy v.mark octets).foldl
    (fun (done, number, offset, hits) text =>
      let isOver := v.limit.any fun limit => decide (limit ≤ hits)
      let hit := !isOver && m.hits text != v.inverse
      (⟨number, offset, text, hit⟩ :: done, number + 1, offset + text.length + 1,
        if hit then hits + 1 else hits))
    (([], 1, 0, 0) : List FoundLine × Nat × Nat × Nat)
  lines.reverse

def lineHead (v : SearchView) (name : Octets) (number offset : Nat) (sign : Char) : Octets :=
  (if v.named then name ++ [sign] else []) ++
    (if v.numbers then Octets.ofNat number ++ [sign] else []) ++
    (if v.offsets then Octets.ofNat offset ++ [sign] else [])

def groupsAround (v : SearchView) (lines : List FoundLine) : List (List FoundLine) :=
  let hits := (lines.filter fun line => line.hit).map fun line => line.number
  let isNear (line : FoundLine) : Bool :=
    hits.any fun n => line.number ≤ n + v.after && n ≤ line.number + v.before
  let near := lines.filter isNear
  near.foldr
    (fun line groups =>
      match groups with
      | (next :: group) :: more =>
          if line.number + 1 = next.number then (line :: next :: group) :: more
          else [line] :: (next :: group) :: more
      | _ => [line] :: groups)
    []

def shownLine (m : Matcher) (v : SearchView) (name : Octets) (line : FoundLine) : Octets :=
  if v.partsOnly then
    if line.hit && !v.inverse then
      (m.all (line.text.length + 2) ⟨none, line.text, 0, []⟩).flatMap fun (index, octets) =>
        lineHead v name line.number (line.offset + index) ':' ++ octets ++ [v.mark]
    else []
  else
    lineHead v name line.number line.offset (if line.hit then ':' else '-') ++ line.text ++ [v.mark]

def searchOctets (m : Matcher) (v : SearchView) (shownBefore : Bool) (name octets : Octets) :
    Work Bool := do
  let lines := foundLines m v octets
  let count := (lines.filter fun line => line.hit).length
  let hit := 0 < count
  if v.quiet then return hit
  else if v.names then
    if hit then put (name ++ ['\n'])
    return hit
  else if v.namesWithout then
    if !hit then put (name ++ ['\n'])
    return !hit
  else if v.count then
    put ((if v.named then name ++ [':'] else []) ++ Octets.ofNat count ++ ['\n'])
    return hit
  else if !v.asText && v.mark = '\n' && octets.contains '\x00' then
    if hit then report (name ++ ": binary file matches".toList)
    return hit
  else
    let blocks := (groupsAround v lines).map fun group => group.flatMap (shownLine m v name)
    let spaced := 0 < v.before || 0 < v.after
    let between := if spaced then "--\n".toList else []
    put ((if spaced && shownBefore && hit then between else []) ++ Octets.joined between blocks)
    return hit

def filesBelow (tree : FileTree) (path : Octets) (place : FilePlace) : List Octets :=
  let files := (below tree place).filter fun e =>
    match e.2 with
    | .file .. => true
    | _ => false
  let names := files.map fun e =>
    e.1.foldl (fun path piece =>
      if path.isEmpty then Octets.ofBytes piece else inside path (Octets.ofBytes piece)) path
  names.mergeSort fun a b => !Octets.before b a

def searchNames (tree : FileTree) (recursive : Bool) (names : List Octets) : List Octets :=
  if !recursive then names
  else
    names.flatMap fun name =>
      match tree.find (pathOf (if name.isEmpty then ['.'] else name)) with
      | .ok (place, .folder) => filesBelow tree name place
      | _ => [name]

def searchAll (m : Matcher) (v : SearchView) : Bool → Bool → List Octets → Work (Bool × Bool)
  | hit, failed, [] => return (hit, failed)
  | hit, failed, name :: more => do
      if hit && v.quiet then return (hit, failed)
      else
        match ← read name with
        | .ok octets =>
            let shown := if name = ['-'] then "(standard input)".toList else name
            let found ← searchOctets m v hit shown octets
            searchAll m v (hit || found) failed more
        | .error reason =>
            if !v.silent then report (name ++ ": ".toList ++ reason.toList)
            searchAll m v hit true more

def searchOptions : Options :=
  ⟨"EFGPivyclLqsowxhHnabzrRUTuZ0123456789", "efmABCdDIX", [("extended-regexp", 'E'),
    ("fixed-strings", 'F'), ("basic-regexp", 'G'), ("perl-regexp", 'P'), ("ignore-case", 'i'),
    ("invert-match", 'v'), ("count", 'c'), ("files-with-matches", 'l'),
    ("files-without-match", 'L'), ("quiet", 'q'), ("silent", 'q'), ("no-messages", 's'),
    ("only-matching", 'o'), ("word-regexp", 'w'), ("line-regexp", 'x'), ("no-filename", 'h'),
    ("with-filename", 'H'), ("line-number", 'n'), ("text", 'a'), ("byte-offset", 'b'),
    ("null-data", 'z'), ("recursive", 'r'), ("dereference-recursive", 'R'), ("regexp", 'e'),
    ("file", 'f'), ("max-count", 'm'), ("after-context", 'A'), ("before-context", 'B'),
    ("context", 'C'), ("directories", 'd'), ("include", 'I'), ("exclude", 'X')], false⟩

def searchMisuse : Work Unit := do
  remark "Usage: grep [OPTION]... PATTERNS [FILE]...".toList
  remark "Try \x27grep --help\x27 for more information.".toList
  setStatus 2

def patternTexts (tree : FileTree) (flags : List Flag) :
    Except (Octets × String) (List Octets) := do
  let found ← (flags.filter fun f => f.letter == 'e' || f.letter == 'f').mapM fun f =>
    if f.letter = 'e' then .ok (Octets.pieces '\n' f.value)
    else
      match readFile tree f.value with
      | .ok octets => .ok (Octets.lines octets)
      | .error reason => .error (f.value, reason)
  return found.flatten

def badCount? (flags : List Flag) : Option Octets :=
  flags.findSome? fun f =>
    if f.letter = 'm' && (Octets.int? f.value).isNone then some "invalid max count".toList
    else if "ABC".toList.contains f.letter && !Octets.isDecimal f.value then
      some (f.value ++ ": invalid context length argument".toList)
    else none

def searchView (flags : List Flag) (several : Bool) : SearchView :=
  let has (c : Char) : Bool := Flag.given flags c
  let number (letter : Char) : Option Nat :=
    ((Flag.last? flags letter).bind Octets.int?).map Int.toNat
  let digits := (flags.filter fun f => f.letter.isDigit).map fun f => f.letter
  let around := if digits.isEmpty then number 'C' else some (Octets.value digits)
  let letters := (flags.filter fun f => f.letter == 'h' || f.letter == 'H').getLast?
  { inverse := has 'v'
    count := has 'c'
    names := has 'l'
    namesWithout := has 'L'
    quiet := has 'q'
    partsOnly := has 'o'
    numbers := has 'n'
    offsets := has 'b'
    named := letters.elim several fun f => f.letter == 'H'
    limit := if (Flag.last? flags 'm').any fun text => text.head? == some '-' then none
      else number 'm'
    before := (number 'B' <|> around).getD 0
    after := (number 'A' <|> around).getD 0
    mark := if has 'z' then '\x00' else '\n'
    asText := has 'a'
    silent := has 's' }

def search (form : PatternForm) (arguments : List Octets) : Work Unit := do
  let isColor (a : Octets) : Bool :=
    "--color".toList.isPrefixOf a || "--colour".toList.isPrefixOf a ||
      "--line-buffered".toList.isPrefixOf a
  match searchOptions.read (arguments.filter fun a => !isColor a) with
  | .error text =>
      complain text 2
      searchMisuse
  | .ok (flags, others) =>
      let has (c : Char) : Bool := Flag.given flags c
      let given := has 'e' || has 'f'
      match given, others with
      | false, [] => searchMisuse
      | _, _ =>
          let tree := (← get).tree
          let texts : Except (Octets × String) (List Octets) :=
            if given then patternTexts tree flags else .ok (Octets.pieces '\n' (others.headD []))
          let names := if given then others else others.drop 1
          let form :=
            match (flags.filter fun f => "EFGP".toList.contains f.letter).getLast? with
            | some ⟨'E', _⟩ | some ⟨'P', _⟩ => .extended
            | some ⟨'F', _⟩ => .fixed
            | some _ => .basic
            | none => form
          let extension : Extension :=
            if has 'x' then .line else if has 'w' then .words else .anywhere
          match texts, badCount? flags with
          | .error (name, reason), _ =>
              complain (name ++ ": ".toList ++ reason.toList) 2
          | .ok _, some text => complain text 2
          | .ok texts, none =>
              let texts := if has 'P' then texts.map withDigitClass else texts
              match Matcher.read form (has 'i' || has 'y') extension texts with
              | .error fault => complain fault.message.toList 2
              | .ok m =>
                  let recursive := has 'r' || has 'R'
                  let names := if names.isEmpty then [if recursive then [] else ['-']] else names
                  let several := 1 < names.length || recursive
                  let v := searchView flags several
                  let nothing := v.limit = some 0 ||
                    (v.inverse && extension = .anywhere && texts.any List.isEmpty)
                  if nothing && !v.namesWithout then
                    setStatus 1
                    return
                  let (hit, failed) ← searchAll m v false false (searchNames tree recursive names)
                  setStatus (if hit && (v.quiet || !failed) then 0 else if failed then 2 else 1)

end LessonAudit.Program.Tool
