import LessonAudit.Program.Tool.Print
import LessonAudit.Program.Tool.View
set_option autoImplicit false

namespace LessonAudit.Program.Tool

open Work

inductive Comparison where
  | text
  | number
  | general
  | human
  | month
  | version
deriving DecidableEq, Repr

structure Collation where
  comparison : Comparison
  reverse : Bool
  foldCase : Bool
  dictionary : Bool
  visible : Bool
  blanks : Bool
deriving DecidableEq, Repr

namespace Collation

def usual : Collation := ⟨.text, false, false, false, false, false⟩

def with? (o : Collation) (letter : Char) : Option Collation :=
  match letter with
  | 'n' => some { o with comparison := .number }
  | 'g' => some { o with comparison := .general }
  | 'h' => some { o with comparison := .human }
  | 'M' => some { o with comparison := .month }
  | 'V' => some { o with comparison := .version }
  | 'r' => some { o with reverse := true }
  | 'f' => some { o with foldCase := true }
  | 'd' => some { o with dictionary := true }
  | 'i' => some { o with visible := true }
  | 'b' => some { o with blanks := true }
  | _ => none

end Collation

def leadingDecimal (text : Octets) : Decimal × Octets :=
  let body := text.dropWhile Octets.isBlank
  let (below, rest) :=
    match body with
    | '-' :: rest => (true, rest)
    | _ => (false, body)
  let whole := rest.takeWhile Char.isDigit
  let (fraction, behind) :=
    match rest.drop whole.length with
    | '.' :: more =>
        let digits := more.takeWhile Char.isDigit
        (digits, more.drop digits.length)
    | more => (([] : Octets), more)
  let n : Int := Octets.value (whole ++ fraction)
  (⟨if below then -n else n, fraction.length⟩, behind)

def compareDecimals (a b : Decimal) : Ordering :=
  let places := max a.places b.places
  compare (a.at places) (b.at places)

def leadingNumber? : Nat → Octets → Option Decimal
  | 0, _ => none
  | n + 1, text =>
      match Decimal.ofText? (text.take (n + 1)) with
      | some d => some d
      | none => leadingNumber? n text

def compareGeneral (a b : Octets) : Ordering :=
  match leadingNumber? a.length a, leadingNumber? b.length b with
  | some x, some y => compareDecimals x y
  | none, some _ => .lt
  | some _, none => .gt
  | none, none => .eq

def compareHuman (a b : Octets) : Ordering :=
  let ((x, restX), (y, restY)) := (leadingDecimal a, leadingDecimal b)
  let rank (d : Decimal) (rest : Octets) : Int :=
    let unit := if rest.head? = some 'k' then 'K' else rest.headD ' '
    let power : Nat := (("KMGTPEZYRQ".toList.idxOf? unit).map fun n => n + 1).getD 0
    if d.scaled < 0 then -(power : Int) - 1 else if d.scaled = 0 then 0 else power + 1
  (compare (rank x restX) (rank y restY)).then (compareDecimals x y)

def monthOf (text : Octets) : Nat :=
  let name := String.ofList (((text.dropWhile Octets.isBlank).take 3).map Char.toUpper)
  ((["JAN", "FEB", "MAR", "APR", "MAY", "JUN", "JUL", "AUG", "SEP", "OCT", "NOV",
    "DEC"].idxOf? name).map fun n => n + 1).getD 0

def compareOctets (a b : Octets) : Ordering :=
  if a = b then .eq else if Octets.before a b then .lt else .gt

def compareVersions : Nat → Octets → Octets → Ordering
  | 0, a, b => compareOctets a b
  | _ + 1, [], [] => .eq
  | _ + 1, [], _ :: _ => .lt
  | _ + 1, _ :: _, [] => .gt
  | fuel + 1, a, b =>
      let (x, y) := (a.takeWhile Char.isDigit, b.takeWhile Char.isDigit)
      if !x.isEmpty && !y.isEmpty then
        (compare (Octets.value x) (Octets.value y)).then
          (compareVersions fuel (a.drop x.length) (b.drop y.length))
      else
        let rank (c : Char) : Nat :=
          if c = '~' then 0
          else if c.isDigit then 1
          else if c.isAlpha then c.toNat
          else c.toNat + 256
        (compare (rank (a.headD ' ')) (rank (b.headD ' '))).then
          (compareVersions fuel (a.drop 1) (b.drop 1))

def Collation.compareTexts (o : Collation) (a b : Octets) : Ordering :=
  let kept (text : Octets) : Octets :=
    let text := if o.dictionary then text.filter fun c => c.isAlphanum || Octets.isBlank c else text
    let text := if o.visible then text.filter Octets.isVisible else text
    if o.foldCase then text.map Char.toUpper else text
  match o.comparison with
  | .text => compareOctets (kept a) (kept b)
  | .number => compareDecimals (leadingDecimal a).1 (leadingDecimal b).1
  | .general => compareGeneral a b
  | .human => compareHuman a b
  | .month => compare (monthOf a) (monthOf b)
  | .version => compareVersions (a.length + b.length + 1) a b

def Collation.compare (o : Collation) (a b : Octets) : Ordering :=
  let found := o.compareTexts a b
  if o.reverse then found.swap else found

structure Key where
  field : Nat
  char : Nat
  blanks : Bool
  stop : Option (Nat × Nat)
  stopBlanks : Bool
  collation : Option Collation

def behindFields (mark : Option Char) : Nat → Octets → Octets
  | 0, line => line
  | n + 1, line =>
      match mark with
      | some c => behindFields mark n ((line.dropWhile (· != c)).drop 1)
      | none =>
          behindFields mark n
            ((line.dropWhile Octets.isBlank).dropWhile fun c => !Octets.isBlank c)

def reach (mark : Option Char) (field char : Nat) (blanks : Bool) (line : Octets) : Nat :=
  if char = 0 then
    let rest := behindFields mark field line
    let whole :=
      match mark with
      | some c => rest.takeWhile (· != c)
      | none =>
          let start := rest.takeWhile Octets.isBlank
          start ++ (rest.drop start.length).takeWhile fun c => !Octets.isBlank c
    line.length - rest.length + whole.length
  else
    let rest := behindFields mark field line
    let rest := if blanks then rest.dropWhile Octets.isBlank else rest
    min line.length (line.length - rest.length + char)

def Key.part (k : Key) (mark : Option Char) (line : Octets) : Octets :=
  let rest := behindFields mark k.field line
  let rest := if k.blanks then rest.dropWhile Octets.isBlank else rest
  let start := line.length - rest.length + k.char
  let stop := k.stop.elim line.length fun (field, char) => reach mark field char k.stopBlanks line
  (line.take stop).drop start

def readPosition (text : Octets) : Option (Nat × Option Nat × Octets) :=
  let field := text.takeWhile Char.isDigit
  if field.isEmpty then none
  else
    match text.drop field.length with
    | '.' :: rest =>
        let char := rest.takeWhile Char.isDigit
        if char.isEmpty then none
        else some (Octets.value field, some (Octets.value char), rest.drop char.length)
    | rest => some (Octets.value field, none, rest)

def collationOf (letters : Octets) (o : Collation) : Option Collation :=
  letters.foldl (fun o c => o.bind fun o => o.with? c) (some o)

def Key.read (text : Octets) : Except Octets Key := do
  match readPosition text with
  | none =>
      throw ("invalid number at field start: invalid count at start of ".toList ++
        Octets.quoted text)
  | some (0, _, _) =>
      throw ("field number is zero: invalid field specification ".toList ++ Octets.quoted text)
  | some (_, some 0, _) =>
      throw ("character offset is zero: invalid field specification ".toList ++
        Octets.quoted text)
  | some (field + 1, char, rest) =>
      let letters := rest.takeWhile (· != ',')
      let stray : Octets :=
        "stray character in field spec: invalid field specification ".toList ++ Octets.quoted text
      let startChar := char.elim 0 fun n => n - 1
      match collationOf letters .usual, rest.drop letters.length with
      | none, _ => throw stray
      | some o, [] =>
          return ⟨field, startChar, o.blanks, none, false, if letters.isEmpty then none else some o⟩
      | some o, _ :: behind =>
          match readPosition behind with
          | none =>
              throw ("invalid number after \x27,\x27: invalid count at start of ".toList ++
                Octets.quoted behind)
          | some (0, _, _) =>
              throw ("field number is zero: invalid field specification ".toList ++
                Octets.quoted text)
          | some (last + 1, char, more) =>
              match collationOf more { o with blanks := false } with
              | none => throw stray
              | some p =>
                  let given := !letters.isEmpty || !more.isEmpty
                  return ⟨field, startChar, o.blanks, some (last, char.getD 0), p.blanks,
                    if given then some p else none⟩

def compareByKeys (keys : List Key) (mark : Option Char) (o : Collation) (a b : Octets) :
    Ordering :=
  match keys with
  | [] => o.compare (if o.blanks then a.dropWhile Octets.isBlank else a)
      (if o.blanks then b.dropWhile Octets.isBlank else b)
  | _ =>
      let byKey (k : Key) : Ordering :=
        let blanks := k.collation.isNone && o.blanks
        let k := { k with blanks := k.blanks || blanks, stopBlanks := k.stopBlanks || blanks }
        (k.collation.getD o).compare (k.part mark a) (k.part mark b)
      keys.foldl (fun found k => found.then (byKey k)) .eq

def sortOptions : Options :=
  ⟨"bdfgiMhnrRVcCmsuz", "ktoST", [("ignore-leading-blanks", 'b'), ("dictionary-order", 'd'),
    ("ignore-case", 'f'), ("general-numeric-sort", 'g'), ("ignore-nonprinting", 'i'),
    ("month-sort", 'M'), ("human-numeric-sort", 'h'), ("numeric-sort", 'n'), ("reverse", 'r'),
    ("version-sort", 'V'), ("check", 'c'), ("merge", 'm'), ("stable", 's'), ("unique", 'u'),
    ("zero-terminated", 'z'), ("key", 'k'), ("field-separator", 't'), ("output", 'o')], false⟩

def withoutTwins (same : Octets → Octets → Bool) : List Octets → List Octets
  | a :: b :: more =>
      if same a b then withoutTwins same (a :: more) else a :: withoutTwins same (b :: more)
  | lines => lines
termination_by lines => lines.length

def disorder? (fine : Octets → Octets → Bool) : Nat → List Octets → Option (Nat × Octets)
  | n, a :: b :: more => if fine a b then disorder? fine (n + 1) (b :: more) else some (n + 1, b)
  | _, _ => none

def sort (arguments : List Octets) : Work Unit := do
  withOptions 2 sortOptions arguments fun flags names => do
    let keys := (flags.filter fun f => f.letter == 'k').map fun f => Key.read f.value
    let bad := keys.findSome? fun k =>
      match k with
      | .error text => some text
      | .ok _ => none
    let keys := keys.filterMap Except.toOption
    let markText := Flag.last? flags 't'
    match bad, markText with
    | some text, _ => complain text 2
    | none, some [] => complain "empty tab".toList 2
    | none, some (a :: b :: rest) =>
        if a :: b :: rest = ['\\', '0'] then sortWith flags keys (some '\x00') names
        else complain ("multi-character tab ".toList ++ Octets.quoted (a :: b :: rest)) 2
    | none, some [c] => sortWith flags keys (some c) names
    | none, none => sortWith flags keys none names
where
  sortWith (flags : List Flag) (keys : List Key) (mark : Option Char) (names : List Octets) :
      Work Unit := do
    let has (c : Char) : Bool := Flag.given flags c
    let letters := (flags.map fun f => f.letter).filter fun c => (Collation.usual.with? c).isSome
    let o := (collationOf letters .usual).getD .usual
    let byKeys := compareByKeys keys mark o
    let whole (a b : Octets) : Ordering :=
      if o.reverse then compareOctets b a else compareOctets a b
    let order (a b : Octets) : Ordering :=
      if has 's' || has 'u' then byKeys a b else (byKeys a b).then (whole a b)
    let ending := if has 'z' then '\x00' else '\n'
    let names := if names.isEmpty then [['-']] else names
    let mut octets : List Octets := []
    let tree := (← get).tree
    for name in names.filter (isMissing tree) ++ names do
      match ← read name with
      | .ok found => octets := octets ++ Octets.linesBy ending found
      | .error reason =>
          let start :=
            if reason = "Is a directory" then "read failed: "
            else if has 'c' || has 'C' then "open failed: "
            else "cannot read: "
          complain (start.toList ++ Octets.named name ++ ": ".toList ++ reason.toList) 2
          return
    if has 'c' || has 'C' then
      let fine (a b : Octets) : Bool :=
        match order a b with
        | .lt => true
        | .eq => !has 'u'
        | .gt => false
      match disorder? fine 1 octets with
      | none => return
      | some (n, line) =>
          if has 'C' then setStatus 1
          else
            let place := names.headD [] ++ ':' :: Octets.ofNat n
            complain (place ++ ": disorder: ".toList ++ line) 1
    else
      let sorted := octets.mergeSort fun a b => order a b != .gt
      let sorted := if has 'u' then withoutTwins (fun a b => byKeys a b == .eq) sorted else sorted
      let text := sorted.flatMap fun line => line ++ [ending]
      match Flag.last? flags 'o' with
      | some name => write name text
      | none => put text

def twins (same : Octets → Octets → Bool) : List Octets → List (List Octets)
  | [] => []
  | line :: more =>
      match twins same more with
      | (first :: group) :: groups =>
          if same line first then (line :: first :: group) :: groups
          else [line] :: (first :: group) :: groups
      | groups => [line] :: groups

def uniq (arguments : List Octets) : Work Unit := do
  let o : Options :=
    ⟨"cdDuiz", "fsw", [("count", 'c'), ("repeated", 'd'), ("unique", 'u'), ("ignore-case", 'i'),
      ("skip-fields", 'f'), ("skip-chars", 's'), ("check-chars", 'w'), ("zero-terminated", 'z')],
      false⟩
  withOptions 1 o arguments fun flags names => do
    let has (c : Char) : Bool := Flag.given flags c
    let number (letter : Char) : Option Nat :=
      ((Flag.last? flags letter).bind Octets.int?).map Int.toNat
    let bad := flags.find? fun f => "fsw".toList.contains f.letter && !Octets.isDecimal f.value
    match names with
    | _ :: _ :: extra :: _ => misuse ("extra operand ".toList ++ Octets.quoted extra) 1
    | _ =>
      match bad with
      | some f =>
          let what :=
            match f.letter with
            | 'f' => "fields to skip"
            | 's' => "bytes to skip"
            | _ => "bytes to compare"
          complain (f.value ++ (": invalid number of " ++ what).toList) 1
      | none =>
        let name := names.headD ['-']
        match ← read name with
        | .error reason =>
            let what :=
              if reason = "Is a directory" then "error reading ".toList ++ Octets.quoted name
              else Octets.named name
            complain (what ++ ": ".toList ++ reason.toList) 1
        | .ok octets =>
            let ending := if has 'z' then '\x00' else '\n'
            let part (line : Octets) : Octets :=
              let rest := behindFields none ((number 'f').getD 0) line
              let rest := rest.drop ((number 's').getD 0)
              let rest := (number 'w').elim rest fun n => rest.take n
              if has 'i' then rest.map Char.toLower else rest
            let groups := twins (fun a b => part a == part b) (Octets.linesBy ending octets)
            let shown := groups.flatMap fun group =>
              let count := group.length
              let first := group.headD []
              if has 'D' then (if 1 < count then group else [])
              else if (has 'd' && count = 1) || (has 'u' && 1 < count) then []
              else if has 'c' then [Octets.padLeft ' ' 7 (Octets.ofNat count) ++ ' ' :: first]
              else [first]
            let text := shown.flatMap fun line => line ++ [ending]
            match names with
            | [_, out] => write out text
            | _ => put text

def common : Nat → List Octets → List Octets → List (Nat × Octets)
  | 0, _, _ => []
  | _ + 1, [], others => others.map fun line => (2, line)
  | _ + 1, lines, [] => lines.map fun line => (1, line)
  | fuel + 1, a :: as, b :: bs =>
      match compareOctets a b with
      | .eq => (3, a) :: common fuel as bs
      | .lt => (1, a) :: common fuel as (b :: bs)
      | .gt => (2, b) :: common fuel (a :: as) bs

def comm (arguments : List Octets) : Work Unit := do
  let o : Options := ⟨"123z", "o", [("output-delimiter", 'o')], false⟩
  withOptions 1 o arguments fun flags names => do
    match names with
    | [] => misuse "missing operand".toList 1
    | [a] => misuse ("missing operand after ".toList ++ Octets.quoted a) 1
    | [a, b] =>
        match ← readOr 1 a with
        | none => return ()
        | some first =>
            match ← readOr 1 b with
            | none => return ()
            | some second =>
                let (as, bs) := (Octets.lines first, Octets.lines second)
                let mark := (Flag.last? flags 'o').getD ['\t']
                let has (n : Nat) : Bool := Flag.given flags (Char.ofNat (48 + n))
                let found := common (as.length + bs.length + 1) as bs
                let indent (n : Nat) : Octets :=
                  ((List.range n).filter fun k => 0 < k && !has k).flatMap fun _ => mark
                put (found.flatMap fun (n, line) =>
                  if has n then [] else indent n ++ line ++ ['\n'])
                let fine (lines : List Octets) : Bool :=
                  (disorder? (fun a b => !Octets.before b a) 1 lines).isNone
                let apart := found.any fun e => e.1 != 3
                for (n, lines) in [(1, as), (2, bs)] do
                  if apart && !fine lines then
                    complain ("file ".toList ++ Octets.ofNat n ++
                      " is not in sorted order".toList) 1
                if apart && !(fine as && fine bs) then
                  complain "input is not in sorted order".toList 1
                else return ()
    | _ :: _ :: extra :: _ => misuse ("extra operand ".toList ++ Octets.quoted extra) 1

def commonStart : Octets → Octets → Nat
  | a :: as, b :: bs => if a = b then commonStart as bs + 1 else 0
  | _, _ => 0

def comparedOctet (shows : Bool) (c : Char) : Octets :=
  let number := Octets.padLeft ' ' 3 (Nat.toDigits 8 c.toNat)
  let shown := if c = '\n' then ['^', 'J'] else caret true c
  if shows then number ++ ' ' :: shown else number

def tellDifference (all shows : Bool) (a b first second : Octets) : Work Unit := do
  let same := commonStart first second
  let pairs := (List.zip first second).zipIdx.filter fun e => e.1.1 != e.1.2
  let width := (Octets.ofNat (min first.length second.length)).length
  if all then
    for ((x, y), index) in pairs do
      let before := comparedOctet shows x
      putLine (Octets.padLeft ' ' width (Octets.ofNat (index + 1)) ++ ' ' ::
        before ++ List.replicate (if shows then 8 - before.length else 0) ' ' ++ ' ' ::
        comparedOctet shows y)
  match pairs with
  | ((x, y), _) :: _ =>
      let line := (first.take same).count '\n' + 1
      let kind := if shows then "byte " else "char "
      let octets :=
        if shows then " is ".toList ++ comparedOctet true x ++ ' ' :: comparedOctet true y else []
      if !all then
        putLine (a ++ ' ' :: b ++ " differ: ".toList ++ kind.toList ++ Octets.ofNat (same + 1) ++
          ", line ".toList ++ Octets.ofNat line ++ octets)
  | [] => pure ()
  if first.length != second.length && (all || pairs.isEmpty) then
    let (name, short) := if first.length < second.length then (a, first) else (b, second)
    if short.isEmpty then report ("EOF on ".toList ++ name ++ " which is empty".toList)
    else
      let place :=
        if all then []
        else if short.getLast? = some '\n' then ", line ".toList ++ Octets.ofNat (short.count '\n')
        else ", in line ".toList ++ Octets.ofNat (short.count '\n' + 1)
      report ("EOF on ".toList ++ name ++ " after byte ".toList ++ Octets.ofNat short.length ++
        place)

def compareNames (flags : List Flag) (skips : List Nat) (a b : Octets) : Work Unit := do
  let has (c : Char) : Bool := Flag.given flags c
  let tree := (← get).tree
  if a = b && !isMissing tree a && skips.isEmpty then return
  let readQuietly (name : Octets) : Work (Option Octets) := do
    if has 's' && isMissing tree name then
      setStatus 2
      return none
    else readOr 2 name
  match ← readQuietly a with
  | none => return
  | some first =>
      match ← readQuietly b with
      | none => return
      | some second =>
          let limit := ((Flag.last? flags 'n').bind Octets.int?).map Int.toNat
          let part (index : Nat) (octets : Octets) : Octets :=
            let rest := octets.drop (skips[index]?.getD 0)
            limit.elim rest fun n => rest.take n
          let (first, second) := (part 0 first, part 1 second)
          if first = second then return
          setStatus 1
          if !has 's' then tellDifference (has 'l') (has 'b') a b first second

def cmp (arguments : List Octets) : Work Unit := do
  let o : Options :=
    ⟨"slb", "ni", [("silent", 's'), ("quiet", 's'), ("verbose", 'l'), ("bytes", 'n'),
      ("print-bytes", 'b'), ("ignore-initial", 'i')], false⟩
  let fail (text : Octets) : Work Unit := do
    complain text 2
    report (hint (← get).name)
  match o.read arguments with
  | .error text => fail text
  | .ok (flags, names) =>
      let skips := names.drop 2 ++ (Flag.last? flags 'i').elim [] fun text =>
        let skip := text.takeWhile (· != ':')
        if skip.length = text.length then [text, text] else [skip, text.drop (skip.length + 1)]
      let isBad (text : Octets) : Bool := !Octets.isDecimal text
      let limit := (Flag.last? flags 'n').toList
      let wrong := Flag.given flags 'l' && Flag.given flags 's'
      match limit.find? isBad, skips.find? isBad, names with
      | some text, _, _ => fail ("invalid --bytes value ".toList ++ Octets.quoted text)
      | none, some text, _ =>
          fail ("invalid --ignore-initial value ".toList ++ Octets.quoted text)
      | none, none, _ :: _ :: _ :: _ :: extra :: _ =>
          fail ("extra operand ".toList ++ Octets.quoted extra)
      | none, none, [] =>
          fail ("missing operand after ".toList ++
            Octets.quoted (arguments.getLast?.getD (← get).name))
      | none, none, a :: rest =>
          if wrong then fail "options -l and -s are incompatible".toList
          else compareNames flags (skips.map Octets.value) a (rest.headD ['-'])

end LessonAudit.Program.Tool
