import LessonAudit.Program.Desk
import LessonAudit.Program.Format
set_option autoImplicit false

namespace LessonAudit.Program.Tool

open Work

def caret (tabs : Bool) (c : Char) : Octets :=
  let low (n : Nat) : Octets :=
    if n < 32 then ['^', Char.ofNat (n + 64)] else if n = 127 then ['^', '?'] else [Char.ofNat n]
  if c = '\n' || (c = '\t' && !tabs) then [c]
  else if c.toNat < 128 then low c.toNat
  else 'M' :: '-' :: low (c.toNat - 128)

def squeezed (before : Bool) : List Octets → List Octets
  | [] => []
  | line :: more =>
      let isEmpty := line == ['\n']
      if isEmpty && before then squeezed true more else line :: squeezed isEmpty more

def numberedLines (all : Bool) (n : Nat) : List Octets → List Octets
  | [] => []
  | line :: more =>
      if all || line != ['\n'] then
        (Octets.padLeft ' ' 6 (Octets.ofNat n) ++ '\t' :: line) :: numberedLines all (n + 1) more
      else line :: numberedLines all n more

def cat (arguments : List Octets) : Work Unit := do
  let o : Options :=
    ⟨"AbeEnstTuv", "", [("show-all", 'A'), ("number-nonblank", 'b'), ("show-ends", 'E'),
      ("number", 'n'), ("squeeze-blank", 's'), ("show-tabs", 'T'), ("show-nonprinting", 'v')],
      false⟩
  withOptions 1 o arguments fun flags names => do
    let has (letters : String) : Bool := letters.toList.any fun c => Flag.given flags c
    let octets ← readTogether 1 names
    if flags.isEmpty then put octets
    else
      let lines := Octets.fullLines '\n' octets
      let lines := if has "s" then squeezed false lines else lines
      let tabs := has "AtT"
      let lines := lines.map fun line =>
        let shown : Octets :=
          if has "Aetv" then line.flatMap (caret tabs)
          else if tabs then line.flatMap fun c => if c = '\t' then ['^', 'I'] else [c]
          else line
        if has "AeE" && shown.getLast? = some '\n' then shown.dropLast ++ ['$', '\n'] else shown
      let isEmptyShown := has "AeE"
      let lines :=
        if has "b" then
          (numberedLines false 1 (lines.map fun line =>
            if isEmptyShown && line = ['$', '\n'] then ['\n'] else line)).map fun line =>
              if isEmptyShown && line = ['\n'] then ['$', '\n'] else line
        else if has "n" then numberedLines true 1 lines
        else lines
      put lines.flatten

def tac (arguments : List Octets) : Work Unit := do
  withOptions 1 ⟨"br", "s", [("before", 'b'), ("separator", 's')], false⟩ arguments
    fun flags names => do
      let mark := ((Flag.last? flags 's').getD ['\n']).headD '\n'
      for name in if names.isEmpty then [['-']] else names do
        match ← read name with
        | .ok octets => put (Octets.fullLines mark octets).reverse.flatten
        | .error reason =>
            if reason = "Is a directory" then
              complain (Octets.named name ++ ": read error: Invalid argument".toList) 1
            else
              complain ("failed to open ".toList ++ Octets.quoted name ++
                " for reading: ".toList ++ reason.toList) 1

def rev (names : List Octets) : Work Unit := do
  match names.find? fun a => a.head? == some '-' && a.length == 2 && a != ['-', '-'] with
  | some a =>
      complain ("invalid option -- \x27".toList ++ a.tail ++ ['\x27']) 1
      remark (hint "rev".toList)
  | none =>
      let names := if names.isEmpty then [['-']] else names
      for name in names do
        match ← read name with
        | .ok octets =>
            put ((Octets.fullLines '\n' octets).map fun line =>
              if line.getLast? = some '\n' then line.dropLast.reverse ++ ['\n']
              else line.reverse).flatten
        | .error reason =>
            remark ("rev: cannot open ".toList ++ name ++ ": ".toList ++ reason.toList)
            setStatus 1

def tee (arguments : List Octets) : Work Unit := do
  withOptions 1 ⟨"aip", "", [("append", 'a'), ("ignore-interrupts", 'i')], false⟩ arguments
    fun flags names => do
      let octets ← takeInput
      put octets
      for name in names do
        match String.ofList name with
        | "/dev/stdout" => put octets
        | "/dev/stderr" => modify fun d => { d with written := (.err, octets) :: d.written }
        | _ =>
            let found := (readFile (← get).tree name).toOption.getD []
            write name ((if Flag.given flags 'a' then found else []) ++ octets)

structure Extent where
  lines : Bool
  sign : Option Char
  count : Nat

def factor? (text : String) : Option Nat :=
  match text with
  | "" => some 1
  | "b" => some 512
  | "kB" | "KB" => some 1000
  | "k" | "K" | "KiB" => some 1024
  | "MB" => some 1000000
  | "M" | "MiB" => some 1048576
  | "GB" => some 1000000000
  | "G" | "GiB" => some 1073741824
  | _ => none

def Extent.read? (lines : Bool) (text : Octets) : Option Extent :=
  let (sign, body) :=
    match text with
    | '+' :: rest => (some '+', rest)
    | '-' :: rest => (some '-', rest.dropWhile Octets.isSpace)
    | _ => (none, text.dropWhile Octets.isSpace)
  let body := if body.head? = some '+' then body.tail else body
  let digits := body.takeWhile Char.isDigit
  if digits.isEmpty then none
  else
    (factor? (String.ofList (body.drop digits.length))).map fun f =>
      ⟨lines, sign, f * Octets.value digits⟩

def plainCount (signs : String) (arguments : List Octets) : List Octets :=
  match arguments with
  | (sign :: digits) :: more =>
      let count := digits.takeWhile Char.isDigit
      if signs.toList.contains sign && !count.isEmpty then
        let value := if sign = '+' then '+' :: count else count
        let letters := digits.drop count.length
        let unit := if letters.head? = some 'c' then 'c' else 'n'
        ('-' :: unit :: value) :: more
      else arguments
  | _ => arguments

def countOptions : Options :=
  ⟨"qvzfF", "cns", [("bytes", 'c'), ("lines", 'n'), ("quiet", 'q'), ("silent", 'q'),
    ("verbose", 'v'), ("zero-terminated", 'z'), ("follow", 'f')], false⟩

def extentOf (flags : List Flag) : Except (Bool × Octets) Extent :=
  match (flags.filter fun f => f.letter == 'c' || f.letter == 'n').getLast? with
  | none => .ok ⟨true, none, 10⟩
  | some f =>
      let lines := f.letter == 'n'
      match Extent.read? lines f.value with
      | some e => .ok e
      | none => .error (lines, f.value)

def heading (name : Octets) : Octets :=
  let name := if name = ['-'] then "standard input".toList else name
  "==> ".toList ++ name ++ " <==".toList

def showParts (part : Extent → Octets → Octets) (take : Extent → Work Octets)
    (arguments : List Octets) : Work Unit := do
  withOptions 1 countOptions arguments fun flags names => do
    match extentOf flags with
    | .error (lines, text) =>
        let kind := if lines then "lines" else "bytes"
        complain (("invalid number of " ++ kind ++ ": ").toList ++
          Octets.quoted text) 1
    | .ok e =>
        let names := if names.isEmpty then [['-']] else names
        let named := Flag.given flags 'v' || (1 < names.length && !Flag.given flags 'q')
        let mut first := true
        for name in names do
          let head : Octets := (if first then [] else ['\n']) ++ heading name ++ ['\n']
          if name = ['-'] || isInputName name then
            if named then put head else pure ()
            put (part e (← take e))
            first := false
          else
            match (← get).tree.find (pathOf name), ← read name with
            | .ok (_, .folder), _ =>
                if named then put head else pure ()
                complain ("error reading ".toList ++ Octets.quoted name ++
                  ": Is a directory".toList) 1
                first := false
            | .ok (_, .zeros), _ =>
                put (List.replicate (if e.lines || e.sign.isSome then 0 else e.count) '\x00')
            | _, .error reason =>
                complain ("cannot open ".toList ++ Octets.quoted name ++
                  " for reading: ".toList ++ reason.toList) 1
            | _, .ok octets =>
                if named then put head else pure ()
                put (part e octets)
                first := false

def firstPart (e : Extent) (octets : Octets) : Octets :=
  let part {α : Type} (xs : List α) : List α :=
    if e.sign = some '-' then xs.take (xs.length - e.count) else xs.take e.count
  if e.lines then (part (Octets.fullLines '\n' octets)).flatten else part octets

def blockSize : Nat := 8192

def takeFirst (e : Extent) : Work Octets := do
  let d ← get
  let wanted := (firstPart e d.input).length
  let read :=
    if e.sign = some '-' then d.input.length
    else if d.isFile || !e.lines then wanted
    else if wanted < d.input.length || (Octets.fullLines '\n' d.input).length = e.count then
      (wanted + blockSize - 1) / blockSize * blockSize
    else d.input.length
  set { d with input := d.input.drop read }
  return d.input.take (max wanted read)

def head (arguments : List Octets) : Work Unit :=
  showParts firstPart takeFirst (plainCount "-" arguments)

def lastPart (e : Extent) (octets : Octets) : Octets :=
  let part {α : Type} (xs : List α) : List α :=
    if e.sign = some '+' then xs.drop (e.count - 1) else xs.drop (xs.length - e.count)
  if e.lines then (part (Octets.fullLines '\n' octets)).flatten else part octets

def tail (arguments : List Octets) : Work Unit :=
  showParts lastPart (fun _ => takeInput) (plainCount "-+" arguments)

def nl (arguments : List Octets) : Work Unit := do
  let o : Options :=
    ⟨"p", "bnwsvihfld", [("body-numbering", 'b'), ("number-format", 'n'), ("number-width", 'w'),
      ("number-separator", 's'), ("starting-line-number", 'v'), ("line-increment", 'i')], false⟩
  withOptions 1 o arguments fun flags names => do
    let style := (Flag.last? flags 'b').getD ['t']
    let bad := flags.find? fun f =>
      "wvi".toList.contains f.letter && (Octets.int? f.value).isNone
    if !"atnp".toList.contains (style.headD 'x') then
      misuse ("invalid body numbering style: ".toList ++ Octets.quoted style) 1
      return
    match bad with
    | some f =>
        let what :=
          match f.letter with
          | 'w' => "invalid line number field width: "
          | 'v' => "invalid starting line number: "
          | _ => "invalid line number increment: "
        complain (what.toList ++ Octets.quoted f.value) 1
        return
    | none => pure ()
    if (Flag.last? flags 'w').any fun text => Octets.int? text == some 0 then
      complain ("invalid line number field width: \x270\x27: ".toList ++
        "Numerical result out of range".toList) 1
      return
    let octets ← readTogether 1 names
    let number (letter : Char) (other : Nat) : Nat :=
      (((Flag.last? flags letter).bind Octets.int?).map Int.toNat).getD other
    let width := number 'w' 6
    let mark := (Flag.last? flags 's').getD ['\t']
    let style := style.headD 't'
    let form := (Flag.last? flags 'n').getD "rn".toList
    let shown (n : Nat) : Octets :=
      let digits := Octets.ofNat n
      match String.ofList form with
      | "ln" => Octets.padRight width digits
      | "rz" => Octets.padLeft '0' width digits
      | _ => Octets.padLeft ' ' width digits
    let (lines, _) := (Octets.lines octets).foldl
      (fun (done, n) line =>
        if style == 'a' || (style == 't' && !line.isEmpty) then
          ((shown n ++ mark ++ line ++ ['\n']) :: done, n + number 'i' 1)
        else ((List.replicate (width + mark.length) ' ' ++ line ++ ['\n']) :: done, n))
      (([], number 'v' 1) : List Octets × Nat)
    put lines.reverse.flatten

def columnBehind (bytes : Bool) (column : Nat) (c : Char) : Nat :=
  if bytes then column + 1
  else if c = '\t' then column + 8 - column % 8
  else if c = '\x08' then column - 1
  else if c = '\r' then 0
  else column + 1

def widthOf (bytes : Bool) (octets : Octets) : Nat :=
  octets.foldl (columnBehind bytes) 0

def foldLine (bytes atBlanks : Bool) (width : Nat) : Nat → Octets → Octets → List Octets
  | 0, current, _ => [current.reverse]
  | _ + 1, current, [] => [current.reverse]
  | fuel + 1, current, c :: rest =>
      let next := columnBehind bytes (widthOf bytes current.reverse) c
      if next ≤ width || current.isEmpty then foldLine bytes atBlanks width fuel (c :: current) rest
      else
        let behind := current.takeWhile fun x => !Octets.isBlank x
        if atBlanks && behind.length < current.length then
          (current.drop behind.length).reverse ::
            foldLine bytes atBlanks width fuel behind (c :: rest)
        else current.reverse :: foldLine bytes atBlanks width fuel [] (c :: rest)

def fold (arguments : List Octets) : Work Unit := do
  let arguments := (plainCount "-" arguments).map fun a =>
    if a.take 2 = ['-', 'n'] then '-' :: 'w' :: a.drop 2 else a
  withOptions 1 ⟨"bs", "w", [("bytes", 'b'), ("spaces", 's'), ("width", 'w')], false⟩
    arguments fun flags names => do
      let given := Flag.last? flags 'w'
      if given.any fun text => !Octets.isDecimal text then
        complain ("invalid number of columns: ".toList ++ Octets.quoted (given.getD [])) 1
        return
      if given.any fun text => Octets.value text = 0 then
        complain ("invalid number of columns: ".toList ++ Octets.quoted (given.getD []) ++
          ": Numerical result out of range".toList) 1
        return
      let octets ← readTogether 1 names
      let width := (((Flag.last? flags 'w').bind Octets.int?).map Int.toNat).getD 80
      let cutLine (line : Octets) : List Octets :=
        foldLine (Flag.given flags 'b') (Flag.given flags 's') width (2 * line.length + 2) [] line
      let lines := (Octets.fullLines '\n' octets).map fun line =>
        if line.getLast? = some '\n' then Octets.joined ['\n'] (cutLine line.dropLast) ++ ['\n']
        else Octets.joined ['\n'] (cutLine line)
      put lines.flatten

def toStop (stops : List Nat) (column : Nat) : Nat :=
  match stops with
  | [width] => width - column % width
  | _ => ((stops.find? fun stop => column < stop).map fun stop => stop - column).getD 1

def withoutTabs (stops : List Nat) (initial : Bool) : Nat → Octets → Octets
  | _, [] => []
  | column, c :: rest =>
      if c = '\t' then
        let count := toStop stops column
        List.replicate count ' ' ++ withoutTabs stops initial (column + count) rest
      else if initial && !Octets.isBlank c then c :: rest
      else c :: withoutTabs stops initial (if c = '\x08' then column - 1 else column + 1) rest

def expand (arguments : List Octets) : Work Unit := do
  let arguments := arguments.map fun a =>
    match a with
    | '-' :: c :: _ => if c.isDigit then '-' :: 't' :: a.tail else a
    | _ => a
  withOptions 1 ⟨"i", "t", [("initial", 'i'), ("tabs", 't')], false⟩ arguments
    fun flags names => do
      let text := (Flag.last? flags 't').getD ['8']
      let pieces := (Octets.pieces ',' text).flatMap (Octets.pieces ' ')
      let pieces := pieces.filter fun p => !p.isEmpty
      let stops := pieces.map Octets.value
      match pieces.find? fun p => !Octets.isDecimal p with
      | some piece =>
          complain ("tab size contains invalid character(s): ".toList ++
            Octets.quoted (piece.dropWhile Char.isDigit)) 1
      | none =>
          if stops.contains 0 then complain "tab size cannot be 0".toList 1
          else if (stops.zip stops.tail).any fun (a, b) => b ≤ a then
            complain "tab sizes must be ascending".toList 1
          else
            let octets ← readTogether 1 names
            let stops := if stops.isEmpty then [8] else stops
            put ((Octets.fullLines '\n' octets).flatMap
              (withoutTabs stops (Flag.given flags 'i') 0))

structure Counts where
  lines : Nat
  words : Nat
  octets : Nat
  width : Nat

def Counts.of (octets : Octets) : Counts :=
  let (words, _) := octets.foldl
    (fun (n, inside) c =>
      if Octets.isSpace c then (n, false) else (if inside then n else n + 1, true))
    ((0, false) : Nat × Bool)
  let width := ((Octets.lines octets).map (widthOf false)).foldl max 0
  ⟨octets.count '\n', words, octets.length, width⟩

def Counts.add (a b : Counts) : Counts :=
  ⟨a.lines + b.lines, a.words + b.words, a.octets + b.octets, max a.width b.width⟩

def wc (arguments : List Octets) : Work Unit := do
  let o : Options :=
    ⟨"lwcmL", "", [("bytes", 'c'), ("chars", 'm'), ("lines", 'l'), ("words", 'w'),
      ("max-line-length", 'L')], false⟩
  withOptions 1 o arguments fun flags names => do
    let has (c : Char) : Bool := Flag.given flags c
    let all := flags.isEmpty
    let columns (c : Counts) : List Nat :=
      (if all || has 'l' then [c.lines] else []) ++ (if all || has 'w' then [c.words] else []) ++
        (if has 'm' then [c.octets] else []) ++ (if all || has 'c' then [c.octets] else []) ++
        (if has 'L' then [c.width] else [])
    let given := if names.isEmpty then [['-']] else names
    let d ← get
    let fileSize (name : Octets) : Option Nat :=
      if name = ['-'] then (if d.isFile then some d.input.length else none)
      else
        match d.tree.find (pathOf name) with
        | .ok (_, .file bytes _) => some bytes.length
        | _ => none
    let isThere (name : Octets) : Bool := name == ['-'] || (d.tree.find (pathOf name)).toBool
    let width :=
      if given.length = 1 && (columns ⟨0, 0, 0, 0⟩).length = 1 then 1
      else if !isThere (given.headD []) then 1
      else
        let total := ((given.filterMap fileSize).foldl (· + ·) 0)
        let least :=
          if given.any fun name => isThere name && (fileSize name).isNone then 7 else 1
        max (Octets.ofNat total).length least
    let line (c : Counts) (name : Option Octets) : Octets :=
      let shown := (columns c).map fun n => Octets.padLeft ' ' width (Octets.ofNat n)
      Octets.joined [' '] shown ++ (name.elim [] fun name => ' ' :: name) ++ ['\n']
    let mut total : Counts := ⟨0, 0, 0, 0⟩
    for name in given do
      match ← read name with
      | .ok octets =>
          let c := Counts.of octets
          put (line c (if names.isEmpty then none else some name))
          total := total.add c
      | .error reason =>
          complain (Octets.named name ++ ": ".toList ++ reason.toList) 1
          if reason = "Is a directory" then put (line ⟨0, 0, 0, 0⟩ (some name)) else pure ()
    if 1 < given.length then put (line total (some "total".toList)) else return ()

inductive Dump where
  | number (size base : Nat) (signed : Bool)
  | character

def Dump.size : Dump → Nat
  | number size _ _ => size
  | character => 1

def Dump.read? (text : Octets) : Option Dump :=
  let sized (rest : Octets) (usual : Nat) : Nat :=
    match String.ofList rest with
    | "C" | "1" => 1
    | "S" | "2" => 2
    | "I" | "4" => 4
    | "L" | "8" => 8
    | _ => usual
  match text with
  | 'x' :: rest => some (.number (sized rest 4) 16 false)
  | 'o' :: rest => some (.number (sized rest 4) 8 false)
  | 'u' :: rest => some (.number (sized rest 4) 10 false)
  | 'd' :: rest => some (.number (sized rest 4) 10 true)
  | 'c' :: _ => some .character
  | _ => none

def digitCount (base size : Nat) : Nat :=
  (Nat.toDigits base (Nat.pow 256 size - 1)).length

def dumpedCharacter (c : Char) : Octets :=
  match c with
  | '\x00' => ['\\', '0']
  | '\x07' => ['\\', 'a']
  | '\x08' => ['\\', 'b']
  | '\t' => ['\\', 't']
  | '\n' => ['\\', 'n']
  | '\x0b' => ['\\', 'v']
  | '\x0c' => ['\\', 'f']
  | '\r' => ['\\', 'r']
  | _ => if Octets.isVisible c then [c] else Octets.padLeft '0' 3 (Nat.toDigits 8 c.toNat)

def octetGroups (size : Nat) : Nat → Octets → List Octets
  | 0, _ => []
  | fuel + 1, octets =>
      if octets.isEmpty then [] else octets.take size :: octetGroups size fuel (octets.drop size)

def Dump.shown (form : Dump) (octets : Octets) : Octets :=
  match form with
  | character => octets.flatMap fun c => ' ' :: Octets.padLeft ' ' 3 (dumpedCharacter c)
  | number size base signed =>
      (octetGroups size (octets.length + 1) octets).flatMap fun group =>
        let n : Nat := group.reverse.foldl (fun n c => 256 * n + c.toNat) 0
        let full : Nat := Nat.pow 256 size
        if signed then
          let value : Int := if full ≤ 2 * n then (n : Int) - full else n
          let width := (Nat.toDigits 10 (full / 2)).length + 1
          ' ' :: Octets.padLeft ' ' width (Octets.ofInt value)
        else
          let fill := if base = 10 then ' ' else '0'
          ' ' :: Octets.padLeft fill (digitCount base size) (Nat.toDigits base n)

def dumpLines (address : Nat → Octets) (forms : List Dump) (all : Bool) :
    Nat → Option Octets → Bool → List Octets → List Octets
  | offset, _, _, [] => [address offset]
  | offset, before, starred, group :: more =>
      let next := offset + group.length
      if !all && before = some group && !more.isEmpty then
        (if starred then [] else [['*']]) ++ dumpLines address forms all next before true more
      else
        let shown := forms.map fun form => form.shown group
        let lines :=
          match shown with
          | [] => []
          | first :: others =>
              (address offset ++ first) ::
                others.map fun line => List.replicate (address offset).length ' ' ++ line
        lines ++ dumpLines address forms all next (some group) false more

def od (arguments : List Octets) : Work Unit := do
  let o : Options :=
    ⟨"cxobdv", "AtjNw", [("address-radix", 'A'), ("format", 't'), ("skip-bytes", 'j'),
      ("read-bytes", 'N'), ("output-duplicates", 'v'), ("width", 'w')], false⟩
  withOptions 1 o arguments fun flags names => do
    let octets ← readTogether 1 names
    let number (letter : Char) : Option Nat :=
      ((Flag.last? flags letter).bind Octets.int?).map Int.toNat
    let octets := octets.drop ((number 'j').getD 0)
    let octets := (number 'N').elim octets fun n => octets.take n
    let forms := flags.filterMap fun f =>
      match f.letter with
      | 'c' => some Dump.character
      | 'x' => some (.number 2 16 false)
      | 'o' => some (.number 2 8 false)
      | 'b' => some (.number 1 8 false)
      | 'd' => some (.number 2 10 false)
      | 't' => Dump.read? f.value
      | _ => none
    let forms := if forms.isEmpty then [.number 2 8 false] else forms
    let base := ((Flag.last? flags 'A').getD ['o']).headD 'o'
    let start := (number 'j').getD 0
    let address (n : Nat) : Octets :=
      match base with
      | 'n' => []
      | 'd' => Octets.padLeft '0' 7 (Octets.ofNat (start + n))
      | 'x' => Octets.padLeft '0' 6 (Nat.toDigits 16 (start + n))
      | _ => Octets.padLeft '0' 7 (Nat.toDigits 8 (start + n))
    let tree := (← get).tree
    if !names.isEmpty && names.all (isMissing tree) then return ()
    else
      let width := (number 'w').getD 16
      let lines := dumpLines address forms (Flag.given flags 'v') 0 none false
        (octetGroups width (octets.length + 1) octets)
      let lines := if base = 'n' then lines.dropLast else lines
      lines.forM putLine

def sixtyFour : List Char :=
  "ABCDEFGHIJKLMNOPQRSTUVWXYZabcdefghijklmnopqrstuvwxyz0123456789+/".toList

def inSixBits : Octets → Octets
  | a :: b :: c :: rest =>
      let n := a.toNat * 65536 + b.toNat * 256 + c.toNat
      [n / 262144, n / 4096 % 64, n / 64 % 64, n % 64].map (fun k => sixtyFour.getD k '=') ++
        inSixBits rest
  | [a, b] =>
      let n := a.toNat * 65536 + b.toNat * 256
      [n / 262144, n / 4096 % 64, n / 64 % 64].map (fun k => sixtyFour.getD k '=') ++ ['=']
  | [a] =>
      let n := a.toNat * 65536
      [n / 262144, n / 4096 % 64].map (fun k => sixtyFour.getD k '=') ++ ['=', '=']
  | [] => []

def ofSixBits : Nat → Octets → Octets × Bool
  | 0, _ => ([], true)
  | fuel + 1, signs =>
      match signs with
      | [] => ([], true)
      | _ =>
          let group := signs.take 4
          let body := group.takeWhile (· != '=')
          let good := body.takeWhile sixtyFour.contains
          let values := good.filterMap fun c => sixtyFour.idxOf? c
          let n := (values ++ List.replicate (4 - values.length) 0).foldl (fun n k => 64 * n + k) 0
          let octets := [Octets.byte (n / 65536), Octets.byte (n / 256), Octets.byte n]
          let fine := values.length = body.length && group.length = 4 && 2 ≤ body.length &&
            (group.drop body.length).all (· == '=')
          if !fine then (octets.take (values.length - 1), false)
          else
            let (rest, all) := ofSixBits fuel (signs.drop 4)
            (octets.take (body.length - 1) ++ rest, all)

def base64 (arguments : List Octets) : Work Unit := do
  let o : Options := ⟨"di", "w", [("decode", 'd'), ("ignore-garbage", 'i'), ("wrap", 'w')], false⟩
  withOptions 1 o arguments fun flags names => do
    let isBad (f : Flag) : Bool := f.letter == 'w' && !Octets.isDecimal f.value
    match flags.find? isBad, names, ← read (names.headD ['-']) with
    | some f, _, _ => complain ("invalid wrap size: ".toList ++ Octets.quoted f.value) 1
    | none, _ :: extra :: _, _ => misuse ("extra operand ".toList ++ Octets.quoted extra) 1
    | none, _, .error reason =>
        let what :=
          if reason = "Is a directory" then "read error".toList
          else Octets.named (names.headD ['-'])
        complain (what ++ ": ".toList ++ reason.toList) 1
    | none, _, .ok octets =>
        if Flag.given flags 'd' then
          let isSign (c : Char) : Bool := sixtyFour.contains c || c == '='
          let signs := octets.filter fun c => c != '\n' && (!Flag.given flags 'i' || isSign c)
          let (found, fine) := ofSixBits (signs.length + 1) signs
          put found
          if fine then return () else complain "invalid input".toList 1
        else
          let signs := inSixBits octets
          let width := (((Flag.last? flags 'w').bind Octets.int?).map Int.toNat).getD 76
          if width = 0 then put signs
          else (octetGroups width (signs.length + 1) signs).forM putLine

end LessonAudit.Program.Tool
