import LessonAudit.Program.Desk
set_option autoImplicit false

namespace LessonAudit.Program.Tool

open Work

structure Length where
  count : Nat
  octets : Bool

def Length.inBlocks (l : Length) (size : Nat) : Nat :=
  if l.octets then l.count else l.count * size

structure Transfer where
  input : Option Octets
  output : Option Octets
  inSize : Nat
  outSize : Nat
  size : Option Nat
  count : Option Length
  skip : Length
  seek : Length
  conversions : List String
  inFlags : List String
  outFlags : List String
  level : String

namespace Transfer

def usual : Transfer where
  input := none
  output := none
  inSize := 512
  outSize := 512
  size := none
  count := none
  skip := ⟨0, false⟩
  seek := ⟨0, false⟩
  conversions := []
  inFlags := []
  outFlags := []
  level := ""

def unit? (text : String) : Option Nat :=
  match text with
  | "" | "c" => some 1
  | "w" => some 2
  | "b" => some 512
  | "kB" | "KB" => some 1000
  | "k" | "K" | "KiB" => some 1024
  | "MB" => some 1000000
  | "M" | "MiB" => some 1048576
  | "GB" => some 1000000000
  | "G" | "GiB" => some 1073741824
  | _ => none

def number? (text : Octets) : Option Length :=
  let digits (piece : Octets) : Octets := piece.takeWhile Char.isDigit
  let isPlain := text.getLast? == some 'B' && (text.dropLast.getLast?.any Char.isDigit)
  let body := if isPlain then text.dropLast else text
  let factors := (Octets.pieces 'x' body).mapM fun piece =>
    if (digits piece).isEmpty then none
    else
      (unit? (String.ofList (piece.drop (digits piece).length))).map fun unit =>
        unit * Octets.value (digits piece)
  factors.map fun found => ⟨found.foldl (· * ·) 1, isPlain⟩

def words (known : List String) (kind : String) (text : Octets) : Except Octets (List String) :=
  (Octets.pieces ',' text).mapM fun word =>
    let word := String.ofList word
    if known.contains word then .ok word
    else .error (("invalid " ++ kind ++ ": ").toList ++ Octets.quoted word.toList)

def conversionWords : List String :=
  ["ascii", "ebcdic", "ibm", "block", "unblock", "lcase", "ucase", "sparse", "swab", "sync", "excl",
    "nocreat", "notrunc", "noerror", "fdatasync", "fsync"]

def flagWords : List String :=
  ["append", "binary", "cio", "direct", "directory", "dsync", "noatime", "nocache", "noctty",
    "nofollow", "nolinks", "nonblock", "sync", "text", "fullblock", "count_bytes", "skip_bytes",
    "seek_bytes"]

def operand (t : Transfer) (text : Octets) : Except (Octets × Bool) Transfer :=
  let name := text.takeWhile (· != '=')
  let value := text.drop (name.length + 1)
  let bad : Octets × Bool := ("invalid number: ".toList ++ Octets.quoted value, false)
  let length : Except (Octets × Bool) Length :=
    match number? value with
    | some l => .ok l
    | none => .error bad
  let size : Except (Octets × Bool) Nat := do
    let l ← length
    if l.count = 0 then throw bad else return l.count
  let hinted {α : Type} (e : Except Octets α) : Except (Octets × Bool) α :=
    e.mapError fun text => (text, true)
  let unknown : Octets × Bool := ("unrecognized operand ".toList ++ Octets.quoted text, true)
  if name.length = text.length then .error unknown
  else
    match String.ofList name with
    | "if" => .ok { t with input := some value }
    | "of" => .ok { t with output := some value }
    | "ibs" => size.map fun n => { t with inSize := n }
    | "obs" => size.map fun n => { t with outSize := n }
    | "bs" => size.map fun n => { t with size := some n }
    | "cbs" => size.map fun _ => t
    | "count" => length.map fun l => { t with count := some l }
    | "skip" | "iseek" => length.map fun l => { t with skip := l }
    | "seek" | "oseek" => length.map fun l => { t with seek := l }
    | "conv" =>
        (hinted (words conversionWords "conversion" value)).map fun found =>
          { t with conversions := t.conversions ++ found }
    | "iflag" =>
        (hinted (words flagWords "input flag" value)).map fun found =>
          { t with inFlags := t.inFlags ++ found }
    | "oflag" =>
        (hinted (words flagWords "output flag" value)).map fun found =>
          { t with outFlags := t.outFlags ++ found }
    | "status" =>
        let level := String.ofList value
        if ["none", "noxfer", "progress"].contains level then .ok { t with level := level }
        else .error ("invalid status level: ".toList ++ Octets.quoted value, true)
    | _ => .error unknown

def settled (t : Transfer) : Transfer :=
  let marked (l : Length) (isMarked : Bool) : Length := { l with octets := l.octets || isMarked }
  { t with
    inSize := t.size.getD t.inSize
    outSize := t.size.getD t.outSize
    count := t.count.map fun l => marked l (t.inFlags.contains "count_bytes")
    skip := marked t.skip (t.inFlags.contains "skip_bytes")
    seek := marked t.seek (t.outFlags.contains "seek_bytes") }

def read (arguments : List Octets) : Except (Octets × Bool) Transfer := do
  return (← arguments.foldlM operand usual).settled

def converts (t : Transfer) (name : String) : Bool :=
  t.conversions.contains name

def exchanged : Octets → Octets
  | a :: b :: rest => b :: a :: exchanged rest
  | rest => rest

def converted (t : Transfer) (block : Octets) : Octets :=
  let block :=
    if t.converts "sync" then block ++ List.replicate (t.inSize - block.length) '\x00' else block
  let block := if t.converts "swab" then exchanged block else block
  let block := if t.converts "lcase" then block.map Char.toLower else block
  if t.converts "ucase" then block.map Char.toUpper else block

def blocks (size : Nat) : Nat → Octets → List Octets
  | 0, _ => []
  | fuel + 1, octets =>
      if octets.isEmpty then [] else octets.take size :: blocks size fuel (octets.drop size)

def sizeText (n : Nat) : Octets :=
  let shown (base : Nat) (units : List String) : Octets :=
    let powers := (List.range (units.length - 1)).filter fun k => Nat.pow base (k + 1) ≤ n
    let power := powers.length
    let unit := Nat.pow base power
    let tenths := (n * 10 + unit / 2) / unit
    let number :=
      if power = 0 then Octets.ofNat n
      else if tenths < 100 then Octets.ofNat (tenths / 10) ++ '.' :: Octets.ofNat (tenths % 10)
      else Octets.ofNat ((n + unit / 2) / unit)
    number ++ ' ' :: (units.getD power "").toList
  let thousands := shown 1000 ["B", "kB", "MB", "GB", "TB"]
  let binary := shown 1024 ["B", "KiB", "MiB", "GiB", "TiB"]
  let parts :=
    if n < 1000 then []
    else if n < 1024 then " (".toList ++ thousands ++ [')']
    else " (".toList ++ thousands ++ ", ".toList ++ binary ++ [')']
  Octets.ofNat n ++ (if n = 1 then " byte" else " bytes").toList ++ parts

def counts (size : Nat) (found : List Octets) : Octets :=
  let whole := (found.filter fun b => b.length == size).length
  Octets.ofNat whole ++ '+' :: Octets.ofNat (found.length - whole)

def refusal? (t : Transfer) (tree : FileTree) (name : Octets) : Option String :=
  match tree.find (pathOf name) with
  | .ok _ =>
      if t.converts "excl" then some "File exists"
      else
        match writeFile tree name [] with
        | .error reason => if reason = "No space left on device" then none else some reason
        | .ok _ => none
  | .error fault =>
      if t.converts "nocreat" then some fault.reason
      else
        match writeFile tree name [] with
        | .error reason => some reason
        | .ok _ => none

def writeOut (t : Transfer) (name octets : Octets) : Work Unit := do
  let before := (readFile (← get).tree name).toOption.getD []
  let start := t.seek.inBlocks t.outSize
  let start := if t.outFlags.contains "append" then before.length else start
  let kept := before.take start ++ List.replicate (start - before.length) '\x00'
  let behind := if t.converts "notrunc" then before.drop (start + octets.length) else []
  match writeFile (← get).tree name (kept ++ octets ++ behind) with
  | .ok tree => modify fun d => { d with tree := tree }
  | .error reason =>
      complain ("error writing ".toList ++ Octets.quoted name ++ ": ".toList ++
        reason.toList) 1

def source (t : Transfer) : Work (Except (String × String) Octets) := do
  let skipped := t.skip.inBlocks t.inSize
  let wanted := t.count.map fun l => l.inBlocks t.inSize
  match t.input with
  | none =>
      let d ← get
      match d.inputFault with
      | some reason => return .error ("error reading \x27standard input\x27: ", reason)
      | none =>
          let rest := d.input.drop skipped
          set { d with input := wanted.elim [] fun n => rest.drop n }
          return .ok (d.input.take (skipped + wanted.getD d.input.length))
  | some name =>
      let tree := (← get).tree
      match tree.find (pathOf name), readFile tree name with
      | .ok (_, .zeros), _ =>
          return .ok (List.replicate (skipped + wanted.getD zeroCount) '\x00')
      | .ok (_, .folder), _ =>
          return .error ("error reading " ++ String.ofList (Octets.quoted name) ++ ": ",
            "Is a directory")
      | _, .ok octets => return .ok octets
      | _, .error reason =>
          return .error ("failed to open " ++ String.ofList (Octets.quoted name) ++ ": ", reason)

def tell (t : Transfer) (taken given : Octets) (size : Nat) : Work Unit := do
  if t.level = "none" then return ()
  remark (taken ++ " records in".toList)
  remark (given ++ " records out".toList)
  if t.level = "noxfer" then return ()
  else remark (sizeText size ++ " copied, 0 s, Infinity B/s".toList)

def run (t : Transfer) : Work Unit := do
  let nothing := "0+0".toList
  let found ← t.source
  match found with
  | .error (what, reason) =>
      complain (what.toList ++ reason.toList) 1
      if "failed".toList.isPrefixOf what.toList then return ()
      else t.tell nothing nothing 0
  | .ok octets =>
      match t.output.bind (t.refusal? (← get).tree) with
      | some reason =>
          complain ("failed to open ".toList ++ Octets.quoted (t.output.getD []) ++
            ": ".toList ++ reason.toList) 1
      | none =>
          let skipped := t.skip.inBlocks t.inSize
          if octets.length < skipped && t.level ≠ "none" then
            let name := t.input.elim "\x27standard input\x27".toList Octets.named
            report (name ++ ": cannot skip to specified offset".toList)
          let octets := octets.drop skipped
          let octets :=
            (t.count.map fun l => octets.take (l.inBlocks t.inSize)).getD octets
          let taken := blocks t.inSize (octets.length + 1) octets
          let made := taken.map t.converted
          let all := made.flatten
          let given := if t.size.isSome then made else blocks t.outSize (all.length + 1) all
          match t.output with
          | none => put all
          | some name => t.writeOut name all
          t.tell (counts t.inSize taken) (counts t.outSize given) all.length

end Transfer

def dd (arguments : List Octets) : Work Unit := do
  match arguments.find? fun a => a.head? == some '-' && 1 < a.length with
  | some ('-' :: '-' :: word) =>
      misuse ("unrecognized option ".toList ++ Octets.quoted ('-' :: '-' :: word)) 1
  | some option =>
      misuse ("invalid option -- \x27".toList ++ (option.drop 1).take 1 ++ ['\x27']) 1
  | none =>
      match Transfer.read arguments with
      | .ok t => t.run
      | .error (text, true) => misuse text 1
      | .error (text, false) => complain text 1

end LessonAudit.Program.Tool
