import LessonAudit.Program.Checksum
import LessonAudit.Program.Desk
set_option autoImplicit false

namespace LessonAudit.Program.Tool

open Work
open Checksum (Digest)

def onLine (name : Octets) : Octets × Bool :=
  let shown := name.flatMap fun c =>
    if c = '\n' then ['\\', 'n'] else if c = '\r' then ['\\', 'r']
    else if c = '\\' then ['\\', '\\'] else [c]
  (shown, shown.length != name.length)

def listed? (digits : Nat) (line : Octets) : Option (Octets × Octets) :=
  let digest := line.take digits
  let isDigest := digest.length == digits && digest.all fun c => (Octets.hexDigit? c).isSome
  match line.drop digits with
  | ' ' :: mark :: name =>
      if isDigest && (mark == ' ' || mark == '*') && !name.isEmpty then
        some (digest.map Char.toLower, name)
      else none
  | _ => none

structure ListView where
  quiet : Bool
  silent : Bool
  warns : Bool
  ignores : Bool
  strict : Bool

structure ListFound where
  bad : Nat
  unread : Nat
  different : Nat
  good : Nat

def compareLines (title : String) (d : Digest) (digits : Nat) (v : ListView)
    (list : Octets) : Nat → ListFound → List Octets → Work ListFound
  | _, found, [] => return found
  | number, found, line :: more => do
      let next (found : ListFound) : Work ListFound :=
        compareLines title d digits v list (number + 1) found more
      let tell (name : Octets) (verdict : String) : Work Unit :=
        if v.silent then return () else putLine (name ++ ": ".toList ++ verdict.toList)
      match listed? digits line with
      | none =>
          if v.warns then
            let shown := if list = ['-'] then "\x27standard input\x27".toList else list
            report (shown ++ ": ".toList ++ Octets.ofNat number ++
              (": improperly formatted " ++ title ++ " checksum line").toList)
          next { found with bad := found.bad + 1 }
      | some (digest, name) =>
          let found := { found with good := found.good + 1 }
          match ← read name with
          | .error reason =>
              if v.ignores && reason = "No such file or directory" then next found
              else
                complain (Octets.named name ++ ": ".toList ++ reason.toList) 1
                tell name "FAILED open or read"
                next { found with unread := found.unread + 1 }
          | .ok octets =>
              if d.text octets = digest then
                if !v.quiet then tell name "OK"
                next found
              else
                tell name "FAILED"
                next { found with different := found.different + 1 }

def warnOf (count : Nat) (one several : String) : Work Unit :=
  if count = 0 then return ()
  else
    report ("WARNING: ".toList ++ Octets.ofNat count ++
      (if count = 1 then one else several).toList)

def compareList (title : String) (d : Digest) (digits : Nat) (v : ListView)
    (list : Octets) : Work Unit := do
  match ← readOr 1 list with
  | none => return ()
  | some octets =>
      let found ← compareLines title d digits v list 1 ⟨0, 0, 0, 0⟩ (Octets.lines octets)
      if found.good = 0 then
        let shown := if list = ['-'] then "\x27standard input\x27".toList else Octets.named list
        complain (shown ++ ": no properly formatted checksum lines found".toList) 1
      else
        if !v.silent then
          warnOf found.bad " line is improperly formatted" " lines are improperly formatted"
          warnOf found.unread " listed file could not be read"
            " listed files could not be read"
          warnOf found.different " computed checksum did NOT match"
            " computed checksums did NOT match"
        if found.unread + found.different != 0 || (v.strict && found.bad != 0) then setStatus 1

def digests (title : String) (d : Digest) (arguments : List Octets) : Work Unit := do
  let o : Options :=
    ⟨"bctwzqsTiS", "", [("binary", 'b'), ("check", 'c'), ("text", 't'), ("warn", 'w'),
      ("zero", 'z'), ("quiet", 'q'), ("status", 's'), ("tag", 'T'), ("ignore-missing", 'i'),
      ("strict", 'S')], false⟩
  let letters := arguments.find? fun a =>
    match a with
    | '-' :: c :: _ => "qsTiS".toList.contains c
    | _ => false
  match letters with
  | some a => misuse ("invalid option -- \x27".toList ++ (a.drop 1).take 1 ++ ['\x27']) 1
  | none =>
      withOptions 1 o arguments fun flags names => do
        let has (c : Char) : Bool := Flag.given flags c
        let names := if names.isEmpty then [['-']] else names
        if has 'c' then
          let v : ListView := ⟨has 'q' || has 's', has 's', has 'w', has 'i', has 'S'⟩
          names.forM (compareList title d (2 * (d.octets []).length) v)
        else
          names.forM fun name => do
            match ← readOr 1 name with
            | none => return ()
            | some octets =>
                let (shown, escaped) := if has 'z' then (name, false) else onLine name
                let start := if escaped then ['\\'] else []
                let line :=
                  if has 'T' then
                    start ++ title.toList ++ " (".toList ++ shown ++ ") = ".toList ++ d.text octets
                  else start ++ d.text octets ++ [' ', if has 'b' then '*' else ' '] ++ shown
                put (line ++ [if has 'z' then '\x00' else '\n'])

def cksum (arguments : List Octets) : Work Unit := do
  withOptions 1 ⟨"", "", [], false⟩ arguments fun _ names => do
    let given := if names.isEmpty then [['-']] else names
    given.forM fun name => do
      match ← readOr 1 name with
      | none => return ()
      | some octets =>
          let n := Checksum.remainder (octets.map Char.toNat)
          let shown := if names.isEmpty then [] else ' ' :: name
          putLine (Octets.ofNat n ++ ' ' :: Octets.ofNat octets.length ++ shown)

def sum (arguments : List Octets) : Work Unit := do
  withOptions 1 ⟨"rs", "", [("sysv", 's')], false⟩ arguments fun flags names => do
    let given := if names.isEmpty then [['-']] else names
    let plain := (flags.getLast?.map fun f => f.letter == 's').getD false
    given.forM fun name => do
      match ← readOr 1 name with
      | none => return ()
      | some octets =>
          let numbers := octets.map Char.toNat
          let blocks (size : Nat) : Octets := Octets.ofNat ((octets.length + size - 1) / size)
          let shown := if names.isEmpty then [] else ' ' :: name
          if plain then
            let all := numbers.foldl (· + ·) 0
            let folded := all % 0x10000 + all % 0x100000000 / 0x10000
            let n := folded % 0x10000 + folded / 0x10000
            putLine (Octets.ofNat n ++ ' ' :: blocks 512 ++ shown)
          else
            let n := Checksum.turningSum numbers
            putLine (Octets.padLeft '0' 5 (Octets.ofNat n) ++ ' ' ::
              Octets.padLeft ' ' 5 (blocks 1024) ++ shown)

end LessonAudit.Program.Tool
