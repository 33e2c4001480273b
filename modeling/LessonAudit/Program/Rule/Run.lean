import LessonAudit.Program.Rule.Memory
set_option autoImplicit false

namespace LessonAudit.Program.Rule

open Shell (Act)

def remainder (x y : Float) : Float :=
  match realOf x, realOf y with
  | .finite negative num den, .finite _ other below =>
      if other = 0 then 0.0 / 0.0
      else floatOf (.finite negative (num * below % (other * den)) (den * below))
  | .finite .., .infinite _ => x
  | _, _ => 0.0 / 0.0

def arithmetic (o : Operator) (x y : Float) : Float :=
  match o with
  | .add => x + y
  | .sub => x - y
  | .mul => x * y
  | .div => x / y
  | .mod => remainder x y
  | .power => Float.pow x y
  | _ => 0.0

def truncated (x : Float) : Float :=
  if x < 0.0 then Float.ceil x else Float.floor x

def rounded (x : Float) : Int :=
  match realOf x with
  | .finite negative num den =>
      let n : Int := Decimal.roundDiv num den
      if negative then -n else n
  | .infinite negative => if negative then Format.leastInt else Format.largestInt
  | .nan _ => Format.leastInt

def part (text : Octets) (start : Float) (count : Option Float) : Octets :=
  let first := rounded start
  let stop : Int :=
    match count with
    | none => text.length + 1
    | some c => min (rounded (Float.ofInt first + c)) (text.length + 1)
  let first := max first 1
  (text.drop (first - 1).toNat).take (stop - first).toNat

def placeOf (text inner : Octets) : Nat :=
  let starts := List.range (text.length + 1)
  match starts.find? fun n => inner.isPrefixOf (text.drop n) with
  | some n => n + 1
  | none => 0

def replacement (found : Octets) : Octets → Octets
  | '\\' :: '\\' :: '&' :: rest => '\\' :: found ++ replacement found rest
  | '\\' :: '&' :: rest => '&' :: replacement found rest
  | '&' :: rest => found ++ replacement found rest
  | c :: rest => c :: replacement found rest
  | [] => []

def substituted (r : Regex) (all : Bool) (change : Octets) :
    Nat → Bool → Nat → Octets → Regex.Spot → Octets × Nat
  | 0, _, count, done, s => (done.reverse ++ s.rest, count)
  | fuel + 1, behindMatch, count, done, s =>
      match Regex.findFrom? dialect r (s.rest.length + 1) s with
      | none => (done.reverse ++ s.rest, count)
      | some m =>
          let skipped := m.start - s.index
          let done := (s.rest.take skipped).reverse ++ done
          let here := s.skip skipped
          let isRepeated := behindMatch && skipped == 0 && m.octets.isEmpty
          let done := if isRepeated then done else (replacement m.octets change).reverse ++ done
          let count := if isRepeated then count else count + 1
          let behind := here.skip m.octets.length
          if !all then (done.reverse ++ behind.rest, count)
          else if m.octets.isEmpty then
            match behind.rest with
            | [] => (done.reverse, count)
            | c :: _ => substituted r all change fuel false count (c :: done) (behind.skip 1)
          else substituted r all change fuel true count done behind

def formatted (texts : Value → Octets) (whole : Octets) (tool : String) :
    Nat → Nat → Octets → List Value → Octets × Option Octets
  | 0, _, _, _ => ([], none)
  | _ + 1, _, [], _ => ([], none)
  | fuel + 1, n, '%' :: '%' :: rest, values =>
      let (more, wrong) := formatted texts whole tool fuel n rest values
      ('%' :: more, wrong)
  | fuel + 1, n, '%' :: cs, values =>
      let about : Octets := tool.toList ++ "(\"".toList ++ whole ++ "\")".toList
      let few : Option Octets := some ("not enough arguments passed to ".toList ++ about)
      let start : Format.State := ⟨[], values.map texts, false, [], false, false⟩
      let (p, rest, s) := Format.readPlace .tool cs start
      let values := values.drop (values.length - s.arguments.length)
      let improper : Option Octets :=
        some ("improper conversion(number ".toList ++ Octets.ofNat (n + 1) ++ ") in ".toList ++
          about)
      match values with
      | [] => ([], few)
      | v :: values =>
          if !"diouxXeEfFgGcs".toList.contains p.kind || rest.isEmpty then ([], improper)
          else
            let shown : Octets :=
              match p.kind, v with
              | 's', _ => Format.textIn p (texts v)
              | 'c', .number x =>
                  Format.textIn { p with precision := none } [Octets.byte (clampedOf x % 256).toNat]
              | 'c', _ =>
                  Format.textIn { p with precision := none } [(texts v).headD '\x00']
              | _, _ => numberIn p v.toFloat
            let (more, wrong) := formatted texts whole tool fuel (n + 1) (rest.drop 1) values
            (shown ++ more, wrong)
  | fuel + 1, n, c :: rest, values =>
      let (more, wrong) := formatted texts whole tool fuel n rest values
      (c :: more, wrong)

def fill (tool : String) (format : Octets) (values : List Value) :
    Work (Octets × Option Octets) := do
  let numbers ← Work.textOfName "CONVFMT"
  return formatted (Value.toText numbers) format tool (format.length + 1) 0 format values

def fieldNumber (v : Value) : Work Nat := do
  let n := clampedOf v.toFloat
  if n < 0 then Work.fault ("negative field index $".toList ++ Octets.ofInt n) else return n.toNat

def keyOf (values : List Value) : Work Octets := do
  let texts ← values.mapM fun v =>
    match v with
    | .number x =>
        match wholeOf? x with
        | some n => pure (Octets.ofInt n)
        | none => Work.textOf v
    | _ => Work.textOf v
  return Octets.joined (← Work.textOfName "SUBSEP") texts

def withoutGroup : Expr → Expr
  | .grouped e => withoutGroup e
  | e => e

def patternOf (text : Octets) : Work Regex := do
  match readRegex text with
  | .ok r => return r
  | .error message => Work.fault message

def leastFuel : Nat := 1000

mutual

def eval (h : Host) (fuel : Nat) (e : Expr) : Work Value :=
  match fuel with
  | 0 => Work.fault "function call nesting too deep".toList
  | fuel + 1 => do
      match e with
      | .number x => return .number x
      | .text t => return .text t
      | .grouped e => eval h fuel e
      | .pattern r =>
          return .ofBool (Regex.find? dialect r (← getThe Memory).record).isSome
      | .named n => Work.value n
      | .element array keys =>
          let key ← keyOf (← evalAll h fuel keys)
          Work.element (← Work.arrayOf array) key
      | .field index => Work.field (← fieldNumber (← eval h fuel index))
      | .assign target change value =>
          match change with
          | none =>
              let v ← eval h fuel value
              store h fuel target v
              return v
          | some o =>
              let y := (← eval h fuel value).toFloat
              let x := (← eval h fuel target).toFloat
              let v := Value.number (arithmetic o x y)
              store h fuel target v
              return v
      | .step target up before =>
          let x := (← eval h fuel target).toFloat
          let next := if up then x + 1.0 else x - 1.0
          store h fuel target (.number next)
          return .number (if before then next else x)
      | .negative e => return .number (-(← eval h fuel e).toFloat)
      | .positive e => return .number (← eval h fuel e).toFloat
      | .negation e => return .ofBool !(← eval h fuel e).isTrue
      | .binary o first second =>
          let a ← eval h fuel first
          let b ← eval h fuel second
          let format ← Work.textOfName "CONVFMT"
          match o with
          | .join => return .text ((← Work.textOf a) ++ (← Work.textOf b))
          | .less => return .ofBool (Value.less format a b)
          | .atMost => return .ofBool (Value.less format a b || Value.same format a b)
          | .equal => return .ofBool (Value.same format a b)
          | _ => return .number (arithmetic o a.toFloat b.toFloat)
      | .matching negated text pattern =>
          let t ← Work.textOf (← eval h fuel text)
          let r ← evalPattern h fuel pattern
          return .ofBool ((Regex.find? dialect r t).isSome != negated)
      | .both first second =>
          if (← eval h fuel first).isTrue then return .ofBool (← eval h fuel second).isTrue
          else return .ofBool false
      | .either first second =>
          if (← eval h fuel first).isTrue then return .ofBool true
          else return .ofBool (← eval h fuel second).isTrue
      | .choice c first second =>
          if (← eval h fuel c).isTrue then eval h fuel first else eval h fuel second
      | .holds array keys =>
          let key ← keyOf (← evalAll h fuel keys)
          return .ofBool ((← Work.table (← Work.arrayOf array)).contains (String.ofList key))
      | .builtin n arguments => evalBuiltin h fuel n arguments
      | .call n arguments => call h fuel n arguments
      | .line origin source target => readLine h fuel origin source target

def evalAll (h : Host) (fuel : Nat) (es : List Expr) : Work (List Value) :=
  match fuel with
  | 0 => return []
  | fuel + 1 => do
      match es with
      | [] => return []
      | e :: more =>
          let v ← eval h fuel e
          return v :: (← evalAll h fuel more)

def evalPattern (h : Host) (fuel : Nat) (e : Expr) : Work Regex :=
  match fuel with
  | 0 => return .empty
  | fuel + 1 => do
      match withoutGroup e with
      | .pattern r => return r
      | _ => patternOf (← Work.textOf (← eval h fuel e))

def store (h : Host) (fuel : Nat) (target : Expr) (v : Value) : Work Unit :=
  match fuel with
  | 0 => return ()
  | fuel + 1 => do
      match target with
      | .named n => Work.assign n v
      | .element array keys =>
          let key ← keyOf (← evalAll h fuel keys)
          Work.setElement (← Work.arrayOf array) key v
      | .field index => Work.setField (← fieldNumber (← eval h fuel index)) v
      | _ => return ()

def readLine (h : Host) (fuel : Nat) (origin : Origin) (source target : Option Expr) : Work Value :=
  match fuel with
  | 0 => return .unset
  | fuel + 1 => do
      let found : Except String (Option Octets) ←
        match source with
        | none => do pure (.ok (← Work.nextRecord ((← Work.countOf "ARGC") + 5)))
        | some e => do
            let name ← Work.textOf (← eval h fuel e)
            Work.recordFrom h origin name
      match found with
      | .error _ => return .ofInt (-1)
      | .ok none => return .ofNat 0
      | .ok (some record) =>
          if origin = .command && target.isNone then Work.setNumber "NR" ((← Work.countOf "NR") + 1)
          match target with
          | none => Work.setRecord record
          | some t => store h fuel t (.input record)
          return .ofNat 1

def call (h : Host) (fuel : Nat) (n : Octets) (arguments : List Expr) : Work Value :=
  match fuel with
  | 0 => Work.fault "function call nesting too deep".toList
  | fuel + 1 => do
      let m ← getThe Memory
      match m.functions.find? fun f => f.name == n with
      | none => Work.fault ("function ".toList ++ n ++ " never defined".toList)
      | some f =>
          let cells ← evalCells h fuel arguments
          let values := f.parameters.zipIdx.map fun (p, i) =>
            (p, ((cells[i]?).map fun e => e.2).getD (.value .unset))
          let frame := (← getThe Memory).frame
          modifyThe Memory fun m => { m with frame := values }
          let result ←
            try
              perform h fuel f.body
              pure (Except.ok Value.unset)
            catch stop =>
              match stop with
              | .back v => pure (.ok v)
              | other => pure (.error other)
          let used := (← getThe Memory).frame
          modifyThe Memory fun m => { m with frame := frame }
          for ((name, before), (_, after)) in cells.zip used do
            match name, before, after with
            | some name, .free number, .array other =>
                if number = other then Work.setCell name (.array number)
            | _, _, _ => pure ()
          match result with
          | .ok v => return v
          | .error stop => throw stop

def evalCells (h : Host) (fuel : Nat) (es : List Expr) : Work (List (Option Octets × Cell)) :=
  match fuel with
  | 0 => return []
  | fuel + 1 => do
      match es with
      | [] => return []
      | .named n :: more =>
          let found ← Work.cell? n
          let c ←
            match found with
            | some (.array number) => pure (none, Cell.array number)
            | some (.free number) => pure (some n, .free number)
            | none | some (.value .unset) =>
                if n = "NF".toList then pure (none, .value (← Work.value n))
                else pure (some n, .free (← Work.newArray))
            | some (.value v) => pure (none, .value v)
          return c :: (← evalCells h fuel more)
      | e :: more =>
          let v ← eval h fuel e
          return (none, .value v) :: (← evalCells h fuel more)

def evalBuiltin (h : Host) (fuel : Nat) (n : String) (arguments : List Expr) : Work Value :=
  match fuel with
  | 0 => return .unset
  | fuel + 1 => do
      let arrayNamed (e : Expr) : Work Nat := do
        match withoutGroup e with
        | .named array => Work.arrayOf array
        | _ => Work.fault "type error in arg(2) in call to split".toList
      let real (f : Float → Float) : Work Value := do
        match ← evalAll h fuel arguments with
        | v :: _ => return .number (f v.toFloat)
        | [] => return .number (f 0.0)
      let text (n : Nat) : Work Octets := do
        match arguments[n]? with
        | some e => Work.textOf (← eval h fuel e)
        | none => return (← getThe Memory).record
      match n, arguments with
      | "length", [.named array] =>
          match ← Work.cell? array with
          | some (.array number) => return .ofNat (← Work.table number).size
          | _ => return .ofNat (← text 0).length
      | "length", _ => return .ofNat (← text 0).length
      | "substr", _ =>
          let t ← text 0
          match ← evalAll h fuel (arguments.drop 1) with
          | [start] => return .text (part t start.toFloat none)
          | start :: count :: _ => return .text (part t start.toFloat (some count.toFloat))
          | [] => return .text t
      | "index", _ =>
          let t ← text 0
          return .ofNat (placeOf t (← text 1))
      | "tolower", _ => return .text ((← text 0).map Char.toLower)
      | "toupper", _ => return .text ((← text 0).map Char.toUpper)
      | "split", _ =>
          let t ← text 0
          let number ← arrayNamed ((arguments[1]?).getD (.number 0.0))
          let cutter ←
            match arguments[2]? with
            | none => Work.cutter
            | some e =>
                match withoutGroup e with
                | .pattern r => pure (.pattern r)
                | _ => do
                    let mark ← Work.textOf (← eval h fuel e)
                    match Cutter.read? mark with
                    | some c => pure c
                    | none => pure (.pattern (← patternOf mark))
          let pieces := cutter.cut t
          Work.clearArray number
          for (piece, i) in pieces.zipIdx do
            Work.setElement number (Octets.ofNat (i + 1)) (.input piece)
          return .ofNat pieces.length
      | "sub", pattern :: _ => substitute h fuel false pattern arguments
      | "gsub", pattern :: _ => substitute h fuel true pattern arguments
      | "match", _ :: pattern :: _ =>
          let t ← text 0
          let r ← evalPattern h fuel pattern
          let (start, count) : Nat × Int :=
            match Regex.find? dialect r t with
            | some m => (m.start + 1, m.octets.length)
            | none => (0, -1)
          Work.setNumber "RSTART" start
          Work.setCell "RLENGTH".toList (.value (.ofInt count))
          return .ofNat start
      | "sprintf", _ =>
          match ← evalAll h fuel arguments with
          | [] => return .text []
          | format :: values =>
              let (shown, wrong) ← fill "sprintf" (← Work.textOf format) values
              match wrong with
              | some message => Work.fault message
              | none => return .text shown
      | "int", _ => real truncated
      | "sqrt", _ => real Float.sqrt
      | "exp", _ => real Float.exp
      | "log", _ => real Float.log
      | "sin", _ => real Float.sin
      | "cos", _ => real Float.cos
      | "atan2", _ =>
          match ← evalAll h fuel arguments with
          | y :: x :: _ => return .number (Float.atan2 y.toFloat x.toFloat)
          | _ => return .unset
      | "system", _ =>
          let command ← text 0
          Work.flush
          let (ending, _) ← (Work.runCommand h command none false : Act _)
          return .ofNat (Work.statusOf ending)
      | "close", _ => return .ofInt (← Work.close h (← text 0))
      | "rand", _ => return .number 0.5
      | "fflush", _ =>
          Work.flush
          return .ofNat 0
      | _, _ =>
          let _ ← evalAll h fuel arguments
          return .ofNat 0

def substitute (h : Host) (fuel : Nat) (all : Bool) (pattern : Expr) (arguments : List Expr) :
    Work Value :=
  match fuel with
  | 0 => return .unset
  | fuel + 1 => do
      let r ← evalPattern h fuel pattern
      let change ←
        match arguments[1]? with
        | some e => Work.textOf (← eval h fuel e)
        | none => pure []
      let target := withoutGroup ((arguments[2]?).getD (.field (.number 0.0)))
      let t ← Work.textOf (← eval h fuel target)
      let (done, count) := substituted r all change (t.length + 2) false 0 [] ⟨none, t, 0, []⟩
      if count != 0 then store h fuel target (.text done)
      return .ofNat count

def perform (h : Host) (fuel : Nat) (body : List Statement) : Work Unit :=
  match fuel with
  | 0 => return ()
  | fuel + 1 => do
      match body with
      | [] => return ()
      | s :: more =>
          act h fuel s
          perform h fuel more

def round (h : Host) (fuel : Nat) (body : Statement) : Work Bool :=
  match fuel with
  | 0 => return false
  | fuel + 1 => do
      try
        act h fuel body
        return true
      catch stop =>
        match stop with
        | .leaveLoop => return false
        | .nextRound => return true
        | other => throw other

def loopFrom (h : Host) (fuel : Nat) (condition : Option Expr) (after : Option Statement)
    (body : Statement) : Work Unit :=
  match fuel with
  | 0 => throw .unread
  | fuel + 1 => do
      if fuel < leastFuel then throw .unread
      let isTrue ←
        match condition with
        | some c => pure (← eval h fuel c).isTrue
        | none => pure true
      if isTrue then
        if ← round h fuel body then
          match after with
          | some s => act h fuel s
          | none => pure ()
          loopFrom h fuel condition after body
        else return ()
      else return ()

def eachOf (h : Host) (fuel : Nat) (n : Octets) (body : Statement) (keys : List Octets) :
    Work Unit :=
  match fuel with
  | 0 => return ()
  | fuel + 1 => do
      match keys with
      | [] => return ()
      | key :: more =>
          Work.assign n (.input key)
          if ← round h fuel body then eachOf h fuel n body more else return ()

def act (h : Host) (fuel : Nat) (s : Statement) : Work Unit :=
  match fuel with
  | 0 => return ()
  | fuel + 1 => do
      match s with
      | .expr e =>
          let _ ← eval h fuel e
          return ()
      | .print isFormatted arguments outlet =>
          let values ← evalAll h fuel arguments
          let goal ←
            match outlet with
            | some (kind, e) => pure (some (kind, ← Work.textOf (← eval h fuel e)))
            | none => pure none
          let give (octets : Octets) : Work Unit :=
            match goal with
            | some (kind, name) => Work.send kind name octets
            | none => Work.emit octets
          if isFormatted then
            match values with
            | [] => Work.fault "no arguments in call to printf".toList
            | format :: values =>
                let (shown, wrong) ← fill "printf" (← Work.textOf format) values
                give shown
                match wrong with
                | some message => Work.fault message
                | none => return ()
          else
            let numbers ← Work.textOfName "OFMT"
            let texts := values.map (Value.toText numbers)
            let shown ←
              if arguments.isEmpty then pure (← getThe Memory).record
              else pure (Octets.joined (← Work.textOfName "OFS") texts)
            give (shown ++ (← Work.textOfName "ORS"))
      | .block body => perform h fuel body
      | .branch c first second =>
          if (← eval h fuel c).isTrue then act h fuel first
          else
            match second with
            | some s => act h fuel s
            | none => return ()
      | .loop before condition after body =>
          match before with
          | some s => act h fuel s
          | none => pure ()
          loopFrom h fuel condition after body
      | .loopBehind body condition =>
          if ← round h fuel body then loopFrom h fuel (some condition) none body else return ()
      | .each n array body =>
          eachOf h fuel n body (← Work.keysOf (← Work.arrayOf array))
      | .delete array keys =>
          let number ← Work.arrayOf array
          match keys with
          | none => Work.clearArray number
          | some keys => Work.removeElement number (← keyOf (← evalAll h fuel keys))
      | .leaveLoop => throw .leaveLoop
      | .nextRound => throw .nextRound
      | .nextLine => throw .nextLine
      | .nextFile => throw .nextFile
      | .exit status =>
          match status with
          | some e =>
              let n := clampedOf (← eval h fuel e).toFloat
              modifyThe Memory fun m => { m with status := (n % 256).toNat }
          | none => pure ()
          throw .exit
      | .back value =>
          match value with
          | some e => throw (.back (← eval h fuel e))
          | none => throw (.back .unset)

end

def depthLimit : Nat := 1000000

def applies (h : Host) (number : Nat) : Occasion → Work Bool
  | .first | .last => return false
  | .always => return true
  | .when c => return (← eval h depthLimit c).isTrue
  | .between start stop => do
      let isActive := (← getThe Memory).active.contains number
      let starts ← if isActive then pure true else pure (← eval h depthLimit start).isTrue
      if !starts then return false
      else
        let stops := (← eval h depthLimit stop).isTrue
        modifyThe Memory fun m =>
          let others := m.active.filter fun n => n != number
          { m with active := if stops then others else number :: others }
        return true

def runEntry (h : Host) (e : Entry) : Work Unit :=
  match e.body with
  | some body => perform h depthLimit body
  | none => act h depthLimit (.print false [] none)

def runLine (h : Host) (entries : List (Entry × Nat)) : Work Unit := do
  try
    for (e, number) in entries do
      if ← applies h number e.occasion then runEntry h e
  catch stop =>
    match stop with
    | .nextLine => return ()
    | .nextFile => modifyThe Memory fun m => { m with current := none }
    | other => throw other

def runLines (h : Host) (entries : List (Entry × Nat)) : Nat → Work Unit
  | 0 => return ()
  | fuel + 1 => do
      match ← Work.nextRecord ((← Work.countOf "ARGC") + 5) with
      | none => return ()
      | some record =>
          Work.setRecord record
          runLine h entries
          runLines h entries fuel

def Script.run (h : Host) (s : Script) : Work Unit := do
  let isFirst (e : Entry) : Bool := e.occasion matches .first
  let isLast (e : Entry) : Bool := e.occasion matches .last
  let leaving (w : Work Unit) : Work Bool := do
    try
      w
      return false
    catch stop =>
      match stop with
      | .exit => return true
      | other => throw other
  let left ← leaving ((s.entries.filter isFirst).forM (runEntry h))
  if !left && s.entries.any fun e => !isFirst e then
    let _ ← leaving (runLines h s.entries.zipIdx depthLimit)
  let _ ← leaving ((s.entries.filter isLast).forM (runEntry h))
  Work.closeAll h

structure Request where
  cutter : Option Octets
  values : List (Octets × Octets)
  files : List Octets
  arguments : List Octets

def Request.read : Nat → Request → List Octets → Except Octets Request
  | 0, q, _ => .ok q
  | fuel + 1, q, arguments =>
      let valued (letter : Char) (value : Octets) (more : List Octets) : Except Octets Request :=
        match letter with
        | 'F' => read fuel { q with cutter := some (Work.unescaped value) } more
        | 'f' => read fuel { q with files := q.files ++ [value] } more
        | 'v' =>
            match Work.assignment? value with
            | some (name, text) =>
                read fuel { q with values := q.values ++ [(name, Work.unescaped text)] } more
            | none => .error ("improper assignment: -v ".toList ++ value)
        | _ => read fuel q more
      match arguments with
      | ['-', '-'] :: more => .ok { q with arguments := more }
      | ['-', letter] :: more =>
          if "FfvW".toList.contains letter then
            match more with
            | value :: more => valued letter value more
            | [] => .error ("option -".toList ++ letter :: " lacks argument".toList)
          else .error ("not an option: -".toList ++ [letter])
      | ('-' :: letter :: value) :: more =>
          if "FfvW".toList.contains letter then valued letter value more
          else .error ("not an option: -".toList ++ letter :: value)
      | _ => .ok { q with arguments := arguments }

def usage : String :=
  "Usage: mawk [Options] [Program] [file ...]\n\nProgram:\n" ++
  "    The -f option value is the name of a file containing program text.\n" ++
  "    If no -f option is given, a \"--\" ends option processing; the following\n" ++
  "    parameters are the program text.\n\nOptions:\n" ++
  "    -f program-file  Program  text is read from file instead of from the\n" ++
  "                     command-line.  Multiple -f options are accepted.\n" ++
  "    -F value         sets the field separator, FS, to value.\n" ++
  "    -v var=value     assigns value to program variable var.\n" ++
  "    --               unambiguous end of options.\n\n" ++
  "    Implementation-specific options are prefixed with \"-W\".  They can be\n" ++
  "    abbreviated:\n\n" ++
  "    -W version       show version information and exit.\n" ++
  "    -W compat        pre-POSIX 2001.\n" ++
  "    -W dump          show assembler-like listing of program and exit.\n" ++
  "    -W help          show this message and exit.\n" ++
  "    -W interactive   set unbuffered output, line-buffered input.\n" ++
  "    -W exec file     use file as program as well as last option.\n" ++
  "    -W posix         stricter POSIX checking.\n" ++
  "    -W random=number set initial random seed.\n" ++
  "    -W sprintf=number adjust size of sprintf buffer.\n" ++
  "    -W usage         show this message and exit.\n"

def Memory.start (s : Script) : Memory where
  functions := s.functions
  globals :=
    Std.HashMap.ofList
      (([("FS", " "), ("OFS", " "), ("ORS", "\n"), ("RS", "\n"), ("SUBSEP", "\x1c"),
        ("CONVFMT", "%.6g"), ("OFMT", "%.6g")] : List (String × String)).map
          fun (n, text) => (n, Cell.value (.text text.toList)))
  arrays := #[]
  keys := 0
  frame := []
  record := []
  fields := #[]
  current := none
  operand := 1
  opened := false
  active := []
  sources := []
  outputs := []
  commands := []
  held := []
  status := 0

def makeArray (name : String) (members : List (Octets × Octets)) : Work Unit := do
  let number ← Work.arrayOf name.toList
  members.forM fun (key, text) => Work.setElement number key (.input text)

def Script.missing? (s : Script) (text : Octets) : Option Octets :=
  let called := ((tokens text).toOption.getD []).filterMap fun p =>
    match p.token with
    | .call n => some n
    | _ => none
  called.find? fun n => !s.functions.any fun f => f.name == n

def runScript (h : Host) (q : Request) (text : Octets) (arguments : List Octets) : Act Ending := do
  let say (message : Octets) : Act Unit :=
    Act.write 2 (h.name ++ ": ".toList ++ message ++ ['\n'])
  match Script.read text with
  | .error f =>
      f.complaints.forM say
      return .exited 2
  | .ok s =>
      match s.missing? text with
      | some n =>
          say (aboutLine (text.count '\n' + 2) "function " (n ++ " never defined".toList))
          return .exited 2
      | none =>
          let given := h.name :: arguments
          let work : Work Unit := do
            makeArray "ENVIRON" h.environment
            makeArray "ARGV" (given.zipIdx.map fun (a, i) => (Octets.ofNat i, a))
            Work.setNumber "ARGC" given.length
            Work.setNumber "NR" 0
            Work.setNumber "FNR" 0
            Work.setNumber "RSTART" 0
            Work.setCell "RLENGTH".toList (.value (.ofInt (-1)))
            match q.cutter with
            | some text => Work.assign "FS".toList (.text text)
            | none => pure ()
            q.values.forM fun (n, text) => Work.assign n (.input text)
            s.run h
          let (result, m) ← work.run.run (Memory.start s)
          Act.write 1 m.held.reverse.flatten
          match result with
          | .error (.fault message) =>
              let isOpening := "cannot open".toList.isPrefixOf message ||
                "read error".toList.isPrefixOf message
              if isOpening then say message
              else
                let known (n : String) : Octets :=
                  match m.globals[n]? with
                  | some (.value v) => v.toText "%.6g".toList
                  | _ => []
                say ("run time error: ".toList ++ message)
                Act.write 2 ("\tFILENAME=\"".toList ++ known "FILENAME" ++ "\" FNR=".toList ++
                  known "FNR" ++ " NR=".toList ++ known "NR" ++ ['\n'])
              return .exited 2
          | .error .unread => return .killed Ending.pipeSignal
          | _ => return .exited m.status

def run (h : Host) (arguments : List Octets) : Act Ending := do
  let say (message : Octets) : Act Unit :=
    Act.write 2 (h.name ++ ": ".toList ++ message ++ ['\n'])
  match Request.read (arguments.length + 1) ⟨none, [], [], []⟩ arguments with
  | .error text =>
      say text
      return .exited 2
  | .ok q =>
      match q.files, q.arguments with
      | [], [] =>
          Act.write 2 usage.toList
          return .exited 0
      | [], text :: more => runScript h q text more
      | files, arguments =>
          let tree := (← get).machine.tree
          let texts := files.map fun name =>
            (name, readFile tree name)
          match texts.find? fun e => e.2.toBool == false with
          | some (name, .error reason) =>
              say ("cannot open \"".toList ++ name ++ "\" (".toList ++ reason.toList ++ [')'])
              return .exited 2
          | _ =>
              let text := texts.flatMap fun e => (e.2.toOption.getD []) ++ ['\n']
              runScript h q text arguments

end LessonAudit.Program.Rule
