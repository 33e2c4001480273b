import LessonAudit.CommandLine.Run
import LessonAudit.Program.Shell.Delegation
import LessonAudit.Yaml.Usual
set_option autoImplicit false

namespace LessonAudit.Program.Shell.Audit

def start (environment : Environment) (tree : FileTree) (input : Octets) : State where
  machine := ⟨tree, #[.source input, .drain [], .drain []], FileTree.ownProcess⟩
  name := []
  arguments := []
  bindings := environment.reverse.map fun e => ⟨e.1, some e.2, true, false⟩
  functions := []
  aliases := []
  letters := []
  streams := [(0, 0), (1, 1), (2, 2)]
  status := 0
  outputStatus := 0
  lost := false
  mask := 18
  line := 0
  builtin := none
  loops := 0
  functionDepth := 0
  texts := #[]
  traps := []
  pending := []
  leaving := none
  jobs := []
  lastJob := none
  firstProcess := FileTree.ownProcess
  family := [FileTree.ownProcess]
  locals := []
  optionOffset := 0

def pathFor (environment : Environment) (tree : FileTree) (program : Path) :
    Except LaunchFault Octets :=
  let name := Octets.ofBytes program.bytes
  if name.contains '/' then .ok name
  else if name.isEmpty then .error (.walk .missing)
  else searchIn tree name (Octets.pieces ':' ((environment.lookup "PATH".toList).getD [])) false

def launch (run : Environment → Octets → Octets → List Octets → Act (Except LaunchFault Ending))
    (environment : Environment) (tree : FileTree) (program : Path) (arguments : List Octets)
    (input : Octets) : Except LaunchFault Outcome × FileTree :=
  match pathFor environment tree program with
  | .error fault => (.error fault, tree)
  | .ok path =>
      let work := run environment path (Octets.ofBytes program.bytes) arguments
      let (result, t) := StateT.run work.run (start environment tree input)
      let after := { t.machine.tree with here := tree.here }
      let outcome (ending : Ending) : Outcome :=
        ⟨ending, Octets.toBytes (t.machine.drained 1), Octets.toBytes (t.machine.drained 2)⟩
      match result with
      | .ok (.ok ending) => (.ok (outcome ending), after)
      | .ok (.error fault) => (.error fault, after)
      | .error (.signal number _) => (.ok (outcome (.killed number)), after)
      | .error _ => (.ok (outcome (.exited t.status)), after)

def rendered (program : Path) (launched : Except LaunchFault Outcome × FileTree) :
    Except RenderError Tree.Node × FileTree :=
  match launched with
  | (.error fault, tree) => (.error (.spawn program.text fault.text), tree)
  | (.ok outcome, tree) => (outcome.tree, tree)

def workshop (run : Environment → Octets → Octets → List Octets → Act (Except LaunchFault Ending))
    (environment : Environment) (program : Path) (arguments : List Octets) : Workshop FileTree where
  disk := FileTree.disk
  render tree body :=
    rendered program (launch run environment tree program arguments (Octets.ofString body))

-- the command itself, which a renderer may start again
def run (r : Runner) (environment : Environment) (arguments : List Octets) : Act Ending := do
  let s ← get
  let asked := (environment.lookup "RUST_LOG".toList).map Octets.toString
  let (result, tree) := CommandLine.run (fun program => workshop r.direct environment program [])
    asked (arguments.map Octets.toBytes) s.machine.tree
  modify fun s => { s with machine := { s.machine with tree := tree } }
  Act.write 1 (Octets.ofString result.stdout)
  Act.write 2 (Octets.ofString result.stderr)
  return .exited result.code

end LessonAudit.Program.Shell.Audit
