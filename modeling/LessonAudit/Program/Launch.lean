import LessonAudit.Program.Shell.Process
import LessonAudit.Workshop
import LessonAudit.Yaml.Usual
set_option autoImplicit false

namespace LessonAudit.Program

def environment : Shell.Environment :=
  [("PATH".toList, "/usr/local/sbin:/usr/local/bin:/usr/sbin:/usr/bin:/sbin:/bin".toList),
    ("HOME".toList, "/root".toList)]

def workshop (program : Path) (arguments : List String) : Workshop FileTree :=
  Shell.Audit.workshop (fun environment => Shell.runPath Shell.runner environment 4) environment
    program (arguments.map Octets.ofString)

end LessonAudit.Program
