import LessonAudit.Program.Tool.Blocks
import LessonAudit.Program.Tool.Columns
import LessonAudit.Program.Tool.Differences
import LessonAudit.Program.Tool.Expression
import LessonAudit.Program.Tool.Order
import LessonAudit.Program.Tool.Search
import LessonAudit.Program.Tool.Sed
import LessonAudit.Program.Tool.Sums
import LessonAudit.Program.Tool.Time
set_option autoImplicit false

namespace LessonAudit.Program.Tool

def named? (name : String) : Option (List Octets → Work Unit) :=
  match name with
  | "base64" => some base64
  | "basename" => some basename
  | "cat" => some cat
  | "dirname" => some dirname
  | "echo" => some echo
  | "false" => some fun _ => Work.setStatus 1
  | "fold" => some fold
  | "head" => some head
  | "nl" => some nl
  | "od" => some od
  | "printenv" => some printEnvironment
  | "printf" => some printf
  | "rev" => some rev
  | "seq" => some seq
  | "tac" => some tac
  | "tail" => some tail
  | "tee" => some tee
  | "true" | "sync" => some fun _ => return ()
  | "wc" => some wc
  | "yes" => some yes
  | "cmp" => some cmp
  | "comm" => some comm
  | "cut" => some cut
  | "paste" => some paste
  | "sort" => some sort
  | "tr" => some tr
  | "uniq" => some uniq
  | "cp" => some cp
  | "chmod" => some chmod
  | "ln" => some ln
  | "mkdir" => some mkdir
  | "mktemp" => some mktemp
  | "mv" => some mv
  | "rm" => some rm
  | "rmdir" => some rmdir
  | "touch" => some touch
  | "truncate" => some truncate
  | "[" => some (test true)
  | "arch" => some (single "x86_64")
  | "expr" => some expr
  | "grep" => some (search .basic)
  | "egrep" => some (search .extended)
  | "fgrep" => some (search .fixed)
  | "id" => some id
  | "ls" => some ls
  | "pwd" => some pwd
  | "readlink" => some readlink
  | "realpath" => some realpath
  | "sed" => some sed
  | "sleep" => some sleep
  | "stat" => some stat
  | "test" => some (test false)
  | "uname" => some uname
  | "date" => some date
  | "dd" => some dd
  | "diff" => some diff
  | "expand" => some expand
  | "factor" => some factor
  | "tty" => some tty
  | "unlink" => some unlink
  | "which" => some which
  | "cksum" => some cksum
  | "sum" => some sum
  | "md5sum" => some (digests "MD5" .four)
  | "sha1sum" => some (digests "SHA1" .five)
  | "sha224sum" => some (digests "SHA224" (.short 224))
  | "sha256sum" => some (digests "SHA256" (.short 256))
  | "sha384sum" => some (digests "SHA384" (.long 384))
  | "sha512sum" => some (digests "SHA512" (.long 512))
  | "hostname" => some (single "localhost")
  | "nproc" => some (single "1")
  | "whoami" => some (single "root")
  | _ => none

end LessonAudit.Program.Tool
