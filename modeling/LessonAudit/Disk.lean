import LessonAudit.Path
import LessonAudit.Text.Utf8
set_option autoImplicit false

namespace LessonAudit

inductive DiskFault where
  | unopened (reason : String)
  | unread (reason : String)
deriving DecidableEq, Repr

structure Disk where
  isFolder : Path → Bool
  isFile : Path → Bool
  names : Path → List (List UInt8)
  bytes : Path → Except DiskFault (List UInt8)

inductive ReadFault where
  | disk (fault : DiskFault)
  | tooLarge (limit : UInt64)
  | notText
deriving DecidableEq, Repr

def ReadFault.message : ReadFault → String
  | disk (.unopened reason) => "Failed to open file: " ++ reason
  | disk (.unread reason) => "Failed to read file: " ++ reason
  | tooLarge limit => "File exceeds maximum size of " ++ toString limit.toNat ++ " bytes"
  | notText => "File is not valid UTF-8"

namespace Disk

/-- The first bytes of a file, one more than the limit, so that a larger file shows. The count is
one of 64 bits. Behind the largest limit it starts again at zero and nothing is read; a build that
checks its sums stops there instead. -/
def firstBytes (disk : Disk) (path : Path) (limit : UInt64) : Except DiskFault (List UInt8) :=
  match disk.bytes path with
  | .ok bytes => .ok (bytes.take (limit + 1).toNat)
  | .error (.unread reason) => if limit + 1 = 0 then .ok [] else .error (.unread reason)
  | .error fault => .error fault

def readText (disk : Disk) (path : Path) (limit : UInt64) : Except ReadFault String :=
  match disk.firstBytes path limit with
  | .error fault => .error (.disk fault)
  | .ok bytes =>
      if limit.toNat < bytes.length then .error (.tooLarge limit)
      else
        match Text.Utf8.decode? bytes with
        | some text => .ok text
        | none => .error .notText

end Disk
end LessonAudit
