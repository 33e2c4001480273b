import LessonAudit.Proofs.Lesson.Accounting
import LessonAudit.Proofs.Role.Rule
set_option autoImplicit false

namespace LessonAudit.Lesson

inductive Sound [Libraries] (source : Source) (policy : Policy) (renderer : Renderer)
    (page : Path) (contents : Except DiskFault (List UInt8)) : Prop
  | intro {text : String} {metadata : Option (Dict Json.Value)} {tree : Tree.Node} {role : Role}
      (held : contents = .ok (Text.Utf8.encode text))
      (fits : (Text.Utf8.encode text).length ≤ source.limit.toNat)
      (header : Document.Given (Header.split text).raw metadata)
      (rendered : renderer (Header.split text).body = .ok tree)
      (placed : Role.Ruled (Role.seen source.root page) (some role))
      (accepted : role.Accepts metadata)
      (quotes : tree.Classed "blockquote" policy.quoteClasses)
      (code : tree.Classed "codeblock" policy.codeClasses)

structure Conforms [Libraries] (disk : Disk) (source : Source) (policy : Policy)
    (renderer : Renderer) (pages : List Path) : Prop where
  required : ∀ r ∈ policy.required, r.mandatory = true → Fileset.Present source.root pages r
  numbered : ∃ texts count, Fileset.NumberedBy source.root pages texts ∧
    texts.Perm (Episode.numerals count)
  sound : ∀ page ∈ pages, Sound source policy renderer page (disk.bytes page)

section

variable {source : Source} {policy : Policy} {renderer : Renderer} {page : Path}
  {contents : Except DiskFault (List UInt8)}

end

def shelf (files : List (String × String × String)) : Disk where
  isFolder path := files.any fun (folder, _) => folder == path.text
  isFile path := files.any fun (folder, name, _) => folder ++ "/" ++ name == path.text
  names path := (files.filter fun (folder, _) => folder == path.text).map fun (_, name, _) => name
  bytes path :=
    match files.find? fun (folder, name, _) => folder ++ "/" ++ name == path.text with
    | some (_, _, text) => .ok (Text.Utf8.encode text)
    | none => .error (.unopened "No such file or directory (os error 2)")

def lessonFiles : List (String × String × String) :=
  [("l", "README.md", "About this lesson.\n"),
    ("l", "index.md", "---\nlayout: lesson_homepage\n---\n"),
    ("l", "reference.md", "---\nlayout: reference\n---\n"),
    ("l", "setup.md", "---\nlayout: page\n---\n"),
    ("l/_episodes", "02-loops.md", "---\ntitle: Loops\n---\n"),
    ("l/_episodes", "01-start.md", "---\ntitle: Start\n---\n")]

def tornFiles : List (String × String × String) :=
  [("l", "README.md", "About this lesson.\n"),
    ("l", "index.md", "---\nlayout: page\n---\n"),
    ("l", "reference.md", "No header.\n"),
    ("l/_episodes", "02-loops.md", "---\ntitle: Loops\n---\nnote\n")]

def lessonPolicy : Policy :=
  { Policy.standard with required := [⟨true, "%/index.md"⟩, ⟨true, "%/setup.md"⟩] }

def quotingRenderer : Renderer := fun body =>
  let name := if body = "\nnote\n" then "note" else "callout"
  .ok ((Tree.Node.ofKind "root").withChild
    (((Tree.Node.ofKind "blockquote").withAttr "class" name).withChild
      ((Tree.Node.ofKind "codeblock").withAttr "class" "output")))

def lessonSource : Source := ⟨⟨"l"⟩, 200⟩

end LessonAudit.Lesson
