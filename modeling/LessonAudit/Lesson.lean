import LessonAudit.Fileset
import LessonAudit.Inspection
import LessonAudit.Report
import LessonAudit.Workshop
set_option autoImplicit false

namespace LessonAudit.Lesson

def isPageName (name : List UInt8) : Bool :=
  decide (3 < name.length) && (Text.Utf8.encode ".md").isSuffixOf name

def pagesIn (disk : Disk) (folder : Path) : List Path :=
  ((disk.names folder).filter isPageName).filterMap fun name =>
    let path := folder.join name
    if disk.isFile path then some path else none

def folders (root : Path) : List Path :=
  sourceFolders.map fun name => if name = "" then root else root.join name

def discover (disk : Disk) (root : Path) (j : Journal) : List Path × Journal :=
  let (present, absent) := (folders root).partition disk.isFolder
  let pages := Path.ordered (present.flatMap (pagesIn disk))
  let j := absent.foldl (fun j folder => j.log (.folderAbsent folder)) j
  (pages, j.log (.discovered pages.length root))

variable [Libraries]

structure Progress where
  journal : Journal
  checked : Nat

/-- Checks one page. It is not counted if it cannot be read or rendered. -/
def checkPage (disk : Disk) (source : Source) (policy : Policy) (renderer : Renderer)
    (p : Progress) (path : Path) : Progress :=
  match disk.readText path source.limit with
  | .error fault => { p with journal := p.journal.add (some (.whole path)) fault.message }
  | .ok text =>
      match Document.parse path text renderer p.journal with
      | (none, j) => { p with journal := j }
      | (some d, j) =>
          match Role.of? source.root path with
          | none => { p with journal := j }
          | some role => ⟨d.check role policy (j.log (.checking path role)), p.checked + 1⟩

structure RootAbsent where
  root : Path

def RootAbsent.message (fault : RootAbsent) : String :=
  "Source directory does not exist: " ++ fault.root.text

def check (disk : Disk) (source : Source) (policy : Policy) (renderer : Renderer) :
    Except RootAbsent (Report × List Event) :=
  if disk.isFolder source.root then
    let (pages, j) := discover disk source.root .empty
    let j := Fileset.check source.root policy pages j
    let p := pages.foldl (checkPage disk source policy renderer) ⟨j, 0⟩
    .ok (⟨pages.length, p.checked, p.journal.findings⟩, p.journal.events)
  else .error ⟨source.root⟩

variable {σ : Type}

def checkPageIn (w : Workshop σ) (source : Source) (policy : Policy) (e : Progress × σ)
    (path : Path) : Progress × σ :=
  let disk := w.disk e.2
  match disk.readText path source.limit with
  | .error fault =>
      ({ e.1 with journal := e.1.journal.add (some (.whole path)) fault.message }, e.2)
  | .ok text =>
      let (result, next) := w.render e.2 (Header.split text).body
      (checkPage disk source policy (fun _ => result) e.1 path, next)

/-- The report on a lesson that its renderer may change, with the state at the end. The pages are
those that there are at the start. -/
def checkIn (w : Workshop σ) (source : Source) (policy : Policy) (s : σ) :
    Except RootAbsent (Report × List Event) × σ :=
  let disk := w.disk s
  if disk.isFolder source.root then
    let (pages, j) := discover disk source.root .empty
    let j := Fileset.check source.root policy pages j
    let (p, s) := pages.foldl (checkPageIn w source policy) (⟨j, 0⟩, s)
    (.ok (⟨pages.length, p.checked, p.journal.findings⟩, p.journal.events), s)
  else (.error ⟨source.root⟩, s)

theorem checkPageIn_still (disk : Disk) (source : Source) (policy : Policy) (renderer : Renderer)
    (e : Progress × Unit) (path : Path) :
    checkPageIn (.still disk renderer) source policy e path =
      (checkPage disk source policy renderer e.1 path, ()) := by
  unfold checkPageIn checkPage
  cases h : disk.readText path source.limit with
  | error fault => simp [Workshop.still, h]
  | ok text => simp [Workshop.still, h, Document.parse]

theorem checkIn_still (disk : Disk) (source : Source) (policy : Policy) (renderer : Renderer) :
    (checkIn (.still disk renderer) source policy ()).1 = check disk source policy renderer := by
  have pages_still (pages : List Path) (p : Progress) :
      pages.foldl (checkPageIn (.still disk renderer) source policy) (p, ()) =
        (pages.foldl (checkPage disk source policy renderer) p, ()) := by
    induction pages generalizing p with
    | nil => rfl
    | cons path more ih => simp [checkPageIn_still, ih]
  unfold checkIn check
  have disk_still : (Workshop.still disk renderer).disk () = disk := rfl
  by_cases h : disk.isFolder source.root <;> simp [disk_still, h, pages_still]

end LessonAudit.Lesson
