import LessonAudit.Main
import LessonAudit.Proofs.Header.Delimiters
import LessonAudit.Proofs.Document
import LessonAudit.Proofs.Header.Offset
import LessonAudit.Proofs.Journal
import LessonAudit.Proofs.Tree.Search
import LessonAudit.Proofs.Inspection
import LessonAudit.Proofs.Episode.Name
import LessonAudit.Proofs.Episode.Numbering
import LessonAudit.Proofs.Fileset
import LessonAudit.Proofs.Path.Join
import LessonAudit.Proofs.Role
import LessonAudit.Proofs.Lesson.Discovery
import LessonAudit.Proofs.Disk
import LessonAudit.Proofs.Lesson.Exclusion
import LessonAudit.Proofs.Lesson.Page
import LessonAudit.Proofs.Lesson.Accounting
import LessonAudit.Proofs.Lesson.Verdict
import LessonAudit.Proofs.Lesson.Enumeration
import LessonAudit.Proofs.Lesson.Relocation
import LessonAudit.Proofs.Path.Order
import LessonAudit.Proofs.Path.Relocation
import LessonAudit.Proofs.Decimal.Nearest
import LessonAudit.Proofs.Json.Grammar
import LessonAudit.Proofs.Json.Quoted
import LessonAudit.Proofs.Json.Literal
import LessonAudit.Proofs.Json.Reading
import LessonAudit.Proofs.Dict
import LessonAudit.Proofs.Tree.Shape
import LessonAudit.Proofs.Tree.Reordering
import LessonAudit.Proofs.Json.Printing
import LessonAudit.Proofs.Json.Values
import LessonAudit.Proofs.Tree.RoundTrip
import LessonAudit.Proofs.Lesson.Relaxation
import LessonAudit.Proofs.Json.Spread
import LessonAudit.Proofs.Text.Lines
import LessonAudit.Proofs.Report.Lines
import LessonAudit.Proofs.Report.Forms
import LessonAudit.Proofs.Lesson.EpisodeRole
import LessonAudit.Proofs.Journal.Operations
import LessonAudit.Proofs.Inspection.Blame
import LessonAudit.Proofs.Fileset.Episodes
import LessonAudit.Proofs.Text.Trim
import LessonAudit.Proofs.Exchange.Parties
import LessonAudit.Proofs.Exchange.Result
import LessonAudit.Proofs.Episode.Spelling
import LessonAudit.Proofs.Episode.Grammar
import LessonAudit.Proofs.Path.Relative
import LessonAudit.Proofs.Fileset.Required
import LessonAudit.Proofs.Role.Rule
import LessonAudit.Proofs.Header.Leftmost
import LessonAudit.Proofs.Document.Reading
import LessonAudit.Proofs.Tree.Demands
import LessonAudit.Proofs.Tree.Places
import LessonAudit.Proofs.Disk.Limit
import LessonAudit.Proofs.Tree.Calls
import LessonAudit.Proofs.Tree.Weaker
import LessonAudit.Proofs.Tree.Building
