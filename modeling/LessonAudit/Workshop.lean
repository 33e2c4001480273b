import LessonAudit.Disk
import LessonAudit.Rendering
set_option autoImplicit false

namespace LessonAudit

structure Workshop (σ : Type) where
  disk : σ → Disk
  render : σ → String → Except RenderError Tree.Node × σ

def Workshop.still (disk : Disk) (renderer : Renderer) : Workshop Unit where
  disk _ := disk
  render _ body := (renderer body, ())

end LessonAudit
