import LessonAudit.Role
import LessonAudit.Proofs.Text.Lossy
set_option autoImplicit false

namespace LessonAudit.Path

open Text.Utf8 (encode lossy)

theorem toList_text (p : Path) : p.text.toList = lossy p.bytes :=
  String.toList_ofList

theorem isText_iff {p : Path} : p.isText = true ↔ ∃ text, p.bytes = encode text := by
  simp only [isText, Option.isSome_iff_exists, Text.Utf8.decode?_eq_some_iff]

theorem encode_text {p : Path} (is_text : p.isText = true) : encode p.text = p.bytes :=
  Text.Utf8.encode_decodeLossy_iff.2 is_text

theorem slashed_eq (p : Path) : p.slashed = (lossy p.bytes).map fun c => if c = '\\' then '/' else c := by
  rw [slashed, toList_text]

theorem lossy_append_slash (front back : List UInt8) :
    lossy (front ++ slash :: back) = lossy front ++ '/' :: lossy back :=
  @Text.Utf8.lossy_append slash (by decide) front back

theorem slash_mem_lossy_iff {bytes : List UInt8} : '/' ∈ lossy bytes ↔ slash ∈ bytes :=
  @Text.Utf8.mem_lossy_iff slash bytes (by decide)

theorem slashed_append (front back : List UInt8) :
    (Path.mk (front ++ slash :: back)).slashed =
      (Path.mk front).slashed ++ '/' :: (Path.mk back).slashed := by
  simp [slashed_eq, lossy_append_slash]

theorem suffix_lossy {bytes : List UInt8} (extension : encode ".md" <:+ bytes) :
    ".md".toList <:+ lossy bytes :=
  Text.Utf8.lossy_suffix rfl (by decide) extension

end LessonAudit.Path
