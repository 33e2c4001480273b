import LessonAudit.Proofs.Path.Join
import LessonAudit.Proofs.Path.Text
import LessonAudit.Proofs.Role.Dispatch
set_option autoImplicit false

namespace LessonAudit.Role

open Text.Utf8 (encode lossy)

theorem exists_of_suffix {text : List Char} (extension : ".md".toList <:+ text) :
    ∃ role, ofText? text = some role := by
  rw [ofText?_eq]
  unfold recognised?
  rw [if_pos (List.isSuffixOf_iff_suffix.2 extension)]
  simp only [← apply_ite some]
  exact ⟨_, rfl⟩

theorem slashed_suffix {p : Path} (extension : encode ".md" <:+ p.bytes) :
    ".md".toList <:+ p.slashed := by
  obtain ⟨stem, text_eq⟩ := Path.suffix_lossy extension
  exact ⟨stem.map fun c => if c = '\\' then '/' else c, by simp [Path.slashed_eq, ← text_eq]⟩

def reserved : List (List Char) :=
  ["CONTRIBUTING.md", "README.md", "index.md", "reference.md"].map String.toList

theorem pieces_slashed {name : List UInt8} (whole : Path.slash ∉ name) :
    Text.pieces '/' (Path.mk name).slashed = Text.pieces '\\' (lossy name) := by
  rw [← Path.slash_mem_lossy_iff] at whole
  rw [Path.slashed_eq]
  generalize lossy name = chars at whole ⊢
  induction chars with
  | nil => rfl
  | cons c chars ih =>
      simp only [List.mem_cons, not_or] at whole
      by_cases backslash : c = '\\'
      · simp [Text.pieces, backslash, ih whole.2]
      · simp [Text.pieces, backslash, Ne.symm whole.1, ih whole.2]

theorem ofText?_eq_episode_iff {text : List Char} (extension : ".md".toList <:+ text) :
    ofText? text = some .episode ↔
      (Text.pieces '/' text).getLast?.getD [] ∉ reserved ∧ EpisodeAmong (Text.pieces '/' text) := by
  rw [ofText?_eq]
  unfold recognised?
  rw [if_pos (List.isSuffixOf_iff_suffix.2 extension)]
  simp only [← underEpisodes_iff, reserved, List.map_cons, List.map_nil, List.mem_cons,
    List.not_mem_nil, or_false, not_or]
  generalize (Text.pieces '/' text).getLast?.getD [] = last
  -- the four names are asked for one after the other, and an episode folder behind them
  split
  · next either =>
      simp only [Bool.or_eq_true, beq_iff_eq] at either
      rcases either with rfl | rfl <;> simp
  · next neither =>
      simp only [Bool.or_eq_true, beq_iff_eq, not_or] at neither
      split
      · next index => simp [beq_iff_eq.1 index]
      · next not_index =>
          split
          · next reference => simp [beq_iff_eq.1 reference]
          · next not_reference =>
              rw [beq_iff_eq] at not_index not_reference
              split <;> simp_all

variable {root : Path} {folder name : List UInt8}

theorem of?_join (plain : Path.Plain name) :
    of? root (root.join name) = ofText? (Path.mk name).slashed := by
  rw [of?, Path.below?_join root plain]
  rfl

theorem of?_join_join (folder_plain : Path.Plain folder) (plain : Path.Plain name) :
    of? root ((root.join folder).join name) =
      ofText? (Path.mk (folder ++ Path.slash :: name)).slashed := by
  rw [of?, Path.below?_join_join root folder_plain plain]
  rfl

theorem pieces_slashed_below (folder_plain : Path.Plain folder) (plain : Path.Plain name) :
    Text.pieces '/' (Path.mk (folder ++ Path.slash :: name)).slashed =
      Text.pieces '\\' (lossy folder) ++ Text.pieces '\\' (lossy name) := by
  rw [Path.slashed_append, Text.pieces_append, pieces_slashed folder_plain.whole,
    pieces_slashed plain.whole]

theorem suffix_below (extension : encode ".md" <:+ name) :
    encode ".md" <:+ folder ++ Path.slash :: name :=
  extension.trans ((List.suffix_cons _ _).trans (List.suffix_append _ _))

theorem exists_of_join (plain : Path.Plain name) (extension : encode ".md" <:+ name) :
    ∃ role, of? root (root.join name) = some role := by
  rw [of?_join plain]
  exact exists_of_suffix (slashed_suffix extension)

theorem exists_of_join_join (folder_plain : Path.Plain folder) (plain : Path.Plain name)
    (extension : encode ".md" <:+ name) :
    ∃ role, of? root ((root.join folder).join name) = some role := by
  rw [of?_join_join folder_plain plain]
  exact exists_of_suffix (slashed_suffix (suffix_below extension))

theorem of?_join_eq_episode_iff (plain : Path.Plain name) (extension : encode ".md" <:+ name) :
    of? root (root.join name) = some .episode ↔
      (Text.pieces '\\' (lossy name)).getLast?.getD [] ∉ reserved ∧
        EpisodeAmong (Text.pieces '\\' (lossy name)) := by
  rw [of?_join plain, ofText?_eq_episode_iff (slashed_suffix extension), pieces_slashed plain.whole]

theorem lossy_eq_episodeFolder_iff : lossy folder = episodeFolder.toList ↔
    folder = encode episodeFolder :=
  Text.Utf8.lossy_eq_iff (by decide)

theorem of?_join_join_eq_episode_iff (folder_plain : Path.Plain folder)
    (straight : '\\' ∉ lossy folder) (plain : Path.Plain name) (extension : encode ".md" <:+ name) :
    of? root ((root.join folder).join name) = some .episode ↔
      (Text.pieces '\\' (lossy name)).getLast?.getD [] ∉ reserved ∧
        ((folder = encode episodeFolder ∧ '\n' ∉ lossy name) ∨
          EpisodeAmong (Text.pieces '\\' (lossy name))) := by
  have some_piece : Text.pieces '\\' (lossy name) ≠ [] := Text.pieces_ne_nil _ _
  have last_eq : (lossy folder :: Text.pieces '\\' (lossy name)).getLast? =
      (Text.pieces '\\' (lossy name)).getLast? := by
    obtain ⟨piece, more, cut⟩ := List.exists_cons_of_ne_nil some_piece
    rw [cut, List.getLast?_cons_cons]
  rw [of?_join_join folder_plain plain, ofText?_eq_episode_iff
    (slashed_suffix (suffix_below extension)), pieces_slashed_below folder_plain plain,
    Text.pieces_of_not_mem straight, List.singleton_append, last_eq, episodeAmong_cons,
    lossy_eq_episodeFolder_iff, Text.not_mem_pieces_iff (by decide)]
  simp only [some_piece, ne_eq, not_false_eq_true, true_and]

end LessonAudit.Role
