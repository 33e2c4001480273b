import LessonAudit.Role
import LessonAudit.Proofs.Text.Pieces
import LessonAudit.Proofs.Text.Regex
set_option autoImplicit false

namespace LessonAudit.Role

open Text (Regex)

def Named (text name : List Char) : Prop :=
  '/' ∉ name ∧ ∃ above, Text.Whole '/' above ∧ text = above ++ name

def BelowEpisodes (text : List Char) : Prop :=
  ∃ above middle, Text.Whole '/' above ∧ '\n' ∉ middle ∧
    text = above ++ (episodeFolder.toList ++ '/' :: (middle ++ ".md".toList))

/-- Whether a text lies below an episode folder, with no line break in what follows the folder. -/
def underEpisodes : List (List Char) → Bool
  | [] | [_] => false
  | piece :: more =>
      (piece == episodeFolder.toList && more.all fun p => !p.contains '\n') || underEpisodes more

-- The rules, read piece by piece.
def recognised? (text : List Char) : Option Role :=
  if ".md".toList.isSuffixOf text then
    let pieces := Text.pieces '/' text
    let name := pieces.getLast?.getD []
    if name == "CONTRIBUTING.md".toList || name == "README.md".toList then some nonTemplated
    else if name == "index.md".toList then some index
    else if name == "reference.md".toList then some reference
    else if underEpisodes pieces then some episode
    else some generic
  else none

def EpisodeAmong (pieces : List (List Char)) : Prop :=
  ∃ front back, pieces = front ++ episodeFolder.toList :: back ∧ back ≠ [] ∧
    ∀ piece ∈ back, '\n' ∉ piece

variable {piece : List Char} {pieces : List (List Char)} {text : List Char}

theorem episodeAmong_cons : EpisodeAmong (piece :: pieces) ↔
    (piece = episodeFolder.toList ∧ pieces ≠ [] ∧ ∀ p ∈ pieces, '\n' ∉ p) ∨
      EpisodeAmong pieces := by
  constructor
  · rintro ⟨front, back, cut, some_piece, unbroken⟩
    cases front with
    | nil =>
        obtain ⟨rfl, rfl⟩ := List.cons.inj cut
        exact .inl ⟨rfl, some_piece, unbroken⟩
    | cons first front => exact .inr ⟨front, back, (List.cons.inj cut).2, some_piece, unbroken⟩
  · rintro (⟨rfl, some_piece, unbroken⟩ | ⟨front, back, rfl, below⟩)
    · exact ⟨[], pieces, rfl, some_piece, unbroken⟩
    · exact ⟨piece :: front, back, rfl, below⟩

theorem not_episodeAmong_singleton : ¬ EpisodeAmong [piece] := by
  rintro ⟨front, back, cut, some_piece, -⟩
  cases front <;> simp_all

theorem underEpisodes_iff : underEpisodes pieces = true ↔ EpisodeAmong pieces := by
  induction pieces with
  | nil =>
      refine iff_of_false (by simp [underEpisodes]) ?_
      rintro ⟨front, back, cut, -⟩
      simp at cut
  | cons piece more ih =>
      cases more with
      | nil => exact iff_of_false (by simp [underEpisodes]) not_episodeAmong_singleton
      | cons next rest =>
          have some_piece : next :: rest ≠ [] := List.cons_ne_nil next rest
          rw [episodeAmong_cons, ← ih]
          simp only [underEpisodes, Bool.or_eq_true, Bool.and_eq_true, beq_iff_eq, some_piece,
            List.all_eq_true, Bool.not_eq_true', List.contains_eq_mem, decide_eq_false_iff_not, ne_eq,
            not_false_eq_true, true_and]

theorem named_iff {name : List Char} : Named text name ↔ (Text.pieces '/' text).getLast?.getD [] = name := by
  rw [Named, ← Text.getLast?_pieces_iff,
    List.getLast?_eq_some_getLast (Text.pieces_ne_nil '/' text), Option.some_inj]
  rfl

theorem belowEpisodes_iff (extension : ".md".toList <:+ text) :
    BelowEpisodes text ↔ underEpisodes (Text.pieces '/' text) = true := by
  rw [underEpisodes_iff]
  constructor
  · rintro ⟨above, middle, whole, unbroken, rfl⟩
    obtain ⟨folders, rfl, free⟩ := Text.exists_terminated whole
    have folder_free : '/' ∉ episodeFolder.toList := by decide
    refine ⟨folders, Text.pieces '/' (middle ++ ".md".toList), ?_, Text.pieces_ne_nil _ _, ?_⟩
    · rw [Text.pieces_terminated_append free, Text.pieces_append, Text.pieces_of_not_mem folder_free]
      rfl
    · refine Text.not_mem_of_mem_pieces_of_not_mem ?_
      simpa using unbroken
  · rintro ⟨front, back, cut, some_piece, unbroken⟩
    obtain ⟨piece, more, rfl⟩ := List.exists_cons_of_ne_nil some_piece
    have text_eq : text = Text.terminated '/' (front ++ [episodeFolder.toList]) ++
        Text.joined '/' (piece :: more) := by
      have joined_eq : Text.joined '/' ([] ++ piece :: more) = _ := Text.joined_eq [] more piece
      rw [List.nil_append] at joined_eq
      rw [joined_eq]
      simpa using Text.text_eq_of_pieces cut
    have whole := Text.terminated_ends '/' (front ++ [episodeFolder.toList])
    rw [text_eq, Text.suffix_append_iff (by decide) whole] at extension
    obtain ⟨middle, middle_eq⟩ := extension
    refine ⟨Text.terminated '/' front, middle, Text.terminated_ends '/' front, fun broken => ?_, ?_⟩
    · have inside : '\n' ∈ Text.joined '/' (piece :: more) := middle_eq ▸ List.mem_append_left _ broken
      exact Text.not_mem_joined (by decide) unbroken inside
    · rw [text_eq, ← middle_eq]
      simp

theorem isMatch_named_iff {name : String} : (Role.named name).isMatch text = true ↔
    ∃ above, Text.Whole '/' above ∧ text = above ++ name.toList := by
  simp only [Role.named, Regex.isMatch_iff, Regex.found_startOr_seq_iff,
    Regex.takes_ofChars_seq_iff, Regex.takes_finish_iff]
  constructor
  · rintro ⟨_, above, _, _, whole, rfl, _, rfl, rfl, rfl, rfl⟩
    exact ⟨above, whole, by simp only [List.append_nil]⟩
  · rintro ⟨above, whole, rfl⟩
    exact ⟨[], above, _, [], whole, by rw [List.append_nil], [], by rw [List.append_nil],
      rfl, rfl, rfl⟩

theorem isMatch_belowEpisodes_iff : belowEpisodes.isMatch text = true ↔ BelowEpisodes text := by
  simp only [belowEpisodes, Regex.isMatch_iff, Regex.found_startOr_seq_iff,
    Regex.takes_ofChars_seq_iff, Regex.takes_run_seq_iff, Regex.takes_finish_iff, BelowEpisodes,
    bne_iff_ne]
  constructor
  · rintro ⟨_, above, _, _, whole, rfl, _, rfl, _, rfl, middle, _, unbroken, rfl, _, rfl, rfl, rfl,
      rfl⟩
    exact ⟨above, middle, whole, fun broken => unbroken _ broken rfl, by simp⟩
  · rintro ⟨above, middle, whole, unbroken, rfl⟩
    refine ⟨[], above, _, [], whole, by simp only [List.append_nil]; rfl, _, rfl,
      middle ++ ".md".toList, rfl,
      middle, _, ?_, rfl, [], by rw [List.append_nil], rfl, rfl, rfl⟩
    exact fun c inside broken => unbroken (broken ▸ inside)

theorem isMatch_extension_iff : extension.isMatch text = true ↔ ".md".toList <:+ text := by
  simp only [extension, Regex.isMatch_iff, Regex.Found, Regex.takes_ofChars_seq_iff,
    Regex.takes_finish_iff]
  constructor
  · rintro ⟨_, before, _, _, rfl, _, rfl, rfl, rfl, rfl⟩
    exact ⟨before, by simp only [List.append_nil]⟩
  · rintro ⟨before, rfl⟩
    exact ⟨[], before, _, [], by rw [List.append_nil], [], by rw [List.append_nil], rfl, rfl, rfl⟩

theorem isMatch_named_eq {name : String} (whole : '/' ∉ name.toList) : (Role.named name).isMatch text =
    ((Text.pieces '/' text).getLast?.getD [] == name.toList) := by
  rw [Bool.eq_iff_iff, isMatch_named_iff, beq_iff_eq, ← named_iff, Named, and_iff_right whole]

theorem suffix_of_named {name : String} (extension : ".md".toList <:+ name.toList)
    (fits : (Role.named name).isMatch text = true) : ".md".toList <:+ text := by
  obtain ⟨above, -, rfl⟩ := isMatch_named_iff.1 fits
  exact extension.trans (List.suffix_append above _)

theorem suffix_of_isMatch {rule : Regex × Role} (member : rule ∈ rules)
    (fits : rule.1.isMatch text = true) : ".md".toList <:+ text := by
  simp only [rules, List.mem_cons, List.not_mem_nil, or_false] at member
  rcases member with rfl | rfl | rfl | rfl | rfl | rfl
  · exact suffix_of_named (by decide) fits
  · exact suffix_of_named (by decide) fits
  · exact suffix_of_named (by decide) fits
  · exact suffix_of_named (by decide) fits
  · obtain ⟨above, middle, -, -, rfl⟩ := isMatch_belowEpisodes_iff.1 fits
    exact ⟨above ++ (episodeFolder.toList ++ '/' :: middle), by simp⟩
  · exact isMatch_extension_iff.1 fits

/-- The rules together are read off the last piece of a text and the episode folders above it. -/
theorem ofText?_eq (text : List Char) : ofText? text = recognised? text := by
  by_cases extended : ".md".toList <:+ text
  · have below_eq : belowEpisodes.isMatch text = underEpisodes (Text.pieces '/' text) := by
      rw [Bool.eq_iff_iff, isMatch_belowEpisodes_iff, belowEpisodes_iff extended]
    simp (disch := decide) only [ofText?, rules, List.find?_cons, isMatch_named_eq, below_eq,
      isMatch_extension_iff.2 extended]
    rw [recognised?, if_pos (List.isSuffixOf_iff_suffix.2 extended)]
    grind
  · have none_fits : rules.find? (fun rule => rule.1.isMatch text) = none := by
      rw [List.find?_eq_none]
      exact fun rule member fits => extended (suffix_of_isMatch member fits)
    rw [ofText?, none_fits, recognised?, if_neg (mt List.isSuffixOf_iff_suffix.1 extended)]
    rfl

end LessonAudit.Role
