import LessonAudit.Episode
import LessonAudit.Proofs.Text.Pieces
import LessonAudit.Proofs.Text.Regex
import Mathlib.Data.List.Basic
set_option autoImplicit false

namespace LessonAudit.Episode

open Text (Regex)

-- The expression, read piece by piece.
def nameNumber? (name : List Char) : Option (List Char) :=
  match name with
  | a :: b :: '-' :: rest =>
      let slug := rest.take (rest.length - 3)
      if isAsciiDigit a && isAsciiDigit b && rest.drop (rest.length - 3) == ".md".toList &&
          !slug.isEmpty && slug.all isSlugChar then
        some [a, b]
      else none
  | _ => none

def pathNumber? (text : List Char) : Option (List Char) :=
  match (Text.pieces '/' text).reverse with
  | name :: folder :: _ => if folder == episodeFolder.toList then nameNumber? name else none
  | _ => none

structure WellNamed (name number : List Char) : Prop where
  two : number.length = 2
  digits : ∀ c ∈ number, isAsciiDigit c = true
  slugged : ∃ slug, slug ≠ [] ∧ (∀ c ∈ slug, isSlugChar c = true) ∧
    name = number ++ '-' :: (slug ++ ".md".toList)

def Numbered (text number : List Char) : Prop :=
  ∃ before name, (before = [] ∨ before.getLast? = some '/') ∧
    text = before ++ (episodeFolder.toList ++ '/' :: name) ∧ WellNamed name number

theorem slash_no_slug : isSlugChar '/' = false := by decide

theorem slash_no_digit : isAsciiDigit '/' = false := by decide

theorem WellNamed.no_slash {name number : List Char} (h : WellNamed name number) : '/' ∉ name := by
  obtain ⟨slug, -, slug_chars, rfl⟩ := h.slugged
  intro member
  simp only [List.mem_append, List.mem_cons] at member
  rcases member with digit | hyphen | slug_char | extension
  · simpa [slash_no_digit] using h.digits _ digit
  · simp at hyphen
  · simpa [slash_no_slug] using slug_chars _ slug_char
  · simp at extension

theorem nameNumber?_eq_some_iff {name number : List Char} :
    nameNumber? name = some number ↔ WellNamed name number := by
  constructor
  · intro found
    unfold nameNumber? at found
    split at found
    · next a b rest =>
        simp only [Option.ite_none_right_eq_some, Bool.and_eq_true, Option.some.injEq] at found
        obtain ⟨⟨⟨⟨⟨a_digit, b_digit⟩, extension⟩, slug_some⟩, slug_chars⟩, rfl⟩ := found
        refine ⟨rfl, by simp [a_digit, b_digit], rest.take (rest.length - 3), ?_, ?_, ?_⟩
        · simpa using slug_some
        · simpa using slug_chars
        · have tail_eq : rest.drop (rest.length - 3) = ".md".toList := by simpa using extension
          rw [← tail_eq, List.take_append_drop]
          rfl
    · simp at found
  · rintro ⟨two, digits, slug, slug_some, slug_chars, rfl⟩
    obtain ⟨a, b, rfl⟩ := List.length_eq_two.1 two
    have slug_eq : (slug ++ ".md".toList).take ((slug ++ ".md".toList).length - 3) = slug := by simp
    have tail_eq : (slug ++ ".md".toList).drop ((slug ++ ".md".toList).length - 3) = ".md".toList := by
      simp
    have a_digit := digits a (by simp)
    have b_digit := digits b (by simp)
    simp only [nameNumber?, List.cons_append, List.nil_append, slug_eq, tail_eq]
    simp [a_digit, b_digit, slug_some]
    exact slug_chars

theorem pathNumber?_eq_some_iff {text number : List Char} :
    pathNumber? text = some number ↔ Numbered text number := by
  constructor
  · intro found
    unfold pathNumber? at found
    split at found
    · next name folder more cut =>
        simp only [Option.ite_none_right_eq_some, beq_iff_eq] at found
        obtain ⟨rfl, found⟩ := found
        have pieces_eq : Text.pieces '/' text = more.reverse ++ episodeFolder.toList :: [name] := by
          rw [← List.reverse_reverse (Text.pieces '/' text), cut]
          simp
        refine ⟨Text.terminated '/' more.reverse, name, Text.terminated_ends .., ?_,
          nameNumber?_eq_some_iff.1 found⟩
        simpa using Text.text_eq_of_pieces pieces_eq
    · simp at found
  · rintro ⟨before, name, whole, rfl, named⟩
    obtain ⟨folders, rfl, free⟩ := Text.exists_terminated whole
    have folder_free : '/' ∉ episodeFolder.toList := by decide
    have cut : Text.pieces '/' (Text.terminated '/' folders ++ (episodeFolder.toList ++ '/' :: name)) =
        folders ++ episodeFolder.toList :: [name] := by
      have parts_free : ∀ p ∈ folders ++ episodeFolder.toList :: [name], '/' ∉ p := by
        intro p member
        simp only [List.mem_append, List.mem_cons, List.not_mem_nil, or_false] at member
        rcases member with folder | rfl | rfl
        · exact free p folder
        · exact folder_free
        · exact named.no_slash
      simpa using Text.pieces_joint parts_free
    simp [pathNumber?, cut, nameNumber?_eq_some_iff.2 named]

theorem takes_number_iff {before taken after : List Char} {groups : List (List Char)} :
    (Regex.group (.seq (.char isAsciiDigit) (.char isAsciiDigit))).Takes before taken after groups ↔
      taken.length = 2 ∧ (∀ c ∈ taken, isAsciiDigit c = true) ∧ groups = [taken] := by
  simp only [Regex.Takes]
  constructor
  · rintro ⟨_, ⟨_, _, _, _, ⟨⟨a, a_digit, rfl⟩, rfl⟩, ⟨⟨b, b_digit, rfl⟩, rfl⟩, rfl, rfl⟩, rfl⟩
    exact ⟨rfl, by simp [a_digit, b_digit], rfl⟩
  · rintro ⟨two, digits, rfl⟩
    obtain ⟨a, b, rfl⟩ := List.length_eq_two.1 two
    exact ⟨[], ⟨[a], [b], [], [], ⟨⟨a, digits a (by simp), rfl⟩, rfl⟩,
      ⟨⟨b, digits b (by simp), rfl⟩, rfl⟩, rfl, rfl⟩, rfl⟩

theorem takes_number_seq_iff {r : Regex} {before taken after : List Char}
    {groups : List (List Char)} :
    (Regex.seq (.group (.seq (.char isAsciiDigit) (.char isAsciiDigit))) r).Takes before taken after
        groups ↔
      ∃ number rest more, number.length = 2 ∧ (∀ c ∈ number, isAsciiDigit c = true) ∧
        taken = number ++ rest ∧ groups = number :: more ∧
          r.Takes (before ++ number) rest after more := by
  rw [Regex.Takes]
  simp only [takes_number_iff]
  constructor
  · rintro ⟨number, rest, _, more, ⟨two, digits, rfl⟩, takes, rfl, rfl⟩
    exact ⟨number, rest, more, two, digits, rfl, rfl, takes⟩
  · rintro ⟨number, rest, more, two, digits, rfl, rfl, takes⟩
    exact ⟨number, rest, [number], more, ⟨two, digits, rfl⟩, takes, rfl, rfl⟩

theorem found_fileName_iff {text : List Char} {groups : List (List Char)} :
    fileName.Found text groups ↔ ∃ number, groups = [number] ∧ Numbered text number := by
  simp only [fileName, Regex.found_startOr_seq_iff, Regex.takes_ofChars_seq_iff,
    takes_number_seq_iff, Regex.takes_char_seq_iff, Regex.takes_run_seq_iff, Regex.takes_finish_iff]
  constructor
  · rintro ⟨above, _, _, whole, rfl, _, rfl, _, rfl, number, _, _, two, digits, rfl, rfl, _, rfl,
      c, _, slug_char, rfl, slug, _, slugged, rfl, _, rfl, rfl, rfl, rfl⟩
    refine ⟨number, rfl, above, number ++ '-' :: (c :: slug ++ ".md".toList), whole, by simp, two,
      digits, c :: slug, List.cons_ne_nil c slug, ?_, rfl⟩
    exact List.forall_mem_cons.2 ⟨slug_char, slugged⟩
  · rintro ⟨number, rfl, above, _, whole, rfl, two, digits, slug, some_slug, slugged, rfl⟩
    obtain ⟨c, slug, rfl⟩ := List.exists_cons_of_ne_nil some_slug
    obtain ⟨slug_char, slugged⟩ := List.forall_mem_cons.1 slugged
    exact ⟨above, episodeFolder.toList ++ '/' :: (number ++ '-' :: (c :: slug ++ ".md".toList)), [],
      whole, by rw [List.append_nil], '/' :: (number ++ '-' :: (c :: slug ++ ".md".toList)), rfl,
      number ++ '-' :: (c :: slug ++ ".md".toList), rfl, number,
      '-' :: (c :: slug ++ ".md".toList), [], two, digits, rfl, rfl, c :: slug ++ ".md".toList, rfl,
      c, slug ++ ".md".toList, slug_char, rfl, slug, ".md".toList, slugged, rfl, [],
      by rw [List.append_nil], rfl, rfl, rfl⟩

theorem textNumber?_eq (text : List Char) : textNumber? text = pathNumber? text := by
  have unique {groups others : List (List Char)} (found : fileName.Found text groups)
      (also : fileName.Found text others) : groups = others := by
    obtain ⟨number, rfl, numbered⟩ := found_fileName_iff.1 found
    obtain ⟨other, rfl, numbered'⟩ := found_fileName_iff.1 also
    rw [← pathNumber?_eq_some_iff] at numbered numbered'
    rw [Option.some.inj (numbered.symm.trans numbered')]
  ext number
  rw [textNumber?, Option.bind_eq_some_iff, pathNumber?_eq_some_iff]
  constructor
  · rintro ⟨groups, found, first⟩
    obtain ⟨number, rfl, numbered⟩ :=
      found_fileName_iff.1 ((Regex.captures?_eq_some_iff unique).1 found)
    cases first
    exact numbered
  · intro numbered
    exact ⟨[number], (Regex.captures?_eq_some_iff unique).2
      (found_fileName_iff.2 ⟨number, rfl, numbered⟩), rfl⟩

theorem textNumber?_eq_some_iff {text number : List Char} :
    textNumber? text = some number ↔ Numbered text number := by
  rw [textNumber?_eq, pathNumber?_eq_some_iff]

theorem number?_eq_some_iff {path : Path} {number : String} :
    number? path = some number ↔ Numbered path.slashed number.toList := by
  rw [← textNumber?_eq_some_iff, number?, Option.map_eq_some_iff]
  constructor
  · rintro ⟨digits, found, rfl⟩
    simpa using found
  · intro found
    exact ⟨number.toList, found, by simp⟩

end LessonAudit.Episode
