import LessonAudit.Proofs.Episode.Name
set_option autoImplicit false

namespace LessonAudit.Episode

structure Spelled (text before number slug : List Char) : Prop where
  whole : Text.Whole '/' before
  two : number.length = 2
  digits : ∀ c ∈ number, isAsciiDigit c = true
  some_slug : slug ≠ []
  slugged : ∀ c ∈ slug, isSlugChar c = true
  text_eq : text = before ++ (episodeFolder.toList ++ '/' ::
    (number ++ '-' :: (slug ++ ".md".toList)))

variable {text before number slug : List Char}

theorem Spelled.wellNamed (spelled : Spelled text before number slug) :
    WellNamed (number ++ '-' :: (slug ++ ".md".toList)) number :=
  ⟨spelled.two, spelled.digits, slug, spelled.some_slug, spelled.slugged, rfl⟩

theorem numbered_iff : Numbered text number ↔ ∃ before slug, Spelled text before number slug := by
  constructor
  · rintro ⟨before, name, whole, text_eq, two, digits, slug, some_slug, slugged, rfl⟩
    exact ⟨before, slug, whole, two, digits, some_slug, slugged, text_eq⟩
  · rintro ⟨before, slug, spelled⟩
    exact ⟨before, _, spelled.whole, spelled.text_eq, spelled.wellNamed⟩

theorem eq_of_folder_eq {other name last : List Char} (free : '/' ∉ name) (free' : '/' ∉ last)
    (same : before ++ (episodeFolder.toList ++ '/' :: name) =
      other ++ (episodeFolder.toList ++ '/' :: last)) : before = other ∧ name = last := by
  rw [← List.append_assoc, ← List.append_assoc] at same
  obtain ⟨above_eq, name_eq⟩ := Text.eq_of_last_piece free free' same
  exact ⟨List.append_cancel_right above_eq, name_eq⟩

theorem Spelled.unique {before' number' slug' : List Char} (first : Spelled text before number slug)
    (second : Spelled text before' number' slug') :
    before = before' ∧ number = number' ∧ slug = slug' := by
  obtain ⟨before_eq, name_eq⟩ := eq_of_folder_eq first.wellNamed.no_slash second.wellNamed.no_slash
    (first.text_eq.symm.trans second.text_eq)
  obtain ⟨number_eq, rest_eq⟩ := List.append_inj name_eq (first.two.trans second.two.symm)
  exact ⟨before_eq, number_eq, List.append_cancel_right (List.cons.inj rest_eq).2⟩

theorem numbered_below_iff {name : List Char} (whole : Text.Whole '/' before) (free : '/' ∉ name) :
    Numbered (before ++ (episodeFolder.toList ++ '/' :: name)) number ↔ WellNamed name number := by
  constructor
  · rintro ⟨other, last, -, same, named⟩
    rwa [(eq_of_folder_eq free named.no_slash same).2]
  · exact fun named => ⟨before, name, whole, rfl, named⟩

/-- The number of a page is the one in its path's only reading by the grammar, whatever stands above
the last episode folder. -/
theorem number_iff_spelled (path : Path) :
    (∀ number, number? path = some number ↔
      ∃ before slug, Spelled path.slashed before number.toList slug) ∧
    (∀ before number slug before' number' slug', Spelled path.slashed before number slug →
      Spelled path.slashed before' number' slug' →
        before = before' ∧ number = number' ∧ slug = slug') ∧
    (∀ before name, Text.Whole '/' before → '/' ∉ name →
      path.slashed = before ++ (episodeFolder.toList ++ '/' :: name) →
        ∀ number, number? path = some number ↔ WellNamed name number.toList) ∧
    isSlugChar '/' = false ∧ isSlugChar '.' = false ∧ isSlugChar '\n' = false := by
  refine ⟨fun number => number?_eq_some_iff.trans numbered_iff, ?_, ?_, by decide⟩
  · exact fun _ _ _ _ _ _ first second => first.unique second
  · intro before name whole free path_eq number
    rw [number?_eq_some_iff, path_eq, numbered_below_iff whole free]

theorem number_iff_spelled_two_folders :
    let path : Path := ⟨"l\\_episodes/09-old.md/_episodes\\01-part-2_b.md"⟩
    let before := "l/_episodes/09-old.md/".toList
    let name := "01-part-2_b.md".toList
    Text.Whole '/' before ∧ '/' ∉ name ∧
      path.slashed = before ++ (episodeFolder.toList ++ '/' :: name) ∧
      WellNamed name "01".toList ∧ number? path = some "01" ∧
      ∀ before' number' slug', Spelled path.slashed before' number' slug' →
        before' = before ∧ number' = "01".toList ∧ slug' = "part-2_b".toList := by
  intro path before name
  obtain ⟨-, unique, below, -⟩ := number_iff_spelled path
  have whole : Text.Whole '/' before := .inr (by decide)
  have free : '/' ∉ name := by decide
  have path_eq : path.slashed = before ++ (episodeFolder.toList ++ '/' :: name) := by decide
  have digits : ∀ c ∈ "01".toList, isAsciiDigit c = true := List.all_eq_true.1 (by decide)
  have slugged : ∀ c ∈ "part-2_b".toList, isSlugChar c = true := List.all_eq_true.1 (by decide)
  have named : WellNamed name "01".toList :=
    ⟨by decide, digits, "part-2_b".toList, by decide, slugged, by decide⟩
  have spelled : Spelled path.slashed before "01".toList "part-2_b".toList :=
    ⟨whole, by decide, digits, by decide, slugged, by decide⟩
  refine ⟨whole, free, path_eq, named, (below before name whole free path_eq "01").2 named, ?_⟩
  exact fun before' number' slug' other => unique _ _ _ _ _ _ other spelled

end LessonAudit.Episode
