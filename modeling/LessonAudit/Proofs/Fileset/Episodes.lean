import LessonAudit.Proofs.Fileset
import LessonAudit.Proofs.Path.Join
set_option autoImplicit false

namespace LessonAudit

open Journal (faultUnless)

namespace Episode

def Carries (page : Path) (n : Nat) : Prop :=
  ∃ a < 10, ∃ b < 10, n = 10 * a + b ∧
    Numbered page.slashed [Char.ofNat (48 + a), Char.ofNat (48 + b)]

-- Each page gives its number or stands among those without one, in the order of the pages.
inductive Parted : List Path → List String → List Path → Prop
  | nil : Parted [] [] []
  | numbered {page : Path} {text : String} {pages unnamed : List Path} {texts : List String}
      (named : Numbered page.slashed text.toList) (later : Parted pages texts unnamed) :
      Parted (page :: pages) (text :: texts) unnamed
  | unnamed {page : Path} {pages unnamed : List Path} {texts : List String}
      (nameless : ∀ number, ¬ Numbered page.slashed number) (later : Parted pages texts unnamed) :
      Parted (page :: pages) texts (page :: unnamed)

def twiceMessage (texts : List String) : String :=
  let sorted := texts.mergeSort fun a b => decide (a ≤ b)
  "Duplicate episode numbers " ++ shownTexts sorted ++ " vs " ++ shownTexts sorted.eraseReps

def gapMessage (texts : List String) : String :=
  "Missing or non-consecutive episode numbers " ++
    shownNumbers ((texts.filterMap natural?).mergeSort fun a b => decide (a ≤ b))

theorem parted (pages : List Path) :
    Parted pages (pages.filterMap number?) (pages.filter fun page => !(number? page).isSome) := by
  induction pages with
  | nil => exact .nil
  | cons page more ih =>
      cases found : number? page with
      | some text => simpa [found] using Parted.numbered (number?_eq_some_iff.1 found) ih
      | none =>
          have nameless (number : List Char) : ¬ Numbered page.slashed number := by
            intro named
            have read : number? page = some (String.ofList number) :=
              number?_eq_some_iff.2 (by simpa using named)
            simp [found] at read
          simpa [found] using Parted.unnamed nameless ih

theorem carries_iff {page : Path} {n : Nat} :
    Carries page n ↔ n < 100 ∧ number? page = some (numeral n) := by
  constructor
  · rintro ⟨a, a_small, b, b_small, rfl, named⟩
    refine ⟨by omega, number?_eq_some_iff.2 ?_⟩
    rw [numeral_of_digits a a_small b b_small]
    simpa using named
  · rintro ⟨small, found⟩
    have split : n = 10 * (n / 10) + n % 10 := by omega
    have high : n / 10 < 10 := by omega
    have low : n % 10 < 10 := by omega
    rw [split, numeral_of_digits _ high _ low] at found
    exact ⟨n / 10, high, n % 10, low, split, by simpa using number?_eq_some_iff.1 found⟩

theorem exists_carries_of_number? {page : Path} {text : String}
    (found : number? page = some text) : ∃ n, Carries page n ∧ text = numeral n := by
  obtain ⟨n, small, rfl⟩ := (Fileset.twoDigits_of_number? found).exists_numeral
  exact ⟨n, carries_iff.2 ⟨small, found⟩, rfl⟩

theorem natural?_of_carries {page : Path} {n : Nat} (carried : Carries page n) :
    natural? (numeral n) = some n :=
  natural?_numeral n (carries_iff.1 carried).1

theorem nodup_numbers_iff {pages : List Path} :
    (pages.filterMap number?).Nodup ↔
      ¬ ∃ p q n, [p, q].Sublist pages ∧ Carries p n ∧ Carries q n := by
  rw [List.Nodup, List.pairwise_filterMap, List.pairwise_iff_forall_sublist]
  constructor
  · rintro differ ⟨p, q, n, inside, first, second⟩
    exact differ inside _ (carries_iff.1 first).2 _ (carries_iff.1 second).2 rfl
  · intro once p q inside text first other second same
    subst same
    obtain ⟨n, carried, rfl⟩ := exists_carries_of_number? first
    exact once ⟨p, q, n, inside, carried, carries_iff.2 ⟨(carries_iff.1 carried).1, second⟩⟩

theorem natural?_mem_numbers_iff {pages : List Path} {n : Nat} :
    (∃ t ∈ pages.filterMap number?, natural? t = some n) ↔ ∃ page ∈ pages, Carries page n := by
  constructor
  · rintro ⟨text, member, value⟩
    obtain ⟨page, page_member, found⟩ := List.mem_filterMap.1 member
    obtain ⟨m, carried, rfl⟩ := exists_carries_of_number? found
    rw [natural?_of_carries carried] at value
    cases value
    exact ⟨page, page_member, carried⟩
  · rintro ⟨page, member, carried⟩
    exact ⟨numeral n, List.mem_filterMap.2 ⟨page, member, (carries_iff.1 carried).2⟩,
      natural?_of_carries carried⟩

theorem all_read {texts : List String} (two : ∀ t ∈ texts, TwoDigits t) :
    (texts.filter fun t => (natural? t).isNone) = [] := by
  rw [List.filter_eq_nil_iff]
  intro t member
  obtain ⟨n, small, rfl⟩ := (two t member).exists_numeral
  simp [natural?_numeral n small]

theorem numberFaults_of_two_digits {texts : List String} (two : ∀ t ∈ texts, TwoDigits t) :
    ∃ once gapless, (once = true ↔ texts.Nodup) ∧
      (gapless = true ↔
        ∃ count, ∀ n, (∃ t ∈ texts, natural? t = some n) ↔ 1 ≤ n ∧ n < 1 + count) ∧
      numberFaults texts =
        faultUnless once none (twiceMessage texts) ++ faultUnless gapless none (gapMessage texts) := by
  refine ⟨_, _, beq_iff_eq.trans Sorting.length_sorted_eq_iff, consecutive_numbers_iff, ?_⟩
  simp only [numberFaults, all_read two]
  rfl

theorem numberFaults_eq_of_perm {texts others : List String} (two : ∀ t ∈ texts, TwoDigits t)
    (perm : others.Perm texts) : numberFaults others = numberFaults texts := by
  have two' : ∀ t ∈ others, TwoDigits t := fun t member => two t (perm.mem_iff.1 member)
  simp only [numberFaults, all_read two, all_read two', Sorting.mergeSort_eq_of_perm perm,
    Sorting.mergeSort_eq_of_perm (perm.filterMap natural?)]

end Episode

namespace Fileset

open Episode (Carries Parted TwoDigits)

def below (root : Path) (pages : List Path) : List Path :=
  pages.filter fun page => decide ((root.join episodeFolder).parts <+: page.parts)

theorem episodes_eq_below (root : Path) (pages : List Path) :
    episodes root pages = below root pages := by
  have same (page : Path) : page.startsWith (root.join episodeFolder) =
      decide ((root.join episodeFolder).parts <+: page.parts) := by
    rw [Bool.eq_iff_iff, Path.startsWith_iff, decide_eq_true_iff]
  simp only [episodes, below, same]

structure Judged (found : List Path) (texts : List String) (names numbering : List Finding) :
    Prop where
  parted : ∃ unnamed, Parted found texts unnamed ∧
    names = unnamed.map fun page =>
      ⟨none, "Episode " ++ page.text ++ " has badly-formatted filename"⟩
  two_digits : ∀ t ∈ texts, TwoDigits t
  said : ∃ once gapless,
    (once = true ↔ ¬ ∃ p q n, [p, q].Sublist found ∧ Carries p n ∧ Carries q n) ∧
    (gapless = true ↔ ∃ count, ∀ n, (∃ page ∈ found, Carries page n) ↔ 1 ≤ n ∧ n ≤ count) ∧
    numbering = faultUnless once none (Episode.twiceMessage texts) ++
      faultUnless gapless none (Episode.gapMessage texts)
  silent_iff : numbering = [] ↔ ∃ count, texts.Perm (Episode.numerals count)

variable {root : Path} {policy : Policy} {pages : List Path}

theorem judged (root : Path) (pages : List Path) :
    Judged (below root pages) (numbers root pages) ((below root pages).flatMap nameFaults)
      (Episode.numberFaults (numbers root pages)) := by
  have two : ∀ t ∈ numbers root pages, TwoDigits t := fun t => twoDigits_of_mem_numbers
  obtain ⟨once, gapless, once_iff, gapless_iff, said⟩ := Episode.numberFaults_of_two_digits two
  rw [numbers, episodes_eq_below] at once_iff gapless_iff
  simp only [Episode.natural?_mem_numbers_iff, Nat.add_comm 1, Nat.lt_succ_iff] at gapless_iff
  refine ⟨⟨_, ?_, Journal.flatMap_faultUnless ..⟩, two,
    ⟨once, gapless, once_iff.trans Episode.nodup_numbers_iff, gapless_iff, said⟩,
    Episode.numberFaults_eq_nil_iff_perm two⟩
  rw [numbers, episodes_eq_below]
  exact Episode.parted _

theorem ne_of_leads {lead other rest tail : String} (apart : ¬ lead.toList <+: other.toList)
    (apart' : ¬ other.toList <+: lead.toList) : lead ++ rest ≠ other ++ tail := by
  intro same
  have begins : lead.toList <+: (other ++ tail).toList := ⟨rest.toList, by rw [← same]; simp⟩
  have begins' : other.toList <+: (other ++ tail).toList := ⟨tail.toList, by simp⟩
  exact (List.prefix_or_prefix_of_prefix begins begins').elim apart apart'

theorem never_undecimal {f : Finding} (shown : List String)
    (found : f ∈ policy.required.flatMap (requirementFaults root pages) ++
      ((below root pages).flatMap nameFaults ++ Episode.numberFaults (numbers root pages))) :
    f.message ≠ "Episode numbers are not decimal " ++ Episode.shownTexts shown := by
  simp only [List.mem_append] at found
  rcases found with required | name | number
  · obtain ⟨r, -, missing⟩ := List.mem_flatMap.1 required
    obtain rfl := Journal.eq_of_mem_faultUnless missing
    exact ne_of_leads (by decide) (by decide)
  · obtain ⟨page, -, unnamed⟩ := List.mem_flatMap.1 name
    obtain rfl := Journal.eq_of_mem_faultUnless unnamed
    intro same
    -- both begin alike, but the list of numbers ends in a bracket
    have ends := congrArg (fun s => s.toList.reverse.head?) same
    simp [Episode.shownTexts, Text.listed] at ends
  · obtain ⟨-, -, ⟨once, gapless, -, -, said⟩, -⟩ := judged root pages
    rw [said, List.mem_append] at number
    rcases number with twice | gap
    · rw [Journal.eq_of_mem_faultUnless twice]
      unfold Episode.twiceMessage
      rw [String.append_assoc, String.append_assoc]
      exact ne_of_leads (by decide) (by decide)
    · rw [Journal.eq_of_mem_faultUnless gap]
      unfold Episode.gapMessage
      exact ne_of_leads (by decide) (by decide)

theorem requirementFaults_eq_of_perm {others : List Path} (perm : others.Perm pages)
    (r : Requirement) : requirementFaults root others r = requirementFaults root pages r := by
  simp only [requirementFaults, perm.any_eq]

/-- Episodes are judged by their names and numbers alone, in whatever order the pages come. -/
theorem episodes_judged (root : Path) (policy : Policy) (pages : List Path) (j : Journal) :
    let required pages := (checkRequired root policy pages .empty).findings
    let names pages := (checkNames root pages .empty).findings
    let numbering pages := (Episode.checkNumbers (numbers root pages) .empty).findings
    (∀ pages, (check root policy pages j).findings =
      j.findings ++ (required pages ++ (names pages ++ numbering pages))) ∧
    Judged (below root pages) (numbers root pages) (names pages) (numbering pages) ∧
    (∀ f ∈ required pages ++ (names pages ++ numbering pages), ∀ shown,
      f.message ≠ "Episode numbers are not decimal " ++ Episode.shownTexts shown) ∧
    ∀ others, others.Perm pages →
      required others = required pages ∧ numbering others = numbering pages ∧
        (names others).Perm (names pages) := by
  have required_eq (pages : List Path) : (checkRequired root policy pages .empty).findings =
      policy.required.flatMap (requirementFaults root pages) := by
    simp [checkRequired_findings, Journal.empty]
  have names_eq (pages : List Path) : (checkNames root pages .empty).findings =
      (below root pages).flatMap nameFaults := by
    simp [checkNames_findings, Journal.empty, episodes_eq_below]
  have numbering_eq (pages : List Path) :
      (Episode.checkNumbers (numbers root pages) .empty).findings =
        Episode.numberFaults (numbers root pages) := by
    simp [Episode.checkNumbers_findings, Journal.empty]
  intro required names numbering
  simp only [required, names, numbering, required_eq, names_eq, numbering_eq]
  refine ⟨fun pages => ?_, judged root pages, fun f found shown => never_undecimal shown found, ?_⟩
  · rw [check_findings, faults, episodes_eq_below]
  · intro others perm
    have episodes_perm : (below root others).Perm (below root pages) := perm.filter _
    have numbers_perm : (numbers root others).Perm (numbers root pages) :=
      (perm.filter _).filterMap _
    refine ⟨by simp only [funext (requirementFaults_eq_of_perm perm)], ?_, episodes_perm.flatMap_right _⟩
    exact Episode.numberFaults_eq_of_perm (fun t => twoDigits_of_mem_numbers) numbers_perm

def muddled : List Path :=
  [⟨"l/_episodes/04-d.md"⟩, ⟨"l/_episodes/intro.md"⟩, ⟨"l/index.md"⟩, ⟨"l/_episodes/01-a.md"⟩,
    ⟨"l/_episodes/04-e.md"⟩]

theorem episodes_judged_muddled :
    muddled.reverse.Perm muddled ∧
      numbers ⟨"l"⟩ muddled.reverse = ["04", "01", "04"] ∧
      (checkNames ⟨"l"⟩ muddled .empty).findings =
        [⟨none, "Episode l/_episodes/intro.md has badly-formatted filename"⟩] ∧
      (Episode.checkNumbers (numbers ⟨"l"⟩ muddled.reverse) .empty).findings =
        (Episode.checkNumbers (numbers ⟨"l"⟩ muddled) .empty).findings := by
  have turned : muddled.reverse.Perm muddled := List.reverse_perm _
  obtain ⟨-, -, -, any_order⟩ := episodes_judged ⟨"l"⟩ .standard muddled .empty
  exact ⟨turned, by decide, by decide, (any_order _ turned).2.1⟩

end Fileset
end LessonAudit
