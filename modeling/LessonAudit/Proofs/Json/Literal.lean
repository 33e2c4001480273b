import LessonAudit.Proofs.Json.Magnitude
set_option autoImplicit false

namespace LessonAudit.Json

namespace Reader

variable {c : Char} {cs rest digits text fraction : List Char} {exponent : Option Int}
  {negative : Bool} {x : Number}

def StartsNoDigit (rest : List Char) : Prop :=
  ∀ c ∈ rest.head?, c.isDigit = false

structure Stops (rest : List Char) : Prop where
  no_digit : StartsNoDigit rest
  no_point : rest.head? ≠ some '.'
  no_mark : rest.head? ≠ some 'e' ∧ rest.head? ≠ some 'E'

theorem digitsOf_append (is_digits : IsDigits digits) (ends : StartsNoDigit rest) :
    digitsOf (digits ++ rest) = (digits, rest) := by
  have taken : rest.takeWhile Char.isDigit = [] ∧ rest.dropWhile Char.isDigit = rest := by
    cases rest with
    | nil => exact ⟨rfl, rfl⟩
    | cons c rest =>
        have no_digit := ends c rfl
        simp [no_digit]
  rw [digitsOf, List.takeWhile_append_of_pos is_digits.only_digits,
    List.dropWhile_append_of_pos is_digits.only_digits, taken.1, taken.2, List.append_nil]

theorem of_digitsOf (found : digitsOf cs = (digits, rest)) (some_digit : digits ≠ []) :
    cs = digits ++ rest ∧ IsDigits digits := by
  cases found
  exact ⟨List.takeWhile_append_dropWhile.symm, some_digit, List.all_eq_true.1 List.all_takeWhile⟩

theorem readFraction_of_spells (written : SpellsFraction fraction text) (ends : StartsNoDigit rest)
    (no_point : rest.head? ≠ some '.') : readFraction (text ++ rest) = .ok (fraction, rest) := by
  cases written with
  | absent =>
      unfold readFraction
      split
      · next starts => exact absurd (congrArg List.head? starts) no_point
      · rfl
  | present is_digits =>
      have found := digitsOf_append is_digits ends
      obtain ⟨d, ds, rfl⟩ := List.exists_cons_of_ne_nil is_digits.some_digit
      simp only [readFraction, List.cons_append] at found ⊢
      rw [found]

theorem spells_of_readFraction (reads : readFraction cs = .ok (fraction, rest)) :
    ∃ text, SpellsFraction fraction text ∧ cs = text ++ rest := by
  unfold readFraction at reads
  split at reads
  · next after =>
      rcases found : digitsOf after with ⟨_ | ⟨d, ds⟩, more⟩
      · simp [found] at reads
      · obtain ⟨after_eq, is_digits⟩ := of_digitsOf found (List.cons_ne_nil d ds)
        simp only [found, Except.ok.injEq, Prod.mk.injEq] at reads
        obtain ⟨rfl, rfl⟩ := reads
        exact ⟨_, .present is_digits, by rw [after_eq]; rfl⟩
  · cases reads
    exact ⟨[], .absent, rfl⟩

theorem no_sign_of_digits (is_digits : IsDigits digits) :
    ∃ d ds, digits = d :: ds ∧ d ≠ '+' ∧ d ≠ '-' := by
  obtain ⟨d, ds, rfl⟩ := List.exists_cons_of_ne_nil is_digits.some_digit
  have digit := is_digits.only_digits d List.mem_cons_self
  refine ⟨d, ds, rfl, ?_, ?_⟩ <;> rintro rfl <;> simp [Char.isDigit] at digit

theorem readExponent_of_digits (is_digits : IsDigits digits) (ends : StartsNoDigit rest) :
    readExponent (digits ++ rest) = .ok ((decimal digits : Int), rest) := by
  have found := digitsOf_append is_digits ends
  obtain ⟨d, ds, rfl, no_plus, no_minus⟩ := no_sign_of_digits is_digits
  unfold readExponent
  split
  next below after heq =>
    split at heq
    · next starts => exact absurd (List.cons.inj starts).1 no_plus
    · next starts => exact absurd (List.cons.inj starts).1 no_minus
    · cases heq
      rw [found]
      rfl

theorem readExponent_plus (is_digits : IsDigits digits) (ends : StartsNoDigit rest) :
    readExponent ('+' :: (digits ++ rest)) = .ok ((decimal digits : Int), rest) := by
  have found := digitsOf_append is_digits ends
  obtain ⟨d, ds, rfl⟩ := List.exists_cons_of_ne_nil is_digits.some_digit
  simp only [readExponent, List.cons_append] at found ⊢
  rw [found]
  rfl

theorem readExponent_minus (is_digits : IsDigits digits) (ends : StartsNoDigit rest) :
    readExponent ('-' :: (digits ++ rest)) = .ok (-(decimal digits : Int), rest) := by
  have found := digitsOf_append is_digits ends
  obtain ⟨d, ds, rfl⟩ := List.exists_cons_of_ne_nil is_digits.some_digit
  simp only [readExponent, List.cons_append] at found ⊢
  rw [found]
  rfl

theorem digits_of_readExponent {size : Int} (reads : readExponent cs = .ok (size, rest)) :
    ∃ digits, IsDigits digits ∧
      (cs = digits ++ rest ∧ size = decimal digits ∨
        cs = '+' :: (digits ++ rest) ∧ size = decimal digits ∨
        cs = '-' :: (digits ++ rest) ∧ size = -(decimal digits : Int)) := by
  unfold readExponent at reads
  split at reads
  next below after heq =>
    rcases found : digitsOf after with ⟨_ | ⟨d, ds⟩, more⟩
    · simp [found] at reads
    · obtain ⟨rfl, is_digits⟩ := of_digitsOf found (List.cons_ne_nil d ds)
      simp only [found, Except.ok.injEq, Prod.mk.injEq] at reads
      obtain ⟨rfl, rfl⟩ := reads
      refine ⟨_, is_digits, ?_⟩
      split at heq
      · obtain ⟨rfl, rfl⟩ := Prod.mk.inj heq
        exact .inr (.inl ⟨rfl, rfl⟩)
      · obtain ⟨rfl, rfl⟩ := Prod.mk.inj heq
        exact .inr (.inr ⟨rfl, rfl⟩)
      · obtain ⟨rfl, rfl⟩ := Prod.mk.inj heq
        exact .inl ⟨rfl, rfl⟩

theorem readScale_of_spells (written : SpellsExponent exponent text) (stops : Stops rest) :
    readScale (text ++ rest) = .ok (exponent, rest) := by
  cases written with
  | absent =>
      unfold readScale
      split
      · next starts => exact absurd (congrArg List.head? starts) stops.no_mark.1
      · next starts => exact absurd (congrArg List.head? starts) stops.no_mark.2
      · rfl
  | plain is_mark is_digits =>
      rcases is_mark with rfl | rfl <;>
        simp [readScale, readExponent_of_digits is_digits stops.no_digit, Except.map]
  | plus is_mark is_digits =>
      rcases is_mark with rfl | rfl <;>
        simp [readScale, readExponent_plus is_digits stops.no_digit, Except.map]
  | minus is_mark is_digits =>
      rcases is_mark with rfl | rfl <;>
        simp [readScale, readExponent_minus is_digits stops.no_digit, Except.map]

theorem exists_of_map {α β : Type} {f : α → β} {read : Except Fault α} {b : β}
    (reads : read.map f = .ok b) : ∃ a, read = .ok a ∧ f a = b := by
  cases read with
  | error fault => simp [Except.map] at reads
  | ok a => exact ⟨a, rfl, by simpa [Except.map] using reads⟩

theorem spells_of_mark {mark : Char} (is_mark : mark = 'e' ∨ mark = 'E')
    (reads : (readExponent cs).map (fun (n, after) => (some n, after)) = .ok (exponent, rest)) :
    ∃ text, SpellsExponent exponent text ∧ mark :: cs = text ++ rest := by
  obtain ⟨⟨size, after⟩, found, found_eq⟩ := exists_of_map reads
  cases found_eq
  obtain ⟨digits, is_digits, ⟨rfl, rfl⟩ | ⟨rfl, rfl⟩ | ⟨rfl, rfl⟩⟩ := digits_of_readExponent found
  · exact ⟨_, .plain is_mark is_digits, rfl⟩
  · exact ⟨_, .plus is_mark is_digits, rfl⟩
  · exact ⟨_, .minus is_mark is_digits, rfl⟩

theorem spells_of_readScale (reads : readScale cs = .ok (exponent, rest)) :
    ∃ text, SpellsExponent exponent text ∧ cs = text ++ rest := by
  unfold readScale at reads
  split at reads
  · exact spells_of_mark (.inl rfl) reads
  · exact spells_of_mark (.inr rfl) reads
  · cases reads
    exact ⟨[], .absent, rfl⟩

theorem SpellsFraction.startsNoDigit (written : SpellsFraction fraction text)
    (ends : StartsNoDigit rest) : StartsNoDigit (text ++ rest) := by
  cases written with
  | absent => exact ends
  | present is_digits => simp [StartsNoDigit, Char.isDigit]

theorem SpellsExponent.head (written : SpellsExponent exponent text) (stops : Stops rest) :
    StartsNoDigit (text ++ rest) ∧ (text ++ rest).head? ≠ some '.' := by
  cases written with
  | absent => exact ⟨stops.no_digit, stops.no_point⟩
  | plain is_mark _ => rcases is_mark with rfl | rfl <;> simp [StartsNoDigit, Char.isDigit]
  | plus is_mark _ => rcases is_mark with rfl | rfl <;> simp [StartsNoDigit, Char.isDigit]
  | minus is_mark _ => rcases is_mark with rfl | rfl <;> simp [StartsNoDigit, Char.isDigit]

theorem readNumber_of_spells (written : SpellsUnsigned negative x text) (stops : Stops rest) :
    readNumber negative (text ++ rest) = .ok (x, rest) := by
  cases written with
  | @intro whole fraction text text' exponent is_whole no_leading_zero written written' stands_for =>
      obtain ⟨ends', no_point⟩ := SpellsExponent.head written' stops
      have found := digitsOf_append is_whole (SpellsFraction.startsNoDigit written ends')
      obtain ⟨d, ds, rfl⟩ := List.exists_cons_of_ne_nil is_whole.some_digit
      have fraction_read := readFraction_of_spells written ends' no_point
      have exponent_read := readScale_of_spells written' stops
      rw [List.append_assoc, List.append_assoc]
      unfold readNumber
      rw [found]
      split
      · next none => simp at none
      · next long =>
          -- a zero with more digits behind it
          obtain ⟨⟨rfl, rfl⟩, -⟩ := by simpa using long
          simp at no_leading_zero
      · next whole_eq =>
          cases whole_eq
          have literal := Number.ofLiteral_eq_some_iff.2 stands_for
          simp [fraction_read, exponent_read, literal, bind, Except.bind]

theorem spells_of_readNumber (reads : readNumber negative cs = .ok (x, rest)) :
    ∃ text, SpellsUnsigned negative x text ∧ cs = text ++ rest := by
  unfold readNumber at reads
  split at reads
  · simp at reads
  · simp at reads
  · next whole after some_digit no_long_zero found =>
      rcases fraction_read : readFraction after with fault | ⟨fraction, after'⟩
      · simp [fraction_read, bind, Except.bind] at reads
      · rcases exponent_read : readScale after' with fault | ⟨exponent, after''⟩
        · simp [fraction_read, exponent_read, bind, Except.bind] at reads
        · simp only [fraction_read, exponent_read, bind, Except.bind] at reads
          split at reads
          · next literal =>
              cases reads
              obtain ⟨rfl, is_whole⟩ := of_digitsOf found fun none => some_digit none
              obtain ⟨text, written, rfl⟩ := spells_of_readFraction fraction_read
              obtain ⟨text', written', rfl⟩ := spells_of_readScale exponent_read
              have stands_for := Number.ofLiteral_eq_some_iff.1 literal
              refine ⟨_, .intro is_whole ?_ written written' stands_for, by simp⟩
              intro zero
              obtain ⟨tail, rfl⟩ := List.head?_eq_some_iff.1 zero
              cases tail with
              | nil => rfl
              | cons d ds => exact (no_long_zero d ds rfl).elim
          · simp at reads

end Reader
end LessonAudit.Json
