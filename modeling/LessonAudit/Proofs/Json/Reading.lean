import LessonAudit.Proofs.Json.Literal
import LessonAudit.Proofs.Json.Quoted
import Mathlib.Tactic.SplitIfs
set_option autoImplicit false

namespace LessonAudit.Json

namespace Reader

variable {σ : Type} {schema : Schema σ} {place : σ} {fuel levels : Nat}
  {cs rest before after text : List Char} {w : Written} {c : Char}

theorem isSpace_iff : isSpace c = true ↔ c = ' ' ∨ c = '\t' ∨ c = '\n' ∨ c = '\r' := by
  simp [isSpace, or_assoc]

theorem skipSpace_append (gap : IsGap before) : skipSpace (before ++ cs) = skipSpace cs :=
  List.dropWhile_append_of_pos fun c member => isSpace_iff.2 (gap c member)

theorem skipSpace_mark (no_blank : isSpace c = false) : skipSpace (c :: cs) = c :: cs := by
  simp [skipSpace, no_blank]

theorem skipSpace_gap (gap : IsGap before) (no_blank : isSpace c = false) :
    skipSpace (before ++ c :: cs) = c :: cs := by
  rw [skipSpace_append gap, skipSpace_mark no_blank]

theorem exists_gap (cs : List Char) : ∃ before, IsGap before ∧ cs = before ++ skipSpace cs :=
  ⟨cs.takeWhile isSpace, fun c member => isSpace_iff.1 (List.all_eq_true.1 List.all_takeWhile c member),
    List.takeWhile_append_dropWhile.symm⟩

theorem gap_of_skipSpace_nil (nothing : skipSpace cs = []) : IsGap cs := by
  obtain ⟨before, gap, cs_eq⟩ := exists_gap cs
  rw [nothing, List.append_nil] at cs_eq
  rwa [cs_eq]

theorem skipSpace_of_gap (gap : IsGap before) : skipSpace before = [] := by
  have skipped : skipSpace (before ++ []) = skipSpace [] := skipSpace_append gap
  rwa [List.append_nil] at skipped

theorem stops_of_mark (mark : c = ',' ∨ c = ']' ∨ c = '}') (rest : List Char) :
    Stops (c :: rest) := by
  rcases mark with rfl | rfl | rfl <;> constructor <;> simp [StartsNoDigit, Char.isDigit]

theorem stops_of_blank (blank : isSpace c = true) : Stops (c :: rest) := by
  rcases isSpace_iff.1 blank with rfl | rfl | rfl | rfl <;> constructor <;>
    simp [StartsNoDigit, Char.isDigit]

theorem Stops.after_gap (gap : IsGap before) (stops : Stops rest) : Stops (before ++ rest) := by
  cases before with
  | nil => exact stops
  | cons c before => exact stops_of_blank (isSpace_iff.2 (gap c List.mem_cons_self))

theorem stops_nil : Stops [] := by
  constructor <;> simp [StartsNoDigit]

theorem eq_append_of_expect {word : List Char} (reads : expect word cs = .ok rest) :
    cs = word ++ rest := by
  induction word generalizing cs with
  | nil => simpa [expect] using reads
  | cons d word ih =>
      cases cs with
      | nil => simp [expect] at reads
      | cons c cs =>
          by_cases same : d = c
          · simp only [expect, same, if_true] at reads
            rw [ih reads, same, List.cons_append]
          · simp [expect, same] at reads

structure Starts (c : Char) : Prop where
  no_blank : isSpace c = false
  no_bracket : c ≠ ']'
  no_brace : c ≠ '}'

theorem starts_of_digit (digit : c.isDigit = true) : Starts c := by
  constructor
  · rw [← Bool.not_eq_true, isSpace_iff]
    rintro (rfl | rfl | rfl | rfl) <;> simp [Char.isDigit] at digit
  · rintro rfl
    simp [Char.isDigit] at digit
  · rintro rfl
    simp [Char.isDigit] at digit

theorem head_of_unsigned {negative : Bool} {x : Number}
    (written : SpellsUnsigned negative x text) : ∃ c tail, text = c :: tail ∧ c.isDigit = true := by
  cases written with
  | intro is_whole =>
      obtain ⟨d, ds, rfl⟩ := List.exists_cons_of_ne_nil is_whole.some_digit
      exact ⟨d, _, rfl, is_whole.only_digits d List.mem_cons_self⟩

theorem head_of_spells (written : Spells w text) : ∃ c tail, text = c :: tail ∧ Starts c := by
  cases written with
  | number written =>
      cases written with
      | unsigned written =>
          obtain ⟨c, tail, text_eq, digit⟩ := head_of_unsigned written
          exact ⟨c, tail, text_eq, starts_of_digit digit⟩
      | signed written => exact ⟨_, _, rfl, by constructor <;> simp [isSpace]⟩
  | _ => exact ⟨_, _, rfl, by constructor <;> simp [isSpace]⟩

theorem not_digit_of_mem (known : c ∈ ['n', 't', 'f', '"', '-', '[', '{']) : c.isDigit = false := by
  simp only [List.mem_cons, List.not_mem_nil, or_false] at known
  rcases known with rfl | rfl | rfl | rfl | rfl | rfl | rfl <;> rfl

theorem readScalar_of_spells {tail : List Char} (written : Spells w (c :: tail)) (simple : w.Simple)
    (stops : Stops rest) : c ≠ '[' ∧ c ≠ '{' ∧ readScalar c (tail ++ rest) = .ok (w, rest) := by
  generalize text_eq : c :: tail = text at written
  cases written with
  | null | yes | no =>
      cases text_eq
      simp [readScalar, expect, Except.map]
  | @text s inner written =>
      cases text_eq
      have reads : readText .plain [] (inner ++ '"' :: rest) = .ok (s, rest) :=
        readText_iff.2 ⟨inner, written, rfl⟩
      simp [readScalar, reads, Except.map]
  | number written =>
      cases written with
      | signed written =>
          cases text_eq
          have reads := readNumber_of_spells written stops
          simp [readScalar, reads, Except.map]
      | unsigned written =>
          have reads := readNumber_of_spells written stops
          obtain ⟨d, tail', text_eq', digit⟩ := head_of_unsigned written
          obtain ⟨rfl, rfl⟩ := List.cons.inj (text_eq.trans text_eq')
          rw [← text_eq, List.cons_append] at reads
          have other (mark : Char) (known : mark ∈ ['n', 't', 'f', '"', '-', '[', '{']) :
              c ≠ mark := by
            rintro rfl
            simp [not_digit_of_mem known] at digit
          refine ⟨other _ (by simp), other _ (by simp), ?_⟩
          simp [readScalar, reads, digit, other 'n', other 't', other 'f', other '"', other '-',
            Except.map]
  | list => exact absurd rfl simple.1
  | record => exact absurd rfl simple.2

theorem spells_of_readScalar (reads : readScalar c cs = .ok (w, rest)) :
    ∃ text, Spells w text ∧ c :: cs = text ++ rest ∧ w.Simple := by
  unfold readScalar at reads
  split_ifs at reads with is_n is_t is_f is_quote is_sign is_digit
  · obtain ⟨after, found, same⟩ := exists_of_map reads
    cases same
    exact ⟨_, .null, by rw [is_n, eq_append_of_expect found]; rfl, by simp [Written.Simple, Written.kind]⟩
  · obtain ⟨after, found, same⟩ := exists_of_map reads
    cases same
    exact ⟨_, .yes, by rw [is_t, eq_append_of_expect found]; rfl, by simp [Written.Simple, Written.kind]⟩
  · obtain ⟨after, found, same⟩ := exists_of_map reads
    cases same
    exact ⟨_, .no, by rw [is_f, eq_append_of_expect found]; rfl, by simp [Written.Simple, Written.kind]⟩
  · obtain ⟨⟨s, after⟩, found, same⟩ := exists_of_map reads
    cases same
    obtain ⟨text, written, rfl⟩ := readText_iff.1 found
    exact ⟨_, .text written, by simp [is_quote], by simp [Written.Simple, Written.kind]⟩
  · obtain ⟨⟨x, after⟩, found, same⟩ := exists_of_map reads
    cases same
    obtain ⟨text, written, rfl⟩ := spells_of_readNumber found
    exact ⟨_, .number (.signed written), by simp [is_sign], by simp [Written.Simple, Written.kind]⟩
  · obtain ⟨⟨x, after⟩, found, same⟩ := exists_of_map reads
    cases same
    obtain ⟨text, written, cs_eq⟩ := spells_of_readNumber found
    exact ⟨_, .number (.unsigned written), cs_eq, by simp [Written.Simple, Written.kind]⟩

theorem of_admitted {read : Except Fault (Written × List Char)}
    (reads : admitted schema place read = .ok (w, rest)) :
    read = .ok (w, rest) ∧ schema.admits place w.kind = true := by
  rcases read with fault | ⟨v, after⟩
  · simp [admitted, bind, Except.bind] at reads
  · simp only [admitted, bind, Except.bind] at reads
    split at reads
    · next admits =>
        cases reads
        exact ⟨rfl, admits⟩
    · simp at reads

theorem of_closed {members : List (String × Written)} {after : List Char}
    (reads : closed schema place members after = .ok (w, rest)) :
    w = .record members ∧ rest = after ∧
      ∀ name ∈ schema.needs place, ∃ member ∈ members, member.1 = name := by
  unfold closed at reads
  split at reads
  · next needed =>
      cases reads
      exact ⟨rfl, rfl, by simpa using needed⟩
  · simp at reads

theorem readValue_cases (reads : readValue schema place (fuel + 1) levels cs = .ok (w, rest)) :
    ∃ before c tail, IsGap before ∧ cs = before ++ c :: tail ∧
      ((∃ text, Spells w text ∧ c :: tail = text ++ rest ∧ w.Simple ∧
          schema.admits place w.kind = true) ∨
        ∃ fewer, levels = fewer + 1 ∧
          (c = '[' ∧ schema.admits place .list = true ∧
              ((∃ gap, IsGap gap ∧ tail = gap ++ ']' :: rest ∧ w = .list []) ∨
                readItems schema (schema.item place) fuel fewer [] tail = .ok (w, rest)) ∨
            c = '{' ∧ schema.admits place .record = true ∧
              ((∃ gap, IsGap gap ∧ ∃ after, tail = gap ++ '}' :: after ∧
                  closed schema place [] after = .ok (w, rest)) ∨
                readMembers schema place fuel fewer [] tail = .ok (w, rest)))) := by
  obtain ⟨before, gap, cs_eq⟩ := exists_gap cs
  unfold readValue at reads
  split at reads
  · simp at reads
  · next c tail skipped =>
      refine ⟨before, c, tail, gap, skipped ▸ cs_eq, ?_⟩
      obtain ⟨inner, inner_gap, tail_eq⟩ := exists_gap tail
      split at reads
      · next is_bracket =>
          right
          split at reads
          · simp at reads
          · next admitted =>
              cases levels with
              | zero => simp at reads
              | succ fewer =>
                  refine ⟨fewer, rfl, .inl ⟨is_bracket, by simpa using admitted, ?_⟩⟩
                  simp only at reads
                  split at reads
                  · next closing =>
                      cases reads
                      exact .inl ⟨inner, inner_gap, closing ▸ tail_eq, rfl⟩
                  · exact .inr reads
      · split at reads
        · next is_brace =>
            right
            split at reads
            · simp at reads
            · next admitted =>
                cases levels with
                | zero => simp at reads
                | succ fewer =>
                    refine ⟨fewer, rfl, .inr ⟨is_brace, by simpa using admitted, ?_⟩⟩
                    simp only at reads
                    split at reads
                    · next closing => exact .inl ⟨inner, inner_gap, _, closing ▸ tail_eq, reads⟩
                    · exact .inr reads
        · obtain ⟨found, admitted⟩ := of_admitted reads
          obtain ⟨text, written, text_eq, simple⟩ := spells_of_readScalar found
          exact .inl ⟨text, written, text_eq, simple, admitted⟩

theorem readItems_cases {done : List Written}
    (reads : readItems schema place (fuel + 1) levels done cs = .ok (w, rest)) :
    ∃ item gap mark tail, IsGap gap ∧
      readValue schema place fuel levels cs = .ok (item, gap ++ mark :: tail) ∧
      (mark = ']' ∧ tail = rest ∧ w = .list (done.reverse ++ [item]) ∨
        mark = ',' ∧ readItems schema place fuel levels (item :: done) tail = .ok (w, rest)) := by
  unfold readItems at reads
  split at reads
  · simp at reads
  · next item after found =>
      obtain ⟨gap, is_gap, after_eq⟩ := exists_gap after
      split at reads
      · next closing =>
          cases reads
          exact ⟨item, gap, _, _, is_gap, closing ▸ after_eq ▸ found, .inl ⟨rfl, rfl, by simp⟩⟩
      · next comma =>
          exact ⟨item, gap, _, _, is_gap, comma ▸ after_eq ▸ found, .inr ⟨rfl, reads⟩⟩
      · simp at reads

theorem readMembers_cases {done : List (String × Written)}
    (reads : readMembers schema place (fuel + 1) levels done cs = .ok (w, rest)) :
    ∃ before name quoted between inner value gap mark tail,
      IsGap before ∧ SpellsChars name.toList quoted ∧ IsGap between ∧ IsGap gap ∧
      cs = before ++ '"' :: (quoted ++ '"' :: (between ++ ':' :: inner)) ∧
      (schema.once place name = true → ∀ member ∈ done, member.1 ≠ name) ∧
      readValue schema (schema.member place name) fuel levels inner =
        .ok (value, gap ++ mark :: tail) ∧
      (mark = '}' ∧ closed schema place (done.reverse ++ [(name, value)]) tail = .ok (w, rest) ∨
        mark = ',' ∧
          readMembers schema place fuel levels ((name, value) :: done) tail = .ok (w, rest)) := by
  obtain ⟨before, gap_before, cs_eq⟩ := exists_gap cs
  unfold readMembers at reads
  split at reads
  · next start opening =>
      split at reads
      · simp at reads
      · next name after found =>
          obtain ⟨quoted, named, rfl⟩ := readText_iff.1 found
          obtain ⟨between, gap_between, after_eq⟩ := exists_gap after
          split at reads
          · simp at reads
          · next again =>
              have fresh (once : schema.once place name = true) :
                  ∀ member ∈ done, member.1 ≠ name := by
                intro member known same
                rw [once, Bool.true_and, List.any_eq_true] at again
                exact again ⟨member, known, beq_iff_eq.2 same⟩
              split at reads
              · next inner colon =>
                  split at reads
                  · simp at reads
                  · next value behind value_read =>
                      obtain ⟨gap, is_gap, behind_eq⟩ := exists_gap behind
                      have cs_eq' : cs =
                          before ++ '"' :: (quoted ++ '"' :: (between ++ ':' :: inner)) := by
                        rw [cs_eq, opening, after_eq, colon]
                      split at reads
                      · next closing =>
                          exact ⟨before, name, quoted, between, inner, value, gap, _, _, gap_before,
                            named, gap_between, is_gap, cs_eq', fresh,
                            closing ▸ behind_eq ▸ value_read, .inl ⟨rfl, by simpa using reads⟩⟩
                      · next comma =>
                          exact ⟨before, name, quoted, between, inner, value, gap, _, _, gap_before,
                            named, gap_between, is_gap, cs_eq', fresh,
                            comma ▸ behind_eq ▸ value_read, .inr ⟨rfl, reads⟩⟩
                      · simp at reads
              · simp at reads
  · simp at reads

theorem once_append {done : List (String × Written)} {name : String} (value : Written)
    (once : schema.Once place done)
    (fresh : schema.once place name = true → ∀ member ∈ done, member.1 ≠ name) :
    schema.Once place (done ++ [(name, value)]) := by
  refine List.pairwise_append.2 ⟨once, List.pairwise_singleton .., fun earlier member last last_member => ?_⟩
  obtain rfl := List.mem_singleton.1 last_member
  intro only_once same
  have same_name : earlier.1 = name := same.symm
  exact fresh (same_name ▸ only_once) earlier member same_name

-- By induction on the fuel, of which every call takes one. The items and members done before are
-- part of what is read, so that names that come again are seen.
mutual

theorem readValue_sound : ∀ {fuel levels : Nat} {place : σ} {cs rest : List Char} {w : Written},
    readValue schema place fuel levels cs = .ok (w, rest) →
      (∃ before text, IsGap before ∧ Spells w text ∧ cs = before ++ (text ++ rest)) ∧
        w.depth ≤ levels ∧ Conforms schema place w
  | 0, _, _, _, _, _, reads => by simp [readValue] at reads
  | fuel + 1, levels, place, cs, rest, w, reads => by
      obtain ⟨before, c, tail, gap, rfl, scalar | ⟨fewer, rfl, list | record⟩⟩ :=
        readValue_cases reads
      · obtain ⟨text, written, text_eq, simple, admitted⟩ := scalar
        exact ⟨⟨before, text, gap, written, by rw [text_eq]⟩, by simp [simple.depth_eq],
          .scalar simple admitted⟩
      · obtain ⟨rfl, admitted, ⟨inner, inner_gap, rfl, rfl⟩ | inner_reads⟩ := list
        · exact ⟨⟨before, _, gap, .list (.none inner_gap), by simp⟩,
            Written.depth_list_le.2 (by simp), .list admitted (by simp)⟩
        · obtain ⟨items, text, written, -, rfl, rfl, inside⟩ := readItems_sound inner_reads
          exact ⟨⟨before, _, gap, .list written, by simp⟩,
            Written.depth_list_le.2 fun item known => (inside item known).1,
            .list admitted fun item known => (inside item known).2⟩
      · obtain ⟨rfl, admitted, ⟨inner, inner_gap, after, rfl, closes⟩ | inner_reads⟩ := record
        · obtain ⟨rfl, rfl, needed⟩ := of_closed closes
          exact ⟨⟨before, _, gap, .record (.none inner_gap), by simp⟩,
            Written.depth_record_le.2 (by simp), .record admitted (by simp) .nil needed⟩
        · have none_done : schema.Once place [].reverse := .nil
          obtain ⟨members, text, written, -, rfl, rfl, inside, once, needed⟩ :=
            readMembers_sound none_done inner_reads
          exact ⟨⟨before, _, gap, .record written, by simp⟩,
            Written.depth_record_le.2 fun member known => (inside member known).1,
            .record admitted (fun member known => (inside member known).2) once needed⟩

theorem readItems_sound : ∀ {fuel levels : Nat} {place : σ} {done : List Written}
    {cs rest : List Char} {w : Written}, readItems schema place fuel levels done cs = .ok (w, rest) →
      ∃ items text, SpellsItems items text ∧ items ≠ [] ∧ cs = text ++ ']' :: rest ∧
        w = .list (done.reverse ++ items) ∧
        ∀ item ∈ items, item.depth ≤ levels ∧ Conforms schema place item
  | 0, _, _, _, _, _, _, reads => by simp [readItems] at reads
  | fuel + 1, levels, place, done, cs, rest, w, reads => by
      obtain ⟨item, gap, mark, tail, is_gap, found, end_or_more⟩ := readItems_cases reads
      obtain ⟨⟨before, text, gap_before, written, rfl⟩, depth, conforms⟩ := readValue_sound found
      rcases end_or_more with ⟨rfl, rfl, rfl⟩ | ⟨rfl, later_reads⟩
      · exact ⟨[item], _, .last gap_before written is_gap, by simp, by simp, rfl,
          by simpa using ⟨depth, conforms⟩⟩
      · obtain ⟨items, rest_text, later, some_item, rfl, rfl, inside⟩ :=
          readItems_sound later_reads
        exact ⟨item :: items, _, .more gap_before written is_gap some_item later, by simp, by simp,
          by simp, List.forall_mem_cons.2 ⟨⟨depth, conforms⟩, inside⟩⟩

theorem readMembers_sound : ∀ {fuel levels : Nat} {place : σ} {done : List (String × Written)}
    {cs rest : List Char} {w : Written}, schema.Once place done.reverse →
    readMembers schema place fuel levels done cs = .ok (w, rest) →
      ∃ members text, SpellsMembers members text ∧ members ≠ [] ∧ cs = text ++ '}' :: rest ∧
        w = .record (done.reverse ++ members) ∧
        (∀ member ∈ members, member.2.depth ≤ levels ∧
          Conforms schema (schema.member place member.1) member.2) ∧
        schema.Once place (done.reverse ++ members) ∧
        ∀ name ∈ schema.needs place, ∃ member ∈ done.reverse ++ members, member.1 = name
  | 0, _, _, _, _, _, _, _, reads => by simp [readMembers] at reads
  | fuel + 1, levels, place, done, cs, rest, w, once, reads => by
      obtain ⟨before, name, quoted, between, inner, value, gap, mark, tail, gap_before, named,
        gap_between, is_gap, rfl, fresh, found, end_or_more⟩ := readMembers_cases reads
      obtain ⟨⟨ahead, text, gap_ahead, written, rfl⟩, depth, conforms⟩ := readValue_sound found
      have once' := once_append value once fun only_once member known =>
        fresh only_once member (List.mem_reverse.1 known)
      rcases end_or_more with ⟨rfl, closes⟩ | ⟨rfl, later_reads⟩
      · obtain ⟨rfl, rfl, needed⟩ := of_closed closes
        exact ⟨[(name, value)], _, .last gap_before named gap_between gap_ahead written is_gap,
          by simp, by simp, rfl, by simpa using ⟨depth, conforms⟩, once', needed⟩
      · obtain ⟨members, rest_text, later, some_member, rfl, rfl, inside, once, needed⟩ :=
          readMembers_sound (by simpa using once') later_reads
        exact ⟨(name, value) :: members, _,
          .more gap_before named gap_between gap_ahead written is_gap some_member later, by simp,
          by simp, by simp, List.forall_mem_cons.2 ⟨⟨depth, conforms⟩, inside⟩, by simpa using once,
          by simpa using needed⟩

end

theorem head_of_items {items : List Written} (written : SpellsItems items text)
    (some_item : items ≠ []) :
    ∃ gap c tail, IsGap gap ∧ text = gap ++ c :: tail ∧ isSpace c = false ∧ c ≠ ']' := by
  cases written with
  | none => exact absurd rfl some_item
  | last gap written =>
      obtain ⟨c, tail, rfl, starts⟩ := head_of_spells written
      exact ⟨_, c, _, gap, rfl, starts.no_blank, starts.no_bracket⟩
  | more gap written =>
      obtain ⟨c, tail, rfl, starts⟩ := head_of_spells written
      exact ⟨_, c, _, gap, rfl, starts.no_blank, starts.no_bracket⟩

theorem head_of_members {members : List (String × Written)} (written : SpellsMembers members text)
    (some_member : members ≠ []) : ∃ gap tail, IsGap gap ∧ text = gap ++ '"' :: tail := by
  cases written with
  | none => exact absurd rfl some_member
  | last gap => exact ⟨_, _, gap, rfl⟩
  | more gap => exact ⟨_, _, gap, rfl⟩

theorem readValue_scalar (gap : IsGap before) (written : Spells w text) (simple : w.Simple)
    (admits : schema.admits place w.kind = true) (stops : Stops rest) :
    readValue schema place (fuel + 1) levels (before ++ (text ++ rest)) = .ok (w, rest) := by
  obtain ⟨c, tail, rfl, starts⟩ := head_of_spells written
  obtain ⟨no_list, no_record, reads⟩ := readScalar_of_spells written simple stops
  simp [readValue, skipSpace_gap gap starts.no_blank, no_list, no_record, reads, admitted, admits,
    bind, Except.bind]

theorem readValue_empty_list (gap : IsGap before) (inner_gap : IsGap after)
    (admits : schema.admits place .list = true) :
    readValue schema place (fuel + 1) (levels + 1) (before ++ '[' :: (after ++ ']' :: rest)) =
      .ok (.list [], rest) := by
  rw [readValue, skipSpace_gap gap (by decide)]
  simp [admits, skipSpace_gap inner_gap (show isSpace ']' = false by decide)]

theorem readValue_items (gap : IsGap before) (admits : schema.admits place .list = true)
    {items : List Written} (written : SpellsItems items text) (some_item : items ≠ []) :
    readValue schema place (fuel + 1) (levels + 1) (before ++ '[' :: (text ++ rest)) =
      readItems schema (schema.item place) fuel levels [] (text ++ rest) := by
  obtain ⟨inner, c, tail, inner_gap, rfl, no_blank, no_bracket⟩ := head_of_items written some_item
  rw [readValue, skipSpace_gap gap (by decide)]
  simp only [List.append_assoc, List.cons_append, skipSpace_gap inner_gap no_blank, admits,
    Bool.not_true, Bool.false_eq_true, if_true, if_false]
  split
  · next closing => exact absurd (List.cons.inj closing).1 no_bracket
  · rfl

theorem closed_of_needed {members : List (String × Written)}
    (needed : ∀ name ∈ schema.needs place, ∃ member ∈ members, member.1 = name) :
    closed schema place members rest = .ok (.record members, rest) := by
  simpa [closed] using needed

theorem readValue_empty_record (gap : IsGap before) (inner_gap : IsGap after)
    (admits : schema.admits place .record = true)
    (needed : ∀ name ∈ schema.needs place, ∃ member ∈ ([] : List (String × Written)), member.1 = name) :
    readValue schema place (fuel + 1) (levels + 1) (before ++ '{' :: (after ++ '}' :: rest)) =
      .ok (.record [], rest) := by
  rw [readValue, skipSpace_gap gap (by decide)]
  simp [admits, skipSpace_gap inner_gap (show isSpace '}' = false by decide),
    closed_of_needed needed]

theorem readValue_members (gap : IsGap before) (admits : schema.admits place .record = true)
    {members : List (String × Written)} (written : SpellsMembers members text)
    (some_member : members ≠ []) :
    readValue schema place (fuel + 1) (levels + 1) (before ++ '{' :: (text ++ rest)) =
      readMembers schema place fuel levels [] (text ++ rest) := by
  obtain ⟨inner, tail, inner_gap, rfl⟩ := head_of_members written some_member
  rw [readValue, skipSpace_gap gap (by decide)]
  simp [admits, skipSpace_gap inner_gap (show isSpace '"' = false by decide)]

theorem readItems_last {done : List Written} {item : Written} (gap : IsGap after)
    (reads : readValue schema place fuel levels cs = .ok (item, after ++ ']' :: rest)) :
    readItems schema place (fuel + 1) levels done cs = .ok (.list (done.reverse ++ [item]), rest) := by
  simp [readItems, reads, skipSpace_gap gap (show isSpace ']' = false by decide)]

theorem readItems_more {done : List Written} {item : Written} (gap : IsGap after)
    (reads : readValue schema place fuel levels cs = .ok (item, after ++ ',' :: rest)) :
    readItems schema place (fuel + 1) levels done cs =
      readItems schema place fuel levels (item :: done) rest := by
  simp [readItems, reads, skipSpace_gap gap (show isSpace ',' = false by decide)]

section Members

variable {done : List (String × Written)} {name : String} {quoted between inner : List Char}
  {value : Written}

theorem not_again (fresh : schema.once place name = true → ∀ member ∈ done, member.1 ≠ name) :
    (schema.once place name && done.any fun member => member.1 == name) = false := by
  rw [← Bool.not_eq_true, Bool.and_eq_true, List.any_eq_true]
  rintro ⟨only_once, member, known, same⟩
  exact fresh only_once member known (beq_iff_eq.1 same)

theorem readMembers_last (gap_before : IsGap before) (named : SpellsChars name.toList quoted)
    (gap_between : IsGap between) (gap : IsGap after)
    (fresh : schema.once place name = true → ∀ member ∈ done, member.1 ≠ name)
    (reads : readValue schema (schema.member place name) fuel levels inner =
      .ok (value, after ++ '}' :: rest)) :
    readMembers schema place (fuel + 1) levels done
        (before ++ '"' :: (quoted ++ '"' :: (between ++ ':' :: inner))) =
      closed schema place (done.reverse ++ [(name, value)]) rest := by
  rw [readMembers, skipSpace_gap gap_before (by decide)]
  simp [readText_iff.2 ⟨quoted, named, rfl⟩, not_again fresh, reads,
    skipSpace_gap gap_between (show isSpace ':' = false by decide),
    skipSpace_gap gap (show isSpace '}' = false by decide)]

theorem readMembers_more (gap_before : IsGap before) (named : SpellsChars name.toList quoted)
    (gap_between : IsGap between) (gap : IsGap after)
    (fresh : schema.once place name = true → ∀ member ∈ done, member.1 ≠ name)
    (reads : readValue schema (schema.member place name) fuel levels inner =
      .ok (value, after ++ ',' :: rest)) :
    readMembers schema place (fuel + 1) levels done
        (before ++ '"' :: (quoted ++ '"' :: (between ++ ':' :: inner))) =
      readMembers schema place fuel levels ((name, value) :: done) rest := by
  rw [readMembers, skipSpace_gap gap_before (by decide)]
  simp [readText_iff.2 ⟨quoted, named, rfl⟩, not_again fresh, reads,
    skipSpace_gap gap_between (show isSpace ':' = false by decide),
    skipSpace_gap gap (show isSpace ',' = false by decide)]

theorem fresh_of_once {later : List (String × Written)}
    (once : schema.Once place (done.reverse ++ (name, value) :: later)) :
    schema.once place name = true → ∀ member ∈ done, member.1 ≠ name := by
  intro only_once member known same
  have apart := (List.pairwise_append.1 once).2.2 member (List.mem_reverse.2 known) (name, value)
    List.mem_cons_self
  exact apart (same ▸ only_once) same.symm

end Members

-- By induction on the fuel as well. A value takes at most one call less than twice its characters,
-- what stands between brackets at most twice its characters.
mutual

theorem readValue_complete : ∀ {fuel levels : Nat} {place : σ} {before text rest : List Char}
    {w : Written}, IsGap before → Spells w text → w.depth ≤ levels → Conforms schema place w →
      Stops rest → 2 * text.length ≤ fuel + 1 →
      readValue schema place fuel levels (before ++ (text ++ rest)) = .ok (w, rest)
  | 0, _, _, _, _, _, _, _, written, _, _, _, enough => by
      obtain ⟨c, tail, rfl, -⟩ := head_of_spells written
      simp only [List.length_cons] at enough
      omega
  | fuel + 1, levels, place, before, text, rest, w, gap, written, depth, conforms, stops, enough => by
      cases conforms with
      | scalar simple admits => exact readValue_scalar gap written simple admits stops
      | @list _ items admits inside =>
          cases written with
          | @list _ inner written =>
              cases levels with
              | zero => simp [Written.depth] at depth
              | succ levels =>
                  have depth := Written.depth_list_le.1 depth
                  have enough : 2 * inner.length ≤ fuel := by
                    simp only [List.length_cons, List.length_append, List.length_nil] at enough
                    omega
                  simp only [List.cons_append, List.append_assoc, List.nil_append]
                  by_cases none : items = []
                  · subst none
                    cases written with
                    | none inner_gap => exact readValue_empty_list gap inner_gap admits
                  · rw [readValue_items gap admits written none]
                    exact readItems_complete written none
                      (fun item known => ⟨depth item known, inside item known⟩) enough
      | @record _ members admits inside once needed =>
          cases written with
          | @record _ inner written =>
              cases levels with
              | zero => simp [Written.depth] at depth
              | succ levels =>
                  have depth := Written.depth_record_le.1 depth
                  have enough : 2 * inner.length ≤ fuel := by
                    simp only [List.length_cons, List.length_append, List.length_nil] at enough
                    omega
                  simp only [List.cons_append, List.append_assoc, List.nil_append]
                  by_cases none : members = []
                  · subst none
                    cases written with
                    | none inner_gap => exact readValue_empty_record gap inner_gap admits needed
                  · rw [readValue_members gap admits written none]
                    exact readMembers_complete written none
                      (fun member known => ⟨depth member known, inside member known⟩) once needed
                      enough

theorem readItems_complete : ∀ {fuel levels : Nat} {place : σ} {done : List Written}
    {text rest : List Char} {items : List Written}, SpellsItems items text → items ≠ [] →
      (∀ item ∈ items, item.depth ≤ levels ∧ Conforms schema place item) →
      2 * text.length ≤ fuel →
      readItems schema place fuel levels done (text ++ ']' :: rest) =
        .ok (.list (done.reverse ++ items), rest)
  | 0, _, _, _, _, _, _, written, some_item, _, enough => by
      obtain ⟨inner, c, tail, -, rfl, -⟩ := head_of_items written some_item
      simp only [List.length_append, List.length_cons] at enough
      omega
  | fuel + 1, levels, place, done, text, rest, items, written, some_item, inside, enough => by
      cases written with
      | none => exact absurd rfl some_item
      | @last item before text after gap written gap_after =>
          obtain ⟨⟨depth, conforms⟩, -⟩ := List.forall_mem_cons.1 inside
          have enough : 2 * text.length ≤ fuel + 1 := by
            simp only [List.length_append] at enough
            omega
          have stops := Stops.after_gap gap_after (stops_of_mark (.inr (.inl rfl)) rest)
          have reads := readValue_complete gap written depth conforms stops enough
          simpa using readItems_last gap_after reads
      | @more item items before text after more_text gap written gap_after more_items later =>
          obtain ⟨⟨depth, conforms⟩, inside⟩ := List.forall_mem_cons.1 inside
          simp only [List.length_append, List.length_cons] at enough
          have stops := Stops.after_gap gap_after
            (stops_of_mark (.inl rfl) (more_text ++ ']' :: rest))
          have reads := readValue_complete gap written depth conforms stops
            (show 2 * text.length ≤ fuel + 1 by omega)
          have more : readItems schema place fuel levels (item :: done) (more_text ++ ']' :: rest) =
              .ok (.list ((item :: done).reverse ++ items), rest) :=
            readItems_complete later more_items inside (by omega)
          simpa using (readItems_more gap_after reads).trans more

theorem readMembers_complete : ∀ {fuel levels : Nat} {place : σ} {done : List (String × Written)}
    {text rest : List Char} {members : List (String × Written)}, SpellsMembers members text →
      members ≠ [] →
      (∀ member ∈ members, member.2.depth ≤ levels ∧
        Conforms schema (schema.member place member.1) member.2) →
      schema.Once place (done.reverse ++ members) →
      (∀ name ∈ schema.needs place, ∃ member ∈ done.reverse ++ members, member.1 = name) →
      2 * text.length ≤ fuel →
      readMembers schema place fuel levels done (text ++ '}' :: rest) =
        .ok (.record (done.reverse ++ members), rest)
  | 0, _, _, _, _, _, _, written, some_member, _, _, _, enough => by
      obtain ⟨inner, tail, -, rfl⟩ := head_of_members written some_member
      simp only [List.length_append, List.length_cons] at enough
      omega
  | fuel + 1, levels, place, done, text, rest, members, written, some_member, inside, once, needed,
      enough => by
      cases written with
      | none => exact absurd rfl some_member
      | @last name value before quoted between ahead text after gap named gap_between gap_ahead written
          gap_after =>
          obtain ⟨⟨depth, conforms⟩, -⟩ := List.forall_mem_cons.1 inside
          have enough : 2 * text.length ≤ fuel + 1 := by
            simp only [List.length_append, List.length_cons] at enough
            omega
          have stops := Stops.after_gap gap_after (stops_of_mark (.inr (.inr rfl)) rest)
          have reads := readValue_complete gap_ahead written depth conforms stops enough
          have step := readMembers_last gap named gap_between gap_after (fresh_of_once once) reads
          simpa using step.trans (closed_of_needed needed)
      | @more name value members before quoted between ahead text after more_text gap named gap_between
          gap_ahead written gap_after more_members later =>
          obtain ⟨⟨depth, conforms⟩, inside⟩ := List.forall_mem_cons.1 inside
          simp only [List.length_append, List.length_cons] at enough
          have stops := Stops.after_gap gap_after
            (stops_of_mark (.inl rfl) (more_text ++ '}' :: rest))
          have reads := readValue_complete gap_ahead written depth conforms stops
            (show 2 * text.length ≤ fuel + 1 by omega)
          have step := readMembers_more gap named gap_between gap_after (fresh_of_once once) reads
          have more : readMembers schema place fuel levels ((name, value) :: done)
              (more_text ++ '}' :: rest) =
                .ok (.record (((name, value) :: done).reverse ++ members), rest) :=
            readMembers_complete later more_members inside (by simpa using once)
              (by simpa using needed) (by omega)
          simpa using step.trans more

end

theorem readValue_of_isText (is_text : IsText w text) (depth : w.depth ≤ levels)
    (conforms : Conforms schema place w) : ∃ rest, IsGap rest ∧
      readValue schema place (2 * text.length + 2) levels text = .ok (w, rest) := by
  obtain ⟨gap, written, gap_after⟩ := is_text
  have stops := Stops.after_gap gap_after stops_nil
  rw [List.append_nil] at stops
  refine ⟨_, gap_after, readValue_complete gap written depth conforms stops ?_⟩
  simp only [List.length_append]
  omega

end Reader

open Reader

variable {σ : Type} {schema : Schema σ} {place : σ} {text : List Char} {w w' : Written}

theorem read_iff : read schema place text = .ok w ↔
    IsText w text ∧ w.depth ≤ 127 ∧ Conforms schema place w := by
  constructor
  · intro reads
    unfold read at reads
    split at reads
    · simp at reads
    · next value rest found =>
        split at reads
        · next nothing =>
            cases reads
            obtain ⟨⟨before, core, gap, written, text_eq⟩, depth, conforms⟩ := readValue_sound found
            exact ⟨text_eq ▸ .intro gap written (gap_of_skipSpace_nil nothing), depth, conforms⟩
        · simp at reads
  · rintro ⟨is_text, depth, conforms⟩
    obtain ⟨rest, gap, found⟩ := readValue_of_isText is_text depth conforms
    simp [read, found, skipSpace_of_gap gap]

structure Schema.Open (schema : Schema σ) (place : σ) : Prop where
  admits : ∀ kind, schema.admits place kind = true
  item : schema.item place = place
  member : ∀ name, schema.member place name = place
  once : ∀ name, schema.once place name = false
  needs : schema.needs place = []

theorem Schema.Open.conforms (opened : schema.Open place) (w : Written) :
    Conforms schema place w := by
  induction w using Written.induction with
  | simple w simple => exact .scalar simple (opened.admits _)
  | list items ih => exact .list (opened.admits _) (by rwa [opened.item])
  | record members ih =>
      refine .record (opened.admits _) ?_ ?_ (by simp [opened.needs])
      · simpa only [opened.member] using ih
      · refine List.pairwise_of_forall fun a b only_once => ?_
        simp [opened.once] at only_once

theorem Schema.free_open : Schema.free.Open () := by
  constructor <;> simp [Schema.free]

theorem IsText.unique (is_text : IsText w text) (is_text' : IsText w' text) : w = w' := by
  obtain ⟨rest, -, found⟩ :=
    readValue_of_isText is_text (Nat.le_max_left _ w'.depth) (Schema.free_open.conforms w)
  obtain ⟨rest', -, found'⟩ :=
    readValue_of_isText is_text' (Nat.le_max_right w.depth _) (Schema.free_open.conforms w')
  rw [found] at found'
  exact (Prod.mk.inj (Except.ok.inj found')).1

end LessonAudit.Json
