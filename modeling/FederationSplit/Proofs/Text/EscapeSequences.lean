import FederationSplit.Text.EscapeSequence

namespace FederationSplit.Text

theorem afterEscapeSequence?_eq_none {text : List Char}
    (plain : ∀ rest, text ≠ '\x1b' :: '[' :: rest) : afterEscapeSequence? text = none := by
  rw [afterEscapeSequence?]
  exact plain

theorem dropEscapeSequences_of_some {character : Char} {rest after : List Char}
    (found : afterEscapeSequence? (character :: rest) = some after) :
    dropEscapeSequences (character :: rest) = dropEscapeSequences after := by
  rw [dropEscapeSequences]
  split
  · next other same =>
      cases same.symm.trans found
      rfl
  · next missing => cases missing.symm.trans found

theorem dropEscapeSequences_of_none {character : Char} {rest : List Char}
    (missing : afterEscapeSequence? (character :: rest) = none) :
    dropEscapeSequences (character :: rest) = character :: dropEscapeSequences rest := by
  rw [dropEscapeSequences]
  split
  · next other found => cases found.symm.trans missing
  · rfl

theorem dropEscapeSequences_append {front : List Char} (plain : '\x1b' ∉ front)
    (back : List Char) :
    dropEscapeSequences (front ++ back) = front ++ dropEscapeSequences back := by
  induction front with
  | nil => rfl
  | cons character rest induction =>
      rw [List.mem_cons, not_or] at plain
      have missing : afterEscapeSequence? (character :: (rest ++ back)) = none :=
        afterEscapeSequence?_eq_none fun _ starts => plain.1 (List.cons.inj starts).1.symm
      rw [List.cons_append, dropEscapeSequences_of_none missing, induction plain.2,
        List.cons_append]

theorem dropEscapeSequences_eq_self {text : List Char} (plain : '\x1b' ∉ text) :
    dropEscapeSequences text = text := by
  have kept := dropEscapeSequences_append plain []
  rwa [List.append_nil, dropEscapeSequences, List.append_nil] at kept

private theorem dropWhile_lineFeed {test : Char → Bool} (stops : test '\n' = false)
    (text : List Char) :
    (text ++ ['\n']).dropWhile test = text.dropWhile test ++ ['\n'] := by
  rw [List.dropWhile_append, List.dropWhile_cons_of_neg (by rw [stops]; exact Bool.false_ne_true)]
  split
  · next empty => rw [List.isEmpty_iff.mp empty, List.nil_append]
  · rfl

/-- A line feed is in no escape sequence. -/
theorem afterEscapeSequence?_lineFeed (text : List Char) :
    afterEscapeSequence? (text ++ ['\n']) = (afterEscapeSequence? text).map (· ++ ['\n']) := by
  match text with
  | [] => rfl
  | [_] =>
      rw [afterEscapeSequence?_eq_none, afterEscapeSequence?_eq_none, Option.map_none]
      · rintro _ ⟨⟩
      · rintro _ ⟨⟩
  | first :: second :: rest =>
      by_cases starts : first = '\x1b' ∧ second = '['
      · obtain ⟨rfl, rfl⟩ := starts
        simp only [List.cons_append, afterEscapeSequence?]
        rw [dropWhile_lineFeed rfl, dropWhile_lineFeed rfl]
        cases (rest.dropWhile isSequenceParameter).dropWhile isSequenceIntermediate with
        | nil => rfl
        | cons final after =>
            simp only [List.cons_append]
            split <;> rfl
      · rw [afterEscapeSequence?_eq_none, afterEscapeSequence?_eq_none, Option.map_none]
        · rintro _ ⟨⟩
          exact starts ⟨rfl, rfl⟩
        · rintro _ ⟨⟩
          exact starts ⟨rfl, rfl⟩

theorem dropEscapeSequences_lineFeed (text : List Char) :
    dropEscapeSequences (text ++ ['\n']) = dropEscapeSequences text ++ ['\n'] := by
  fun_induction dropEscapeSequences text with
  | case1 =>
      rw [List.nil_append, dropEscapeSequences_of_none rfl, dropEscapeSequences]
  | case2 character rest after found _ induction =>
      rw [List.cons_append, dropEscapeSequences_of_some, induction]
      rw [← List.cons_append, afterEscapeSequence?_lineFeed, found, Option.map_some]
  | case3 character rest missing induction =>
      rw [List.cons_append, dropEscapeSequences_of_none, induction, List.cons_append]
      rw [← List.cons_append, afterEscapeSequence?_lineFeed, missing, Option.map_none]

theorem afterEscapeSequence?_suffix {text after : List Char}
    (found : afterEscapeSequence? text = some after) : after <:+ text := by
  unfold afterEscapeSequence? at found
  split at found
  · next rest =>
      have skipped : (rest.dropWhile isSequenceParameter).dropWhile isSequenceIntermediate <:+
          '\x1b' :: '[' :: rest :=
        ((List.dropWhile_suffix _).trans (List.dropWhile_suffix _)).trans
          (List.suffix_append ['\x1b', '['] rest)
      split at found
      · next final others same =>
          rw [same] at skipped
          split at found
          · cases found
            exact (List.suffix_cons final after).trans skipped
          · cases found
      · cases found
  · cases found

theorem dropEscapeSequences_subset (text : List Char) : dropEscapeSequences text ⊆ text := by
  fun_induction dropEscapeSequences text with
  | case1 => exact List.Subset.refl _
  | case2 character rest after found _ induction =>
      exact List.Subset.trans induction (afterEscapeSequence?_suffix found).subset
  | case3 character rest missing induction =>
      exact List.cons_subset_cons character induction

end FederationSplit.Text
