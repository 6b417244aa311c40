import FederationSplit.Proofs.Syntax.Shifting

namespace FederationSplit.Syntax

open FederationSplit.Text

theorem alike_tokensFrom (text : List Char) (position other used : Nat) :
    (tokensFrom position used text).Alike (tokensFrom other used text) := by
  induction text generalizing position other used with
  | nil => cases used <;> rfl
  | cons first rest induction =>
      cases used with
      | succ used => exact induction ..
      | zero =>
          rw [tokensFrom, tokensFrom]
          cases scanLexeme first rest with
          | error fault => rfl
          | ok lexeme =>
              obtain ⟨token, width⟩ := lexeme
              cases token with
              | none => exact induction ..
              | some token => exact congrArg (TokenStream.token token 0) (induction ..)

theorem tokensFrom_of_isIgnored {character : Char} (ignored : isIgnored character = true)
    (position : Nat) (rest : List Char) :
    tokensFrom position 0 (character :: rest) = tokensFrom (position + 1) 0 rest := by
  have scanned : scanLexeme character rest = .ok { token := none, width := 1 } := by
    unfold scanLexeme
    rw [if_pos ignored]
  rw [tokensFrom, scanned]

theorem tokensFrom_hash (position : Nat) (rest : List Char) :
    tokensFrom position 0 ('#' :: rest) =
      tokensFrom (position + 1) (commentWidth rest) rest := by
  have scanned : scanLexeme '#' rest = .ok { token := none, width := 1 + commentWidth rest } := rfl
  simp only [tokensFrom, scanned, Nat.add_sub_cancel_left]

private theorem token_isSome_of_scanNumber {text : List Char} {lexeme : Lexeme}
    (scanned : scanNumber text = .ok lexeme) : lexeme.token.isSome := by
  unfold scanNumber at scanned
  simp only [bind, Except.bind, pure, Except.pure, throw, throwThe, MonadExceptOf.throw] at scanned
  repeat' split at scanned
  all_goals cases scanned
  all_goals rfl

private theorem token_isSome_of_scanLexeme {first : Char} {rest : List Char} {lexeme : Lexeme}
    (meant : isIgnored first = false) (other : first ≠ '#')
    (scanned : scanLexeme first rest = .ok lexeme) : lexeme.token.isSome := by
  unfold scanLexeme at scanned
  rw [meant, if_neg Bool.false_ne_true, if_neg (by simpa using other)] at scanned
  simp only [bind, Except.bind, pure, Except.pure] at scanned
  repeat' split at scanned
  all_goals first | exact token_isSome_of_scanNumber scanned | cases scanned
  all_goals rfl

theorem not_alike_finish {first : Char} (meant : isIgnored first = false) (other : first ≠ '#')
    (position : Nat) (rest : List Char) :
    ¬(tokensFrom position 0 (first :: rest)).Alike (.finish 0) := by
  rw [tokensFrom]
  cases scanned : scanLexeme first rest with
  | error fault => rintro ⟨⟩
  | ok lexeme =>
      obtain ⟨token, found⟩ := Option.isSome_iff_exists.mp
        (token_isSome_of_scanLexeme meant other scanned)
      simp only [found]
      rintro ⟨⟩

/-! ### Silence -/

/-- Does a text mean nothing? The flag tells whether it starts inside a comment. -/
def isSilent : Bool → List Char → Bool
  | _, [] => true
  | true, '\uffff' :: '\uffff' :: rest => isSilent true rest
  | true, '\uffff' :: _ => false
  | inside, character :: rest =>
      if isLineEnd character then isSilent false rest
      else if inside || character == '#' then isSilent true rest
      else isIgnored character && isSilent false rest

theorem isSilent_lineEnd {character : Char} (ends : isLineEnd character = true) (inside : Bool)
    (rest : List Char) : isSilent inside (character :: rest) = isSilent false rest := by
  have plain : character ≠ '\uffff' := by
    rintro rfl
    cases ends
  rw [isSilent, if_pos ends]
  · exact fun _ _ same => absurd same plain
  · exact fun _ same => absurd same plain

theorem isSilent_inside {character : Char} (plain : character ≠ '\uffff') (rest : List Char) :
    isSilent true (character :: rest) = isSilent (!isLineEnd character) rest := by
  rw [isSilent]
  · cases isLineEnd character <;> rfl
  · exact fun _ _ same => absurd same plain
  · exact fun _ same => absurd same plain

theorem isSilent_outside {character : Char} (continues : isLineEnd character = false)
    (other : character ≠ '#') (rest : List Char) :
    isSilent false (character :: rest) = (isIgnored character && isSilent false rest) := by
  rw [isSilent, continues, if_neg Bool.false_ne_true, if_neg (by simpa using other)]
  · exact fun _ inside => absurd inside Bool.false_ne_true
  · exact fun inside => absurd inside Bool.false_ne_true

theorem isSilent_hash (rest : List Char) : isSilent false ('#' :: rest) = isSilent true rest := by
  rw [isSilent, if_neg (by decide), if_pos (by decide)]
  · exact fun _ inside => absurd inside Bool.false_ne_true
  · exact fun inside => absurd inside Bool.false_ne_true

/-- How many characters of a text belong to the comment that it may start in. -/
def commentRest (inside : Bool) (text : List Char) : Nat :=
  if inside then commentWidth text else 0

theorem isIgnored_of_isLineEnd {character : Char} (ends : isLineEnd character = true) :
    isIgnored character = true := by
  rw [isIgnored, ends, Bool.or_true]

theorem commentRest_of_isLineEnd {character : Char} (ends : isLineEnd character = true)
    (inside : Bool) (rest : List Char) : commentRest inside (character :: rest) = 0 := by
  cases inside with
  | false => rfl
  | true =>
      have plain : character ≠ '\uffff' := by
        rintro rfl
        cases ends
      rw [commentRest, if_pos rfl, commentWidth]
      · rw [if_pos ends]
      · exact fun _ _ same => absurd same plain

theorem commentRest_cons {character : Char} (continues : isLineEnd character = false)
    (plain : character ≠ '\uffff') (rest : List Char) :
    commentRest true (character :: rest) = commentRest true rest + 1 := by
  rw [commentRest, commentRest, if_pos rfl, if_pos rfl, commentWidth]
  · rw [continues, if_neg Bool.false_ne_true]
  · exact fun _ _ same => absurd same plain

private theorem unpaired_append {text : List Char}
    (unpaired : ∀ rest, text = '\uffff' :: rest → False) (following : List Char) :
    ∃ second rest, text ++ '\n' :: following = second :: rest ∧ second ≠ '\uffff' := by
  cases text with
  | nil => exact ⟨'\n', following, rfl, by decide⟩
  | cons second rest =>
      exact ⟨second, _, rfl, fun same => unpaired rest (congrArg (· :: rest) same)⟩

/-- A silent text adds no token to what follows it in another line. -/
theorem tokensFrom_of_isSilent {inside : Bool} {text : List Char}
    (silent : isSilent inside text = true) (following : List Char) (position : Nat) :
    (tokensFrom position (commentRest inside (text ++ '\n' :: following))
      (text ++ '\n' :: following)).Alike (tokensFrom 0 0 following) := by
  fun_induction isSilent inside text generalizing position with
  | case1 inside =>
      rw [List.nil_append, commentRest_of_isLineEnd rfl, tokensFrom_of_isIgnored rfl]
      exact alike_tokensFrom ..
  | case2 rest induction => exact induction silent (position + 2)
  | case3 => cases silent
  | case4 inside character rest _ _ ends induction =>
      rw [List.cons_append, commentRest_of_isLineEnd ends,
        tokensFrom_of_isIgnored (isIgnored_of_isLineEnd ends)]
      exact induction silent _
  | case5 inside character rest _ plain continues started induction =>
      cases inside with
      | true =>
          rw [List.cons_append, commentRest_cons (Bool.not_eq_true _ ▸ continues) (plain rfl)]
          exact induction silent (position + 1)
      | false =>
          obtain rfl : character = '#' := by simpa using started
          change (tokensFrom position 0 ('#' :: _)).Alike _
          rw [tokensFrom_hash]
          exact induction silent _
  | case6 inside character rest _ _ _ outside induction =>
      obtain rfl : inside = false := by simp_all
      obtain ⟨ignored, silent⟩ := Bool.and_eq_true_iff.mp silent
      change (tokensFrom position 0 (character :: _)).Alike _
      rw [tokensFrom_of_isIgnored ignored]
      exact induction silent _

theorem isSilent_of_alike {inside : Bool} {text : List Char} {position : Nat}
    (alike : (tokensFrom position (commentRest inside (text ++ ['\n'])) (text ++ ['\n'])).Alike
      (.finish 0)) : isSilent inside text = true := by
  fun_induction isSilent inside text generalizing position with
  | case1 => rfl
  | case2 rest induction => exact @induction (position + 2) alike
  | case3 rest unpaired =>
      obtain ⟨second, more, rest, other⟩ := unpaired_append unpaired []
      have surrogate : (marked second).isSurrogate = true := by
        rw [marked, if_neg (show second ≠ mark from other)]
        rfl
      rw [List.cons_append, rest, commentRest, if_pos rfl, commentWidth, if_pos surrogate] at alike
      exact absurd alike (not_alike_finish (by decide) (by decide) _ _)
  | case4 inside character rest _ _ ends induction =>
      rw [List.cons_append, commentRest_of_isLineEnd ends,
        tokensFrom_of_isIgnored (isIgnored_of_isLineEnd ends)] at alike
      exact induction alike
  | case5 inside character rest _ plain continues started induction =>
      cases inside with
      | true =>
          rw [List.cons_append, commentRest_cons (Bool.not_eq_true _ ▸ continues) (plain rfl)]
            at alike
          exact @induction (position + 1) alike
      | false =>
          obtain rfl : character = '#' := by simpa using started
          change (tokensFrom position 0 ('#' :: _)).Alike _ at alike
          rw [tokensFrom_hash] at alike
          exact induction alike
  | case6 inside character rest _ _ _ outside induction =>
      obtain rfl : inside = false := by simp_all
      have other : character ≠ '#' := by simpa using outside
      change (tokensFrom position 0 (character :: _)).Alike _ at alike
      cases ignored : isIgnored character with
      | false => exact absurd alike (not_alike_finish ignored other _ _)
      | true =>
          rw [tokensFrom_of_isIgnored ignored] at alike
          exact induction alike

/-- A text adds no token to any text that is written behind it. -/
def AddsNothing (text : String) : Prop :=
  ∀ following, (tokens (text ++ following)).Alike (tokens following)

theorem addsNothing_iff {text : List Char} :
    AddsNothing (String.ofList (text ++ ['\n'])) ↔ isSilent false text = true := by
  constructor
  · intro adds
    have alone := adds ""
    rw [String.append_empty, tokens, String.toList_ofList] at alone
    exact isSilent_of_alike alone
  · intro silent following
    rw [tokens, tokens, String.toList_append, String.toList_ofList, List.append_assoc]
    exact tokensFrom_of_isSilent silent following.toList 0

theorem isSilent_append_line (inside : Bool) (text following : List Char) :
    isSilent inside (text ++ '\n' :: following) =
      (isSilent inside text && isSilent false following) := by
  fun_induction isSilent inside text with
  | case1 inside => cases inside <;> rfl
  | case2 rest induction => exact induction
  | case3 rest unpaired =>
      obtain ⟨second, more, rest, other⟩ := unpaired_append unpaired following
      rw [List.cons_append, rest, isSilent, Bool.false_and]
      exact fun _ same => other (List.cons.inj same).1
  | case4 inside character rest _ _ ends induction =>
      rw [List.cons_append, isSilent_lineEnd ends, induction]
  | case5 inside character rest _ plain continues started induction =>
      rw [Bool.not_eq_true] at continues
      cases inside with
      | true =>
          rw [List.cons_append, isSilent_inside (plain rfl), continues, Bool.not_false, induction]
      | false =>
          obtain rfl : character = '#' := by simpa using started
          rw [List.cons_append, isSilent_hash, induction]
  | case6 inside character rest _ _ continues outside induction =>
      obtain rfl : inside = false := by simp_all
      have other : character ≠ '#' := by simpa using outside
      rw [List.cons_append, isSilent_outside (Bool.not_eq_true _ ▸ continues) other, induction,
        Bool.and_assoc]

theorem isSilent_append_inside {text : List Char}
    (plain : text.all (fun character => !isLineEnd character && character != '\uffff') = true)
    (following : List Char) : isSilent true (text ++ following) = isSilent true following := by
  induction text with
  | nil => rfl
  | cons character rest induction =>
      simp only [List.all_cons, Bool.and_eq_true, bne_iff_ne, ne_eq, Bool.not_eq_true'] at plain
      obtain ⟨⟨continues, unmarked⟩, plain⟩ := plain
      rw [List.cons_append, isSilent_inside unmarked, continues, Bool.not_false]
      exact induction (by simpa using plain)

/-! ### Lines -/

def IsRemark (line : List Char) : Prop :=
  ∀ character ∈ (line.dropWhile isIgnored).head?, character = '#'

/--
A text can be put into a comment: each line behind the first is blank or a comment itself, and no
half of a surrogate pair stands alone.
-/
def ContinuesComment (text : String) : Prop :=
  ∃ plain : String, text = ofPlain plain ∧ ∀ line ∈ (lines plain.toList).tail, IsRemark line

def AreRemarks (inside : Bool) (text : List Char) : Prop :=
  (inside = true ∨ IsRemark ((lines text).headD [])) ∧ ∀ line ∈ (lines text).tail, IsRemark line

theorem isRemark_nil : IsRemark [] := nofun

theorem isRemark_hash (line : List Char) : IsRemark ('#' :: line) := by
  rintro _ ⟨⟩
  rfl

theorem isRemark_cons {character : Char} (other : character ≠ '#') (line : List Char) :
    IsRemark (character :: line) ↔ isIgnored character = true ∧ IsRemark line := by
  unfold IsRemark
  rw [List.dropWhile_cons]
  split
  · next ignored => exact (and_iff_right ignored).symm
  · next meant =>
      exact ⟨fun isHash => absurd (isHash character rfl) other, fun both => absurd both.1 meant⟩

theorem lines_cons {character : Char} (continues : isLineEnd character = false)
    (rest : List Char) :
    lines (character :: rest) = (character :: (lines rest).headD []) :: (lines rest).tail := by
  rw [lines, continues, if_neg Bool.false_ne_true]
  · cases lines rest <;> rfl
  · rintro _ rfl
    cases continues

private theorem areRemarks_outside_iff (text : List Char) :
    AreRemarks false text ↔ ∀ line ∈ lines text, IsRemark line := by
  unfold AreRemarks
  cases lines text with
  | nil =>
      exact iff_of_true ⟨.inr isRemark_nil, List.forall_mem_nil _⟩ (List.forall_mem_nil _)
  | cons first following => simp

theorem areRemarks_lineEnd {character : Char} (ends : isLineEnd character = true) (inside : Bool)
    (rest : List Char) : AreRemarks inside (character :: rest) ↔ AreRemarks false rest := by
  have ended {following : List (List Char)}
      (written : lines (character :: rest) = [] :: following) :
      AreRemarks inside (character :: rest) ↔ ∀ line ∈ following, IsRemark line := by
    rw [AreRemarks, written]
    exact and_iff_right (.inr isRemark_nil)
  by_cases both : ∃ more, character = '\r' ∧ rest = '\n' :: more
  · -- The line feed that belongs to the end is read once more as the end of an empty line.
    obtain ⟨more, rfl, rfl⟩ := both
    rw [@ended (lines more) rfl, areRemarks_outside_iff]
    exact (List.forall_mem_cons.trans (and_iff_right isRemark_nil)).symm
  · rw [ended, areRemarks_outside_iff]
    rw [lines, if_pos ends]
    exact fun more carriage feed => both ⟨more, carriage, feed⟩

theorem areRemarks_inside {character : Char} (continues : isLineEnd character = false)
    (rest : List Char) : AreRemarks true (character :: rest) ↔ AreRemarks true rest := by
  simp [AreRemarks, lines_cons continues]

theorem areRemarks_hash (rest : List Char) :
    AreRemarks false ('#' :: rest) ↔ AreRemarks true rest := by
  simp [AreRemarks, lines_cons (show isLineEnd '#' = false from rfl), isRemark_hash]

theorem areRemarks_outside {character : Char} (continues : isLineEnd character = false)
    (other : character ≠ '#') (rest : List Char) :
    AreRemarks false (character :: rest) ↔
      isIgnored character = true ∧ AreRemarks false rest := by
  simp [AreRemarks, lines_cons continues, isRemark_cons other, and_assoc]

def held (characters : List Char) : List Char :=
  hold (characters.map .character)

theorem held_cons {character : Char} (plain : character ≠ '\uffff') (rest : List Char) :
    held (character :: rest) = character :: held rest := by
  rw [held, List.map_cons, hold, List.flatMap_cons, CodePoint.held,
    if_neg (show character ≠ mark from plain)]
  rfl

theorem held_mark (rest : List Char) :
    held ('\uffff' :: rest) = '\uffff' :: '\uffff' :: held rest :=
  rfl

theorem isSilent_held_iff (inside : Bool) (characters : List Char) :
    isSilent inside (held characters) = true ↔ AreRemarks inside characters := by
  induction characters generalizing inside with
  | nil =>
      refine iff_of_true (by cases inside <;> rfl) ?_
      rw [AreRemarks, lines]
      exact ⟨.inr isRemark_nil, List.forall_mem_nil _⟩
  | cons character rest induction =>
      by_cases marked : character = '\uffff'
      · subst marked
        rw [held_mark]
        cases inside with
        | true => rw [areRemarks_inside rfl, ← induction, isSilent]
        | false =>
            rw [isSilent_outside rfl (by decide), areRemarks_outside rfl (by decide)]
            simp [isIgnored, isLineEnd]
      · rw [held_cons marked]
        cases ends : isLineEnd character with
        | true => rw [isSilent_lineEnd ends, areRemarks_lineEnd ends, induction]
        | false =>
            cases inside with
            | true =>
                rw [isSilent_inside marked, ends, Bool.not_false, areRemarks_inside ends, induction]
            | false =>
                by_cases hash : character = '#'
                · rw [hash, isSilent_hash, areRemarks_hash, induction]
                · rw [isSilent_outside ends hash, areRemarks_outside ends hash,
                    Bool.and_eq_true, induction]

theorem exists_held_of_isSilent {inside : Bool} {text : List Char}
    (silent : isSilent inside text = true) : ∃ characters, text = held characters := by
  have add {character : Char} {rest : List Char} (plain : character ≠ '\uffff')
      (others : ∃ characters, rest = held characters) :
      ∃ characters, character :: rest = held characters := by
    obtain ⟨characters, rfl⟩ := others
    exact ⟨character :: characters, (held_cons plain characters).symm⟩
  fun_induction isSilent inside text with
  | case1 => exact ⟨[], rfl⟩
  | case2 rest induction =>
      obtain ⟨characters, rfl⟩ := induction silent
      exact ⟨'\uffff' :: characters, rfl⟩
  | case3 => cases silent
  | case4 inside character rest _ _ ends induction =>
      refine add ?_ (induction silent)
      rintro rfl
      cases ends
  | case5 inside character rest _ plain _ started induction =>
      refine add ?_ (induction silent)
      rintro rfl
      exact plain (by simpa using started) rfl
  | case6 inside character rest _ _ _ _ induction =>
      obtain ⟨ignored, silent⟩ := Bool.and_eq_true_iff.mp silent
      refine add ?_ (induction silent)
      rintro rfl
      cases ignored

theorem isSilent_iff_continuesComment (text : String) :
    isSilent true text.toList = true ↔ ContinuesComment text := by
  have remarks (characters : List Char) :
      AreRemarks true characters ↔ ∀ line ∈ (lines characters).tail, IsRemark line :=
    and_iff_right (.inl rfl)
  constructor
  · intro silent
    obtain ⟨characters, same⟩ := exists_held_of_isSilent silent
    refine ⟨String.ofList characters, ?_, ?_⟩
    · rw [ofPlain, String.toList_ofList, ← held, ← same, String.ofList_toList]
    · rwa [String.toList_ofList, ← remarks, ← isSilent_held_iff, ← same]
  · rintro ⟨plain, rfl, others⟩
    rw [ofPlain, String.toList_ofList, ← held, isSilent_held_iff, remarks]
    exact others

end FederationSplit.Syntax
