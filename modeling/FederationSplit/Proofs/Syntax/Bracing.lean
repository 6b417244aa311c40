import FederationSplit.Proofs.Syntax.Comments
import FederationSplit.Proofs.Syntax.Runs

namespace FederationSplit.Syntax

open FederationSplit.Text

def closed (text : List Char) : List Char := text ++ ['\x7d']

@[simp] theorem closed_nil : closed [] = ['\x7d'] :=
  rfl

@[simp] theorem closed_cons (first : Char) (rest : List Char) :
    closed (first :: rest) = first :: closed rest :=
  rfl

@[simp] theorem length_closed (text : List Char) : (closed text).length = text.length + 1 :=
  List.length_append

private theorem takeWhile_closed {condition : Char → Bool} (fails : condition '\x7d' = false)
    (text : List Char) : (closed text).takeWhile condition = text.takeWhile condition := by
  induction text with
  | nil => simp [fails]
  | cons first rest induction => simp [List.takeWhile_cons, induction]

private theorem dropWhile_closed {condition : Char → Bool} (fails : condition '\x7d' = false)
    (text : List Char) : (closed text).dropWhile condition = closed (text.dropWhile condition) := by
  induction text with
  | nil => simp [fails]
  | cons first rest induction =>
      simp only [closed_cons, List.dropWhile_cons, induction]
      split <;> rfl

private theorem eq_append_of_closed {front text more : List Char} (other : '\x7d' ∉ front)
    (same : closed text = front ++ more) : ∃ rest, text = front ++ rest := by
  induction front generalizing text with
  | nil => exact ⟨text, rfl⟩
  | cons first front induction =>
      cases text with
      | nil => exact absurd (List.mem_cons.mpr (.inl (List.cons.inj same).1)) other
      | cons second text =>
          have otherFront : '\x7d' ∉ front := fun member => other (List.mem_cons_of_mem _ member)
          obtain ⟨rest, rfl⟩ := induction otherFront (List.cons.inj same).2
          exact ⟨rest, by rw [(List.cons.inj same).1, List.cons_append]⟩

private theorem not_starts_closed {front text : List Char} (other : '\x7d' ∉ front)
    (free : ∀ more, text ≠ front ++ more) (more : List Char) : closed text ≠ front ++ more := by
  intro same
  obtain ⟨rest, holds⟩ := eq_append_of_closed other same
  exact free rest holds

private theorem eq_cons_of_closed {first : Char} {text more : List Char} (other : first ≠ '\x7d')
    (same : closed text = first :: more) : ∃ rest, text = first :: rest :=
  eq_append_of_closed (by simpa using other.symm) (show closed text = [first] ++ more from same)

/--
One scan comes out as another, up to a change of its result, of which something is known. They may
fail with different faults.
-/
private inductive Follows {α : Type} (change : α → α) (good : α → Prop) :
    Except TokenFault α → Except TokenFault α → Prop
  | error (fault other : TokenFault) : Follows change good (.error fault) (.error other)
  | ok {braced result : α} (same : braced = change result) (holds : good result) :
      Follows change good (.ok braced) (.ok result)

private theorem Follows.bind {α β : Type} {change : α → α} {good : α → Prop}
    {changeNext : β → β} {goodNext : β → Prop} {braced scan : Except TokenFault α}
    {bracedNext next : α → Except TokenFault β} (follows : Follows change good braced scan)
    (continues : ∀ result, good result →
      Follows changeNext goodNext (bracedNext (change result)) (next result)) :
    Follows changeNext goodNext (braced >>= bracedNext) (scan >>= next) := by
  cases follows with
  | error fault other => exact .error fault other
  | ok same holds => exact same ▸ continues _ holds

/-- The brace is left over together with what is left of the text. -/
private abbrev LeavesBrace (text : List Char) :
    (braced scan : Except TokenFault (List Char × List Char)) → Prop :=
  Follows (Prod.map id closed) fun scanned => scanned.1 ++ scanned.2 = text

private theorem scanDigits_closed (offset : Nat) (text : List Char) :
    LeavesBrace text (scanDigits offset (closed text)) (scanDigits offset text) := by
  have whole : text.takeWhile Char.isDigit ++ text.dropWhile Char.isDigit = text :=
    List.takeWhile_append_dropWhile
  rw [scanDigits, scanDigits, takeWhile_closed rfl, dropWhile_closed rfl]
  cases digits : text.takeWhile Char.isDigit with
  | nil => exact .error _ _
  | cons first rest => exact .ok rfl (digits ▸ whole)

private theorem scanInteger_closed (offset : Nat) (text : List Char) :
    LeavesBrace text (scanInteger offset (closed text)) (scanInteger offset text) := by
  fun_cases scanInteger offset text with
  | case1 rest digit isNext isDigit =>
      obtain ⟨more, rfl⟩ := List.head?_eq_some_iff.mp isNext
      simp only [closed_cons, scanInteger, List.head?_cons, isDigit]
      exact .error _ _
  | case2 rest digit isNext other =>
      obtain ⟨more, rfl⟩ := List.head?_eq_some_iff.mp isNext
      simp only [closed_cons, scanInteger, List.head?_cons, other]
      exact .ok rfl rfl
  | case3 rest isLast =>
      obtain rfl := List.head?_eq_none_iff.mp isLast
      exact .ok rfl rfl
  | case4 text other =>
      rw [scanInteger]
      · exact scanDigits_closed offset text
      · rintro more same
        obtain ⟨rest, rfl⟩ := eq_cons_of_closed (by decide) same
        exact other rest rfl

private theorem scanFraction_closed (offset : Nat) (text : List Char) :
    LeavesBrace text (scanFraction offset (closed text)) (scanFraction offset text) := by
  fun_cases scanFraction offset text with
  | case1 rest =>
      exact (scanDigits_closed (offset + 1) rest).bind fun _ whole => .ok rfl (congrArg _ whole)
  | case2 text other =>
      rw [scanFraction]
      · exact .ok rfl rfl
      · rintro more same
        obtain ⟨rest, rfl⟩ := eq_cons_of_closed (by decide) same
        exact other rest rfl

private theorem scanExponent_closed (offset : Nat) (text : List Char) :
    LeavesBrace text (scanExponent offset (closed text)) (scanExponent offset text) := by
  fun_cases scanExponent offset text with
  | case1 => exact .ok rfl rfl
  | case2 mark isMark =>
      simp only [closed_cons, closed_nil, scanExponent, isMark]
      exact .error _ _
  | case3 mark isMark sign following isSign =>
      simp only [closed_cons, scanExponent, isMark, isSign, if_true]
      refine (scanDigits_closed (offset + 2) following).bind fun _ whole => .ok rfl ?_
      simp [← whole]
  | case4 mark isMark sign following isDigit =>
      simp only [closed_cons, scanExponent, isMark, isDigit, if_true]
      refine (scanDigits_closed (offset + 1) (sign :: following)).bind fun _ whole => .ok rfl ?_
      simp [← whole]
  | case5 mark rest other =>
      simp only [closed_cons, scanExponent, other]
      exact .ok rfl rfl

private theorem scanSign_closed (text : List Char) :
    scanSign (closed text) = Prod.map id closed (scanSign text) := by
  fun_cases scanSign text with
  | case1 => rfl
  | case2 text other =>
      rw [scanSign]
      · rfl
      · rintro more same
        obtain ⟨rest, rfl⟩ := eq_cons_of_closed (by decide) same
        exact other rest rfl

private theorem scanNumber_closed (text : List Char) :
    Follows id (fun lexeme => lexeme.width ≤ text.length) (scanNumber (closed text))
      (scanNumber text) := by
  have sameSign : (scanSign text).1 ++ (scanSign text).2 = text := by
    fun_cases scanSign text <;> rfl
  unfold scanNumber
  rw [scanSign_closed]
  generalize scanSign text = signed at sameSign
  obtain ⟨sign, unsigned⟩ := signed
  refine (scanInteger_closed _ unsigned).bind fun whole sameWhole => ?_
  refine (scanFraction_closed _ whole.2).bind fun fraction sameFraction => ?_
  refine (scanExponent_closed _ fraction.2).bind fun exponent sameExponent => ?_
  have within : (sign ++ whole.1 ++ fraction.1 ++ exponent.1).length ≤ text.length := by
    have lengths := And.intro (congrArg List.length sameSign) (congrArg List.length sameWhole)
    have others := And.intro (congrArg List.length sameFraction) (congrArg List.length sameExponent)
    simp only [List.length_append] at lengths others ⊢
    omega
  obtain ⟨digits, rest⟩ := exponent
  cases rest with
  | nil => exact .ok rfl within
  | cons next rest =>
      simp only [Prod.map_snd, closed_cons]
      split
      · exact .error _ _
      · exact .ok rfl within

/-! ### Strings -/

private theorem take_closed_of_le {number : Nat} {text : List Char}
    (enough : number ≤ text.length) : (closed text).take number = text.take number :=
  List.take_append_of_le_length enough

private theorem take_closed_of_lt {number : Nat} {text : List Char} (short : text.length < number) :
    (closed text).take number = closed text :=
  List.take_of_length_le (by rw [length_closed]; exact short)

private theorem hexNumber?_closed (text : List Char) : hexNumber? (closed text) = none := by
  simp [hexNumber?, closed, List.foldlM_append, hexDigit?]

private theorem fourHexDigits?_closed (text : List Char) :
    fourHexDigits? (closed text) = fourHexDigits? text := by
  by_cases enough : 4 ≤ text.length
  · simp only [fourHexDigits?, take_closed_of_le enough]
  · rw [Nat.not_le] at enough
    simp only [fourHexDigits?, take_closed_of_lt enough, hexNumber?_closed, ite_self]
    rw [if_pos (Nat.lt_of_le_of_lt (List.length_take_le' 4 text) enough)]

private theorem drop_closed {number : Nat} {text : List Char} (enough : number ≤ text.length) :
    (closed text).drop number = closed (text.drop number) :=
  List.drop_append_of_le_length enough

private theorem length_of_fourHexDigits? {text : List Char} {number : Nat}
    (read : fourHexDigits? text = some number) : 4 ≤ text.length := by
  by_contra short
  rw [fourHexDigits?, List.take_of_length_le (by omega), if_pos (by omega)] at read
  cases read

private theorem scanFixedEscape_closed (text : List Char) :
    scanFixedEscape (closed text) = scanFixedEscape text := by
  unfold scanFixedEscape
  rw [fourHexDigits?_closed]
  cases read : fourHexDigits? text with
  | none => rfl
  | some number =>
      rw [drop_closed (length_of_fourHexDigits? read)]
      generalize text.drop 4 = behind
      simp only [bind, Option.bind]
      cases charOfNat? number with
      | some character => rfl
      | none =>
          dsimp only
          split
          · next rest same =>
              obtain ⟨more, rfl⟩ := eq_append_of_closed (by decide)
                (show closed behind = ['\\', 'u'] ++ rest from same)
              obtain rfl : closed more = rest := List.append_cancel_left
                (show ['\\', 'u'] ++ closed more = ['\\', 'u'] ++ rest from same)
              rw [fourHexDigits?_closed]
              rfl
          · next other =>
              split
              · exact absurd rfl (other (closed _))
              · rfl

private theorem scanBracedEscape_closed (text : List Char) :
    scanBracedEscape (closed text) = scanBracedEscape text ∨
      scanBracedEscape text = none ∧
        ∀ escape, scanBracedEscape (closed text) = some escape → escape.2 = text.length + 4 := by
  by_cases enough : 9 ≤ text.length
  · left
    simp only [scanBracedEscape, take_closed_of_le enough]
  · rw [Nat.not_le] at enough
    let isHexDigit (character : Char) : Bool := (hexDigit? character).isSome
    have within : (text.takeWhile isHexDigit).length ≤ text.length :=
      (List.takeWhile_prefix isHexDigit).length_le
    have digits : (closed text).takeWhile isHexDigit = text.takeWhile isHexDigit :=
      takeWhile_closed rfl text
    simp only [scanBracedEscape, take_closed_of_lt enough,
      List.take_of_length_le (Nat.le_of_lt enough)]
    rw [digits, drop_closed within]
    cases behind : text.drop (text.takeWhile isHexDigit).length with
    | nil =>
        refine .inr ⟨rfl, fun escape found => ?_⟩
        change (if (text.takeWhile isHexDigit).isEmpty then _ else _) = _ at found
        split at found
        · cases found
        · obtain ⟨number, -, found⟩ := Option.bind_eq_some_iff.mp found
          obtain ⟨character, -, found⟩ := Option.bind_eq_some_iff.mp found
          cases found
          have := List.drop_eq_nil_iff.mp behind
          change (text.takeWhile isHexDigit).length + 4 = text.length + 4
          omega
    | cons first rest =>
        refine .inl ?_
        by_cases isBrace : first = '\x7d'
        · subst isBrace
          rfl
        · simp [isBrace]

private theorem toOption_scanEscape_fixed {rest : List Char}
    (other : ∀ more, rest ≠ '\x7b' :: more) :
    (scanEscape ('u' :: rest)).toOption = scanFixedEscape rest := by
  rw [scanEscape]
  · cases scanFixedEscape rest <;> rfl
  · exact other

private theorem toOption_scanEscape_simple {first : Char} (other : first ≠ 'u')
    (rest : List Char) :
    (scanEscape (first :: rest)).toOption = (simpleEscape? first).map (·, 2) := by
  rw [scanEscape]
  · rw [List.head?_cons, Option.bind_some]
    cases simpleEscape? first <;> rfl
  · rintro _ ⟨⟩
    exact other rfl
  · rintro _ ⟨⟩
    exact other rfl

private theorem scanEscape_closed (text : List Char) :
    (scanEscape (closed text)).toOption = (scanEscape text).toOption ∨
      (scanEscape text).toOption = none ∧
        ∀ escape, scanEscape (closed text) = .ok escape → text.length < escape.2 - 1 := by
  cases text with
  | nil => exact .inl rfl
  | cons first rest =>
      by_cases isUnicode : first = 'u'
      · subst isUnicode
        by_cases isBraced : ∃ more, rest = '\x7b' :: more
        · obtain ⟨more, rfl⟩ := isBraced
          simp only [closed_cons, scanEscape]
          obtain same | ⟨unread, completed⟩ := scanBracedEscape_closed more
          · left
            rw [same]
            cases scanBracedEscape more <;> rfl
          · right
            rw [unread]
            refine ⟨rfl, fun escape scanned => ?_⟩
            cases read : scanBracedEscape (closed more) with
            | none =>
                rw [read] at scanned
                cases scanned
            | some other =>
                rw [read] at scanned
                cases scanned
                have := completed _ read
                simp only [List.length_cons]
                omega
        · left
          rw [not_exists] at isBraced
          rw [closed_cons, toOption_scanEscape_fixed isBraced, toOption_scanEscape_fixed,
            scanFixedEscape_closed]
          intro more same
          obtain ⟨more, rfl⟩ := eq_cons_of_closed (by decide) same
          exact isBraced more rfl
      · left
        rw [closed_cons, toOption_scanEscape_simple isUnicode, toOption_scanEscape_simple isUnicode]

private theorem scanEscape_closed_of_ok {text : List Char} {escape : Char × Nat}
    (read : scanEscape text = .ok escape) : scanEscape (closed text) = .ok escape := by
  obtain same | ⟨unread, -⟩ := scanEscape_closed text
  · rw [read] at same
    generalize scanEscape (closed text) = scanned at same
    cases scanned with
    | error => cases same
    | ok => exact congrArg Except.ok (Option.some.inj same)
  · rw [read] at unread
    cases unread

private theorem length_lt_of_scanEscape_closed {text : List Char} {fault : Fault}
    {escape : Char × Nat} (refused : scanEscape text = .error fault)
    (read : scanEscape (closed text) = .ok escape) : text.length < escape.2 - 1 := by
  obtain same | ⟨-, tooWide⟩ := scanEscape_closed text
  · rw [read, refused] at same
    cases same
  · exact tooWide escape read

private theorem Follows.extend {braced scan : Except TokenFault (List Char × Nat)}
    {stop further : Nat} (follows : Follows id (fun scanned => scanned.2 ≤ stop) braced scan)
    (behind : stop ≤ further) (front : List Char → List Char) :
    Follows id (fun scanned => scanned.2 ≤ further)
      (braced >>= fun scanned => pure (front scanned.1, scanned.2))
      (scan >>= fun scanned => pure (front scanned.1, scanned.2)) :=
  follows.bind fun _ within => .ok rfl (Nat.le_trans within behind)

private theorem scanStringBody_of_le {text : List Char} {used : Nat} (short : text.length ≤ used)
    (offset : Nat) : ∃ fault, scanStringBody offset used text = .error fault := by
  induction text generalizing offset used with
  | nil => exact ⟨_, by rw [scanStringBody]⟩
  | cons first rest induction =>
      cases used with
      | zero => cases short
      | succ used => exact induction (Nat.le_of_succ_le_succ short) (offset + 1)

/-- A mark that belongs to no other character is the last of a text. -/
private theorem eq_nil_of_unpaired {character : Char} {rest : List Char}
    (unpaired : ∀ second more, character = '\uffff' → rest = second :: more → False)
    (marked : character = '\uffff') : rest = [] := by
  cases rest with
  | nil => rfl
  | cons second more => exact (unpaired second more marked rfl).elim

/-- A string with a wrong escape stays wrong, although the brace may complete the escape. -/
private theorem scanStringBody_of_refused {rest : List Char} {fault : Fault}
    (refused : scanEscape rest = .error fault) (offset : Nat) :
    ∃ fault, scanStringBody offset 0 ('\\' :: closed rest) = .error fault := by
  rw [scanStringBody, if_neg (by decide), if_neg (by decide), if_pos (by decide)]
  · cases scanned : scanEscape (closed rest) with
    | error => exact ⟨_, rfl⟩
    | ok escape =>
        have short : (closed rest).length ≤ escape.2 - 1 := by
          rw [length_closed]
          exact length_lt_of_scanEscape_closed refused scanned
        -- Nothing is left behind the brace to end the string.
        obtain ⟨fault, ended⟩ := scanStringBody_of_le short (offset + 1)
        simp only [ended]
        exact ⟨fault, rfl⟩
  · exact fun _ _ same => absurd same (by decide)

private theorem scanStringBody_closed (offset used : Nat) (text : List Char) :
    Follows id (fun scanned => scanned.2 ≤ offset + text.length)
      (scanStringBody offset used (closed text)) (scanStringBody offset used text) := by
  fun_induction scanStringBody offset used text with
  | case1 offset used => cases used <;> exact .error _ _
  | case2 offset used character rest induction =>
      rw [List.length_cons, Nat.add_comm rest.length, ← Nat.add_assoc]
      exact induction
  | case3 offset second rest point _ isSurrogate =>
      rw [closed_cons, closed_cons, scanStringBody, if_pos isSurrogate]
      exact .error _ _
  | case4 offset second rest point _ isCharacter induction =>
      rw [closed_cons, closed_cons, scanStringBody, if_neg isCharacter]
      exact induction.extend (by simp only [List.length_cons]; omega) _
  | case5 offset character rest unpaired isQuote =>
      obtain rfl := beq_iff_eq.mp isQuote
      exact .ok rfl (by simp)
  | case6 offset character rest unpaired notQuote ends =>
      rw [closed_cons, scanStringBody, if_neg notQuote, if_pos ends]
      · exact .error _ _
      · rintro _ _ rfl
        cases ends
  | case7 offset character rest unpaired notQuote continues isEscape fault refused =>
      obtain rfl := beq_iff_eq.mp isEscape
      obtain ⟨fault, scanned⟩ := scanStringBody_of_refused refused offset
      rw [closed_cons, scanned]
      exact .error _ _
  | case8 offset character rest unpaired notQuote continues isEscape meant width read induction =>
      obtain rfl := beq_iff_eq.mp isEscape
      rw [closed_cons, scanStringBody, if_neg notQuote, if_neg continues, if_pos isEscape,
        scanEscape_closed_of_ok read]
      · exact induction.extend (by simp only [List.length_cons]; omega) _
      · exact fun _ _ same => absurd same (by decide)
  | case9 offset character rest unpaired notQuote continues notEscape induction =>
      by_cases marked : character = '\uffff'
      · obtain rfl := eq_nil_of_unpaired unpaired marked
        subst marked
        exact .error _ _
      · rw [closed_cons, scanStringBody, if_neg notQuote, if_neg continues, if_neg notEscape]
        · exact induction.extend (by simp only [List.length_cons]; omega) _
        · exact fun _ _ same => absurd same marked

private theorem scanBlockBody_closed (offset : Nat) (text : List Char) :
    Follows id (fun scanned => scanned.2 ≤ offset + text.length)
      (scanBlockBody offset (closed text)) (scanBlockBody offset text) := by
  fun_induction scanBlockBody offset text with
  | case1 offset rest => exact .ok rfl (by simp)
  | case2 offset rest induction =>
      simp only [closed_cons, scanBlockBody]
      exact induction.extend (by simp only [List.length_cons]; omega) ('"' :: '"' :: '"' :: ·)
  | case3 offset second rest point _ isSurrogate =>
      rw [closed_cons, closed_cons, scanBlockBody, if_pos isSurrogate]
      exact .error _ _
  | case4 offset second rest point _ isCharacter induction =>
      rw [closed_cons, closed_cons, scanBlockBody, if_neg isCharacter]
      exact induction.extend (by simp only [List.length_cons]; omega) _
  | case5 offset character rest notEnd notEscape unpaired induction =>
      by_cases marked : character = '\uffff'
      · obtain rfl := eq_nil_of_unpaired unpaired marked
        subst marked
        exact .error _ _
      · rw [closed_cons, scanBlockBody]
        · exact induction.extend (by simp only [List.length_cons]; omega) _
        · exact fun more isQuote =>
            @not_starts_closed ['"', '"'] rest (by decide) (notEnd · isQuote) more
        · exact fun more isBackslash =>
            @not_starts_closed ['"', '"', '"'] rest (by decide) (notEscape · isBackslash) more
        · exact fun _ _ same => absurd same marked
  | case6 => exact .error _ _

/-! ### Tokens -/

private theorem scanLexeme_string {rest : List Char}
    (notBlock : ∀ body, rest ≠ '"' :: '"' :: body) :
    scanLexeme '"' rest = scanStringBody 1 0 rest >>= fun scanned =>
      pure {
        token := some (.string { text := String.ofList scanned.1, isBlock := false })
        width := scanned.2
      } := by
  unfold scanLexeme
  rw [if_neg (by decide), if_neg (by decide), show Punctuator.ofChar? '"' = none from rfl]
  dsimp only
  rw [if_neg (by decide), if_neg (by decide)]
  split
  case h_2 => exact (notBlock _ rfl).elim
  case h_3 => rfl
  case h_6 notQuote _ _ _ _ => exact (notQuote rfl).elim
  all_goals contradiction

private theorem scanLexeme_mark (rest : List Char) :
    ∃ fault, scanLexeme '\uffff' rest = .error fault := by
  cases rest with
  | nil => exact ⟨_, rfl⟩
  | cons second more =>
      by_cases isSurrogate : (marked second).isSurrogate
      · exact ⟨_, if_pos isSurrogate⟩
      · exact ⟨_, if_neg isSurrogate⟩

private theorem scanLexeme_unexpected {first : Char} {rest : List Char}
    (meant : ¬isIgnored first) (notHash : ¬(first == '#'))
    (noMark : Punctuator.ofChar? first = none) (notNumber : ¬(first.isDigit || first == '-'))
    (notName : ¬isNameStart first) (notString : first ≠ '"')
    (notSpread : ∀ more, first = '.' → rest ≠ '.' :: '.' :: more) :
    ∃ fault, scanLexeme first rest = .error fault := by
  by_cases marked : first = '\uffff'
  · rw [marked]
    exact scanLexeme_mark rest
  · unfold scanLexeme
    rw [if_neg meant, if_neg notHash, noMark]
    dsimp only
    rw [if_neg notNumber, if_neg notName]
    split
    case h_1 => exact (notSpread _ rfl rfl).elim
    case h_2 | h_3 => exact (notString rfl).elim
    case h_5 => exact (marked rfl).elim
    all_goals exact ⟨_, rfl⟩

private theorem scanLexeme_closed {first : Char} (other : first ≠ '#') (rest : List Char) :
    Follows id (fun lexeme => lexeme.width ≤ rest.length + 1) (scanLexeme first (closed rest))
      (scanLexeme first rest) := by
  fun_cases scanLexeme first rest with
  | case1 first rest ignored =>
      unfold scanLexeme
      rw [if_pos ignored]
      exact .ok rfl (Nat.le_add_left _ _)
  | case2 first rest _ isHash => exact absurd (beq_iff_eq.mp isHash) other
  | case3 first rest meant notHash mark isMark =>
      unfold scanLexeme
      rw [if_neg meant, if_neg notHash, isMark]
      exact .ok rfl (Nat.le_add_left _ _)
  | case4 first rest meant notHash noMark isNumber =>
      unfold scanLexeme
      rw [if_neg meant, if_neg notHash, noMark]
      dsimp only
      rw [if_pos isNumber]
      exact scanNumber_closed (first :: rest)
  | case5 first rest meant notHash noMark notNumber isName name =>
      unfold scanLexeme
      rw [if_neg meant, if_neg notHash, noMark]
      dsimp only
      rw [if_neg notNumber, if_pos isName, takeWhile_closed rfl]
      exact .ok rfl (Nat.succ_le_succ (List.takeWhile_prefix isNamePart).length_le)
  | case6 rest => exact .ok rfl (by simp)
  | case7 body =>
      refine (scanBlockBody_closed 3 body).bind fun _ within => .ok rfl ?_
      simp only [List.length_cons]
      omega
  | case8 rest notBlock =>
      rw [scanLexeme_string (@not_starts_closed ['"', '"'] rest (by decide) notBlock)]
      refine (scanStringBody_closed 1 0 rest).bind fun _ within => .ok rfl ?_
      rw [Nat.add_comm]
      exact within
  | case9 => exact .error _ _
  | case10 | case11 =>
      obtain ⟨fault, scanned⟩ := scanLexeme_mark (closed (_ :: _))
      rw [scanned]
      exact .error _ _
  | case12 first rest meant notHash noMark notNumber notName notString _ notSpread =>
      have notSpreadClosed (more : List Char) (isDot : first = '.') :
          closed rest ≠ '.' :: '.' :: more :=
        @not_starts_closed ['.', '.'] rest (by decide) (fun more => notSpread more isDot) more
      obtain ⟨fault, scanned⟩ :=
        scanLexeme_unexpected meant notHash noMark notNumber notName notString notSpreadClosed
      rw [scanned]
      exact .error _ _

/-! ### Comments -/

private theorem commentWidth_le (text : List Char) : commentWidth text ≤ text.length := by
  fun_induction commentWidth text <;> simp_all

private theorem commentWidth_closed {text : List Char} (ends : commentWidth text < text.length) :
    commentWidth (closed text) = commentWidth text := by
  fun_induction commentWidth text with
  | case1 => cases ends
  | case2 second rest isSurrogate => rw [closed_cons, closed_cons, commentWidth, if_pos isSurrogate]
  | case3 second rest isCharacter induction =>
      rw [closed_cons, closed_cons, commentWidth, if_neg isCharacter, induction (by simp_all)]
  | case4 character rest unpaired isEnd =>
      rw [closed_cons, commentWidth, if_pos isEnd]
      rintro _ _ rfl
      cases isEnd
  | case5 character rest unpaired continues induction =>
      rw [closed_cons, commentWidth, if_neg continues, induction (by simpa using ends)]
      rintro _ _ marked
      rw [eq_nil_of_unpaired unpaired marked] at ends
      cases ends with
      | step ends => cases ends

/-- A comment that a text ends in goes on over characters behind the text. -/
def CommentsGoOn (text : List Char) : Prop :=
  ∀ rest, '#' :: rest <:+ text → commentWidth rest = rest.length →
    commentWidth (closed rest) = rest.length + 1

private theorem held_cases (point : CodePoint) :
    (∃ value, value ≠ '\uffff' ∧ point.held = [value]) ∨
      ∃ second, second ≠ '#' ∧ point.held = ['\uffff', second] := by
  cases point with
  | character value =>
      by_cases isMark : value = mark
      · exact .inr ⟨mark, by decide, by rw [CodePoint.held, if_pos isMark]; rfl⟩
      · exact .inl ⟨value, isMark, by rw [CodePoint.held, if_neg isMark]⟩
  | surrogate half =>
      refine .inr ⟨secondOf half, fun same => ?_, rfl⟩
      have number := toNat_secondOf half
      rw [same] at number
      have : '#'.toNat = 35 := rfl
      omega

private theorem commentWidth_closed_hold {points : List CodePoint}
    (toEnd : commentWidth (hold points) = (hold points).length) :
    commentWidth (closed (hold points)) = (hold points).length + 1 := by
  induction points with
  | nil => rfl
  | cons point points induction =>
      rw [hold, List.flatMap_cons, ← hold] at toEnd ⊢
      obtain ⟨value, plain, isHeld⟩ | ⟨second, -, isHeld⟩ := held_cases point
      · have width (rest : List Char) : commentWidth (value :: rest) =
            if isLineEnd value then 0 else commentWidth rest + 1 := by
          rw [commentWidth]
          exact fun _ _ marked => absurd marked plain
        rw [isHeld, List.singleton_append, closed_cons, width]
        rw [isHeld, List.singleton_append, width] at toEnd
        split at toEnd
        · cases toEnd
        · next continues =>
            rw [if_neg continues, induction (Nat.succ.inj toEnd), List.length_cons]
      · rw [isHeld, List.cons_append, List.singleton_append, closed_cons, closed_cons, commentWidth]
        rw [isHeld, List.cons_append, List.singleton_append, commentWidth] at toEnd
        split at toEnd
        · cases toEnd
        · next isCharacter =>
            rw [if_neg isCharacter, induction (Nat.add_right_cancel toEnd), List.length_cons,
              List.length_cons]

private theorem exists_points_of_hash {points : List CodePoint} {rest : List Char}
    (suffix : '#' :: rest <:+ hold points) : ∃ others, rest = hold others := by
  induction points with
  | nil => cases List.suffix_nil.mp suffix
  | cons point points induction =>
      rw [hold, List.flatMap_cons, ← hold] at suffix
      obtain ⟨value, -, isHeld⟩ | ⟨second, other, isHeld⟩ := held_cases point
      · rw [isHeld] at suffix
        obtain same | suffix := List.suffix_cons_iff.mp suffix
        · exact ⟨points, (List.cons.inj same).2⟩
        · exact induction suffix
      · rw [isHeld] at suffix
        obtain same | suffix := List.suffix_cons_iff.mp suffix
        · exact absurd (List.cons.inj same).1 (by decide)
        · obtain same | suffix := List.suffix_cons_iff.mp suffix
          · exact absurd (List.cons.inj same).1.symm other
          · exact induction suffix

theorem commentsGoOn_hold (points : List CodePoint) : CommentsGoOn (hold points) := by
  intro rest suffix toEnd
  obtain ⟨others, rfl⟩ := exists_points_of_hash suffix
  exact commentWidth_closed_hold toEnd

/--
Does a text end in a comment? The number counts characters that still belong to the lexeme before.
-/
def endsInComment : Nat → List Char → Bool
  | _, [] => false
  | used + 1, _ :: rest => endsInComment used rest
  | 0, first :: rest =>
      first == '#' && commentWidth rest == rest.length ||
        match scanLexeme first rest with
        | .error _ => false
        | .ok lexeme => endsInComment (lexeme.width - 1) rest

private theorem endsInComment_hash (rest : List Char) :
    endsInComment 0 ('#' :: rest) =
      (commentWidth rest == rest.length || endsInComment (commentWidth rest) rest) := by
  rw [endsInComment, beq_self_eq_true, Bool.true_and]
  change (_ || endsInComment (1 + commentWidth rest - 1) rest) = _
  rw [Nat.add_sub_cancel_left]

theorem TokenStream.list?_token (head : Token) (position : Nat) (rest : TokenStream) :
    (TokenStream.token head position rest).list? = rest.list?.map (head :: ·) := by
  cases complete : rest.isComplete <;> simp [list?, isComplete, held, complete]

private theorem list?_tokensFrom_of_le {text : List Char} {used : Nat} (short : text.length ≤ used)
    (position : Nat) : (tokensFrom position used text).list? = some [] := by
  induction text generalizing position used with
  | nil => rw [tokensFrom]; rfl
  | cons first rest induction =>
      cases used with
      | zero => cases short
      | succ used => exact induction (Nat.le_of_succ_le_succ short) (position + 1)

theorem list?_tokensFrom_closed {text : List Char} (goOn : CommentsGoOn text) {used : Nat}
    (within : used ≤ text.length) (position other : Nat) :
    (tokensFrom position used (closed text)).list? =
      (tokensFrom other used text).list?.map
        (· ++ if endsInComment used text then [] else [.punctuator .braceClose]) := by
  induction text generalizing used position other with
  | nil =>
      obtain rfl := Nat.le_zero.mp within
      rfl
  | cons first rest induction =>
      have goOnRest : CommentsGoOn rest := fun more suffix =>
        goOn more (suffix.trans (List.suffix_cons first rest))
      cases used with
      | succ used => exact induction goOnRest (Nat.le_of_succ_le_succ within) _ _
      | zero =>
          -- Only a comment can take the brace with it; any other lexeme fits into the text.
          by_cases isHash : first = '#'
          · subst isHash
            rw [closed_cons, tokensFrom_hash, tokensFrom_hash, endsInComment_hash]
            by_cases toEnd : commentWidth rest = rest.length
            · rw [goOn rest (List.suffix_refl _) toEnd, toEnd, beq_self_eq_true, Bool.true_or,
                if_pos rfl, list?_tokensFrom_of_le (Nat.le_of_eq (length_closed rest)),
                list?_tokensFrom_of_le (Nat.le_refl _)]
              rfl
            · have ends := Nat.lt_of_le_of_ne (commentWidth_le rest) toEnd
              rw [commentWidth_closed ends, beq_eq_false_iff_ne.mpr toEnd, Bool.false_or]
              exact induction goOnRest (Nat.le_of_lt ends) _ _
          · rw [closed_cons, tokensFrom, tokensFrom, endsInComment, beq_eq_false_iff_ne.mpr isHash,
              Bool.false_and, Bool.false_or]
            have follows := scanLexeme_closed isHash rest
            generalize scanLexeme first (closed rest) = bracedLexeme at follows
            generalize scanLexeme first rest = lexeme at follows
            cases follows with
            | error fault other => rfl
            | @ok braced lexeme same fits =>
                obtain rfl : braced = lexeme := same
                have step := induction goOnRest (Nat.sub_le_iff_le_add.mpr fits) (position + 1)
                  (other + 1)
                obtain ⟨token, width⟩ := braced
                cases token with
                | none => exact step
                | some token =>
                    simp only [TokenStream.list?_token, step, Option.map_map]
                    rfl

end FederationSplit.Syntax
