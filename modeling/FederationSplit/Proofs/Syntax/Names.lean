import FederationSplit.Proofs.Syntax.Reading
import FederationSplit.Proofs.Syntax.Runs
import FederationSplit.Syntax.Printer
import Mathlib.Data.List.TakeWhile

namespace FederationSplit.Syntax

def isName (text : String) : Bool :=
  match text.toList with
  | [] => false
  | first :: rest => isNameStart first && rest.all isNamePart

theorem isName_ofList_cons (first : Char) (rest : List Char) :
    isName (String.ofList (first :: rest)) = (isNameStart first && rest.all isNamePart) := by
  rw [isName, String.toList_ofList]

theorem toNat_lt_of_isNamePart {character : Char} (part : isNamePart character = true) :
    character.toNat < 0x80 := by
  change (((decide ('A' ≤ character ∧ character ≤ 'Z') ||
    (decide ('a' ≤ character) && decide (character ≤ 'z'))) ||
    (decide ('0' ≤ character) && decide (character ≤ '9'))) || character == '_') = true at part
  simp only [Bool.or_eq_true, Bool.and_eq_true, decide_eq_true_eq, beq_iff_eq] at part
  rcases part with ((⟨-, capital⟩ | ⟨-, small⟩) | ⟨-, digit⟩) | rfl
  · exact Nat.lt_of_le_of_lt capital (by decide)
  · exact Nat.lt_of_le_of_lt small (by decide)
  · exact Nat.lt_of_le_of_lt digit (by decide)
  · decide

theorem isNamePart_of_isNameStart {character : Char} (start : isNameStart character = true) :
    isNamePart character = true := by
  simp only [isNameStart, isNamePart, Char.isAlphanum, Bool.or_eq_true] at start ⊢
  exact start.imp_left .inl

@[elab_as_elim]
theorem of_ascii {motive : Char → Prop} {character : Char} (ascii : character.toNat < 0x80)
    (all : ∀ code < 0x80, motive (Char.ofNat code)) : motive character :=
  Char.ofNat_toNat character ▸ all character.toNat ascii

private theorem others_of_isNameStart {first : Char} (start : isNameStart first = true) :
    isIgnored first = false ∧ (first == '#') = false ∧ Punctuator.ofChar? first = none ∧
      (first.isDigit || first == '-') = false := by
  have ascii := toNat_lt_of_isNamePart (isNamePart_of_isNameStart start)
  revert start
  refine of_ascii ascii ?_
  decide

theorem scanLexeme_of_isNameStart {first : Char} (start : isNameStart first = true)
    (rest : List Char) :
    scanLexeme first rest = .ok {
      token := some (.name (String.ofList (first :: rest.takeWhile isNamePart)))
      width := (rest.takeWhile isNamePart).length + 1 } := by
  obtain ⟨meant, noComment, noMark, noNumber⟩ := others_of_isNameStart start
  simp only [scanLexeme, meant, noComment, noMark, noNumber, start, List.length_cons, reduceIte,
    Bool.false_eq_true]

private theorem tokensFrom_length (position : Nat) (text : List Char) :
    tokensFrom position text.length text = .finish (position + text.length) := by
  induction text generalizing position with
  | nil => rfl
  | cons first rest induction =>
      rw [List.length_cons, tokensFrom, induction, Nat.add_assoc, Nat.add_comm 1]

/-- A name is cut into one token. -/
theorem tokens_of_isName {text : String} (named : isName text = true) :
    tokens text = .token (.name text) 0 (.finish text.toList.length) := by
  unfold isName at named
  split at named
  · cases named
  · next first rest written =>
      rw [Bool.and_eq_true] at named
      have whole : rest.takeWhile isNamePart = rest :=
        List.takeWhile_eq_self_iff.mpr fun part member => List.all_eq_true.mp named.2 part member
      rw [tokens, written, tokensFrom, scanLexeme_of_isNameStart named.1, whole]
      dsimp only
      rw [Nat.add_sub_cancel, tokensFrom_length, ← written, String.ofList_toList, written,
        List.length_cons, Nat.zero_add, Nat.add_comm]

/-- A token whose text is a name, if it has to be one. -/
def Token.IsSpelled : Token → Prop
  | .name text => isName text = true
  | _ => True

theorem all_isSpelled_tokens (text : String) : (tokens text).All Token.IsSpelled := by
  refine all_tokensFrom (fun first rest lexeme scanned token found => ?_) _ _ _
  cases token with
  | name text =>
      obtain ⟨start, rfl⟩ := name_of_scanLexeme scanned found
      have parts : (rest.takeWhile isNamePart).all isNamePart = true :=
        List.all_takeWhile
      exact (isName_ofList_cons _ _).trans (by rw [start, parts]; rfl)
  | punctuator | int | float | string => trivial

namespace Parser

variable {α : Type} {parser : Parser α} {text : String} {result : α}

def ReadsAs (parser : Parser α) (text : String) (result : α) : Prop :=
  ∃ stop, parser (tokens text).length (tokens text) = .ok (result, .finish stop)

theorem ReadsAs.holds {property : α → Prop} (done : ReadsAs parser text result)
    (reads : Reads Token.IsSpelled property parser) : property result :=
  done.elim fun _ same => (reads _ _ (all_isSpelled_tokens text) _ _ same).1

theorem readsAs_of_isName (named : isName text = true)
    (runs : Runs true parser [.name text] fun read left => read = result ∧ left = []) :
    ReadsAs parser text result := by
  have outcome := runs (tokens text).length (tokens text)
    (by rw [tokens_of_isName named]; rfl) (by rw [tokens_of_isName named]; rfl)
    (fun _ => by rw [tokens_of_isName named]; exact ⟨rfl, Nat.le_refl _⟩)
  generalize done : parser (tokens text).length (tokens text) = ran at outcome
  cases outcome with
  | error error unsure => cases unsure
  | @ok read rest sound complete fewer holds =>
      obtain ⟨rfl, used⟩ := holds
      cases rest with
      | finish stop => exact ⟨stop, done⟩
      | fault => cases sound
      | token => cases used

end Parser

def constantWords : List Name :=
  ["true", "false", "null"]

private theorem runs_valueOf_name (isConstant : Bool) (nested : Parser Value) {text : Name}
    (free : text ∉ constantWords) :
    Parser.Runs true (Parser.valueOf isConstant nested) [.name text]
      fun read left => read = .enum text ∧ left = [] := by
  simp only [constantWords, List.mem_cons, List.not_mem_nil, or_false, not_or] at free
  refine .bind (Parser.runs_peek ?_)
  split
  case h_7 found _ _ _ same =>
    cases same
    exact .bind (Parser.runs_advance (.pure ⟨rfl, rfl⟩))
  all_goals simp_all

/-- The print of an enumeration value is read as this value exactly if it is a name. -/
theorem readsAs_enum_iff (isConstant : Bool) (depth : Nat) {text : Name}
    (free : text ∉ constantWords) :
    Parser.ReadsAs (Parser.valueWithin isConstant depth) (Value.enum text).print (.enum text) ↔
      isName text = true := by
  constructor
  · exact fun done => done.holds (Parser.reads_valueWithin isConstant depth)
  · intro named
    refine Parser.readsAs_of_isName named ?_
    cases depth <;> exact runs_valueOf_name isConstant _ free

/-- A text declares a value of an enumeration of its own name exactly if it is a name. -/
theorem readsAs_enumValueName_iff {text : Name} (free : text ∉ constantWords) :
    Parser.ReadsAs Parser.enumValueName text text ↔ isName text = true := by
  constructor
  · exact fun done => done.holds Parser.reads_enumValueName
  · intro named
    simp only [constantWords, List.mem_cons, List.not_mem_nil, or_false, not_or] at free
    refine Parser.readsAs_of_isName named (.bind (Parser.runs_peek (.ite (fun isConstant => ?_)
      fun _ => ?_)))
    · simp [Token.text?, free] at isConstant
    · exact Parser.runs_name (fun _ => ⟨text, rfl⟩) fun _ _ same => by cases same; exact ⟨rfl, rfl⟩

end FederationSplit.Syntax
