import FederationSplit.CommandLine.Command
import FederationSplit.Proofs.Text.EscapeSequences
import Mathlib.Logic.Function.Basic

namespace FederationSplit.CommandLine

open FederationSplit.Text

namespace WorkflowCommand

theorem replaceEach_append (character : Char) (replacement front back : List Char) :
    replaceEach character replacement (front ++ back) =
      replaceEach character replacement front ++ replaceEach character replacement back :=
  List.flatMap_append

theorem replaceEach_of_ne {character other : Char} (different : other ≠ character)
    (replacement : List Char) : replaceEach character replacement [other] = [other] := by
  rw [replaceEach, List.flatMap_singleton, if_neg different]

theorem encode_append (front back : List Char) :
    encode (front ++ back) = encode front ++ encode back := by
  simp only [encode, replaceEach_append]

theorem encode_singleton (character : Char) : encode [character] = escapeCharacter character := by
  unfold escapeCharacter
  split
  · rfl
  · rfl
  · rfl
  · next noMark noReturn noFeed =>
      rw [encode, replaceEach_of_ne noMark, replaceEach_of_ne noReturn, replaceEach_of_ne noFeed]

/-- The replacements, one after the other, come to one scan of the message. -/
theorem encode_eq_flatMap (message : List Char) :
    encode message = message.flatMap escapeCharacter := by
  induction message with
  | nil => rfl
  | cons character rest induction =>
      calc
        encode (character :: rest) = encode [character] ++ encode rest :=
          encode_append [character] rest
        _ = escapeCharacter character ++ rest.flatMap escapeCharacter := by
          rw [encode_singleton, induction]

theorem decode_escapeCharacter_append (character : Char) (rest : List Char) :
    decode (escapeCharacter character ++ rest) = character :: decode rest := by
  unfold escapeCharacter
  split
  · rfl
  · rfl
  · rfl
  · next noMark _ _ =>
      rw [List.singleton_append, decode]
      all_goals exact fun _ isMark _ => noMark isMark

theorem decode_encode_append (message rest : List Char) :
    decode (encode message ++ rest) = message ++ decode rest := by
  rw [encode_eq_flatMap]
  induction message with
  | nil => rfl
  | cons character following induction =>
      rw [List.flatMap_cons, List.append_assoc, decode_escapeCharacter_append, induction,
        List.cons_append]

theorem decode_encode (message : List Char) : decode (encode message) = message := by
  have read := decode_encode_append message []
  rwa [List.append_nil, decode, List.append_nil] at read

theorem mem_escapeCharacter {character part : Char} (member : part ∈ escapeCharacter character) :
    (part = character ∧ isLineEnd part = false) ∨ part ∈ ['%', '2', '5', '0', 'D', 'A'] := by
  unfold escapeCharacter at member
  split at member
  · exact .inr ((by decide : ['%', '2', '5'] ⊆ _) member)
  · exact .inr ((by decide : ['%', '0', 'D'] ⊆ _) member)
  · exact .inr ((by decide : ['%', '0', 'A'] ⊆ _) member)
  · next _ noReturn noFeed =>
      obtain rfl := List.mem_singleton.mp member
      exact .inl ⟨rfl, Bool.or_eq_false_iff.mpr
        ⟨beq_eq_false_iff_ne.mpr noFeed, beq_eq_false_iff_ne.mpr noReturn⟩⟩

theorem mem_encode {message : List Char} {character : Char} (member : character ∈ encode message) :
    (character ∈ message ∧ isLineEnd character = false) ∨
      character ∈ ['%', '2', '5', '0', 'D', 'A'] := by
  rw [encode_eq_flatMap] at member
  obtain ⟨source, listed, written⟩ := List.mem_flatMap.mp member
  rcases mem_escapeCharacter written with ⟨rfl, noEnd⟩ | inEscape
  · exact .inl ⟨listed, noEnd⟩
  · exact .inr inEscape

theorem isLineEnd_of_mem_encode {message : List Char} {character : Char}
    (member : character ∈ encode message) : isLineEnd character = false := by
  rcases mem_encode member with ⟨_, noEnd⟩ | inEscape
  · exact noEnd
  · have noneEnds : ['%', '2', '5', '0', 'D', 'A'].any isLineEnd = false := by decide
    exact Bool.eq_false_iff.mpr (List.any_eq_false.mp noneEnds character inEscape)

theorem toList_error (message : String) :
    (error message).toList = "::error::".toList ++ encode message.toList := by
  rw [error, String.toList_append, @String.toList_ofList (encode _)]

theorem isLineEnd_of_mem_error {message : String} {character : Char}
    (member : character ∈ (error message).toList) : isLineEnd character = false := by
  rw [toList_error, List.mem_append] at member
  rcases member with spelled | encoded
  · have noneEnds : "::error::".toList.any isLineEnd = false := by decide
    exact Bool.eq_false_iff.mpr (List.any_eq_false.mp noneEnds character spelled)
  · exact isLineEnd_of_mem_encode encoded

theorem error_injective : Function.Injective error := by
  intro message other same
  rw [error, error, String.append_right_inj] at same
  have read := congrArg decode (String.ofList_injective same)
  rw [decode_encode, decode_encode] at read
  exact String.toList_inj.mp read

/--
A message is announced behind the name of the command, character by character and on one line, and
is read back from there. So no two messages are announced alike.
-/
theorem error_readBack :
    Function.Injective error ∧
      ∀ message : String, ∃ data : List Char,
        error message = "::error::" ++ String.ofList data ∧
        data = message.toList.flatMap escapeCharacter ∧
        '\r' ∉ (error message).toList ∧ '\n' ∉ (error message).toList ∧
        decode data = message.toList := by
  refine ⟨error_injective, fun message => ⟨encode message.toList, rfl, encode_eq_flatMap _, ?_, ?_,
    decode_encode _⟩⟩
  · intro returns
    cases isLineEnd_of_mem_error returns
  · intro feeds
    cases isLineEnd_of_mem_error feeds

example : error "%0A\n" = "::error::%250A%0A" := by decide

end WorkflowCommand

/--
A run that fails for a workflow runner prints one line, from which the message is read back unless
escape sequences have been left out of it.
-/
theorem standardOutput_of_failure {environment : Environment} {outcome : Outcome}
    {failure : Failure} (wanted : wantsCommands environment = true)
    (failed : outcome.ending = .error (.failure failure)) :
    ∃ data : List Char,
      (outcome.standardOutput environment).toList = "::error::".toList ++ (data ++ ['\n']) ∧
      (∀ character ∈ data, isLineEnd character = false) ∧
      ('\x1b' ∉ failure.message.toList →
        WorkflowCommand.decode data = failure.message.toList) := by
  have printed : outcome.standardOutput environment =
      withoutEscapeSequences (WorkflowCommand.error failure.message ++ "\n") := by
    simp only [Outcome.standardOutput, failed, workflowCommand?, wanted, if_true, Option.getD_some]
  refine ⟨dropEscapeSequences (WorkflowCommand.encode failure.message.toList), ?_, ?_, ?_⟩
  · have name : '\x1b' ∉ "::error::".toList := by decide
    rw [printed, withoutEscapeSequences, String.toList_ofList, String.toList_append,
      WorkflowCommand.toList_error, List.append_assoc, dropEscapeSequences_append name]
    exact congrArg _ (dropEscapeSequences_lineFeed _)
  · intro character member
    exact WorkflowCommand.isLineEnd_of_mem_encode (dropEscapeSequences_subset _ member)
  · intro plain
    have noEscape : '\x1b' ∉ WorkflowCommand.encode failure.message.toList := by
      intro member
      rcases WorkflowCommand.mem_encode member with ⟨inMessage, _⟩ | inEscape
      · exact plain inMessage
      · exact absurd inEscape (by decide)
    rw [dropEscapeSequences_eq_self noEscape, WorkflowCommand.decode_encode]

end FederationSplit.CommandLine
