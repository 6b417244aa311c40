import FederationSplit.Proofs.Generation.Writing
import FederationSplit.Proofs.Syntax.Comments

namespace FederationSplit.Generation

open FederationSplit.Syntax
open FederationSplit.Schema
open FederationSplit.Federation
open FederationSplit.Settings
open FederationSplit.Text

namespace Generator

/-- The same generator, which writes a comment above the schema or does not. -/
def commenting (generator : Generator) (isCommented : Bool) : Generator :=
  { generator with
    config := { generator.config with addGenerationComment := .boolean isCommented } }

/-- What is written above a schema if a comment is. -/
def comment (generator : Generator) (commandLine : String) : String :=
  trimRight (header programVersion commandLine generator.config.federationUrl) ++ "\n\n"

end Generator

def commentOpening : String :=
  "# Generated by " ++ programName ++ " v" ++ programVersion ++ " : "

def versionOpening : String :=
  "# Federation subgraph schema (" ++ "https://specs.apollo.dev/federation/"

def commentLines (commandLine version : String) : List Char :=
  commentOpening.toList ++ (commandLine.toList ++ '\n' ::
    (versionOpening.toList ++ (version ++ ")").toList))

theorem header_eq (commandLine version : String) :
    header programVersion commandLine ("https://specs.apollo.dev/federation/" ++ version) =
      commentOpening ++ (commandLine ++ ("\n" ++ (versionOpening ++ (version ++ ")")))) ++
        "\n" := by
  have ending : ")\n" = ")" ++ "\n" := by decide
  unfold header commentOpening versionOpening
  simp only [String.append_assoc, toString, ending]

theorem toList_trimRight {text : String} {front : List Char}
    (ends : text.toList = front ++ [')'] ++ ['\n']) : (trimRight text).toList = front ++ [')'] := by
  have feed : isBlank '\n' = true := by decide
  have bracket : isBlank ')' = false := by decide
  simp [trimRight, ends, feed, bracket]

theorem toList_comment (generator : Generator) (commandLine : String) :
    (generator.comment commandLine).toList =
      commentLines commandLine generator.config.federationVersion.inText ++ ['\n'] ++ ['\n'] := by
  have feed : "\n".toList = ['\n'] := by decide
  have feeds : "\n\n".toList = ['\n', '\n'] := by decide
  have bracket : ")".toList = [')'] := by decide
  have written : (header programVersion commandLine generator.config.federationUrl).toList =
      (commentOpening.toList ++ (commandLine.toList ++ '\n' ::
        (versionOpening.toList ++ generator.config.federationVersion.inText.toList))) ++ [')'] ++
          ['\n'] := by
    unfold Config.federationUrl
    simp only [header_eq, String.toList_append, feed, bracket, List.append_assoc, List.cons_append,
      List.nil_append]
  rw [Generator.comment, String.toList_append, toList_trimRight written, feeds, commentLines]
  simp only [String.toList_append, bracket, List.append_assoc, List.cons_append, List.nil_append]

/-- A line that is opened by the mark of a comment goes on inside the comment. -/
private theorem isSilent_opening {opening : String}
    (marked : opening.toList = '#' :: opening.toList.tail)
    (plain : opening.toList.tail.all
      (fun character => !isLineEnd character && character != '\uffff') = true)
    (following : List Char) :
    isSilent false (opening.toList ++ following) = isSilent true following := by
  rw [marked, List.cons_append, isSilent_hash, isSilent_append_inside plain]

theorem isSilent_commentLines_iff (commandLine version : String) :
    isSilent false (commentLines commandLine version) = true ↔
      ContinuesComment commandLine ∧ ContinuesComment (version ++ ")") := by
  rw [commentLines, isSilent_opening (by decide) (by decide), isSilent_append_line,
    isSilent_opening (by decide) (by decide), Bool.and_eq_true,
    isSilent_iff_continuesComment, isSilent_iff_continuesComment]

theorem addsNothing_comment_iff (generator : Generator) (commandLine : String) :
    AddsNothing (generator.comment commandLine) ↔
      ContinuesComment commandLine ∧
        ContinuesComment (generator.config.federationVersion.inText ++ ")") := by
  rw [← isSilent_commentLines_iff, ← String.ofList_toList (s := generator.comment commandLine),
    toList_comment, addsNothing_iff, isSilent_append_line]
  simp only [isSilent, Bool.and_true]

private theorem header_isEmpty (commandLine version : String) :
    (header programVersion commandLine
      ("https://specs.apollo.dev/federation/" ++ version)).isEmpty = false := by
  have opening : commentOpening ≠ "" := by decide
  rw [header_eq, Bool.eq_false_iff, Ne, String.isEmpty_iff]
  simp [opening]

theorem generate_commenting (generator : Generator) (source commandLine : String) :
    (generator.commenting true).generate source commandLine =
      (generator.comment commandLine ++ ·) <$>
        (generator.commenting false).generate source commandLine := by
  have below (schema : SchemaDocument) :
      schema.printBelow ((generator.commenting true).headerFor commandLine) =
        generator.comment commandLine ++
          schema.printBelow ((generator.commenting false).headerFor commandLine) := by
    change schema.printBelow (header _ _ generator.config.federationUrl) = _ ++ schema.print
    unfold SchemaDocument.printBelow Config.federationUrl
    rw [header_isEmpty, if_neg Bool.false_ne_true]
    rfl
  change (generator.subgraph source >>= fun schema => _) =
    _ <$> (generator.subgraph source >>= fun schema => _)
  cases generator.subgraph source with
  | error error => rfl
  | ok schema => exact congrArg Except.ok (below schema)

/--
A schema is generated with the comment whenever it is without, and only the comment is put above.
The comment consists of comment tokens only, and the schema below it is read as it is without it, if
the command line and the version stay inside the comment; otherwise it adds to some texts.
-/
theorem comment_outcomes (generator : Generator) (commandLine : String) :
    (∀ source, (generator.commenting true).generate source commandLine =
      (generator.comment commandLine ++ ·) <$>
        (generator.commenting false).generate source commandLine) ∧
      (AddsNothing (generator.comment commandLine) ↔
        ContinuesComment commandLine ∧
          ContinuesComment (generator.config.federationVersion.inText ++ ")")) ∧
      (AddsNothing (generator.comment commandLine) →
        ∀ text, ReadAlike (generator.comment commandLine ++ text) text) :=
  ⟨fun source => generate_commenting generator source commandLine,
    addsNothing_comment_iff generator commandLine,
    fun adds text => readAlike_of_tokens (adds text)⟩

/-- The brace in a new line of the command line is met before any text behind the comment. -/
theorem outcome_behind_brace (generator : Generator) (text : String) :
    outcome Document.withoutOrigins
        (Document.parse (generator.comment "cups\n\x7d" ++ text)) =
      .error (.unexpected (some (.punctuator .braceClose))) := by
  have silent : isSilent false (commentOpening.toList ++ ['c', 'u', 'p', 's']) = true := by
    rw [isSilent_opening (by decide) (by decide)]
    rfl
  have line : "cups\n\x7d".toList = ['c', 'u', 'p', 's', '\n', '\x7d'] := by decide
  obtain ⟨rest, split⟩ : ∃ rest, (generator.comment "cups\n\x7d" ++ text).toList =
      commentOpening.toList ++ ['c', 'u', 'p', 's'] ++ '\n' :: '\x7d' :: rest := by
    rw [String.toList_append, toList_comment, commentLines, line]
    exact ⟨_, by simp only [List.append_assoc, List.cons_append, List.nil_append]; rfl⟩
  have alike : (tokens (generator.comment "cups\n\x7d" ++ text)).Alike
      (tokens (String.ofList ('\x7d' :: rest))) := by
    rw [tokens, tokens, split, String.toList_ofList]
    exact tokensFrom_of_isSilent silent _ 0
  rw [show outcome _ _ = _ from readAlike_of_tokens alike, Document.parse, tokens,
    String.toList_ofList]
  rfl

theorem not_readAlike_hidingSource :
    ∃ plain, (plainGenerator.commenting false).generate hidingSource "cups\n\x7d" = .ok plain ∧
      (∃ document, Document.parse plain = .ok document) ∧
      ∃ commented, (plainGenerator.commenting true).generate hidingSource "cups\n\x7d" =
        .ok commented ∧ ¬ReadAlike commented plain := by
  have generated : (plainGenerator.commenting false).generate hidingSource "cups\n\x7d" =
      .ok hidingSubgraph.print :=
    Generator.generate_ok_iff.mpr ⟨hidingSubgraph, subgraph_hidingSource, rfl⟩
  obtain ⟨document, parsed, -⟩ := readsBack_hidingSubgraph
  have commented := (comment_outcomes plainGenerator "cups\n\x7d").1 hidingSource
  rw [generated] at commented
  refine ⟨_, generated, ⟨document, parsed⟩, _, commented, fun alike => ?_⟩
  rw [ReadAlike, outcome_behind_brace, parsed] at alike
  cases alike

end FederationSplit.Generation
