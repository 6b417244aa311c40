import FederationSplit.Proofs.Federation.Markers
import FederationSplit.Proofs.Schema.TypeNames
import FederationSplit.Proofs.Syntax.Names
import FederationSplit.Proofs.Text.Uppercase

namespace FederationSplit.Federation

open FederationSplit.Text
open FederationSplit.Syntax
open FederationSplit.Schema

/--
Is a code point no letter or digit, so that an underscore stands for it, or is its upper case in
ASCII?
-/
def isNameable : CodePoint → Bool
  | .character value =>
      value.toNat < 0x80 || !isAlphanumeric value || asciiUppercased.contains value
  | .surrogate _ => true

private theorem wordCharacter_of_isAlphanumeric {value : Char}
    (alphanumeric : isAlphanumeric value = true) : wordCharacter (.character value) = value := by
  rw [wordCharacter, alphanumeric, Bool.true_or, if_pos rfl]

private theorem wordCharacter_of_not_isAlphanumeric {value : Char}
    (other : isAlphanumeric value = false) : wordCharacter (.character value) = '_' := by
  rw [wordCharacter, other, Bool.false_or]
  split
  · next same => exact beq_iff_eq.mp same
  · rfl

private theorem isNamePart_of_isAlphanumeric {value : Char} (ascii : value.toNat < 0x80)
    (alphanumeric : isAlphanumeric value = true) : isNamePart value = true := by
  have ranges : ∀ range ∈ alphanumericRanges,
      0x80 ≤ range.1 ∨ range ∈ [(0x30, 0x39), (0x41, 0x5A), (0x61, 0x7A)] := by
    decide +kernel
  have early : ∃ range ∈ [(0x30, 0x39), (0x41, 0x5A), (0x61, 0x7A)],
      range.1 ≤ value.toNat ∧ value.toNat ≤ range.2 := by
    obtain ⟨range, listed, inside⟩ := List.any_eq_true.mp alphanumeric
    rw [Bool.and_eq_true, decide_eq_true_eq, decide_eq_true_eq] at inside
    exact ⟨range, (ranges range listed).resolve_left (by omega), inside⟩
  revert early
  refine of_ascii ascii ?_
  decide

private theorem isNamePart_of_mem_upperCase {value : Char} (namePart : isNamePart value = true) :
    ∀ part ∈ upperCase value, isNamePart part = true := by
  have ascii := toNat_lt_of_isNamePart namePart
  rw [upperCase_of_ascii ascii, ← List.all_eq_true]
  revert namePart
  refine of_ascii ascii ?_
  decide

private theorem isNamePart_upperCase_iff (point : CodePoint) :
    (∀ part ∈ upperCase (wordCharacter point), isNamePart part = true) ↔
      isNameable point = true := by
  have underscore : ∀ part ∈ upperCase '_', isNamePart part = true :=
    isNamePart_of_mem_upperCase rfl
  cases point with
  | surrogate half => exact ⟨fun _ => rfl, fun _ => underscore⟩
  | character value =>
      rw [isNameable, Bool.or_eq_true, Bool.or_eq_true, decide_eq_true_eq, Bool.not_eq_true',
        List.contains_iff_mem]
      by_cases alphanumeric : isAlphanumeric value = true
      · rw [wordCharacter_of_isAlphanumeric alphanumeric]
        constructor
        · intro parts
          have ascii := (upperCase_ascii_iff value).mp fun part member =>
            toNat_lt_of_isNamePart (parts part member)
          exact ascii.imp_left .inl
        · rintro ((ascii | other) | few)
          · exact isNamePart_of_mem_upperCase (isNamePart_of_isAlphanumeric ascii alphanumeric)
          · exact absurd (alphanumeric.symm.trans other) Bool.true_eq_false.mp
          · have all : (asciiUppercased.all fun letter =>
                (upperCase letter).all isNamePart) = true := by
              decide
            exact List.all_eq_true.mp (List.all_eq_true.mp all value few)
      · have other := Bool.eq_false_iff.mpr alphanumeric
        rw [wordCharacter_of_not_isAlphanumeric other]
        exact ⟨fun _ => .inl (.inr other), fun _ => underscore⟩

private theorem isNameStart_eq_isNamePart {character : Char} (other : isDigit character = false) :
    isNameStart character = isNamePart character := by
  have noDigit : character.isDigit = false := by
    rw [Bool.eq_false_iff] at other ⊢
    intro digit
    simp only [Char.isDigit, Bool.and_eq_true, decide_eq_true_eq, ge_iff_le,
      UInt32.le_iff_toNat_le] at digit
    exact other (List.any_eq_true.mpr ⟨(0x30, 0x39), List.mem_cons_self, by simpa using digit⟩)
  rw [isNameStart, isNamePart, Char.isAlphanum, noDigit, Bool.or_false]

private theorem isName_graphName_iff_parts (service : String) :
    isName (graphName service) = true ↔
      ∀ part ∈ (codePoints service.toList).flatMap fun point => upperCase (wordCharacter point),
        isNamePart part = true := by
  rw [graphName]
  generalize (codePoints service.toList).flatMap _ = name
  cases name with
  | nil => exact ⟨fun _ => List.forall_mem_nil _, fun _ => rfl⟩
  | cons first rest =>
      rw [← List.all_eq_true]
      dsimp only
      -- Behind an underscore, and where no digit leads, the first character is like all others.
      split
      · rw [isName_ofList_cons]
        rfl
      · next other =>
          rw [isName_ofList_cons, isNameStart_eq_isNamePart (Bool.eq_false_iff.mpr other),
            List.all_cons]

private theorem isLower_of_mem_graphName {service : String} {part : Char}
    (member : part ∈ (graphName service).toList) : part.isLower = false := by
  have upper : ∀ part ∈
      (codePoints service.toList).flatMap fun point => upperCase (wordCharacter point),
      part.isLower = false :=
    List.forall_mem_flatMap.mpr fun point _ part => isLower_of_mem_upperCase
  rw [graphName] at member
  generalize (codePoints service.toList).flatMap _ = name at upper member
  split at member
  · exact List.mem_singleton.mp member ▸ rfl
  · split at member <;> rw [String.toList_ofList] at member
    · rcases List.mem_cons.mp member with rfl | original
      · rfl
      · exact upper part original
    · exact upper part member

theorem graphName_notMem_constantWords (service : String) :
    graphName service ∉ constantWords := by
  have small : ∀ word ∈ constantWords, word.toList.any Char.isLower = true := by decide
  intro isConstant
  obtain ⟨part, member, isLower⟩ := List.any_eq_true.mp (small _ isConstant)
  exact Bool.false_ne_true ((isLower_of_mem_graphName member).symm.trans isLower)

theorem supergraph_graphs (service : String) (definitions : Definitions) :
    (supergraph service definitions).type? "join__Graph" = some (graphEnum service) :=
  findType?_setType (graphEnum service) _

private theorem mem_supergraph_types_cases (service : String) (definitions : Definitions) :
    ∀ type ∈ (supergraph service definitions).types,
      type ∈ supergraphTypes ++ [graphEnum service] ∨
        ∃ original ∈ definitions.types, composeType (graphName service) original = type :=
  forall_mem_foldl_setType (fun _ => .inl)
    (List.forall_mem_map.mpr fun original member => .inr ⟨original, member, rfl⟩)

/--
The graph of a service has a legal name exactly if every letter and digit of the service is in
ASCII, or is one of the few letters that have an upper case there. The name is declared by the one
value of the enumeration of graphs, and all markers that are added to the types of the service refer
to it; both are read again exactly if the name is legal.
-/
theorem isName_graphName_iff (service : String) (definitions : Definitions) :
    (isName (graphName service) = true ↔
        ∀ point ∈ codePoints service.toList, isNameable point = true) ∧
      (Parser.ReadsAs Parser.enumValueName (graphName service) (graphName service) ↔
        isName (graphName service) = true) ∧
      (Parser.ReadsAs (Parser.valueWithin true Parser.nestingLimit)
          (Value.enum (graphName service)).print (.enum (graphName service)) ↔
        isName (graphName service) = true) ∧
      (∃ graphs value, (supergraph service definitions).type? "join__Graph" = some graphs ∧
        graphs.body = .enum [value] ∧ value.name = graphName service) ∧
      ∀ type ∈ (supergraph service definitions).types,
        type ∈ supergraphTypes ++ [graphEnum service] ∨
          ∃ original ∈ definitions.types, ∃ markers,
            type.usages.Perm (withoutFederationUsages original.usages ++ markers) ∧
              ∀ usage ∈ markers, IsMarker (graphName service) usage := by
  have free := graphName_notMem_constantWords service
  refine ⟨?legal, readsAs_enumValueName_iff free, readsAs_enum_iff true _ free,
    ⟨graphEnum service, _, supergraph_graphs service definitions, rfl, rfl⟩, ?markers⟩
  case legal =>
    rw [isName_graphName_iff_parts, List.forall_mem_flatMap]
    exact forall₂_congr fun point _ => isNamePart_upperCase_iff point
  case markers =>
    intro type member
    refine (mem_supergraph_types_cases service definitions type member).imp_right ?_
    rintro ⟨original, originalMember, rfl⟩
    exact ⟨original, originalMember, _, usages_composeType (graphName service) original,
      isMarker_addedMarkers (graphName service) original⟩

example : graphName "caf\u00e9" = "CAF\u00c9" ∧ isName (graphName "caf\u00e9") = false := by
  decide

end FederationSplit.Federation
