import FederationSplit.Text.Uppercase

namespace FederationSplit.Text

/--
The characters beyond ASCII whose upper case is in ASCII: the sharp s, the dotless i, the long s and
the Latin ligatures.
-/
def asciiUppercased : List Char :=
  ['\u00df', '\u0131', '\u017f', '\ufb00', '\ufb01', '\ufb02', '\ufb03', '\ufb04', '\ufb05',
    '\ufb06']

private theorem isLower_iff (character : Char) :
    character.isLower = true ↔ 0x61 ≤ character.toNat ∧ character.toNat ≤ 0x7A := by
  change (decide ('a' ≤ character) && decide (character ≤ 'z')) = true ↔ _
  rw [Bool.and_eq_true, decide_eq_true_eq, decide_eq_true_eq]
  exact .rfl

private theorem toNat_ofNat {code : Nat} (valid : code.isValidChar) :
    (Char.ofNat code).toNat = code := by
  rw [Char.ofNat, dif_pos valid]
  rfl

private theorem expandingCases_entries :
    ∀ entry ∈ expandingCases, 0x80 ≤ entry.1 ∧
      (∀ code ∈ entry.2, (Char.ofNat code).isLower = false) ∧
      (Char.ofNat entry.1 ∈ asciiUppercased ∨
        ∃ code ∈ entry.2, 0x80 ≤ (Char.ofNat code).toNat) := by
  decide

/--
A run leads from the small letters of ASCII to its capitals, or from one of two single letters to
another, or from beyond ASCII to characters beyond it.
-/
private theorem caseRuns_ranges :
    ∀ run ∈ caseRuns,
      (run.first = 0x61 ∧ run.last = 0x7A ∧ run.offset = -32) ∨
        (run.first = run.last ∧ Char.ofNat run.first ∈ asciiUppercased ∧
          (Char.ofNat (run.first + run.offset).toNat).isLower = false) ∨
        (0x80 ≤ run.first ∧ 0x80 ≤ run.first + run.offset ∧
          (run.last + run.offset < 0xD800 ∨
            0xE000 ≤ run.first + run.offset ∧ run.last + run.offset < 0x110000)) := by
  decide +kernel

private inductive Source (character : Char) : List Char → Prop
  | entry (codes : List Nat) (listed : (character.toNat, codes) ∈ expandingCases) :
      Source character (codes.map Char.ofNat)
  | ascii (small : character.isLower = true) :
      Source character [Char.ofNat (character.toNat - 32)]
  | single (code : Nat) (listed : character ∈ asciiUppercased)
      (capital : (Char.ofNat code).isLower = false) : Source character [Char.ofNat code]
  | beyond (code : Nat) (small : 0x80 ≤ character.toNat) (valid : code.isValidChar)
      (capital : 0x80 ≤ code) : Source character [Char.ofNat code]
  | itself (other : character.isLower = false) : Source character [character]

private theorem source_of_run {character : Char} {run : CaseRun} (member : run ∈ caseRuns)
    (contains : run.contains character.toNat = true) :
    Source character [Char.ofNat (character.toNat + run.offset).toNat] := by
  simp only [CaseRun.contains, Bool.and_eq_true, decide_eq_true_eq] at contains
  obtain ⟨⟨first, last⟩, -⟩ := contains
  rcases caseRuns_ranges run member with ⟨fromA, toZ, offset⟩ | ⟨alone, listed, capital⟩ |
    ⟨beyond, beyondCapital, valid⟩
  · have back : (character.toNat + run.offset).toNat = character.toNat - 32 := by omega
    rw [back]
    exact .ascii ((isLower_iff _).mpr ⟨by omega, by omega⟩)
  · obtain same : run.first = character.toNat := by omega
    rw [same, Char.ofNat_toNat] at listed
    rw [same] at capital
    exact .single _ listed capital
  · refine .beyond _ (by omega) ?_ (by omega)
    unfold Nat.isValidChar
    omega

private theorem source_upperCase (character : Char) : Source character (upperCase character) := by
  unfold upperCase
  dsimp only
  split
  · next codes found =>
      obtain ⟨front, back, table, -⟩ := List.lookup_eq_some_iff.mp found
      exact .entry codes (by rw [table]; exact List.mem_append_right _ (List.mem_cons_self))
  · split
    · next run found =>
        have contains : run.contains character.toNat = true := by
          simpa using List.find?_some found
        exact source_of_run (List.mem_of_find?_eq_some found) contains
    · next missing =>
        -- The small letters of ASCII are in the first run.
        refine .itself (Bool.eq_false_iff.mpr fun small => ?_)
        have outside : CaseRun.contains ⟨0x61, 0x7A, 1, -32⟩ character.toNat ≠ true :=
          List.find?_eq_none.mp missing _ List.mem_cons_self
        simp [CaseRun.contains, (isLower_iff character).mp small, Nat.mod_one] at outside

theorem isLower_of_mem_upperCase {character part : Char} (member : part ∈ upperCase character) :
    part.isLower = false := by
  have source := source_upperCase character
  generalize upperCase character = parts at source member
  cases source with
  | entry codes listed =>
      obtain ⟨code, codeMember, rfl⟩ := List.mem_map.mp member
      exact (expandingCases_entries _ listed).2.1 code codeMember
  | ascii small =>
      obtain rfl := List.mem_singleton.mp member
      obtain ⟨-, last⟩ := (isLower_iff character).mp small
      rw [Bool.eq_false_iff, ne_eq, isLower_iff, toNat_ofNat (.inl (by omega))]
      omega
  | single code listed capital =>
      obtain rfl := List.mem_singleton.mp member
      exact capital
  | beyond code small valid capital =>
      obtain rfl := List.mem_singleton.mp member
      rw [Bool.eq_false_iff, ne_eq, isLower_iff, toNat_ofNat valid]
      omega
  | itself other =>
      obtain rfl := List.mem_singleton.mp member
      exact other

theorem upperCase_of_ascii {character : Char} (ascii : character.toNat < 0x80) :
    upperCase character =
      if character.isLower then [Char.ofNat (character.toNat - 32)] else [character] := by
  have source := source_upperCase character
  generalize upperCase character = parts at source
  cases source with
  | entry codes listed =>
      exact absurd ascii (Nat.not_lt.mpr (expandingCases_entries _ listed).1)
  | ascii small => rw [if_pos small]
  | single code listed capital =>
      have beyond : (asciiUppercased.all fun letter => 0x80 ≤ letter.toNat) = true := by decide
      have here := of_decide_eq_true (List.all_eq_true.mp beyond character listed)
      exact absurd ascii (Nat.not_lt.mpr here)
  | beyond code small valid capital => exact absurd ascii (Nat.not_lt.mpr small)
  | itself other => rw [other, if_neg Bool.false_ne_true]

/-- The upper case of a character is in ASCII if the character is, or if it is one of those few. -/
theorem upperCase_ascii_iff (character : Char) :
    (∀ part ∈ upperCase character, part.toNat < 0x80) ↔
      character.toNat < 0x80 ∨ character ∈ asciiUppercased := by
  constructor
  · intro ascii
    have source := source_upperCase character
    generalize upperCase character = parts at source ascii
    cases source with
    | entry codes listed =>
        rcases (expandingCases_entries _ listed).2.2 with isFew | ⟨code, codeMember, beyond⟩
        · exact .inr (Char.ofNat_toNat character ▸ isFew)
        · exact absurd (ascii _ (List.mem_map_of_mem codeMember)) (Nat.not_lt.mpr beyond)
    | ascii small =>
        exact .inl (Nat.lt_of_le_of_lt ((isLower_iff character).mp small).2 (by decide))
    | single code listed capital => exact .inr listed
    | beyond code small valid capital =>
        have least := ascii _ List.mem_cons_self
        rw [toNat_ofNat valid] at least
        omega
    | itself other => exact .inl (ascii _ List.mem_cons_self)
  · rintro (ascii | isFew)
    · rw [upperCase_of_ascii ascii]
      split
      · rw [List.forall_mem_singleton, toNat_ofNat (.inl (by omega))]
        omega
      · exact List.forall_mem_singleton.mpr ascii
    · have few : (asciiUppercased.all fun letter =>
          (upperCase letter).all fun part => part.toNat < 0x80) = true := by
        decide
      have here := List.all_eq_true.mp few character isFew
      exact fun part member => of_decide_eq_true (List.all_eq_true.mp here part member)

end FederationSplit.Text
