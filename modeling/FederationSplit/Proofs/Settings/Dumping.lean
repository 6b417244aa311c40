import FederationSplit.Proofs.Settings.Loading
import Mathlib.Data.List.Nodup

namespace FederationSplit.Settings.Config

variable {config changed : Config} {key : String} {value : Json}
  {members : List (String × Json)}

def optionKeys : List String :=
  ["federation_version", "marker_selection", "collision_policy", "empty_entity_policy",
    "input_kind", "service_name", "add_generation_comment", "output"]

/-- The keys of members that are no options and yet change what is loaded or dumped. -/
def interferingKeys : List String := "to_dict" :: specialKeys

theorem mem_of_lastValue? (found : lastValue? key members = some value) :
    (key, value) ∈ members := by
  obtain ⟨front, back, same, -⟩ := List.lookup_eq_some_iff.mp found
  rw [← List.mem_reverse, same]
  exact List.mem_append_right _ List.mem_cons_self

theorem lastValue?_eq_some_iff (distinct : (members.map (·.1)).Nodup) :
    lastValue? key members = some value ↔ (key, value) ∈ members := by
  refine ⟨mem_of_lastValue?, fun member => ?_⟩
  cases found : lastValue? key members with
  | none =>
      have absent := List.lookup_eq_none_iff.mp found (key, value) (List.mem_reverse.mpr member)
      simp at absent
  | some other =>
      have same := List.inj_on_of_nodup_map distinct (mem_of_lastValue? found) member rfl
      rw [(Prod.mk.inj same).2]

theorem lastValue?_of_perm {more others : List (String × Json)}
    (same : others.Perm (members ++ more)) (distinct : (others.map (·.1)).Nodup)
    (absent : ∀ member ∈ more, member.1 ≠ key) :
    lastValue? key others = lastValue? key members := by
  have distinctMembers : (members.map (·.1)).Nodup := by
    have all := (same.map (·.1)).nodup_iff.mp distinct
    rw [List.map_append] at all
    exact all.of_append_left
  ext value
  rw [lastValue?_eq_some_iff distinct, lastValue?_eq_some_iff distinctMembers, same.mem_iff,
    List.mem_append, or_iff_left]
  exact fun member => absent _ member rfl

def chosen {α : Type} [Choice α] (key : String) (fallback : α) (members : List (String × Json)) :
    α :=
  ((lastValue? key members).bind (Choice.ofJson? α)).getD fallback

/-- The options that the values of the keys of an object tell. -/
def ofLastValues (members : List (String × Json)) : Config where
  federationVersion := (lastValue? "federation_version" members).getD default.federationVersion
  markerSelection := chosen "marker_selection" default.markerSelection members
  collisionPolicy := chosen "collision_policy" default.collisionPolicy members
  emptyEntityPolicy := chosen "empty_entity_policy" default.emptyEntityPolicy members
  inputKind := chosen "input_kind" default.inputKind members
  serviceName := (lastValue? "service_name" members).getD default.serviceName
  addGenerationComment :=
    (lastValue? "add_generation_comment" members).getD default.addGenerationComment
  output := ((lastValue? "output" members).map outputOfJson).getD default.output
  unchecked := []
  hidesDump := false

theorem ofLastValues_congr {others : List (String × Json)}
    (same : ∀ key ∈ optionKeys, lastValue? key others = lastValue? key members) :
    ofLastValues others = ofLastValues members := by
  simp only [optionKeys, List.forall_mem_cons] at same
  obtain ⟨version, marker, collision, empty, kind, name, comment, output, -⟩ := same
  simp only [ofLastValues, chosen, version, marker, collision, empty, kind, name, comment, output]

theorem output_ofLastValues_ne_absent : (ofLastValues members).output ≠ .absent := by
  rw [ofLastValues]
  cases lastValue? "output" members with
  | none => exact nofun
  | some value => cases value <;> exact nofun

theorem eq_of_choice {α : Type} [Choice α] {change : α → Config}
    (set : (choice α value >>= fun option => pure (change option)) = .ok changed) :
    ∃ option, Choice.ofJson? α value = some option ∧ changed = change option := by
  rw [choice, Choice.ofJson] at set
  cases named : Choice.ofJson? α value with
  | none =>
      rw [named] at set
      cases set
  | some option =>
      rw [named] at set
      cases set
      exact ⟨option, rfl, rfl⟩

theorem setOption_ofLastValues (plain : key ∉ interferingKeys)
    (set : (ofLastValues members).setOption key value = .ok changed) :
    changed = ofLastValues (members ++ [(key, value)]) := by
  revert set
  fun_cases setOption (ofLastValues members) key value
  case case2 | case3 | case4 | case5 =>
    intro set
    obtain ⟨option, named, rfl⟩ := eq_of_choice set
    simp [ofLastValues, chosen, lastValue?_concat, named, withChecked]
  case case8 absent _ => exact absurd absent output_ofLastValues_ne_absent
  case case10 | case11 | case12 | case13 | case14 | case15 => exact absurd (by decide) plain
  case case16 =>
    intro set
    cases set
    have absent : key ∉ optionKeys := by
      simp only [optionKeys, List.mem_cons, List.not_mem_nil, or_false, not_or]
      and_intros <;> assumption
    refine (ofLastValues_congr fun other member => ?_).symm
    have other : other ≠ key := fun same => absent (same ▸ member)
    rw [lastValue?_concat, if_neg other]
  all_goals
    intro set
    cases set
    simp [ofLastValues, chosen, lastValue?_concat]

theorem setOptions_ofLastValues {more : List (String × Json)}
    (plain : ∀ member ∈ more, member.1 ∉ interferingKeys)
    (set : (ofLastValues members).setOptions more = .ok changed) :
    changed = ofLastValues (members ++ more) := by
  induction more generalizing members with
  | nil =>
      cases set
      rw [List.append_nil]
  | cons member rest induction =>
      obtain ⟨key, value⟩ := member
      rw [List.forall_mem_cons] at plain
      rw [setOptions_cons] at set
      cases first : (ofLastValues members).setOption key value with
      | error error =>
          rw [first] at set
          cases set
      | ok between =>
          rw [first, setOption_ofLastValues plain.1 first] at set
          rw [List.append_cons]
          exact induction plain.2 set

private theorem eq_ofLastValues (plain : ∀ member ∈ members, member.1 ∉ interferingKeys)
    (loaded : ofMembers members = .ok config) : config = ofLastValues members := by
  have set : (ofLastValues []).setOptions members = .ok config := loaded
  exact setOptions_ofLastValues plain set

theorem ofMembers_eq_ok_iff (plain : ∀ member ∈ members, member.1 ∉ interferingKeys) :
    ofMembers members = .ok config ↔
      (∀ member ∈ members, refusal? member.1 member.2 = none) ∧
        config = ofLastValues members := by
  have accepted : (∀ member ∈ members, refusal? member.1 member.2 = none) ↔
      firstRefusal? members = none := List.findSome?_eq_none_iff.symm
  rw [accepted]
  constructor
  · intro loaded
    refine ⟨Option.eq_none_iff_forall_ne_some.mpr fun error refused => ?_, ?_⟩
    · rw [← ofMembers_eq_error_iff, loaded] at refused
      cases refused
    · exact eq_ofLastValues plain loaded
  · rintro ⟨unrefused, rfl⟩
    cases loaded : ofMembers members with
    | error error =>
        rw [ofMembers_eq_error_iff, unrefused] at loaded
        cases loaded
    | ok config =>
        exact congrArg Except.ok (eq_ofLastValues plain loaded)

def dumpedMembers (config : Config) (validateBeforeWrite atomicWrite : Json) :
    List (String × Json) :=
  [("federation_version", config.federationVersion),
    ("marker_selection", .string (Choice.word config.markerSelection)),
    ("collision_policy", .string (Choice.word config.collisionPolicy)),
    ("empty_entity_policy", .string (Choice.word config.emptyEntityPolicy)),
    ("input_kind", .string (Choice.word config.inputKind)),
    ("service_name", config.serviceName),
    ("add_generation_comment", config.addGenerationComment),
    ("output", .object
      [("validate_before_write", validateBeforeWrite), ("atomic_write", atomicWrite)])]

/-- The word of an option names it. -/
class LawfulChoice (α : Type) [Choice α] : Prop where
  ofJson?_word : ∀ option : α, Choice.ofJson? α (.string (Choice.word option)) = some option

instance : LawfulChoice MarkerSelection := ⟨by rintro ⟨⟩ <;> rfl⟩

instance : LawfulChoice CollisionPolicy := ⟨by rintro ⟨⟩ <;> rfl⟩

instance : LawfulChoice EmptyEntityPolicy := ⟨by rintro ⟨⟩ <;> rfl⟩

instance : LawfulChoice InputKind := ⟨by rintro ⟨⟩ <;> rfl⟩

theorem ofLastValues_dumpedMembers {validateBeforeWrite atomicWrite : Json}
    (output : config.output = .options validateBeforeWrite atomicWrite)
    (checked : config.unchecked = []) (shown : config.hidesDump = false) :
    ofLastValues (dumpedMembers config validateBeforeWrite atomicWrite) = config := by
  cases config
  simp only at output checked shown
  subst output checked shown
  simp [ofLastValues, chosen, dumpedMembers, lastValue?, List.lookup_cons, outputOfJson,
    Json.member?, LawfulChoice.ofJson?_word]

theorem ofMembers_dumpedMembers {validateBeforeWrite atomicWrite : Json}
    (output : config.output = .options validateBeforeWrite atomicWrite)
    (checked : config.unchecked = []) (shown : config.hidesDump = false) :
    ofMembers (dumpedMembers config validateBeforeWrite atomicWrite) = .ok config := by
  have keys : (dumpedMembers config validateBeforeWrite atomicWrite).map (·.1) = optionKeys := rfl
  have plain : ∀ key ∈ optionKeys, key ∉ interferingKeys := by decide
  rw [ofMembers_eq_ok_iff fun member listed =>
    plain _ (keys ▸ List.mem_map_of_mem (f := (·.1)) listed)]
  refine ⟨?accepted, (ofLastValues_dumpedMembers output checked shown).symm⟩
  case accepted => simp [dumpedMembers, refusal?, misfit?, LawfulChoice.ofJson?_word]

theorem refusal?_of_unknown (unknown : key ∉ optionKeys ++ interferingKeys) :
    refusal? key value = none := by
  revert unknown
  fun_cases refusal? key value
  case case10 => exact fun _ => rfl
  all_goals exact fun unknown => absurd (by decide) unknown

/-- The order of the members of an object does not count, nor do members of unknown keys. -/
theorem ofMembers_of_perm {more others : List (String × Json)}
    (plain : ∀ member ∈ members, member.1 ∉ interferingKeys)
    (loaded : ofMembers members = .ok config)
    (unknown : ∀ member ∈ more, member.1 ∉ optionKeys ++ interferingKeys)
    (same : others.Perm (members ++ more)) (distinct : (others.map (·.1)).Nodup) :
    ofMembers others = .ok config := by
  obtain ⟨accepted, rfl⟩ := (ofMembers_eq_ok_iff plain).mp loaded
  have all {property : String × Json → Prop} (old : ∀ member ∈ members, property member)
      (new : ∀ member ∈ more, property member) : ∀ member ∈ others, property member :=
    fun member listed => List.forall_mem_append.mpr ⟨old, new⟩ member (same.mem_iff.mp listed)
  refine (ofMembers_eq_ok_iff (all plain ?_)).mpr ⟨all accepted ?_, ?_⟩
  · exact fun member listed interferes =>
      unknown member listed (List.mem_append_right optionKeys interferes)
  · exact fun member listed => refusal?_of_unknown (unknown member listed)
  · refine (ofLastValues_congr fun key isOption => ?_).symm
    refine lastValue?_of_perm same distinct fun member listed named => ?_
    exact unknown member listed (List.mem_append_left _ (named ▸ isOption))

/--
Options that are loaded from an object can be dumped, with one member for each of them, and the dump
is loaded as the same options. The object may stand in any order and have members of unknown keys.
-/
theorem ofMembers_toJson (plain : ∀ member ∈ members, member.1 ∉ interferingKeys)
    (output : ∀ value, ("output", value) ∈ members → ∃ inner, value = .object inner)
    (loaded : ofMembers members = .ok config) :
    ∃ dumped, config.toJson = .ok (.object dumped) ∧
      dumped.map (·.1) = optionKeys ∧
      ofMembers dumped = .ok config ∧
      (∀ again, ofMembers dumped = .ok again → again.toJson = .ok (.object dumped)) ∧
      ∀ more others : List (String × Json),
        (∀ member ∈ more, member.1 ∉ optionKeys ++ interferingKeys) →
        others.Perm (members ++ more) → (others.map (·.1)).Nodup →
        ofMembers others = .ok config := by
  obtain ⟨-, told⟩ := (ofMembers_eq_ok_iff plain).mp loaded
  obtain ⟨validateBeforeWrite, atomicWrite, options⟩ :
      ∃ validateBeforeWrite atomicWrite,
        config.output = .options validateBeforeWrite atomicWrite := by
    rw [told, ofLastValues]
    cases found : lastValue? "output" members with
    | none => exact ⟨_, _, rfl⟩
    | some value =>
        obtain ⟨inner, rfl⟩ := output value (mem_of_lastValue? found)
        exact ⟨_, _, rfl⟩
  have checked : config.unchecked = [] := told ▸ rfl
  have shown : config.hidesDump = false := told ▸ rfl
  have dumps : config.toJson =
      .ok (.object (dumpedMembers config validateBeforeWrite atomicWrite)) := by
    rw [toJson, shown, checked, options]
    rfl
  have reloaded := ofMembers_dumpedMembers options checked shown
  refine ⟨_, dumps, rfl, reloaded, ?again, fun more others => ofMembers_of_perm plain loaded⟩
  case again =>
    intro again loadedAgain
    rw [reloaded] at loadedAgain
    exact Except.ok.inj loadedAgain ▸ dumps

def notedMembers : List (String × Json) :=
  [("input_kind", .string "service"), ("note", .null),
    ("output", .object [("atomic_write", .boolean false)]), ("service_name", .integer 5)]

theorem reloads_notedMembers :
    ∃ config dumped, ofMembers notedMembers = .ok config ∧
      config.inputKind = .service ∧
      config.output = .options (.boolean true) (.boolean false) ∧
      config.toJson = .ok (.object dumped) ∧ ofMembers dumped = .ok config ∧
      ofMembers (("comment", .boolean true) :: notedMembers.reverse) = .ok config := by
  have loaded : ofMembers notedMembers = .ok _ := rfl
  obtain ⟨dumped, dumps, -, reloads, -, others⟩ :=
    ofMembers_toJson (by decide) (by simp [notedMembers]) loaded
  refine ⟨_, dumped, rfl, rfl, rfl, dumps, reloads, ?_⟩
  refine others [("comment", .boolean true)] _ (by decide) ?_ (by decide)
  exact (List.Perm.cons _ (List.reverse_perm _)).trans (List.perm_append_singleton _ _).symm

end FederationSplit.Settings.Config
