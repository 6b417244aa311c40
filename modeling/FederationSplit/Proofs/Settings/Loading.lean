import FederationSplit.Settings.Config
import Mathlib.Data.List.Basic

namespace FederationSplit.Settings.Config

variable {config changed : Config} {key : String} {value : Json} {error : LoadError}
  {members : List (String × Json)}

def misfit? (α : Type) [Choice α] (value : Json) : Option LoadError :=
  match Choice.ofJson? α value with
  | some _ => none
  | none => some (.invalidChoice { value, title := Choice.title α })

/-- Why a member cannot be set. -/
def refusal? (key : String) (value : Json) : Option LoadError :=
  match key with
  | "marker_selection" => misfit? MarkerSelection value
  | "collision_policy" => misfit? CollisionPolicy value
  | "empty_entity_policy" => misfit? EmptyEntityPolicy value
  | "input_kind" => misfit? InputKind value
  | "federation_url" | "__weakref__" => some (.notSettable key)
  | "__class__" => some (.unfitValue key)
  | "__dict__" =>
      match value with
      | .object _ => none
      | _ => some (.unfitValue key)
  | _ => none

/-- Why the first member that cannot be set cannot be. -/
def firstRefusal? (members : List (String × Json)) : Option LoadError :=
  members.findSome? fun (key, value) => refusal? key value

theorem firstRefusal?_cons (key : String) (value : Json) (rest : List (String × Json)) :
    firstRefusal? ((key, value) :: rest) = (refusal? key value).or (firstRefusal? rest) := by
  rw [firstRefusal?, List.findSome?_cons]
  dsimp only
  cases refusal? key value <;> rfl

theorem choice_bind_eq_error_iff {α : Type} [Choice α] {change : α → Config} :
    (choice α value >>= fun option => pure (change option)) = .error error ↔
      misfit? α value = some error := by
  rw [misfit?, choice, Choice.ofJson]
  cases Choice.ofJson? α value <;>
    simp [Except.mapError, bind, Except.bind, pure, Except.pure]

theorem throw_eq_error_iff {refusal : LoadError} :
    (throw refusal : Except LoadError Config) = .error error ↔ some refusal = some error := by
  rw [Option.some.injEq]
  exact Except.error.injEq refusal error ▸ Iff.rfl

theorem pure_eq_error_iff :
    (pure config : Except LoadError Config) = .error error ↔
      (none : Option LoadError) = some error := by
  simp [pure, Except.pure]

theorem setOption_eq_error_iff :
    config.setOption key value = .error error ↔ refusal? key value = some error := by
  fun_cases setOption config key value
  case case2 | case3 | case4 | case5 => exact choice_bind_eq_error_iff
  case case11 | case12 | case13 => exact throw_eq_error_iff
  case case15 noObject =>
    have refused : refusal? "__dict__" value = some (.unfitValue "__dict__") := by
      cases value <;> first | rfl | exact (noObject _ rfl).elim
    rw [refused, throw_eq_error_iff]
  case case16 => simp [refusal?, pure, Except.pure, *]
  all_goals exact pure_eq_error_iff

def setOptions (config : Config) (members : List (String × Json)) : Except LoadError Config :=
  members.foldlM (fun config (key, value) => config.setOption key value) config

theorem setOptions_cons (config : Config) (key : String) (value : Json)
    (rest : List (String × Json)) :
    config.setOptions ((key, value) :: rest) =
      config.setOption key value >>= fun changed => changed.setOptions rest :=
  List.foldlM_cons

theorem setOptions_eq_error_iff :
    config.setOptions members = .error error ↔ firstRefusal? members = some error := by
  induction members generalizing config with
  | nil => exact ⟨nofun, nofun⟩
  | cons member rest induction =>
      obtain ⟨key, value⟩ := member
      rw [setOptions_cons, firstRefusal?_cons]
      cases refused : refusal? key value with
      | some refusal =>
          rw [setOption_eq_error_iff.mpr refused]
          exact throw_eq_error_iff
      | none =>
          cases set : config.setOption key value with
          | error refusal =>
              rw [setOption_eq_error_iff, refused] at set
              cases set
          | ok changed => exact induction

theorem ofMembers_eq_error_iff :
    ofMembers members = .error error ↔ firstRefusal? members = some error :=
  setOptions_eq_error_iff

/-- The keys of members that are no options and can yet end the loading or replace all options. -/
def specialKeys : List String := ["federation_url", "__weakref__", "__class__", "__dict__"]

/-- The value of a key, which the last of its members has. -/
def lastValue? (key : String) (members : List (String × Json)) : Option Json :=
  members.reverse.lookup key

theorem lastValue?_concat (key other : String) (value : Json) (members : List (String × Json)) :
    lastValue? key (members ++ [(other, value)]) =
      if key = other then some value else lastValue? key members := by
  rw [lastValue?, List.reverse_concat, List.lookup_cons]
  by_cases same : key = other
  · rw [if_pos same, same, beq_self_eq_true]
  · rw [if_neg same, beq_eq_false_iff_ne.mpr same]
    rfl

/-- Options are what the members of an object, none of them special, make of them. -/
structure Reflects (members : List (String × Json)) (config : Config) : Prop where
  name : config.serviceName = (lastValue? "service_name" members).getD default.serviceName
  output : config.output =
    ((lastValue? "output" members).map outputOfJson).getD default.output
  checked : config.unchecked = []

theorem Reflects.default : Reflects [] default where
  name := rfl
  output := rfl
  checked := rfl

theorem Reflects.output_ne_absent (reflects : Reflects members config) :
    config.output ≠ .absent := by
  rw [reflects.output]
  cases lastValue? "output" members with
  | none => exact nofun
  | some value => cases value <;> exact nofun

/-- A member that sets neither the name nor the output leaves them as they are. -/
theorem Reflects.concat (reflects : Reflects members config) (otherName : "service_name" ≠ key)
    (otherOutput : "output" ≠ key) (name : changed.serviceName = config.serviceName)
    (output : changed.output = config.output) (checked : changed.unchecked = []) :
    Reflects (members ++ [(key, value)]) changed where
  name := by rw [name, lastValue?_concat, if_neg otherName, reflects.name]
  output := by rw [output, lastValue?_concat, if_neg otherOutput, reflects.output]
  checked := checked

theorem reflects_of_choice {α : Type} [Choice α] {change : α → Config}
    (set : (choice α value >>= fun option => pure (change option)) = .ok changed)
    (reflects : ∀ option, Reflects members (change option)) : Reflects members changed := by
  cases chosen : choice α value with
  | error error =>
      rw [chosen] at set
      cases set
  | ok option =>
      rw [chosen] at set
      cases set
      exact reflects option

theorem Reflects.setOption (reflects : Reflects members config) (plain : key ∉ specialKeys)
    (set : config.setOption key value = .ok changed) :
    Reflects (members ++ [(key, value)]) changed := by
  have checked := reflects.checked
  revert set
  fun_cases Config.setOption config key value
  case case2 | case3 | case4 | case5 =>
    refine fun set => reflects_of_choice set fun option => ?_
    refine reflects.concat (by decide) (by decide) rfl rfl ?_
    rw [withChecked, checked]
    rfl
  case case6 =>
    intro set
    cases set
    exact
      { name := by rw [lastValue?_concat, if_pos rfl]; rfl
        output := by rw [lastValue?_concat, if_neg (by decide), ← reflects.output]
        checked }
  case case8 absent _ => exact absurd absent reflects.output_ne_absent
  case case9 =>
    intro set
    cases set
    exact
      { name := by rw [lastValue?_concat, if_neg (by decide), ← reflects.name]
        output := by rw [lastValue?_concat, if_pos rfl]; rfl
        checked }
  case case11 | case12 | case13 | case14 | case15 => exact absurd (by decide) plain
  case case16 =>
    intro set
    cases set
    exact reflects.concat (Ne.symm ‹_›) (Ne.symm ‹_›) rfl rfl checked
  all_goals
    intro set
    cases set
    exact reflects.concat (by decide) (by decide) rfl rfl checked

theorem Reflects.setOptions {more : List (String × Json)} (reflects : Reflects members config)
    (plain : ∀ member ∈ more, member.1 ∉ specialKeys)
    (set : config.setOptions more = .ok changed) : Reflects (members ++ more) changed := by
  induction more generalizing members config with
  | nil =>
      cases set
      rwa [List.append_nil]
  | cons member rest induction =>
      obtain ⟨key, value⟩ := member
      rw [List.forall_mem_cons] at plain
      rw [setOptions_cons] at set
      cases first : config.setOption key value with
      | error error =>
          rw [first] at set
          cases set
      | ok between =>
          rw [first] at set
          rw [List.append_cons]
          exact induction (reflects.setOption plain.1 first) plain.2 set

theorem reflects_of_ofMembers (plain : ∀ member ∈ members, member.1 ∉ specialKeys)
    (loaded : ofMembers members = .ok config) : Reflects members config :=
  Reflects.default.setOptions plain loaded

/-- The value that counts as the name of the service is no text. -/
def UnfitName (members : List (String × Json)) : Prop :=
  ∃ value, lastValue? "service_name" members = some value ∧ ∀ text, value ≠ .string text

def UnfitOutput (members : List (String × Json)) : Prop :=
  ∃ value, lastValue? "output" members = some value ∧ ∀ inner, value ≠ .object inner

theorem Reflects.serviceName?_eq_none_iff (reflects : Reflects members config) :
    config.serviceName? = none ↔ UnfitName members := by
  rw [serviceName?, reflects.name, UnfitName]
  cases lastValue? "service_name" members with
  | none => simp [Config.default]
  | some value => cases value <;> simp

theorem Reflects.output_iff (reflects : Reflects members config) :
    (∀ validateBeforeWrite atomicWrite,
      config.output ≠ .options validateBeforeWrite atomicWrite) ↔ UnfitOutput members := by
  rw [reflects.output, UnfitOutput]
  cases lastValue? "output" members with
  | none => simp [Config.default]
  | some value => cases value <;> simp [outputOfJson]

theorem refusal?_of_plain (plain : key ∉ specialKeys) (refused : refusal? key value = some error) :
    ∃ invalid, error = .invalidChoice invalid := by
  have reported {α : Type} [Choice α] (misfit : misfit? α value = some error) :
      ∃ invalid, error = .invalidChoice invalid := by
    unfold misfit? at misfit
    split at misfit <;> cases misfit
    exact ⟨_, rfl⟩
  revert refused
  fun_cases refusal? key value
  case case1 | case2 | case3 | case4 => exact reported
  case case5 | case6 | case7 | case8 | case9 => exact absurd (by decide) plain
  case case10 => exact nofun

theorem firstRefusal?_of_plain (plain : ∀ member ∈ members, member.1 ∉ specialKeys)
    (refused : firstRefusal? members = some error) : ∃ invalid, error = .invalidChoice invalid := by
  obtain ⟨member, listed, refused⟩ := List.exists_of_findSome?_eq_some refused
  exact refusal?_of_plain (plain member listed) refused

end FederationSplit.Settings.Config
