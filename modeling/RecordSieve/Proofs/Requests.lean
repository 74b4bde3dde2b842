import RecordSieve.Proofs.Phases
import RecordSieve.Sieve.Request

/-!
# Sieves of Requests

A sieve is made of a request in three stages. The names of the presets are looked up, the texts of
the conditions are read, and the conditions are made into tests. Each stage goes through its list
from the front and stops at the first fault, and it begins only when the stage before it has found
none. So one fault outweighs another by its stage first, and by its place in the list after that. A
preset is no more than its texts: they may as well be written out in front of the others.

## Main definitions

* `Request.texts`: the texts of the conditions of a request;
* `Sieve.Serves`: a sieve asks some conditions in the way of a request;
* `Request.Becomes`: what becomes of a request, by the first stage that finds a fault;
* `Request.writtenOut`: a request with its presets written out;
* `MadeInStages`: what a request becomes, with presets and without.

## Main statements

* `Settings.presetConditions_eq_error_iff`, `Condition.parseAll_eq_error_iff`: how the first two
  stages fail;
* `Request.becomes_sieve`: a request becomes what its sieve is or fails with;
* `madeInStages`: every request is made into a sieve in stages.
-/

namespace RecordSieve

/-! ### Looking presets up -/

namespace Settings

variable {settings : Settings} {name : String} {names : List String} {failure : Failure}

/-- A preset has the name. -/
def HasPreset (settings : Settings) (name : String) : Prop :=
  ∃ texts, settings.presets.lookup name = some texts

/-- The texts of the preset with a name, none if there is no such preset. -/
def presetTexts (settings : Settings) (name : String) : List String :=
  (settings.presets.lookup name).getD []

/-- The texts of the preset with a name, or the failure that there is no such preset. -/
def preset (settings : Settings) (name : String) : Except Failure (List String) :=
  match settings.presets.lookup name with
  | some texts => .ok texts
  | none => .error (.unknownPreset name)

/-- The texts of presets are those of each name, one after the other. -/
theorem presetConditions_eq (settings : Settings) (names : List String) :
    settings.presetConditions names = (names.mapM settings.preset).map List.flatten := by
  show (names.mapM settings.preset >>= fun lists => pure lists.flatten) = _
  cases names.mapM settings.preset <;> rfl

/-- A preset that is known has its texts. -/
theorem preset_of_hasPreset (h : settings.HasPreset name) :
    settings.preset name = .ok (settings.presetTexts name) := by
  obtain ⟨texts, htexts⟩ := h
  simp [preset, presetTexts, htexts]

/-- A preset fails exactly if its name is unknown. -/
theorem preset_eq_error_iff :
    settings.preset name = .error failure ↔
      ¬ settings.HasPreset name ∧ failure = .unknownPreset name := by
  rw [preset, HasPreset]
  cases settings.presets.lookup name <;> simp [eq_comm]

/-- The presets that have texts are those that are known. -/
theorem exists_preset_iff :
    (∃ texts, settings.preset name = .ok texts) ↔ settings.HasPreset name := by
  rw [preset, HasPreset]
  cases settings.presets.lookup name <;> simp

/-- Presets that are all there give their texts, one list behind the other. -/
theorem presetConditions_of_hasPreset (h : ∀ name ∈ names, settings.HasPreset name) :
    settings.presetConditions names = .ok (names.flatMap settings.presetTexts) := by
  have hlists : names.mapM settings.preset = .ok (names.map settings.presetTexts) := by
    rw [mapM_eq_ok_iff, List.forall₂_map_right_iff, List.forall₂_same]
    intro name hname
    exact preset_of_hasPreset (h name hname)
  rw [presetConditions_eq, hlists, List.flatMap_def]
  rfl

/-- Looking presets up fails where looking up one of them does. -/
theorem presetConditions_eq_error_iff_mapM :
    settings.presetConditions names = .error failure ↔
      names.mapM settings.preset = .error failure := by
  rw [presetConditions_eq, map_eq_error_iff]

/-- Presets that give texts are all there. -/
theorem hasPreset_of_presetConditions {texts : List String}
    (h : settings.presetConditions names = .ok texts) :
    ∀ name ∈ names, settings.HasPreset name := by
  rcases hlists : names.mapM settings.preset with failure | lists
  · rw [presetConditions_eq_error_iff_mapM.2 hlists] at h
    cases h
  · intro name hname
    exact exists_preset_iff.1 (exists_mapM_eq_ok_iff.1 ⟨lists, hlists⟩ name hname)

/-- The first name that no preset has fails the whole list. -/
theorem presetConditions_eq_error_iff :
    settings.presetConditions names = .error failure ↔
      ∃ front name back, names = front ++ name :: back ∧
        (∀ known ∈ front, settings.HasPreset known) ∧ ¬ settings.HasPreset name ∧
          failure = .unknownPreset name := by
  simp only [presetConditions_eq_error_iff_mapM, mapM_eq_error_iff, exists_preset_iff,
    preset_eq_error_iff]

end Settings

/-! ### Reading texts -/

namespace Condition

variable {text : String} {texts : List String} {conditions : List Condition} {failure : Failure}

/-- The texts that are parsed are those that a condition is written by. -/
theorem exists_parse_iff : (∃ c, parse text = .ok c) ↔ ∃ c : Condition, c.WrittenBy text := by
  simp only [parse_eq_ok_iff_writtenBy]

/-- A text that writes no condition fails as it stands. -/
theorem parse_eq_error_iff :
    parse text = .error failure ↔
      (∀ c : Condition, ¬ c.WrittenBy text) ∧ failure = .notACondition text := by
  simp only [← parse_eq_ok_iff_writtenBy, parse]
  cases ofText? text <;> simp [eq_comm]

/-- A list of conditions is read from texts that write them, one by one. -/
theorem parseAll_eq_ok_iff :
    parseAll texts = .ok conditions ↔
      List.Forall₂ (fun text c => c.WrittenBy text) texts conditions := by
  simp only [parseAll, mapM_eq_ok_iff, parse_eq_ok_iff_writtenBy]

/-- The first text that writes no condition fails the whole list. -/
theorem parseAll_eq_error_iff :
    parseAll texts = .error failure ↔
      ∃ front text back, texts = front ++ text :: back ∧
        (∀ other ∈ front, ∃ c : Condition, c.WrittenBy other) ∧
          (∀ c : Condition, ¬ c.WrittenBy text) ∧ failure = .notACondition text := by
  simp only [parseAll, mapM_eq_error_iff, exists_parse_iff, parse_eq_error_iff]

end Condition

/-! ### Making sieves -/

/-- A sieve asks some conditions in the way of a request. -/
structure Sieve.Serves (sieve : Sieve) (request : Request) (settings : Settings)
    (conditions : List Condition) : Prop where
  conditions_eq : sieve.conditions = conditions
  /-- Every test is the one that is made of its condition. -/
  ofCondition_eq : ∀ test ∈ sieve.tests, Test.ofCondition test.condition = .ok test
  any_iff : sieve.aggregation = .any ↔ request.useOr = true ∨ settings.useOr = true
  reverse_iff : sieve.reverse = true ↔ request.reverse = true ∨ settings.reverse = true

namespace Request

variable {request : Request} {settings : Settings} {conditions : List Condition}
  {failure : Failure}

/-- The texts of the conditions of a request: those of the presets that it names, as often as it
names them, and then its own. -/
def texts (request : Request) (settings : Settings) : List String :=
  request.presets.flatMap settings.presetTexts ++ request.conditions

/-- What becomes of a request. -/
inductive Becomes (request : Request) (settings : Settings) : Except Failure Sieve → Prop
  /-- The first name that no preset has outweighs whatever else is wrong. -/
  | unknownPreset {front back : List String} {name : String} :
      request.presets = front ++ name :: back → (∀ known ∈ front, settings.HasPreset known) →
      ¬ settings.HasPreset name → Becomes request settings (.error (.unknownPreset name))
  /-- The first text that writes no condition outweighs whatever is wrong with conditions. -/
  | notACondition {front back : List String} {text : String} :
      (∀ name ∈ request.presets, settings.HasPreset name) →
      request.texts settings = front ++ text :: back →
      (∀ other ∈ front, ∃ c : Condition, c.WrittenBy other) →
      (∀ c : Condition, ¬ c.WrittenBy text) →
      Becomes request settings (.error (.notACondition text))
  /-- The first condition that is refused tells why. -/
  | refused {front back : List Condition} {condition : Condition} {failure : Failure} :
      (∀ name ∈ request.presets, settings.HasPreset name) →
      List.Forall₂ (fun text c => c.WrittenBy text) (request.texts settings)
        (front ++ condition :: back) →
      (∀ other ∈ front, ∀ cause, ¬ other.Refused cause) → condition.Refused failure →
      Becomes request settings (.error failure)
  /-- Without a fault there is a sieve. -/
  | sieve {conditions : List Condition} {sieve : Sieve} :
      (∀ name ∈ request.presets, settings.HasPreset name) →
      List.Forall₂ (fun text c => c.WrittenBy text) (request.texts settings) conditions →
      (∀ condition ∈ conditions, ∀ cause, ¬ condition.Refused cause) →
      sieve.Serves request settings conditions → Becomes request settings (.ok sieve)

/-- Failures of the presets are those of the conditions. -/
theorem conditionsWith_of_error (h : settings.presetConditions request.presets = .error failure) :
    request.conditionsWith settings = .error failure := by
  rw [conditionsWith, h]
  rfl

/-- With known presets the conditions are parsed from all the texts, in their order. -/
theorem conditionsWith_of_hasPreset (h : ∀ name ∈ request.presets, settings.HasPreset name) :
    request.conditionsWith settings = Condition.parseAll (request.texts settings) := by
  rw [conditionsWith, Settings.presetConditions_of_hasPreset h]
  rfl

/-- Failures of the conditions are those of the sieve. -/
theorem sieve_of_error (h : request.conditionsWith settings = .error failure) :
    request.sieve settings = .error failure := by
  rw [sieve, h]
  rfl

/-- A sieve is made of its conditions, the way to combine them, and the reversal. -/
theorem sieve_of_conditionsWith (h : request.conditionsWith settings = .ok conditions) :
    request.sieve settings = Sieve.ofConditions conditions (request.aggregationWith settings)
      (request.reverseWith settings) := by
  rw [sieve, h]
  rfl

end Request

/-- Conditions are alternatives exactly if that is asked for. -/
theorem Aggregation.eq_ofOr_iff {aggregation : Aggregation} {useOr : Bool} :
    aggregation = .ofOr useOr ↔ (aggregation = .any ↔ useOr = true) := by
  cases aggregation <;> cases useOr <;> decide

/-- The sieve of some conditions is the one that asks them in the way of the request. -/
theorem Sieve.serves_iff {sieve : Sieve} {request : Request} {settings : Settings}
    {conditions : List Condition} :
    sieve.Serves request settings conditions ↔
      ofConditions conditions (request.aggregationWith settings) (request.reverseWith settings) =
        .ok sieve := by
  have hany : sieve.aggregation = request.aggregationWith settings ↔
      (sieve.aggregation = .any ↔ request.useOr = true ∨ settings.useOr = true) := by
    rw [Request.aggregationWith, Aggregation.eq_ofOr_iff, Bool.or_eq_true]
  have hreverse : sieve.reverse = request.reverseWith settings ↔
      (sieve.reverse = true ↔ request.reverse = true ∨ settings.reverse = true) := by
    rw [Request.reverseWith, Bool.eq_iff_iff, Bool.or_eq_true]
  rw [ofConditions_eq_ok_iff_conditions, hany, hreverse]
  constructor
  · intro h
    exact ⟨h.conditions_eq, h.ofCondition_eq, h.any_iff, h.reverse_iff⟩
  · rintro ⟨hconditions, htests, hany, hreverse⟩
    exact ⟨hconditions, htests, hany, hreverse⟩

namespace Request

variable {request : Request} {settings : Settings}

/-- A request becomes what its sieve is, or what the sieve fails with. -/
theorem becomes_sieve (request : Request) (settings : Settings) :
    request.Becomes settings (request.sieve settings) := by
  rcases hpresets : settings.presetConditions request.presets with failure | texts
  · obtain ⟨front, name, back, hnames, hfront, hname, rfl⟩ :=
      Settings.presetConditions_eq_error_iff.1 hpresets
    rw [sieve_of_error (conditionsWith_of_error hpresets)]
    exact .unknownPreset hnames hfront hname
  have hknown := Settings.hasPreset_of_presetConditions hpresets
  have hread := conditionsWith_of_hasPreset hknown
  rcases hparse : Condition.parseAll (request.texts settings) with failure | conditions
  · obtain ⟨front, text, back, htexts, hfront, htext, rfl⟩ :=
      Condition.parseAll_eq_error_iff.1 hparse
    rw [sieve_of_error (hread.trans hparse)]
    exact .notACondition hknown htexts hfront htext
  have hwritten := Condition.parseAll_eq_ok_iff.1 hparse
  have hconditions := Condition.wellFormed_of_parseAll hparse
  rw [sieve_of_conditionsWith (hread.trans hparse)]
  rcases hsieve : Sieve.ofConditions conditions (request.aggregationWith settings)
    (request.reverseWith settings) with failure | sieve
  · obtain ⟨front, condition, back, rfl, hfront, hrefused⟩ :=
      (Sieve.ofConditions_eq_error_iff hconditions).1 hsieve
    exact .refused hknown hwritten hfront hrefused
  · refine .sieve hknown hwritten ?_ (Sieve.serves_iff.2 hsieve)
    -- A condition that is refused would have stood in the way of the sieve.
    intro condition hmem cause hrefused
    obtain ⟨failure, herror⟩ := (Sieve.exists_ofConditions_eq_error_iff hconditions).2
      ⟨condition, hmem, cause, hrefused⟩
    rw [hsieve] at herror
    cases herror

/-- A request becomes nothing else. -/
theorem sieve_eq_iff_becomes {result : Except Failure Sieve} :
    request.sieve settings = result ↔ request.Becomes settings result := by
  constructor
  · rintro rfl
    exact becomes_sieve request settings
  · intro h
    -- A stage that finds a fault leaves the ones behind it unreached.
    cases h with
    | unknownPreset hnames hfront hname =>
      apply sieve_of_error
      apply conditionsWith_of_error
      exact Settings.presetConditions_eq_error_iff.2 ⟨_, _, _, hnames, hfront, hname, rfl⟩
    | notACondition hknown htexts hfront htext =>
      apply sieve_of_error
      rw [conditionsWith_of_hasPreset hknown]
      exact Condition.parseAll_eq_error_iff.2 ⟨_, _, _, htexts, hfront, htext, rfl⟩
    | refused hknown hwritten hfront hrefused =>
      have hparse := Condition.parseAll_eq_ok_iff.2 hwritten
      rw [sieve_of_conditionsWith ((conditionsWith_of_hasPreset hknown).trans hparse),
        Sieve.ofConditions_eq_error_iff (Condition.wellFormed_of_parseAll hparse)]
      exact ⟨_, _, _, rfl, hfront, hrefused⟩
    | sieve hknown hwritten _ hserves =>
      have hparse := Condition.parseAll_eq_ok_iff.2 hwritten
      rw [sieve_of_conditionsWith ((conditionsWith_of_hasPreset hknown).trans hparse)]
      exact Sieve.serves_iff.1 hserves

/-! ### Presets written out -/

/-- The request that names no presets and has their texts in front of its own. -/
def writtenOut (request : Request) (settings : Settings) : Request :=
  { request with presets := [], conditions := request.texts settings }

/-- Without presets only the texts count, and they are the same. -/
theorem conditionsWith_writtenOut (request : Request) (settings : Settings) :
    (request.writtenOut settings).conditionsWith settings =
      Condition.parseAll (request.texts settings) := by
  have hnone : ∀ name ∈ (request.writtenOut settings).presets, settings.HasPreset name :=
    List.forall_mem_nil _
  exact conditionsWith_of_hasPreset hnone

/-- If all presets are there, writing them out makes no difference. -/
theorem sieve_writtenOut (h : ∀ name ∈ request.presets, settings.HasPreset name) :
    (request.writtenOut settings).sieve settings = request.sieve settings := by
  show ((request.writtenOut settings).conditionsWith settings >>= fun conditions =>
    Sieve.ofConditions conditions (request.aggregationWith settings)
      (request.reverseWith settings)) = _
  rw [conditionsWith_writtenOut, ← conditionsWith_of_hasPreset h]
  rfl

end Request

/-- What a request becomes, with presets and without. -/
structure MadeInStages (request : Request) (settings : Settings) : Prop where
  /-- A request becomes one thing, which the first stage that finds a fault decides. -/
  sieve_eq_iff : ∀ result, request.sieve settings = result ↔ request.Becomes settings result
  /-- Unless a name is unknown, the same becomes of the request with its presets written out. -/
  writtenOut_eq : (∀ name, request.sieve settings ≠ .error (.unknownPreset name)) →
    (request.writtenOut settings).sieve settings = request.sieve settings
  /-- No name is unknown if the presets are written out. -/
  writtenOut_ne : ∀ name,
    (request.writtenOut settings).sieve settings ≠ .error (.unknownPreset name)

/-- Every request is made into a sieve in stages, with its presets or with their texts. -/
theorem madeInStages (request : Request) (settings : Settings) :
    MadeInStages request settings := by
  constructor
  case sieve_eq_iff => exact fun _ => Request.sieve_eq_iff_becomes
  case writtenOut_eq =>
    intro hne
    apply Request.sieve_writtenOut
    rcases hpresets : settings.presetConditions request.presets with failure | texts
    · obtain ⟨front, name, back, -, -, -, rfl⟩ :=
        Settings.presetConditions_eq_error_iff.1 hpresets
      exact absurd (Request.sieve_of_error (Request.conditionsWith_of_error hpresets)) (hne name)
    · exact Settings.hasPreset_of_presetConditions hpresets
  case writtenOut_ne =>
    intro name h
    -- A request without presets becomes none of the other things that this failure could be.
    rcases Request.sieve_eq_iff_becomes.1 h with ⟨hnames, -, -⟩ | _ | ⟨-, -, -, hrefused⟩ | _
    · exact absurd hnames (by simp [Request.writtenOut])
    · cases hrefused

/-- A name outweighs a text, and a text outweighs a pattern in front of it. -/
example :
    let settings : Settings := { presets := [("names", ["name =~ \"(\""])] }
    Request.sieve ⟨false, true, ["names", "sizes"], ["size >"]⟩ settings =
        .error (.unknownPreset "sizes") ∧
      Request.sieve ⟨false, true, ["names"], ["size >"]⟩ settings =
        .error (.notACondition "size >") := ⟨rfl, rfl⟩

end RecordSieve
