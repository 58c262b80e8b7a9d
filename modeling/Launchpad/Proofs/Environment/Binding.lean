import Launchpad.Launch.Errand
import Launchpad.Proofs.Operation.Framing
import Mathlib.Tactic.ByContra
import Mathlib.Tactic.Choose

/-!
# Binding is exact and all or nothing

Each field of the settings has a property of its own under the root. `Setting.Converts` says which
value a text stands for, apart from how it is read; a text of the wrong form stands for none. The
properties are bound as a whole: one text that stands for nothing refuses all of them, and otherwise
the fields with a property hold what its text stands for and the others stay.

The readers are compared with `Setting.Converts` field by field, and the patch is what lies between:
it holds the value of every field that has a property, whatever the settings are.
-/

namespace Launchpad

/-- The fields of the settings that properties can set. -/
inductive Setting where
  | bannerMode
  | applicationKind
  | headless
  | logStartupInfo
  | registerShutdownHook
  | addCommandLineProperties
  | allowOverriding
  | lazyInitialization
  | sources
  deriving DecidableEq, Repr

namespace Setting

/-- What a field holds. -/
@[reducible] def Value : Setting → Type
  | bannerMode => BannerMode
  | applicationKind => Option ApplicationKind
  | headless | logStartupInfo | registerShutdownHook | addCommandLineProperties
  | allowOverriding | lazyInitialization => Bool
  | sources => List String

/-- The content of a field. -/
def of (settings : Settings) : (field : Setting) → field.Value
  | bannerMode => settings.bannerMode
  | applicationKind => settings.applicationKind
  | headless => settings.headless
  | logStartupInfo => settings.logStartupInfo
  | registerShutdownHook => settings.registerShutdownHook
  | addCommandLineProperties => settings.addCommandLineProperties
  | allowOverriding => settings.allowOverriding
  | lazyInitialization => settings.lazyInitialization
  | sources => settings.sources

/-- Settings are told apart by their fields. -/
theorem of_injective {settings other : Settings}
    (same : ∀ field, of settings field = of other field) : settings = other := by
  cases settings
  cases other
  simp only [Settings.mk.injEq]
  exact ⟨same bannerMode, same applicationKind, same headless, same logStartupInfo,
    same registerShutdownHook, same addCommandLineProperties, same allowOverriding,
    same lazyInitialization, same sources⟩

/-- The last part of the name of the property that a field is bound to. -/
def key : Setting → String
  | bannerMode => "banner-mode"
  | applicationKind => "web-application-type"
  | headless => "headless"
  | logStartupInfo => "log-startup-info"
  | registerShutdownHook => "register-shutdown-hook"
  | addCommandLineProperties => "add-command-line-properties"
  | allowOverriding => "allow-bean-definition-overriding"
  | lazyInitialization => "lazy-initialization"
  | sources => "sources"

/-- The text is the name of a truth value, in any case and between blanks. -/
def IsFlag (text : String) (flag : Bool) : Prop :=
  Text.lower (Text.trim text) = if flag then "true" else "false"

/-- The text is the name of a banner mode, in any case and between blanks. -/
def IsMode (text : String) (mode : BannerMode) : Prop := Text.lower (Text.trim text) = mode.name

/-- The text is the name of an application kind, in any case and between blanks. The standalone kind
has a second name. -/
def IsKind (text : String) (kind : ApplicationKind) : Prop :=
  Text.lower (Text.trim text) = kind.name ∨
    kind = .standalone ∧ Text.lower (Text.trim text) = "none"

/-- The items are what is left of the parts between the commas of the text, each without the blanks
around it, if the empty ones are dropped. -/
def IsList (text : String) (items : List String) : Prop :=
  ∃ parts : List (List Char), parts ≠ [] ∧ (∀ part ∈ parts, ',' ∉ part) ∧
    [','].intercalate parts = text.toList ∧
    items = (parts.map fun part => Text.trim (String.ofList part)).filter (· ≠ "")

/-- The value of a field that a text stands for. -/
def Converts : (field : Setting) → String → field.Value → Prop
  | bannerMode, text, mode => IsMode text mode
  | applicationKind, text, kind => ∃ named, IsKind text named ∧ kind = some named
  | headless, text, flag | logStartupInfo, text, flag | registerShutdownHook, text, flag
  | addCommandLineProperties, text, flag | allowOverriding, text, flag
  | lazyInitialization, text, flag => IsFlag text flag
  | sources, text, items => IsList text items

end Setting

/-- A mode is known by its name, and by no other. -/
theorem BannerMode.ofName?_eq_some_iff {text : String} {mode : BannerMode} :
    BannerMode.ofName? text = some mode ↔ mode.name = text := by
  constructor
  · intro found
    simpa using List.find?_some found
  · rintro rfl
    cases mode <;> rfl

/-- A kind is written as its name, without regard to case and to space around it, and one kind has a
second name. -/
theorem ApplicationKind.parse_eq_ok_iff {text : String} {kind : ApplicationKind} :
    ApplicationKind.parse text = .ok kind ↔ Text.lower (Text.trim text) = kind.name ∨
      kind = .standalone ∧ Text.lower (Text.trim text) = "none" := by
  unfold ApplicationKind.parse
  split
  all_goals cases kind <;> simp_all [ApplicationKind.name]

namespace SettingsPatch

/-- What a patch holds for a field. -/
def given (patch : SettingsPatch) : (field : Setting) → Option field.Value
  | .bannerMode => patch.bannerMode
  | .applicationKind => patch.applicationKind.map some
  | .headless => patch.headless
  | .logStartupInfo => patch.logStartupInfo
  | .registerShutdownHook => patch.registerShutdownHook
  | .addCommandLineProperties => patch.addCommandLineProperties
  | .allowOverriding => patch.allowOverriding
  | .lazyInitialization => patch.lazyInitialization
  | .sources => patch.sources

/-- The patch that holds the given values. -/
def ofGiven (given : (field : Setting) → Option field.Value) : SettingsPatch where
  bannerMode := given .bannerMode
  applicationKind := (given .applicationKind).join
  headless := given .headless
  logStartupInfo := given .logStartupInfo
  registerShutdownHook := given .registerShutdownHook
  addCommandLineProperties := given .addCommandLineProperties
  allowOverriding := given .allowOverriding
  lazyInitialization := given .lazyInitialization
  sources := given .sources

/-- A patch replaces what it holds and nothing else. -/
theorem of_apply (patch : SettingsPatch) (settings : Settings) (field : Setting) :
    field.of (patch.apply settings) = (patch.given field).getD (field.of settings) := by
  cases field with
  | applicationKind =>
    show patch.applicationKind.or settings.applicationKind = _
    rw [given]
    cases patch.applicationKind <;> rfl
  | _ => rfl

/-- Applying a patch twice is applying it once. -/
theorem apply_apply (patch : SettingsPatch) (settings : Settings) :
    patch.apply (patch.apply settings) = patch.apply settings := by
  apply Setting.of_injective
  intro field
  rw [of_apply, of_apply]
  cases patch.given field <;> rfl

end SettingsPatch

namespace Binding

open Setting

/-- Reading a flag succeeds on the spellings of flags only. -/
theorem readFlag_eq_ok_iff {name text : String} {flag : Bool} :
    readFlag name text = .ok flag ↔ IsFlag text flag := by
  unfold readFlag IsFlag
  split
  · rename_i named
    cases flag <;> simp [named]
  · rename_i named
    cases flag <;> simp [named]
  · rename_i notTrue notFalse
    cases flag <;> simp_all

/-- Reading a mode succeeds on the spellings of modes only. -/
theorem readMode_eq_ok_iff {text : String} {mode : BannerMode} :
    readMode text = .ok mode ↔ IsMode text mode := by
  have named : readMode text = .ok mode ↔
      BannerMode.ofName? (Text.lower (Text.trim text)) = some mode := by
    simp only [readMode]
    cases BannerMode.ofName? (Text.lower (Text.trim text)) <;> simp
  rw [named, BannerMode.ofName?_eq_some_iff, IsMode, eq_comm]

/-- Reading a kind succeeds on the spellings of kinds only. -/
theorem readKind_eq_ok_iff {text : String} {kind : ApplicationKind} :
    readKind text = .ok kind ↔ IsKind text kind := by
  have named : readKind text = .ok kind ↔ ApplicationKind.parse text = .ok kind := by
    unfold readKind
    cases ApplicationKind.parse text <;> simp
  rw [named, ApplicationKind.parse_eq_ok_iff, IsKind]

/-- The items of a text are those that it lists. -/
theorem items_eq_iff {text : String} {items : List String} :
    Text.items text = items ↔ IsList text items := by
  constructor
  · rintro rfl
    refine ⟨Text.pieces ',' text.toList, Text.pieces_ne_nil _ _,
      fun _ => Text.not_mem_of_mem_pieces, Text.intercalate_pieces _ _, ?_⟩
    simp [Text.items, Text.trim]
  · rintro ⟨parts, some, plain, whole, rfl⟩
    rw [Text.items, Text.pieces_eq_iff.2 ⟨some, plain, whole⟩]
    simp [Text.trim]

/-- What the property of a field gives. -/
def reading (environment : Environment) (root : String) :
    (field : Setting) → Except Failure (Option field.Value)
  | .bannerMode => optional environment (property root "banner-mode") readMode
  | .applicationKind =>
    (optional environment (property root "web-application-type") readKind).map (·.map some)
  | .headless => optionalFlag environment root "headless"
  | .logStartupInfo => optionalFlag environment root "log-startup-info"
  | .registerShutdownHook => optionalFlag environment root "register-shutdown-hook"
  | .addCommandLineProperties => optionalFlag environment root "add-command-line-properties"
  | .allowOverriding => optionalFlag environment root "allow-bean-definition-overriding"
  | .lazyInitialization => optionalFlag environment root "lazy-initialization"
  | .sources => .ok ((environment.get? (property root "sources")).map Text.items)

/-- A field gets nothing without a property, and else what the text of the property stands for. -/
def Gets (environment : Environment) (root : String) (field : Setting)
    (given : Option field.Value) : Prop :=
  match environment.get? (property root field.key) with
  | none => given = none
  | some text => ∃ value, field.Converts text value ∧ given = some value

section

variable {environment : Environment} {root : String}

/-- An optional value is absent with its property, and otherwise read from it. -/
theorem optional_eq_ok_iff {α : Type} {name : String} {read : String → Except Failure α}
    {given : Option α} : optional environment name read = .ok given ↔
      match environment.get? name with
      | none => given = none
      | some text => ∃ value, read text = .ok value ∧ given = some value := by
  unfold optional
  cases environment.get? name with
  | none => simp [eq_comm]
  | some text =>
    cases result : read text with
    | error failure => simp [Except.map, result]
    | ok value => simp [Except.map, result, eq_comm]

/-- An optional flag is absent with its property, and otherwise read from it. -/
theorem optionalFlag_eq_ok_iff {key : String} {given : Option Bool} :
    optionalFlag environment root key = .ok given ↔
      match environment.get? (property root key) with
      | none => given = none
      | some text => ∃ flag, IsFlag text flag ∧ given = some flag := by
  simp only [optionalFlag, optional_eq_ok_iff, readFlag_eq_ok_iff]

/-- Reading a field gives what the environment says of it. -/
theorem reading_eq_ok_iff {field : Setting} {given : Option field.Value} :
    reading environment root field = .ok given ↔ Gets environment root field given := by
  cases field with
  | bannerMode =>
    simp only [reading, optional_eq_ok_iff, readMode_eq_ok_iff]
    rfl
  | applicationKind =>
    simp only [reading, optional, Gets, key, Converts, ← readKind_eq_ok_iff]
    cases environment.get? (property root "web-application-type") with
    | none => simp [Except.map, eq_comm]
    | some text => cases result : readKind text <;> simp [Except.map, result, eq_comm]
  | sources =>
    simp only [reading, Gets, key, Converts, ← items_eq_iff]
    cases environment.get? (property root "sources") <;> simp [eq_comm]
  | headless | logStartupInfo | registerShutdownHook | addCommandLineProperties
  | allowOverriding | lazyInitialization => exact optionalFlag_eq_ok_iff

/-- Two readings in sequence succeed exactly if each does. -/
theorem sequence_eq_ok_iff {α β : Type} {first : Except Failure α} {next : α → Except Failure β}
    {result : β} :
    first >>= next = .ok result ↔ ∃ value, first = .ok value ∧ next value = .ok result := by
  cases first <;> simp [Bind.bind, Except.bind]

/-- The patch is read exactly if every field is, and it holds what each of them gives. -/
theorem read_eq_ok_iff {patch : SettingsPatch} :
    read environment root = .ok patch ↔
      ∀ field, reading environment root field = .ok (patch.given field) := by
  unfold read
  simp only [sequence_eq_ok_iff, pure, Except.pure, Except.ok.injEq]
  constructor
  · rintro ⟨_, headless, _, logStartupInfo, _, registerShutdownHook, _, addCommandLineProperties,
      _, allowOverriding, _, lazyInitialization, _, bannerMode, _, applicationKind, rfl⟩ field
    cases field with
    | applicationKind => rw [reading, applicationKind]; rfl
    | sources => rfl
    | _ => assumption
  · intro each
    refine ⟨_, each .headless, _, each .logStartupInfo, _, each .registerShutdownHook,
      _, each .addCommandLineProperties, _, each .allowOverriding, _, each .lazyInitialization,
      _, each .bannerMode, patch.applicationKind, ?_, ?_⟩
    · have kind := each .applicationKind
      simp only [reading, SettingsPatch.given] at kind
      cases read : optional environment (property root "web-application-type") readKind with
      | error failure => simp [read, Except.map] at kind
      | ok named =>
        simp only [read, Except.map, Except.ok.injEq] at kind
        rw [Option.map_inj_right fun _ _ => Option.some.inj] at kind
        rw [kind]
    · have sources := each .sources
      simp only [reading, Except.ok.injEq] at sources
      rw [sources]
      rfl

/-- What the properties give can be put into a patch. No text stands for the absence of a kind. -/
theorem given_ofGiven {given : (field : Setting) → Option field.Value}
    (gets : ∀ field, Gets environment root field (given field)) (field : Setting) :
    (SettingsPatch.ofGiven given).given field = given field := by
  cases field with
  | applicationKind =>
    have kind := gets .applicationKind
    show (given .applicationKind).join.map some = given .applicationKind
    unfold Gets at kind
    split at kind
    · rw [kind]
      rfl
    · obtain ⟨_, ⟨named, -, rfl⟩, here⟩ := kind
      rw [here]
      rfl
  | _ => rfl

/-- Values that the properties give field by field are read together. -/
theorem read_ofGiven {given : (field : Setting) → Option field.Value}
    (gets : ∀ field, Gets environment root field (given field)) :
    read environment root = .ok (.ofGiven given) := by
  rw [read_eq_ok_iff]
  intro field
  rw [reading_eq_ok_iff, given_ofGiven gets]
  exact gets field

/-- Settings are bound by reading a patch and applying it. -/
theorem bind_eq_ok_iff_read {settings after : Settings} :
    bind environment root settings = .ok after ↔
      ∃ patch, read environment root = .ok patch ∧ patch.apply settings = after := by
  unfold bind
  cases read environment root <;> simp [Except.map]

end

/-- What becomes of a field whose property is bound: without a text it stays, and with one it holds
the value that the text stands for. -/
def BoundFrom (environment : Environment) (root : String) (settings after : Settings)
    (field : Setting) : Prop :=
  match environment.get? (property root field.key) with
  | none => field.of after = field.of settings
  | some text => field.Converts text (field.of after)

/-- What the environment holds for a field stands for none of its values. -/
def Unreadable (environment : Environment) (root : String) (field : Setting) : Prop :=
  ∃ text, environment.get? (property root field.key) = some text ∧
    ∀ value, ¬ field.Converts text value

section

variable {environment : Environment} {root : String} {settings after : Settings}

/-- Binding succeeds with the settings in which every field is as it should be, and with no
others. -/
theorem bind_eq_ok_iff_boundFrom :
    bind environment root settings = .ok after ↔
      ∀ field, BoundFrom environment root settings after field := by
  rw [bind_eq_ok_iff_read]
  constructor
  · rintro ⟨patch, done, rfl⟩ field
    have gets := reading_eq_ok_iff.1 (read_eq_ok_iff.1 done field)
    unfold BoundFrom
    unfold Gets at gets
    rw [SettingsPatch.of_apply]
    split at gets
    · rw [gets]; rfl
    · obtain ⟨value, stands, here⟩ := gets
      rw [here]
      exact stands
  · intro each
    -- The patch is read back from the settings that were bound.
    let given (field : Setting) : Option field.Value :=
      (environment.get? (property root field.key)).map fun _ => field.of after
    have gets (field : Setting) : Gets environment root field (given field) := by
      have here := each field
      simp only [BoundFrom] at here
      simp only [Gets, given]
      cases held : environment.get? (property root field.key) with
      | none => rfl
      | some text =>
        rw [held] at here
        exact ⟨_, here, rfl⟩
    refine ⟨.ofGiven given, read_ofGiven gets, of_injective fun field => ?_⟩
    have here := each field
    rw [SettingsPatch.of_apply, given_ofGiven gets]
    simp only [BoundFrom] at here
    simp only [given]
    cases held : environment.get? (property root field.key) with
    | none =>
      rw [held] at here
      exact here.symm
    | some text => rfl

/-- Binding fails exactly if some property that is there stands for nothing. -/
theorem exists_bind_eq_error_iff :
    (∃ failure, bind environment root settings = .error failure) ↔
      ∃ field, Unreadable environment root field := by
  constructor
  · rintro ⟨failure, failed⟩
    by_contra readable
    have gets (field : Setting) : ∃ given, Gets environment root field given := by
      unfold Gets
      cases held : environment.get? (property root field.key) with
      | none => exact ⟨none, rfl⟩
      | some text =>
        by_contra nothing
        apply readable
        refine ⟨field, text, held, fun value stands => nothing ⟨some value, value, stands, rfl⟩⟩
    choose given each using gets
    have done : bind environment root settings = .ok _ :=
      bind_eq_ok_iff_read.2 ⟨_, read_ofGiven each, rfl⟩
    simp [failed] at done
  · rintro ⟨field, text, held, nothing⟩
    cases result : bind environment root settings with
    | error failure => exact ⟨failure, rfl⟩
    | ok after =>
      have bound := bind_eq_ok_iff_boundFrom.1 result field
      simp only [BoundFrom, held] at bound
      exact absurd bound (nothing _)

end

/-- Binding is exact and all or nothing, for every environment, root and settings. It fails exactly
if a property that is there stands for no value of its field. Else its result is the settings in
which each field with a property holds the value that the text stands for and every other field is
as before. Which values those are does not depend on the settings, and binding again changes nothing
more. The standard binder leaves the settings as they were if binding fails, and it touches nothing
else in either case. -/
theorem bind_exact (environment : Environment) (root : String) (settings : Settings) :
    ((∃ failure, bind environment root settings = .error failure) ↔
      ∃ field, Unreadable environment root field) ∧
    (∀ after, bind environment root settings = .ok after ↔
      ∀ field, BoundFrom environment root settings after field) ∧
    (∀ after, bind environment root settings = .ok after →
      bind environment root after = .ok after ∧
      ∀ other, ∃ otherAfter, bind environment root other = .ok otherAfter ∧
        ∀ field : Setting, (environment.get? (property root field.key)).isSome →
          field.of otherAfter = field.of after) ∧
    ∀ invoke world, ∃ answer after,
      (SettingsBinder.bind invoke environment settings .standard).result world =
        (.ok (answer, after), world) ∧
      ((∃ failure, answer = .error failure ∧
          bind environment mainRoot settings = .error failure ∧ after = settings) ∨
        answer = .ok () ∧ bind environment mainRoot settings = .ok after) := by
  refine ⟨exists_bind_eq_error_iff, fun after => bind_eq_ok_iff_boundFrom, ?_, ?_⟩
  · intro after bound
    obtain ⟨patch, done, rfl⟩ := bind_eq_ok_iff_read.1 bound
    constructor
    · exact bind_eq_ok_iff_read.2 ⟨patch, done, patch.apply_apply settings⟩
    · intro other
      refine ⟨patch.apply other, bind_eq_ok_iff_read.2 ⟨patch, done, rfl⟩, ?_⟩
      intro field there
      have gets := reading_eq_ok_iff.1 (read_eq_ok_iff.1 done field)
      obtain ⟨text, held⟩ := Option.isSome_iff_exists.1 there
      simp only [Gets, held] at gets
      obtain ⟨value, -, here⟩ := gets
      rw [SettingsPatch.of_apply, SettingsPatch.of_apply, here]
      rfl
  · intro invoke world
    unfold SettingsBinder.bind
    cases result : bind environment mainRoot settings with
    | ok after => exact ⟨.ok (), after, rfl, .inr ⟨rfl, rfl⟩⟩
    | error failure => exact ⟨.error failure, settings, rfl, .inl ⟨failure, rfl, rfl, rfl⟩⟩

end Binding

end Launchpad
