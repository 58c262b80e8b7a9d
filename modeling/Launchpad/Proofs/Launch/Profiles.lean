import Launchpad.Proofs.Launch.Attachment

/-!
# Two runs with and without additional profiles

Additional profiles are put in front of those that are active before the listeners are shown the
environment, and all of them are explicit from then on. What comes later cannot take one away.
Explicit profiles hide the property that names profiles, though, so a source that a listener brings
names active profiles in a run without additional profiles only.
-/

namespace Launchpad

namespace Environment

/-- Explicit profiles are the active ones. -/
theorem activeProfiles_of_explicit {environment : Environment}
    (explicit : environment.profiles ≠ []) :
    environment.activeProfiles = environment.profiles := by
  rw [activeProfiles, if_neg (by simpa using explicit)]

end Environment

/-- Listeners that leave the explicit profiles alone hand them on. -/
theorem HandedOn.profiles_eq {environment left : Environment} {showings : List Showing}
    (handed : HandedOn environment showings left)
    (leaves : ∀ showing ∈ showings, showing.left.profiles = showing.shown.profiles) :
    left.profiles = environment.profiles := by
  induction handed with
  | done => rfl
  | shown onward ih =>
    have here := leaves _ List.mem_cons_self
    rw [ih fun showing among => leaves showing (List.mem_cons_of_mem _ among)]
    exact here

/-- The environment that the settings are bound from. -/
def Errand.prepared? : Errand → Option Environment
  | bindSettings _ environment _ => some environment
  | _ => none

/-- The prepared environments: those that settings were bound from. -/
def preparedIn (replies : List Reply) : List Environment :=
  replies.filterMap (·.errand.prepared?)

namespace Application

variable {application : Application} {given : List String}

/-- Profiles that are not among others are put behind them. -/
theorem mem_foldl_profiles {active additional : List String} {profile : String} :
    profile ∈ active.foldl (fun profiles profile =>
      if profiles.contains profile then profiles else profiles ++ [profile]) additional ↔
      profile ∈ additional ∨ profile ∈ active := by
  induction active generalizing additional with
  | nil => simp
  | cons first rest ih =>
    rw [List.foldl_cons, ih]
    split
    · rename_i held
      have among : first ∈ additional := by simpa using held
      constructor
      · rintro (among | later)
        · exact .inl among
        · exact .inr (List.mem_cons_of_mem _ later)
      · rintro (among | here)
        · exact .inl among
        · obtain rfl | later := List.mem_cons.1 here
          · exact .inl among
          · exact .inr later
    · simp [or_assoc]

/-- Additional profiles are active, besides those that were, and explicit. -/
theorem mem_profiles_withProfiles {additional : List String} (some : additional ≠ [])
    (environment : Environment) {profile : String} :
    profile ∈ (withProfiles additional environment).profiles ↔
      profile ∈ additional ∨ profile ∈ environment.activeProfiles := by
  rw [withProfiles, if_neg (by simpa using some)]
  exact mem_foldl_profiles

/-- Additional profiles are added to the environment that is configured without any. -/
theorem configured_of_additional (none : application.additionalProfiles = [])
    (additional : List String) (arguments : Arguments) (vars : List (String × String)) :
    ({ application with additionalProfiles := additional } : Application).configured arguments
        vars =
      withProfiles additional (application.configured arguments vars) := by
  rw [configured, configured, configureEnvironment, configureEnvironment, none]
  rfl

/-- How a run came to its prepared environment. -/
theorem handedOn_of_prepared {invoke : Invoker} {world : World} {outcome : Outcome}
    (ended : (application.execution invoke given world).result = .ok outcome)
    {prepared : Environment}
    (prepares : prepared ∈ preparedIn (application.execution invoke given world).replies) :
    ∃ arguments left, ∃ reading ∈ (application.execution invoke given world).record,
      Arguments.parse given = .ok arguments ∧ reading.reply.errand = .readVariables ∧
      HandedOn (application.configured arguments reading.before.vars)
        (showingsOf (application.execution invoke given world).replies) left ∧
      prepared = defaultsLast left := by
  obtain ⟨binding, among, binds⟩ := List.mem_filterMap.1 prepares
  have late : binding.errand.isAfterListeners = true := by
    unfold Errand.prepared? at binds
    split at binds
    · rename_i binder _ settings same
      rw [same]
      rfl
    · cases binds
  obtain ⟨left, rest, cause, leftIn, onward, -⟩ := exists_leftIn ended (.inl ⟨binding, among, late⟩)
  obtain ⟨arguments, reading, recorded, parsed, reads, handed⟩ := leftIn.read
  refine ⟨arguments, left, reading, recorded, parsed, reads, handed, ?_⟩
  have prepares : prepared ∈ preparedIn rest :=
    List.mem_filterMap.2 ⟨binding, leftIn.late binding among late, binds⟩
  generalize outcome.settings = last at onward
  -- The settings are bound from what the listeners left, and from nothing else.
  cases onward with
  | forbidden => simp [preparedIn, Errand.prepared?] at prepares
  | unbound => simpa [preparedIn, Errand.prepared?] using prepares
  | bound onward =>
    cases onward <;> simpa [preparedIn, Errand.prepared?] using prepares

/-- Additional profiles only add to what is active before the listeners are shown the environment.
For two runs of an application from the same process variables, the second with additional profiles,
and with listeners that leave the explicit profiles alone: in the prepared environment of the second
run the additional profiles are active, besides those that were active before the listeners in the
first. A profile of the first run is missing in the second only if no profile was explicit there and
the listeners brought what names it. -/
theorem additional_profiles_add {extended : Application} {additional : List String}
    (plain : application.additionalProfiles = []) (some : additional ≠ [])
    (widens : extended = { application with additionalProfiles := additional })
    {first second : Invoker} {firstWorld secondWorld : World}
    {firstOutcome secondOutcome : Outcome} {firstPrepared secondPrepared : Environment}
    (firstEnded : (application.execution first given firstWorld).result = .ok firstOutcome)
    (secondEnded : (extended.execution second given secondWorld).result = .ok secondOutcome)
    (firstPrepares : firstPrepared ∈
      preparedIn (application.execution first given firstWorld).replies)
    (secondPrepares : secondPrepared ∈
      preparedIn (extended.execution second given secondWorld).replies)
    (firstLeaves : ∀ showing ∈ showingsOf (application.execution first given firstWorld).replies,
      showing.left.profiles = showing.shown.profiles)
    (secondLeaves : ∀ showing ∈ showingsOf (extended.execution second given secondWorld).replies,
      showing.left.profiles = showing.shown.profiles)
    (sameVars : ∀ reading ∈ (application.execution first given firstWorld).record,
      ∀ other ∈ (extended.execution second given secondWorld).record,
      reading.reply.errand = .readVariables → other.reply.errand = .readVariables →
        reading.before.vars = other.before.vars) :
    ∃ arguments, ∃ reading ∈ (application.execution first given firstWorld).record,
      Arguments.parse given = .ok arguments ∧ reading.reply.errand = .readVariables ∧
      let before := application.configured arguments reading.before.vars
      (∀ profile, profile ∈ secondPrepared.activeProfiles ↔
        profile ∈ additional ∨ profile ∈ before.activeProfiles) ∧
      ∀ profile ∈ firstPrepared.activeProfiles, profile ∉ secondPrepared.activeProfiles →
        before.profiles = [] ∧ profile ∉ before.activeProfiles := by
  obtain ⟨arguments, left, reading, recorded, parsed, reads, handed, rfl⟩ :=
    handedOn_of_prepared firstEnded firstPrepares
  obtain ⟨others, otherLeft, other, alsoRecorded, alsoParsed, alsoReads, alsoHanded, rfl⟩ :=
    handedOn_of_prepared secondEnded secondPrepares
  obtain rfl : arguments = others := Except.ok.inj (parsed.symm.trans alsoParsed)
  have widened : extended.configured arguments reading.before.vars =
      withProfiles additional (application.configured arguments reading.before.vars) := by
    rw [widens, configured_of_additional plain]
  rw [← sameVars reading recorded other alsoRecorded reads alsoReads, widened] at alsoHanded
  refine ⟨arguments, reading, recorded, parsed, reads, ?_⟩
  dsimp only
  generalize application.configured arguments reading.before.vars = before at handed alsoHanded ⊢
  have explicit : ∀ profile, profile ∈ (defaultsLast otherLeft).profiles ↔
      profile ∈ additional ∨ profile ∈ before.activeProfiles := by
    intro profile
    rw [← mem_profiles_withProfiles some before, ← alsoHanded.profiles_eq secondLeaves]
    rfl
  have nonempty : (defaultsLast otherLeft).profiles ≠ [] := by
    obtain ⟨profile, among⟩ := List.exists_mem_of_ne_nil _ some
    exact List.ne_nil_of_mem ((explicit profile).2 (.inl among))
  have active : ∀ profile, profile ∈ (defaultsLast otherLeft).activeProfiles ↔
      profile ∈ additional ∨ profile ∈ before.activeProfiles := by
    intro profile
    rw [Environment.activeProfiles_of_explicit nonempty, explicit]
  refine ⟨active, fun profile among missing => ?_⟩
  have unnamed : profile ∉ before.activeProfiles := fun named =>
    missing ((active profile).2 (.inr named))
  refine ⟨?_, unnamed⟩
  by_contra wasExplicit
  -- Explicit profiles are the active ones, before the listeners and after them.
  have kept : (defaultsLast left).profiles = before.profiles := handed.profiles_eq firstLeaves
  rw [Environment.activeProfiles_of_explicit (kept ▸ wasExplicit), kept,
    ← Environment.activeProfiles_of_explicit wasExplicit] at among
  exact unnamed among

/-- An application with a listener of its own. -/
def profiled : Application where
  primarySources := [.package "profiled"]
  settings := { bannerMode := .off }
  catalog := { runListeners := ⟨[("config", .custom { name := "config" })]⟩ }
  coordinator := ⟨0⟩

/-- The same application with an additional profile. -/
def moreProfiled : Application := { profiled with additionalProfiles := ["extra"] }

/-- The listener adds a source that names an active profile. -/
def namesProfile : Behaviour
  | .buildRunListener participant _ => .done (.ok (.custom participant none))
  | .environmentPrepared _ _ environment =>
    .done (.ok (), { environment with sources := environment.sources.addLast {
      name := "config"
      properties := Properties.empty.insert Environment.activeProfilesProperty "dev" } })
  | .starting .. | .containerPhase .. => .done (.ok ())
  | _ => .panic "unexpected call"

/-- One additional profile, and a listener that adds a source with a profile of its own. -/
theorem additional_profiles_add_extra :
    ∃ first ∈ preparedIn (profiled.execution (namesProfile.invoker 1 0) [] {}).replies,
      ∃ second ∈ preparedIn (moreProfiled.execution (namesProfile.invoker 1 0) [] {}).replies,
        "extra" ∈ second.activeProfiles ∧
        ∀ profile ∈ first.activeProfiles, profile ∉ second.activeProfiles →
          ∃ before : Environment, before.profiles = [] ∧ profile ∉ before.activeProfiles := by
  have firstPrepares : ∃ first,
      first ∈ preparedIn (profiled.execution (namesProfile.invoker 1 0) [] {}).replies :=
    List.exists_mem_of_ne_nil _ (by decide +kernel)
  have secondPrepares : ∃ second,
      second ∈ preparedIn (moreProfiled.execution (namesProfile.invoker 1 0) [] {}).replies :=
    List.exists_mem_of_ne_nil _ (by decide +kernel)
  have firstCompletes :
      (profiled.execution (namesProfile.invoker 1 0) [] {}).result.isOk = true := by
    decide +kernel
  have secondCompletes :
      (moreProfiled.execution (namesProfile.invoker 1 0) [] {}).result.isOk = true := by
    decide +kernel
  have firstLeaves : ∀ showing ∈
      showingsOf (profiled.execution (namesProfile.invoker 1 0) [] {}).replies,
      showing.left.profiles = showing.shown.profiles := by decide +kernel
  have secondLeaves : ∀ showing ∈
      showingsOf (moreProfiled.execution (namesProfile.invoker 1 0) [] {}).replies,
      showing.left.profiles = showing.shown.profiles := by decide +kernel
  have firstVars : ∀ reading ∈ (profiled.execution (namesProfile.invoker 1 0) [] {}).record,
      reading.before.vars = [] := by decide +kernel
  have secondVars : ∀ reading ∈ (moreProfiled.execution (namesProfile.invoker 1 0) [] {}).record,
      reading.before.vars = [] := by decide +kernel
  obtain ⟨first, firstPrepares⟩ := firstPrepares
  obtain ⟨second, secondPrepares⟩ := secondPrepares
  cases firstEnded : (profiled.execution (namesProfile.invoker 1 0) [] {}).result with
  | error abort =>
    rw [firstEnded] at firstCompletes
    cases firstCompletes
  | ok firstOutcome =>
    cases secondEnded : (moreProfiled.execution (namesProfile.invoker 1 0) [] {}).result with
    | error abort =>
      rw [secondEnded] at secondCompletes
      cases secondCompletes
    | ok secondOutcome =>
      have sameVars : ∀ reading ∈ (profiled.execution (namesProfile.invoker 1 0) [] {}).record,
          ∀ other ∈ (moreProfiled.execution (namesProfile.invoker 1 0) [] {}).record,
          reading.reply.errand = .readVariables → other.reply.errand = .readVariables →
            reading.before.vars = other.before.vars :=
        fun reading among other present _ _ =>
          (firstVars reading among).trans (secondVars other present).symm
      obtain ⟨_, _, -, -, -, active, missing⟩ := additional_profiles_add rfl (by decide) rfl
        firstEnded secondEnded firstPrepares secondPrepares firstLeaves secondLeaves sameVars
      exact ⟨first, firstPrepares, second, secondPrepares, (active "extra").2 (.inl (by decide)),
        fun profile among gone => ⟨_, missing profile among gone⟩⟩

/-- A profile that only a listener's source names is active without additional profiles, and not
with them. -/
theorem profile_hidden_by_additional :
    ∃ first ∈ preparedIn (profiled.execution (namesProfile.invoker 1 0) [] {}).replies,
      ∃ second ∈ preparedIn (moreProfiled.execution (namesProfile.invoker 1 0) [] {}).replies,
        "dev" ∈ first.activeProfiles ∧ "dev" ∉ second.activeProfiles := by
  decide +kernel

end Application

end Launchpad
