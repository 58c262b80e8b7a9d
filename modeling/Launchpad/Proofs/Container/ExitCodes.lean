import Launchpad.Command
import Launchpad.Proofs.Operation.Framing

/-!
# How exit codes combine

The candidates are read once, with the largest positive and the smallest negative code so far in
hand. What comes of it is a matter of which opinions were offered, not of who came first, how often
anyone said the same, or who was asked separately. So the exit code of a failure does not depend on
the order of the mappers, nor the one of a graceful end on who offers which code.
-/

namespace Launchpad

namespace ExitCode

/-- What candidates decide on: the largest positive code; without one, the smallest negative code;
and zero if none of them has an opinion. -/
inductive Decides (codes : List ExitCode) : ExitCode → Prop where
  | positive {code : ExitCode} (offered : code ∈ codes) (positive : 0 < code)
      (largest : ∀ other ∈ codes, other ≤ code) : Decides codes code
  | negative {code : ExitCode} (offered : code ∈ codes) (negative : code < 0)
      (unopposed : ∀ other ∈ codes, other ≤ 0) (smallest : ∀ other ∈ codes, code ≤ other) :
      Decides codes code
  | neutral (silent : ∀ other ∈ codes, other = 0) : Decides codes 0

/-- The leading candidates are the best of those that were seen. -/
structure Leading.Leads (leading : Leading) (seen : List ExitCode) : Prop where
  positive : leading.positive.elim (∀ code ∈ seen, code ≤ 0) fun code =>
    code ∈ seen ∧ 0 < code ∧ ∀ other ∈ seen, other ≤ code
  negative : leading.negative.elim (∀ code ∈ seen, 0 ≤ code) fun code =>
    code ∈ seen ∧ code < 0 ∧ ∀ other ∈ seen, code ≤ other

namespace Leading.Leads

variable {leading : Leading} {seen : List ExitCode}

/-- One more candidate is compared with the leading ones. -/
theorem take (leads : leading.Leads seen) (code : ExitCode) :
    (leading.take code).Leads (seen ++ [code]) := by
  obtain ⟨positive, negative⟩ := leads
  obtain ⟨largest, smallest⟩ := leading
  unfold Leading.take
  constructor
  · cases largest <;> grind [Option.elim]
  · cases smallest <;> grind [Option.elim]

/-- Candidates are compared one after the other. -/
theorem foldl (leads : leading.Leads seen) (codes : List ExitCode) :
    (codes.foldl Leading.take leading).Leads (seen ++ codes) := by
  induction codes generalizing leading seen with
  | nil => simpa using leads
  | cons code rest ih => simpa using ih (leads.take code)

/-- The code of the leading candidates is what was decided. -/
theorem decides (leads : leading.Leads seen) : Decides seen leading.code := by
  obtain ⟨positive, negative⟩ := leads
  obtain ⟨_ | largest, _ | smallest⟩ := leading
  · apply Decides.neutral
    intro other among
    exact Int.le_antisymm (positive other among) (negative other among)
  · obtain ⟨offered, below, least⟩ := negative
    exact .negative offered below positive least
  all_goals
    obtain ⟨offered, above, greatest⟩ := positive
    exact .positive offered above greatest

end Leading.Leads

variable {codes others : List ExitCode} {code : ExitCode}

/-- Combining decides. -/
theorem combine_decides (codes : List ExitCode) : Decides codes (combine codes) := by
  have nobody : Leading.Leads {} [] := ⟨nofun, nofun⟩
  exact (nobody.foldl codes).decides

/-- A decision in terms of bounds: an opinion was offered, none is above it or above zero, and none
is below it unless it is positive. -/
theorem decides_iff : Decides codes code ↔ (code ≠ 0 → code ∈ codes) ∧
    ∀ other ∈ codes, other ≤ max code 0 ∧ (code ≤ 0 → code ≤ other) := by
  constructor
  · intro decides
    cases decides with
    | positive offered positive largest => grind
    | negative offered negative unopposed smallest => grind
    | neutral silent => grind
  · rintro ⟨offered, bounds⟩
    obtain positive | rfl | negative := Int.lt_trichotomy 0 code
    · exact .positive (offered (by grind)) positive (by grind)
    · exact .neutral (by grind)
    · exact .negative (offered (by grind)) negative (by grind) (by grind)

/-- Lists agree that offer the same opinions. -/
def Agree (codes others : List ExitCode) : Prop :=
  ∀ code, code ≠ 0 → (code ∈ codes ↔ code ∈ others)

/-- Lists that agree decide on the same code. -/
theorem Decides.of_agree (agree : Agree codes others) (decides : Decides codes code) :
    Decides others code := by
  rw [decides_iff] at decides ⊢
  obtain ⟨offered, bounds⟩ := decides
  refine ⟨fun opinion => (agree code opinion).1 (offered opinion), fun other among => ?_⟩
  by_cases opinion : other = 0
  · grind
  · exact bounds other ((agree other opinion).2 among)

/-- There is a single decision. -/
theorem Decides.unique {other : ExitCode} (first : Decides codes code)
    (second : Decides codes other) : code = other := by
  cases first <;> cases second <;> grind

/-- Combining answers a code exactly if it is decided on. -/
theorem combine_eq_iff : combine codes = code ↔ Decides codes code := by
  constructor
  · rintro rfl
    exact combine_decides codes
  · exact (combine_decides codes).unique

/-- Lists that offer the same opinions combine to the same code. -/
theorem combine_congr (agree : Agree codes others) : combine codes = combine others :=
  ((combine_decides codes).of_agree agree).unique (combine_decides others)

/-- The order in which codes are offered does not matter. -/
theorem combine_perm (order : codes.Perm others) : combine codes = combine others :=
  combine_congr fun _ _ => order.mem_iff

/-- What two lists decide on together is what comes of their decisions. -/
theorem Decides.append {first second : ExitCode} (one : Decides codes first)
    (two : Decides others second) (both : Decides [first, second] code) :
    Decides (codes ++ others) code := by
  simp only [decides_iff, List.mem_append, List.mem_cons, List.not_mem_nil, or_false,
    forall_eq_or_imp, forall_eq] at one two both ⊢
  constructor
  · intro opinion
    obtain rfl | rfl := both.1 opinion
    · exact .inl (one.1 opinion)
    · exact .inr (two.1 opinion)
  · intro other among
    obtain here | there := among
    · have bounds := one.2 other here
      grind
    · have bounds := two.2 other there
      grind

/-- Two lists may be combined each on its own, and then their codes. -/
theorem combine_append (codes others : List ExitCode) :
    combine (codes ++ others) = combine [combine codes, combine others] :=
  combine_eq_iff.2 ((combine_decides codes).append (combine_decides others) (combine_decides _))

/-- Candidates may be combined in groups first. -/
theorem combine_flatten (groups : List (List ExitCode)) :
    combine groups.flatten = combine (groups.map combine) := by
  induction groups with
  | nil => rfl
  | cons group rest ih =>
    calc combine (group ++ rest.flatten)
      _ = combine [combine group, combine (rest.map combine)] := by rw [combine_append, ih]
      _ = combine ([combine group] ++ rest.map combine) := by
        rw [combine_append [combine group], combine_singleton]

/-- A way to combine candidates that is a matter of the opinions among them alone. -/
structure IsCombination (combine : List ExitCode → ExitCode) : Prop where
  /-- There is a single code that the candidates decide on. -/
  decides : ∀ codes code, combine codes = code ↔ Decides codes code
  /-- The order does not matter. -/
  perm : ∀ codes others : List ExitCode, codes.Perm others → combine codes = combine others
  /-- It does not matter how often a code is offered. -/
  repeated : ∀ codes, ∀ code ∈ codes, combine (code :: codes) = combine codes
  /-- Whoever has no opinion may be left out. -/
  silent : ∀ codes : List ExitCode, combine (codes.filter (· ≠ 0)) = combine codes
  /-- Two lists may be combined by themselves first. -/
  append : ∀ codes others, combine (codes ++ others) = combine [combine codes, combine others]
  /-- Any number of lists may be combined by themselves first. -/
  flatten : ∀ groups : List (List ExitCode),
    combine groups.flatten = combine (groups.map combine)

/-- Combining is a matter of the opinions among the codes alone. -/
theorem isCombination_combine : IsCombination combine where
  decides _ _ := combine_eq_iff
  perm _ _ := combine_perm
  repeated codes code offered := by
    apply combine_congr
    intro other _
    grind
  silent codes := by
    apply combine_congr
    intro code opinion
    simp [opinion]
  append := combine_append
  flatten := combine_flatten

end ExitCode

namespace Container

variable {invoke : Invoker} {failure : Failure} {mappers : List Participant}
  {answers : Participant → ExitCode}

/-- What a mapper answers depends on the failure alone. -/
def Maps (invoke : Invoker) (failure : Failure) (mapper : Participant) (code : ExitCode) : Prop :=
  ∀ world, ((invoke (.mapFailure mapper failure)).result world).1 = .ok code

/-- The answers of mappers are collected in their order. -/
theorem result_mapM_of_maps (maps : ∀ mapper ∈ mappers, Maps invoke failure mapper (answers mapper))
    (world : World) :
    ((mappers.mapM fun mapper => (invoke (.mapFailure mapper failure) : Act ExitCode)).result
      world).1 = .ok (mappers.map answers) := by
  induction mappers generalizing world with
  | nil => rfl
  | cons mapper rest ih =>
    have first := maps mapper List.mem_cons_self world
    rw [List.mapM_cons, Act.result_bind]
    generalize (invoke (.mapFailure mapper failure)).result world = reached at first ⊢
    obtain ⟨answer, between⟩ := reached
    obtain rfl : answer = .ok (answers mapper) := first
    have others := ih (fun other among => maps other (List.mem_cons_of_mem mapper among)) between
    dsimp only
    rw [Act.result_bind]
    generalize Act.result (rest.mapM _) between = collected at others ⊢
    obtain ⟨codes, later⟩ := collected
    obtain rfl : codes = .ok (rest.map answers) := others
    rfl

/-- The mappers that are asked: those of an active container. -/
def consulted (container : Container) : List Participant :=
  if container.isActive then container.mappers else []

/-- A failure gets the exit code that the answers of the mappers combine to, and the code of its own
chain if they have no opinion. -/
theorem resolveExitCode_of_maps {ref : ContainerRef} {world : World}
    (maps : ∀ mapper ∈ (world.container ref).consulted,
      Maps invoke failure mapper (answers mapper)) :
    ((resolveExitCode invoke (some ref) failure).result world).1 =
      .ok (if ExitCode.combine ((world.container ref).consulted.map answers) ≠ 0 then
        ExitCode.combine ((world.container ref).consulted.map answers)
      else failure.exitCode?.getD 0) := by
  have collected := result_mapM_of_maps maps world
  have unfolded : (resolveExitCode invoke (some ref) failure).result world =
      (mappedCode invoke (world.container ref).consulted failure >>= fun mapped =>
        return if mapped ≠ 0 then mapped else failure.exitCode?.getD 0).result world := rfl
  rw [unfolded, mappedCode, Act.result_bind, Act.result_bind]
  generalize Act.result (List.mapM _ _) world = reached at collected ⊢
  obtain ⟨codes, later⟩ := reached
  obtain rfl : codes = .ok ((world.container ref).consulted.map answers) := collected
  rfl

/-- The order of the mappers does not matter for the exit code of a failure. -/
theorem resolveExitCode_of_perm {ref there : ContainerRef} {one other : World}
    (maps : ∀ mapper ∈ (one.container ref).mappers, Maps invoke failure mapper (answers mapper))
    (order : (one.container ref).mappers.Perm (other.container there).mappers)
    (alike : (one.container ref).isActive = (other.container there).isActive) :
    ∃ code, ((resolveExitCode invoke (some ref) failure).result one).1 = .ok code ∧
      ((resolveExitCode invoke (some there) failure).result other).1 = .ok code := by
  have consults : (one.container ref).consulted.Perm (other.container there).consulted := by
    unfold consulted
    rw [alike]
    split
    · exact order
    · exact .nil
  have here : ∀ mapper ∈ (one.container ref).consulted,
      Maps invoke failure mapper (answers mapper) := by
    intro mapper among
    unfold consulted at among
    split at among
    · exact maps mapper among
    · cases among
  refine ⟨_, resolveExitCode_of_maps here, ?_⟩
  rw [resolveExitCode_of_maps fun mapper among => here mapper (consults.mem_iff.2 among),
    ExitCode.combine_perm (consults.map answers)]

/-- A graceful end depends on the codes that are offered by way of what they combine to. -/
theorem result_exit (ref : ContainerRef) (codes : List ExitCode) (world : World) :
    (exit invoke ref codes).result world =
      (exitWith invoke ref
        (ExitCode.combine (codes ++ (world.container ref).generators))).result world := rfl

/-- An end with a code comes to nothing but that code, or to the code one in place of zero. -/
theorem answer_of_exitWith {ref : ContainerRef} {code value : ExitCode} {world last : World}
    (ended : (exitWith invoke ref code).result world = (.ok value, last)) :
    value = code ∨ code = 0 ∧ value = 1 := by
  have unclean : ∀ {held failure between}, (exitWith.unclean code held failure).result between =
      (.ok value, last) → value = code ∨ code = 0 ∧ value = 1 := by
    intro held failure between logged
    obtain ⟨_, _, _, answered⟩ := Act.result_bind_ok_iff.1 logged
    cases answered
    by_cases silent : code = 0 <;> simp [silent]
  have concludes : ∀ {held between published},
      (exitWith.conclude invoke ref code held published).result between = (.ok value, last) →
        value = code ∨ code = 0 ∧ value = 1 := by
    intro held between published ended
    obtain ⟨closed, _, _, ended⟩ := Act.result_bind_ok_iff.1 ended
    split at ended
    · cases ended
      exact .inl rfl
    · exact unclean ended
    · exact unclean ended
  obtain ⟨held, between, _, ended⟩ := Act.result_bind_ok_iff.1 ended
  dsimp only at ended
  split at ended
  · obtain ⟨_, _, _, ended⟩ := Act.result_bind_ok_iff.1 ended
    exact concludes ended
  · exact concludes ended

/-- Exit codes combine to what their opinions decide on, in any order and in any grouping. So the
exit code of a failure does not depend on the order in which the mappers of a container were
registered, if each of them has its answer for the failure. And an application ends in the same way
whoever offers a code, the caller or the container, in whatever order and in whatever groups. -/
theorem exit_codes_combine_in_any_order :
    ExitCode.IsCombination ExitCode.combine ∧
    (∀ (invoke : Invoker) (failure : Failure) (answers : Participant → ExitCode)
        (ref there : ContainerRef) (one other : World),
      (∀ mapper ∈ (one.container ref).mappers, Maps invoke failure mapper (answers mapper)) →
      (one.container ref).mappers.Perm (other.container there).mappers →
      (one.container ref).isActive = (other.container there).isActive →
      ∃ code, ((resolveExitCode invoke (some ref) failure).result one).1 = .ok code ∧
        ((resolveExitCode invoke (some there) failure).result other).1 = .ok code) ∧
    (∀ (invoke : Invoker) (ref there : ContainerRef) (codes others : List ExitCode)
        (one other : World),
      (codes ++ (one.container ref).generators).Perm
        (others ++ (other.container there).generators) →
      ∃ code, (exit invoke ref codes).result one = (exitWith invoke ref code).result one ∧
        (exit invoke there others).result other = (exitWith invoke there code).result other ∧
        ∀ value last, (exit invoke ref codes).result one = (.ok value, last) ∨
          (exit invoke there others).result other = (.ok value, last) →
          value = code ∨ code = 0 ∧ value = 1) ∧
    ∀ (invoke : Invoker) (ref : ContainerRef) (groups : List (List ExitCode)) (world : World),
      exit invoke ref groups.flatten = exit invoke ref (groups.map ExitCode.combine) ∧
      (exit invoke ref groups.flatten).result world = (exitWith invoke ref (ExitCode.combine
        [ExitCode.combine groups.flatten,
          ExitCode.combine (world.container ref).generators])).result world := by
  refine ⟨ExitCode.isCombination_combine, ?_, ?_, ?_⟩
  · intro invoke failure answers ref there one other maps order alike
    exact resolveExitCode_of_perm maps order alike
  · intro invoke ref there codes others one other order
    refine ⟨_, result_exit ref codes one, ?_, fun value last ended => ?_⟩
    · rw [result_exit, ExitCode.combine_perm order]
    · obtain here | elsewhere := ended
      · exact answer_of_exitWith here
      · rw [result_exit, ← ExitCode.combine_perm order] at elsewhere
        exact answer_of_exitWith elsewhere
  · intro invoke ref groups world
    constructor
    · unfold exit
      simp only [ExitCode.combine_append groups.flatten, ExitCode.combine_append (groups.map _),
        ExitCode.combine_flatten]
    · rw [result_exit, ExitCode.combine_append]

/-- A world with an active container of the given beans. -/
def stocked (beans : List (String × Bean)) : World where
  containers := [{ id := "stocked", kind := .standalone, phase := .active, beans }]

/-- The beans of two mappers. -/
def mapperBeans : List (String × Bean) :=
  [("lenient", .exitCodeMapper "lenient"), ("strict", .exitCodeMapper "strict")]

/-- Two mappers, one of which wants a failure to end with 3, the other with -7. -/
def mapping : Behaviour
  | .mapFailure participant _ => .done (if participant.name = "strict" then 3 else -7)
  | _ => .panic "unexpected call"

/-- Two mappers in either order, and the candidates of an exit in two groupings. -/
theorem exit_codes_combine_stocked :
    (∃ code, ((resolveExitCode (mapping.invoker 1 0) (some ⟨0⟩) (.text "down")).result
        (stocked mapperBeans)).1 = .ok code ∧
      ((resolveExitCode (mapping.invoker 1 0) (some ⟨0⟩) (.text "down")).result
        (stocked mapperBeans.reverse)).1 = .ok code ∧
      code = 3) ∧
    ∃ code, (exit (mapping.invoker 1 0) ⟨0⟩ [-5, 0]).result
        (stocked [("two", .exitCodeGenerator 2)]) =
        (exitWith (mapping.invoker 1 0) ⟨0⟩ code).result (stocked [("two", .exitCodeGenerator 2)]) ∧
      (exit (mapping.invoker 1 0) ⟨0⟩ [0, 2]).result (stocked [("five", .exitCodeGenerator (-5))]) =
        (exitWith (mapping.invoker 1 0) ⟨0⟩ code).result
          (stocked [("five", .exitCodeGenerator (-5))]) ∧
      code = 2 := by
  obtain ⟨-, mapped, ended, -⟩ := exit_codes_combine_in_any_order
  constructor
  · obtain ⟨code, first, second⟩ := mapped (mapping.invoker 1 0) (.text "down")
      (fun mapper => if mapper.name = "strict" then 3 else -7) ⟨0⟩ ⟨0⟩ (stocked mapperBeans)
      (stocked mapperBeans.reverse) (fun _ _ _ => rfl) (by decide) rfl
    have evaluates : ((resolveExitCode (mapping.invoker 1 0) (some ⟨0⟩) (.text "down")).result
        (stocked mapperBeans)).1 = .ok 3 := rfl
    exact ⟨code, first, second, Except.ok.inj (first.symm.trans evaluates)⟩
  · obtain ⟨code, first, second, answers⟩ := ended (mapping.invoker 1 0) ⟨0⟩ ⟨0⟩ [-5, 0] [0, 2]
      (stocked [("two", .exitCodeGenerator 2)]) (stocked [("five", .exitCodeGenerator (-5))])
      (by decide)
    refine ⟨code, first, second, ?_⟩
    have evaluates : ((exit (mapping.invoker 1 0) ⟨0⟩ [-5, 0]).result
        (stocked [("two", .exitCodeGenerator 2)])).1 = .ok 2 := rfl
    have counts := answers 2 _ (.inl (Prod.ext evaluates rfl))
    grind

end Container

end Launchpad
