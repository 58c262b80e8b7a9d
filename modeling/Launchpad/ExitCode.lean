/-!
# Combining exit codes

Several participants may each offer an exit code. Zero means no opinion: the largest positive code
wins, otherwise the smallest negative one, otherwise the result is zero. The candidates are read
once, from first to last.
-/

namespace Launchpad

/-- A process exit code. -/
abbrev ExitCode := Int

namespace ExitCode

/-- The candidates that lead so far: the largest positive code and the smallest negative one. -/
structure Leading where
  positive : Option ExitCode := none
  negative : Option ExitCode := none
  deriving DecidableEq, Repr

namespace Leading

/-- Compares one more candidate with the leading ones. -/
def take (leading : Leading) (code : ExitCode) : Leading :=
  if 0 < code then
    { leading with positive := some (leading.positive.elim code (max · code)) }
  else if code < 0 then
    { leading with negative := some (leading.negative.elim code (min · code)) }
  else leading

/-- The code that the leading candidates decide on. -/
def code (leading : Leading) : ExitCode :=
  (leading.positive.or leading.negative).getD 0

end Leading

/-- The code that a list of candidates resolves to. -/
def combine (codes : List ExitCode) : ExitCode :=
  (codes.foldl Leading.take {}).code

@[simp] theorem combine_nil : combine [] = 0 := rfl

@[simp] theorem combine_singleton (code : ExitCode) : combine [code] = code := by
  simp only [combine, List.foldl_cons, List.foldl_nil, Leading.take]
  by_cases positive : 0 < code
  · simp [positive, Leading.code]
  · by_cases negative : code < 0
    · simp [positive, negative, Leading.code]
    · have zero : code = 0 := Int.le_antisymm (Int.not_lt.1 positive) (Int.not_lt.1 negative)
      simp [zero, Leading.code]

end ExitCode

end Launchpad
