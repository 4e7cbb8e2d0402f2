/-!
Repeating what fails, with pauses in between.
-/
namespace PoolIndexer

/-- Runs a step once, and again after each of the pauses as long as it fails. The outcome is that
of the last run. -/
def retry {σ ε α : Type} (sleep : Nat → σ → σ) (step : σ → Except ε α × σ) :
    List Nat → σ → Except ε α × σ
  | [], s => step s
  | pause :: pauses, s =>
    match step s with
    | (.ok a, s) => (.ok a, s)
    | (.error _, s) => retry sleep step pauses (sleep pause s)

end PoolIndexer
