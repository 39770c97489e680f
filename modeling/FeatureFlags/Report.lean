import FeatureFlags.Feature

namespace FeatureFlags

/-- How the question for one flag was decided. -/
structure Report where
  flag : String
  found : Bool
  votes : List (String × Bool)
  enabled : Bool
deriving DecidableEq, Repr

namespace Report

def unknown (flag : String) : Report := ⟨flag, false, [], false⟩

def ofFeature {σ : Type} [Criterion σ] (feature : Feature σ) : Report :=
  let votes := feature.votes
  ⟨feature.name, true, votes, !votes.isEmpty && votes.all (·.2)⟩

def printVote (vote : String × Bool) : String := vote.1 ++ ": " ++ toString vote.2

def print (report : Report) : String :=
  if !report.found then report.flag ++ " = false (unknown flag)"
  else if report.votes.isEmpty then report.flag ++ " = false (no specifications)"
  else
    report.flag ++ " = " ++ toString report.enabled ++
      " [" ++ ", ".intercalate (report.votes.map printVote) ++ "]"

end Report

end FeatureFlags
