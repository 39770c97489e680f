import FeatureFlags.Criterion

namespace FeatureFlags

/-- One vote on a feature. A constant vote takes every parameter and heeds none. -/
inductive Specification (σ : Type) where
  | constant (vote : Bool)
  | custom (state : σ)
deriving DecidableEq, Repr

namespace Specification

variable {σ : Type} [Criterion σ]

def vote : Specification σ → Bool
  | constant vote => vote
  | custom state => Criterion.vote state

def assign (specification : Specification σ) (name value : String) :
    Except DuplicateParameter Unit × Specification σ :=
  match specification with
  | constant vote => (.ok (), constant vote)
  | custom state =>
    let answer := Criterion.assign state name value
    (answer.1, custom answer.2)

/-- Whether the parameters of a specification on `feature` are complete and well formed. -/
def check (specification : Specification σ) (feature : String) : Except InvalidParameter Unit :=
  match specification with
  | constant _ => .ok ()
  | custom state => Criterion.check state feature

end Specification

end FeatureFlags
