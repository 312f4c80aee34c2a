import Mathlib.Data.List.Basic
import Mathlib.Tactic.Common

namespace OpenAmpReference

/-!
# Ledgers of resources

What a program acquires and what it releases, from the latest on.  A resource is live
from its acquisition to its release; whoever uses or releases one that is not live has
misused it, and a ledger remembers that.
-/

structure Ledger (Resource : Type*) where
  acquired : List Resource
  released : List Resource
  misused : Bool
  deriving DecidableEq, Repr

namespace Ledger

variable {Resource : Type*}

def empty : Ledger Resource where
  acquired := []
  released := []
  misused := false

def Live (ledger : Ledger Resource) (resource : Resource) : Prop :=
  resource ∈ ledger.acquired ∧ resource ∉ ledger.released

/-- Everything that was acquired is released exactly once. -/
def Settled [DecidableEq Resource] (ledger : Ledger Resource) : Prop :=
  forall resource, resource ∈ ledger.acquired -> ledger.released.count resource = 1

section Operations

variable (ledger : Ledger Resource)

def acquire (resource : Resource) : Ledger Resource :=
  { ledger with acquired := resource :: ledger.acquired }

/-- Something that is no resource at all is used. -/
def misuse : Ledger Resource :=
  { ledger with misused := true }

variable [DecidableEq Resource]

instance (resource : Resource) : Decidable (ledger.Live resource) :=
  inferInstanceAs (Decidable (_ ∧ _))

instance : Decidable ledger.Settled :=
  inferInstanceAs (Decidable (forall resource, resource ∈ ledger.acquired -> _))

def use (resource : Resource) : Ledger Resource :=
  { ledger with misused := ledger.misused || !decide (ledger.Live resource) }

def release (resource : Resource) : Ledger Resource :=
  { ledger.use resource with released := resource :: ledger.released }

end Operations

/-! ## Live resources -/

section

variable [DecidableEq Resource] {ledger : Ledger Resource} {resource : Resource}

theorem use_of_live (live : ledger.Live resource) : ledger.use resource = ledger := by
  rw [use, decide_eq_true live, Bool.not_true, Bool.or_false]

theorem release_of_live (live : ledger.Live resource) :
    ledger.release resource = { ledger with released := resource :: ledger.released } := by
  rw [release, use_of_live live]

theorem use_of_dead (dead : ¬ ledger.Live resource) : (ledger.use resource).misused = true := by
  show (ledger.misused || !decide (ledger.Live resource)) = true
  rw [decide_eq_false dead, Bool.not_false, Bool.or_true]

theorem release_of_dead (dead : ¬ ledger.Live resource) :
    (ledger.release resource).misused = true :=
  use_of_dead dead

end

/-! ## What is never undone -/

/-- The later ledger has all that the earlier one has. -/
structure Extends (later earlier : Ledger Resource) : Prop where
  acquired : forall resource, resource ∈ earlier.acquired -> resource ∈ later.acquired
  released : forall resource, resource ∈ earlier.released -> resource ∈ later.released
  misused : earlier.misused = true -> later.misused = true

namespace Extends

variable {first second third : Ledger Resource}

theorem refl (ledger : Ledger Resource) : ledger.Extends ledger where
  acquired := fun _ member => member
  released := fun _ member => member
  misused := id

theorem trans (later : third.Extends second) (earlier : second.Extends first) :
    third.Extends first where
  acquired := fun resource member => later.acquired resource (earlier.acquired resource member)
  released := fun resource member => later.released resource (earlier.released resource member)
  misused := fun misused => later.misused (earlier.misused misused)

end Extends

variable (ledger : Ledger Resource) (resource : Resource)

theorem acquire_extends : (ledger.acquire resource).Extends ledger where
  acquired := fun _ member => List.mem_cons_of_mem resource member
  released := fun _ member => member
  misused := id

theorem misuse_extends : ledger.misuse.Extends ledger where
  acquired := fun _ member => member
  released := fun _ member => member
  misused := fun _ => rfl

variable [DecidableEq Resource]

theorem use_extends : (ledger.use resource).Extends ledger where
  acquired := fun _ member => member
  released := fun _ member => member
  misused := fun misused => by rw [use, misused, Bool.true_or]

theorem release_extends : (ledger.release resource).Extends ledger where
  acquired := fun _ member => member
  released := fun _ member => List.mem_cons_of_mem resource member
  misused := fun misused => by rw [release, use, misused, Bool.true_or]

end Ledger
end OpenAmpReference
