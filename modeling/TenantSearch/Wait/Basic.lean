import TenantSearch.Retry.Delay
import TenantSearch.Store.Node
import TenantSearch.Text.Quoted

/-!
# `TenantSearch.Wait`: waiting for a node to appear or disappear

After a write, readers may not see the node at once. A wait probes the store until the node is
as expected, with pauses that grow, up to a number of probes. This module holds the settings of
a wait and what it can come to. `TenantSearch.Wait.Run` holds the wait itself.
-/

set_option autoImplicit false

namespace TenantSearch.Wait

open TenantSearch.Time (Duration)

/-- The shortest pause after the first probe. -/
def minBaseDelay : Duration := Duration.ofMillis 1

/-- The settings of a wait: at least one probe, and a pause that is not too short. -/
structure Config where
  maxAttempts : UInt32
  /-- The pause after the first probe. After probe `n` it is `n` times as long. -/
  baseDelay : Duration
  one_le_maxAttempts : 1 ≤ maxAttempts.toNat
  min_le_baseDelay : minBaseDelay.nanos ≤ baseDelay.nanos

/-- The settings, raised to the least values where they are below. -/
def Config.clamped (maxAttempts : UInt32) (baseDelay : Duration) : Config where
  maxAttempts := if maxAttempts = 0 then 1 else maxAttempts
  baseDelay := minBaseDelay.max baseDelay
  one_le_maxAttempts := by
    split
    · decide
    · rename_i h
      rcases Nat.eq_zero_or_pos maxAttempts.toNat with hz | hp
      · exact absurd (UInt32.toNat_inj.1 hz) h
      · exact hp
  min_le_baseDelay := by
    unfold Duration.max
    split
    · assumption
    · exact Nat.le_refl _

/-- The state that is awaited. -/
inductive Expectation where
  | created
  | deleted
deriving DecidableEq, Repr

/-- Whether the state is as expected. -/
def Expectation.isMet : Expectation → Bool → Bool
  | .created, found => found
  | .deleted, found => !found

/-- The word for the expectation. -/
def Expectation.word : Expectation → String
  | .created => "created"
  | .deleted => "deleted"

/-- What a wait comes to, with a number of probes. -/
inductive Outcome where
  /-- The last probe saw the expected state. -/
  | confirmed (attempts : UInt32)
  /-- All the probes, or the time, were used up. -/
  | gaveUp (attempts : UInt32)
  /-- The wait was cancelled after this many probes were answered. -/
  | cancelled (attempts : UInt32)
deriving DecidableEq, Repr

namespace Outcome

/-- The number of probes. -/
def attempts : Outcome → UInt32
  | confirmed n | gaveUp n | cancelled n => n

/-- Whether the expected state was seen. -/
def isConfirmed : Outcome → Bool
  | confirmed _ => true
  | _ => false

/-- The outcome as a success or an error in words. -/
def result : Outcome → Except String UInt32
  | confirmed n => .ok n
  | gaveUp n => .error ("expected state not observed after " ++ toString n ++ " attempts")
  | cancelled _ => .error "wait cancelled"

/-- What is said of a wait that gave up. -/
def warning? (node : Store.Node) (expectation : Expectation) : Outcome → Option String
  | gaveUp n =>
    some ("Node not " ++ expectation.word ++ " in graph store, giving up tenant="
      ++ Text.quoted node.tenant ++ " id=" ++ Text.quoted node.id ++ " label="
      ++ Text.quoted node.label ++ " attempts=" ++ toString n)
  | _ => none

end Outcome

end TenantSearch.Wait
