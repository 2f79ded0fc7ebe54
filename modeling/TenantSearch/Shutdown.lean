/-!
# `TenantSearch.Shutdown`: stopping in order

A shutdown is signalled in two ways. A channel wakes those that wait for it, and a tree of tokens
cancels the work in progress: the tokens handed out are children of one token that no one else
holds. Triggering the shutdown sends on the channel and cancels that token.

The channel and the tokens are shared. A handle only holds their numbers, and a clone of a handle
holds the same ones.
-/

set_option autoImplicit false

namespace TenantSearch

namespace Shutdown

/-! ### Channels -/

/-- A channel that keeps the latest value that was sent. -/
structure Channel where
  latest : Bool := false
deriving DecidableEq, Repr

/-- Sends a value. A channel without receivers would refuse it, but every handle of a shutdown
holds a receiver. -/
def Channel.send (c : Channel) (value : Bool) : Channel := { c with latest := value }

/-! ### Tokens -/

/-- A token of a tree. -/
structure Token where
  /-- The number of the token that it is a child of. It comes before the child. -/
  parent : Option Nat := none
  cancelled : Bool := false
deriving DecidableEq, Repr

namespace Token

/-- Whether a token is cancelled. -/
def isCancelled (tokens : List Token) (n : Nat) : Bool := tokens[n]?.any cancelled

/-- Adds a child of a token. A child of a cancelled token is cancelled from the start. -/
def addChild (tokens : List Token) (parent : Nat) : List Token :=
  tokens ++ [{ parent := some parent, cancelled := isCancelled tokens parent }]

/-- Adds the answer for the next token to those for the tokens before it: whether it is the
token `top` or below it. -/
def markBelow (top : Nat) (found : List Bool) (t : Token) : List Bool :=
  found ++ [found.length == top || t.parent.any fun p => found.getD p false]

/-- For each token whether it is the token `top` or below it. -/
def below (top : Nat) (tokens : List Token) : List Bool := tokens.foldl (markBelow top) []

/-- Cancels a token and all tokens below it. -/
def cancel (tokens : List Token) (top : Nat) : List Token :=
  tokens.zipWith (fun t hit => { t with cancelled := t.cancelled || hit }) (below top tokens)

end Token

/-! ### Handles -/

/-- What a handle holds: the numbers of the channel it sends on, of the channel it receives from
and of the token whose children it hands out. -/
structure Service where
  sender : Nat
  receiver : Nat
  token : Nat
deriving DecidableEq, Repr

/-- A clone sends on the same channel, receives from the same channel and has the same token. -/
def Service.clone (s : Service) : Service :=
  { sender := s.sender, receiver := s.receiver, token := s.token }

/-- A wait for the shutdown. It holds a receiver of its own. -/
structure Wait where
  receiver : Nat
deriving DecidableEq, Repr

/-- Starts a wait. -/
def Service.wait (s : Service) : Wait := ⟨s.receiver⟩

/-- A handle of a shutdown: the one it was made with, or a clone of a handle. -/
inductive Handle where
  | owner
  | cloneOf (original : Handle)
deriving DecidableEq, Repr

/-- A clone of the first handle. -/
def Handle.clone : Handle := .cloneOf .owner

/-- What a handle holds, when the first one holds `first`. -/
def Handle.service (first : Service) : Handle → Service
  | owner => first
  | cloneOf original => (original.service first).clone

end Shutdown

/-- The state of a shutdown. -/
structure Shutdown where
  channels : List Shutdown.Channel := [{}]
  tokens : List Shutdown.Token := [{}]
  /-- What the first handle holds. -/
  first : Shutdown.Service := { sender := 0, receiver := 0, token := 0 }
  /-- The numbers of the tokens that were handed out, in order. -/
  taken : List Nat := []
deriving DecidableEq, Repr

namespace Shutdown

/-! ### Operations -/

/-- What can be done with a shutdown. -/
inductive Operation where
  /-- Takes a token. -/
  | token
  /-- Cancels a token that was taken, counted from zero. -/
  | cancel (index : Nat)
  | trigger
  /-- Looks whether a new wait is done. -/
  | wait
deriving DecidableEq, Repr

/-- What an operation answers. -/
inductive Reply where
  /-- How many tokens were taken before. -/
  | token (index : Nat)
  | finished (done : Bool)
  | nothing
deriving DecidableEq, Repr

/-- Takes a token. -/
def take (s : Shutdown) (service : Service) : Shutdown :=
  { s with
    tokens := Token.addChild s.tokens service.token
    taken := s.taken ++ [s.tokens.length] }

/-- Cancels one of the tokens that were taken. -/
def cancel (s : Shutdown) (index : Nat) : Shutdown :=
  match s.taken[index]? with
  | some n => { s with tokens := Token.cancel s.tokens n }
  | none => s

/-- Triggers the shutdown, first for those that wait and then for the tokens. -/
def trigger (s : Shutdown) (service : Service) : Shutdown :=
  { s with
    channels := s.channels.modify service.sender (·.send true)
    tokens := Token.cancel s.tokens service.token }

/-- Whether a wait is done. It looks at the latest value of its channel. -/
def isDone (s : Shutdown) (w : Wait) : Bool := s.channels[w.receiver]?.any Channel.latest

/-- Which of the tokens that were taken are cancelled. -/
def cancelled (s : Shutdown) : List Bool := s.taken.map (Token.isCancelled s.tokens)

/-- Performs an operation on a handle. -/
def perform (s : Shutdown) (handle : Handle) : Operation → Shutdown × Reply
  | .token => (s.take (handle.service s.first), .token s.taken.length)
  | .cancel index => (s.cancel index, .nothing)
  | .trigger => (s.trigger (handle.service s.first), .nothing)
  | .wait => (s, .finished (s.isDone (handle.service s.first).wait))

end Shutdown

end TenantSearch
