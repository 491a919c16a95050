import PromptLoop.Generation.Course

/-!
# Policies and filters

A policy says after every event whether generation goes on. It may count, so it has a state. A filter
says which tokens may be sampled at all.
-/

namespace PromptLoop

/-- A policy with states of type `π`. -/
structure Policy (π : Type) where
  /-- Whether to go on after an event, and the state after it. -/
  ask : π → Event → Bool × π

namespace Policy

/-- The policy that always goes on. -/
def always : Policy Unit := ⟨fun _ _ => (true, ())⟩

/-- The policy that stops at certain tokens and after a number of events. Its state is the number of
events it was asked about. -/
def stopping (stopTokens : List Token) (maxEvents : Option Nat) : Policy Nat where
  ask count event :=
    let count := count + 1
    (!stopTokens.contains event.token && maxEvents.all (fun limit => count < limit), count)

end Policy

/-- A filter by lists of tokens. -/
structure TokenFilter where
  /-- The tokens that are accepted; all if there is no list. -/
  only : Option (List Token)
  /-- The tokens that are not accepted, even if the other list has them. -/
  reject : List Token
  deriving DecidableEq, Repr

namespace TokenFilter

/-- Whether a token is accepted. -/
def accepts (f : TokenFilter) (token : Token) : Bool :=
  f.only.all (fun tokens => tokens.contains token) && !f.reject.contains token

end TokenFilter

end PromptLoop
