import ApiClient.Text.CodePoint

/-! Messages for whoever follows a run, and computations that leave such messages behind. -/

namespace ApiClient

inductive Level where
  | debug
  | info
  | warning
  deriving DecidableEq, Repr

structure LogEntry where
  level : Level
  message : Text
  deriving DecidableEq, Repr

/-- A computation with the messages it leaves. Messages left before a failure are kept. -/
structure Logged (ε α : Type) where
  log : List LogEntry
  outcome : Except ε α

namespace Logged

def ofExcept (outcome : Except ε α) : Logged ε α :=
  ⟨[], outcome⟩

def debug (message : Text) : Logged ε Unit :=
  ⟨[⟨.debug, message⟩], .ok ()⟩

def fail (failure : ε) : Logged ε α :=
  ⟨[], .error failure⟩

instance : Monad (Logged ε) where
  pure value := ⟨[], .ok value⟩
  bind first next :=
    match first.outcome with
    | .error failure => ⟨first.log, .error failure⟩
    | .ok value =>
      let rest := next value
      ⟨first.log ++ rest.log, rest.outcome⟩

def mapError (change : ε → δ) (logged : Logged ε α) : Logged δ α :=
  ⟨logged.log, logged.outcome.mapError change⟩

end Logged

end ApiClient
