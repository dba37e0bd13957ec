import StreamScout.Service.Event

namespace StreamScout.Service

inductive Outcome where
  | ok
  | error (message : String)
  | panic
  deriving DecidableEq, Repr

structure Reply (σ : Type) where
  outcome : Outcome
  state : σ
  posts : List (Event Record) := []

structure Provider (σ : Type) where
  connect : (interface : String) → σ → Reply σ
  subscribe : (typeDomain : String) → σ → Reply σ
  resolve : Record → σ → Reply σ
  stop : σ → σ
  /-- What is left when the session lets go of a provider without stopping it. -/
  drop : σ → σ

end StreamScout.Service
