import SchemaEvolution.Database.Session

/-!
# Sessions without a connection

A session whose database was never reached: every call fails, a transaction does
not even begin, and only parting succeeds.
-/

namespace SchemaEvolution

/-- The failure of a call without a connection. -/
def DatabaseError.notConnected : DatabaseError :=
  .other "PostgreSQL executor is not connected"

/-- Carries out a session with a PostgreSQL database that was never reached. The
clock always shows the same time. -/
def Session.unconnected {α : Type} (now : Instant) : Session α → α
  | .done value => value
  | .connect next => (next (.error .notConnected)).unconnected now
  | .disconnect next => (next (.ok ())).unconnected now
  | .execute _ _ next => (next (.error .notConnected)).unconnected now
  | .batch _ next => (next (.error .notConnected)).unconnected now
  | .query _ _ next => (next (.error .notConnected)).unconnected now
  | .transaction _ next => (next (.error .notConnected)).unconnected now
  | .clock next => (next now).unconnected now
  | .tell _ next => next.unconnected now

end SchemaEvolution
