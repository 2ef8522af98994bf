import QueryDesk.Record.Basic

/-!
# New ids and times

Ids and the time come from outside.  A supply hands them out in order: `idAt` and `timeAt` are the
sequences, `ids` and `ticks` count what has been handed out.  A time is cut to whole microseconds,
which is all that a row keeps of it.
-/

namespace QueryDesk.Store

open QueryDesk.Record

/-- The ids and times still to come. -/
structure Supply where
  idAt : Nat → Uuid
  timeAt : Nat → Timestamp
  ids : Nat
  ticks : Nat

namespace Supply

/-- A supply that counts: ids up from a number, times a microsecond apart. -/
def counting (first : Nat) (start : Timestamp) : Supply :=
  ⟨fun n => .ofNat (first + n), start.microsAfter, 0, 0⟩

/-- The next id. -/
def takeId (s : Supply) : Uuid × Supply :=
  (s.idAt s.ids, { s with ids := s.ids + 1 })

/-- The present time, in whole microseconds. -/
def takeTime (s : Supply) : Timestamp × Supply :=
  ((s.timeAt s.ticks).truncated, { s with ticks := s.ticks + 1 })

end Supply

end QueryDesk.Store
