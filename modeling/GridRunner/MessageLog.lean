/-!
# The message log

A log of bounded length, newest message first.  A message beyond the capacity
drops the oldest one, so the log is always a window on the latest messages.
-/

namespace GridRunner

/-- The most messages for which there is room: each takes three words of the memory that a
program can address. -/
def MessageLog.maxCapacity : Nat := 9223372036854775807 / 24

/-- A number of messages for which there is room. -/
abbrev MessageLog.Capacity := { n : Nat // n ≤ maxCapacity }

structure MessageLog where
  capacity : Nat
  newest : List String
  capacity_pos : 0 < capacity
  length_le : newest.length ≤ capacity

namespace MessageLog

/-- An empty log; a capacity of zero counts as one. -/
def ofCapacity (capacity : Capacity) : MessageLog :=
  ⟨max capacity.1 1, [], by omega, by simp⟩

instance : Inhabited MessageLog := ⟨ofCapacity ⟨1, by decide⟩⟩

def push (log : MessageLog) (message : String) : MessageLog :=
  ⟨log.capacity, (message :: log.newest).take log.capacity, log.capacity_pos, by
    rw [List.length_take]
    omega⟩

def size (log : MessageLog) : Nat := log.newest.length

def isEmpty (log : MessageLog) : Bool := log.newest.isEmpty

def last? (log : MessageLog) : Option String := log.newest.head?

def recent (log : MessageLog) (limit : Nat) : List String := log.newest.take limit

/-- Every message kept, oldest first. -/
def toList (log : MessageLog) : List String := log.newest.reverse

end MessageLog
end GridRunner
