import GridRunner.MessageLog

/-!
# Tunable rules of play

The numbers that a content pack may change, and the rules that they make.
-/

namespace GridRunner

structure RuleSheet where
  /-- Messages the log keeps. -/
  messageCapacity : Nat := 10
  playerHp : Int32 := 20
  enemyHp : Int32 := 5
  bossHp : Int32 := 10
  /-- Damage of a well-formed substitution. -/
  purgeDamage : Int32 := 5
  /-- Damage of a strike without the aura. -/
  strikeDamage : Int32 := 2
  /-- Damage of a strike under the aura. -/
  auraDamage : Int32 := 5
  /-- Columns covered by one word motion. -/
  wordJump : Int32 := 3
  deriving DecidableEq, Repr, Inhabited

/-- Rules that a game can be started with: there is room for the log they ask for. -/
structure Rules extends RuleSheet where
  capacity_le : messageCapacity ≤ MessageLog.maxCapacity := by decide
  deriving DecidableEq, Repr

instance : Inhabited Rules := ⟨{}⟩

namespace RuleSheet

/-- The standard sheet with a log of the given capacity, at least one. -/
def withMessageCapacity (capacity : Nat) : RuleSheet := { messageCapacity := max capacity 1 }

/-- The rules on the sheet.  With none the program stops as soon as it makes the log. -/
def rules? (sheet : RuleSheet) : Option Rules :=
  if fits : sheet.messageCapacity ≤ MessageLog.maxCapacity then
    some { sheet with capacity_le := fits }
  else none

theorem rules?_toRuleSheet (rules : Rules) : rules.toRuleSheet.rules? = some rules :=
  dif_pos rules.capacity_le

end RuleSheet

namespace Rules

/-- The widest row, and the tallest column, that a map may have. -/
def maxExtent : Nat := 256

def capacity (rules : Rules) : MessageLog.Capacity := ⟨rules.messageCapacity, rules.capacity_le⟩

end Rules

/-- Largest value of a 32-bit count; greater counts are held at it. -/
def countLimit : Nat := 4294967295

def capped (n : Nat) : Nat := min n countLimit

end GridRunner
