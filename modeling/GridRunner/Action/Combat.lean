import GridRunner.Action
import GridRunner.Substitution
import GridRunner.World

/-!
# Strikes and purges

Each strike of a delete hits the first hostile in reach.  A hostile without hit points left is
erased, and the next strike falls on the one behind it.  A purge is a well-formed substitution, and
damages the first boss wherever it stands; its target is named in the log, its replacement has no
effect.
-/

namespace GridRunner.World

def strikable (w : World) (e : Entity) : Bool :=
  e.kind.isHostile && w.player.position.reaches e.position

def strikeDamage (rules : Rules) (w : World) : Int32 :=
  if w.aura then rules.auraDamage else rules.strikeDamage

/-- One strike: whether it erased its target, and the world after it. -/
def strike? (damage : Int32) (w : World) : Option (Bool × World) :=
  (Entity.hitFirst w.strikable damage w.hostiles).map fun (target, hostiles) =>
    let hit := { w with hostiles }.note
      s!"LINK DAMAGE: {target.name} suffered {damage} damage."
    if target.alive then (false, hit) else (true, hit.note s!"ERASED: {target.name}")

/-- At most the given number of further strikes, after those already dealt. -/
def strikes (damage : Int32) : Nat → Struck → World → Struck × World
  | 0, dealt, w => (dealt, w)
  | count + 1, dealt, w =>
      match w.strike? damage with
      | none => (dealt, w)
      | some (erased, w) =>
          strikes damage count ⟨dealt.strikes + 1, dealt.erased + erased.toNat⟩ w

/-- A delete strikes at least once. -/
def delete (rules : Rules) (count : Nat) (w : World) : Struck × World :=
  let (dealt, w) := strikes (w.strikeDamage rules) (max count 1) ⟨0, 0⟩ w
  (dealt, if dealt.strikes = 0 then w.note "Nothing to delete here." else w)

def purge (rules : Rules) (command : String) (w : World) : Purged × World :=
  match Substitution.ofCommand? command with
  | none =>
      (.invalidSyntax,
        w.note "Invalid syntax. Use s/target/replace/g to initiate regex attack.")
  | some substitution =>
      match Entity.hitFirst (·.kind = .boss) rules.purgeDamage w.hostiles with
      | none => (.noTarget, w.note "No eligible targets for regex attack in range.")
      | some (boss, hostiles) =>
          let hit := { w with hostiles }.note
            s!"SYSTEM PURGE: Targeted {substitution.target} corruption..."
          if boss.alive then (.damaged boss.hp, hit)
          else (.purged, hit.note s!"THREAT NEUTRALIZED: {boss.name} purged.")

end GridRunner.World
