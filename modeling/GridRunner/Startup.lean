import GridRunner.Client
import GridRunner.ContentPack
import GridRunner.Score.File

/-!
# Starting a run

The rules and levels come first, then the preferences, the scores and the session;
the first thing that is wrong stops the start.  A score file that cannot be read
does not count as wrong: play begins without scores.
-/

namespace GridRunner

structure Startup where
  pack : Option ContentPack := none
  /-- Path and content of a level list that takes the place of every other. -/
  levels : Option (String × Source) := none
  settingsPath : String
  settings : Source := .missing
  scores : Disk := {}
  /-- Place of the first level in the list. -/
  startIndex : Nat := 0

inductive StartError where
  | content (error : ContentError)
  | unreadableSettings (path : String)
  | invalidSettings (path : String)
  | session (error : SessionError)
  deriving DecidableEq, Repr

namespace StartError

def message : StartError → String
  | content error => error.message
  | unreadableSettings path => "Failed to read settings " ++ path
  | invalidSettings path => "Invalid settings " ++ path
  | session _ => "Failed to start session"

end StartError

namespace Startup

def loadContent (s : Startup) : Except ContentError (RuleSheet × List Level) := do
  let (sheet, levels) ←
    match s.pack with
    | some pack => do pure (← pack.loadRules, ← pack.loadLevels)
    | none => pure ({}, Curriculum.levels)
  match s.levels with
  | some (path, source) => pure (sheet, ← source.levels path)
  | none => pure (sheet, levels)

def loadPreferences (s : Startup) : Except StartError Preferences :=
  match s.settings with
  | .missing => .ok {}
  | .text content =>
      match Preferences.ofText? content with
      | some preferences => .ok preferences
      | none => .error (.invalidSettings s.settingsPath)
  | .unreadable => .error (.unreadableSettings s.settingsPath)

def openScores (s : Startup) : ScoreFile :=
  match ScoreFile.ofDisk s.scores with
  | .ok file => file
  | .error _ => .fresh s.scores

/-- Starts the client on a screen; none if the program stops at the log the rules ask for. -/
def start (s : Startup) (size : Screen.Size) : Option (Except StartError (Client ScoreFile)) :=
  match s.loadContent with
  | .error error => some (.error (.content error))
  | .ok (sheet, levels) =>
      match s.loadPreferences with
      | .error error => some (.error error)
      | .ok preferences =>
          (Session.ofSheet? sheet levels s.openScores s.startIndex).map fun started =>
            (started.mapError .session).map (.start · preferences size)

end Startup
end GridRunner
