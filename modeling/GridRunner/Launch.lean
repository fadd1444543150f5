import GridRunner.Rules
import GridRunner.Table

/-!
# Launch options

What the environment says about a run: where its files are and which level it
starts from.  Files without a place of their own lie where the platform keeps
those of the user.
-/

namespace GridRunner

namespace Path

def join (folder name : String) : String :=
  match folder.toList.getLast? with
  | none | some '/' => folder ++ name
  | some _ => folder ++ "/" ++ name

def isAbsolute (path : String) : Bool := path.toList.head? == some '/'

end Path

/-- The variables of a process, and the home that the system knows for its user. -/
structure Environment where
  values : Table String String
  accountHome : Option String := none

namespace Environment

def get? (env : Environment) (name : String) : Option String := env.values.get? name

def home? (env : Environment) : Option String :=
  match (env.get? "HOME").filter (· ≠ "") with
  | some home => some home
  | none => env.accountHome

/-- The folder that an absolute path in a variable names, or one in the user's home. -/
def userFolder? (env : Environment) (name standard : String) : Option String :=
  match (env.get? name).filter Path.isAbsolute with
  | some folder => some folder
  | none => env.home?.map (Path.join · standard)

end Environment

structure Launch where
  /-- Names the log of the run. -/
  sessionId : Option String := none
  settings : Option String := none
  /-- Folder of a content pack. -/
  content : Option String := none
  /-- A level list that takes the place of every other. -/
  levels : Option String := none
  scores : String
  /-- Number of the level to start from, counted from one. -/
  startLevel : Option Nat := none
  deriving DecidableEq, Repr

namespace Launch

def application : String := "vimrunner"

def ownFile (folder name : String) : String := Path.join (Path.join folder application) name

/-- Reads a positive number of at most 32 bits in decimal digits, perhaps with a plus sign. -/
def startLevel? (text : String) : Option Nat :=
  let digits :=
    match text.toList with
    | '+' :: digits => digits
    | digits => digits
  let value := Nat.ofDigitChars 10 digits 0
  if digits.isEmpty || !digits.all Char.isDigit || value = 0 || value > countLimit then none
  else some value

def ofEnvironment (env : Environment) : Launch where
  sessionId := env.get? "VIMRUNNER_SESSION_ID"
  settings :=
    match env.get? "VIMRUNNER_CONFIG" with
    | some path => some path
    | none => (env.userFolder? "XDG_CONFIG_HOME" ".config").map (ownFile · "settings.toml")
  content := env.get? "VIMRUNNER_CONTENT"
  levels := env.get? "VIMRUNNER_LEVELS"
  scores :=
    match env.get? "VIMRUNNER_SCORES" with
    | some path => path
    | none =>
        match env.userFolder? "XDG_DATA_HOME" ".local/share" with
        | some folder => ownFile folder "scores.json"
        | none => "vimrunner_scores.json"
  startLevel := (env.get? "VIMRUNNER_START_LEVEL").bind startLevel?

def startIndex (l : Launch) : Nat :=
  match l.startLevel with
  | some number => number - 1
  | none => 0

end Launch
end GridRunner
