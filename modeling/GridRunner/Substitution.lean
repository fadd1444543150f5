/-!
# Substitution commands

The one command of the command line: `s/target/replacement/g`, with both fields nonempty and free of
slashes.  These are the two groups that the pattern `^s/([^/]+)/([^/]+)/g$` captures.
-/

namespace GridRunner

/-- A regular expression for whole texts. -/
inductive Pattern where
  | char (c : Char)
  /-- Any character but this one. -/
  | except (c : Char)
  | seq (first second : Pattern)
  /-- One or more times. -/
  | many (p : Pattern)
  /-- Captures the text that it matches. -/
  | group (p : Pattern)
  deriving DecidableEq, Repr

/-- The pattern matches the text and captures the groups, in the order of their opening brackets. -/
inductive Pattern.Matches : Pattern → List Char → List (List Char) → Prop
  | char (c : Char) : Matches (.char c) [c] []
  | except {c d : Char} : d ≠ c → Matches (.except c) [d] []
  | seq {p q : Pattern} {text text' : List Char} {groups groups' : List (List Char)} :
      Matches p text groups → Matches q text' groups' →
      Matches (.seq p q) (text ++ text') (groups ++ groups')
  | once {p : Pattern} {text : List Char} {groups : List (List Char)} :
      Matches p text groups → Matches (.many p) text groups
  /-- Of groups inside a repetition the last captures count. -/
  | more {p : Pattern} {text text' : List Char} {groups groups' : List (List Char)} :
      Matches p text groups → Matches (.many p) text' groups' →
      Matches (.many p) (text ++ text') groups'
  | group {p : Pattern} {text : List Char} {groups : List (List Char)} :
      Matches p text groups → Matches (.group p) text (text :: groups)

structure Substitution where
  target : String
  replacement : String
  deriving DecidableEq, Repr

namespace Substitution

/-- The command line that spells a substitution. -/
def command (s : Substitution) : String := "s/" ++ s.target ++ "/" ++ s.replacement ++ "/g"

/-- The pattern of a field, `([^/]+)`. -/
def field : Pattern := .group (.many (.except '/'))

/-- The pattern of a substitution. -/
def pattern : Pattern :=
  .seq (.char 's') (.seq (.char '/') (.seq field (.seq (.char '/') (.seq field
    (.seq (.char '/') (.char 'g'))))))

/-- A nonempty field and the slash after it, taken off the front of a text. -/
def field? (text : List Char) : Option (List Char × List Char) :=
  match text.takeWhile (· != '/'), text.dropWhile (· != '/') with
  | [], _ => none
  | field, '/' :: rest => some (field, rest)
  | _, _ => none

/-- Reads a command line: the two groups of the pattern. -/
def ofCommand? (command : String) : Option Substitution :=
  match command.toList with
  | 's' :: '/' :: body =>
      match field? body with
      | some (target, rest) =>
          match field? rest with
          | some (replacement, ['g']) => some ⟨.ofList target, .ofList replacement⟩
          | _ => none
      | none => none
  | _ => none

end Substitution
end GridRunner
