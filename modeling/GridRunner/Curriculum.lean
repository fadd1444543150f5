import GridRunner.Level

/-!
# The curriculum

The first ten levels are authored, each teaching a few commands.  Levels past them
are generated: training sectors, each a corridor with sentries in it.  One more
sentry appears every five sectors, and every tenth sector has a boss in front of
the exit.
-/

namespace GridRunner.Curriculum

def authored : List Level :=
  [
    { number := 1
      name := "The Cursor"
      instructions := "Reach the portal [>] with h, j, k and l."
      map := .ofRows [
        "##########",
        "#@.......#",
        "########.#",
        "#>.......#",
        "##########"]
      commands := Level.commandSet ["h", "j", "k", "l"]
      par := 4 },
    { number := 2
      name := "The Word"
      instructions := "Word jumps [w/b] cover three cells at once. Leap across."
      map := .ofRows [
        "###############",
        "#@...........>#",
        "###############"]
      commands := Level.commandSet ["w", "b"]
      par := 2 },
    { number := 3
      name := "The Edge"
      instructions := "[0] and [$] run to the ends of a line."
      map := .ofRows [
        "##############",
        "#@...........#",
        "############.#",
        "#>...........#",
        "##############"]
      commands := Level.commandSet ["0", "$"]
      par := 4 },
    { number := 4
      name := "Efficiency"
      instructions := "Prefix a motion with a count [3j]. Speed is armor."
      map := .ofRows [
        "#############",
        "#@..........#",
        "#...........#",
        "#...........#",
        "#..........>#",
        "#############"]
      commands := Level.commandSet ["count"]
      par := 2 },
    { number := 5
      name := "ZigZag"
      instructions := "Navigate the stack. No wasted moves."
      map := .ofRows [
        "#########",
        "#@..#...#",
        "###.#.#.#",
        "#...#.#.#",
        "#.###.#.#",
        "#.....#>#",
        "#########"]
      commands := Level.commandSet ["h", "j", "k", "l", "count"]
      par := 9 },
    { number := 6
      name := "The Key"
      instructions := "Yank the key [a] with \"ay, then put it into lock [A] with \"ap."
      map := .ofRows [
        "############",
        "#@a....A..>#",
        "############"]
      commands := Level.commandSet ["y", "p"]
      par := 5 },
    { number := 7
      name := "The Vault"
      instructions := "Two keys, two registers. \"ay the a-key, \"by the b-key."
      map := .ofRows [
        "#################",
        "#@a.b....A.B...>#",
        "#################"]
      commands := Level.commandSet ["y", "p"]
      par := 8 },
    { number := 8
      name := "The Rubble"
      instructions := "Rubble [R] cannot be moved. Find the way around."
      map := .ofRows [
        "############",
        "#@...R.....#",
        "#.##...###.#",
        "#....R....>#",
        "############"]
      commands := Level.commandSet ["all"]
      par := 6 },
    { number := 9
      name := "The Sentry"
      instructions := "A corrupted process [G] blocks the corridor. Delete it [dd]."
      map := .ofRows [
        "#############",
        "#@....G....>#",
        "#############"]
      commands := Level.commandSet ["d"]
      par := 5 },
    { number := 10
      name := "BOSS: CORRUPTED DATA"
      instructions := "Type [:] then [s/CORRUPT/DATA/g] to purge the boss [B]."
      map := .ofRows [
        "#############",
        "#@...B.....>#",
        "#############"]
      commands := Level.commandSet ["command"]
      par := 5 }
  ]

/-! ## Training sectors -/

def finalLevel : Nat := 30

def firstSector : Nat := 11

def sentries (number : Nat) : Nat := 1 + (number - firstSector) / 5

/-- The cells of a sector between its walls. -/
def corridor (number : Nat) : List Char :=
  ['@', '.', '.', '.'] ++ (List.replicate (sentries number) ['G', '.']).flatten ++
    (if number % 10 = 0 then ['B', '.'] else []) ++ ['.', '.', '>']

def sector (number : Nat) : Level :=
  let corridor := corridor number
  let wall := List.replicate (corridor.length + 2) '#'
  { number
    name := s!"Sector {number}"
    instructions := s!"Continue training, Runner. Threat level {number}."
    map := [wall, ['#'] ++ corridor ++ ['#'], wall]
    commands := ["all"]
    par := number }

def levels : List Level :=
  authored ++ (List.range' firstSector (finalLevel + 1 - firstSector)).map sector

end GridRunner.Curriculum
