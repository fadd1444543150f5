import GridRunner.Launch
import GridRunner.Startup
import GridRunner.Proofs.Console.Exploration
import GridRunner.Proofs.Console.Placement
import GridRunner.Proofs.Session.Progress
import GridRunner.Proofs.Chord.Grammar
import GridRunner.Proofs.Chord.Modes
import GridRunner.Proofs.Console.Account
import GridRunner.Proofs.World.Picture
import GridRunner.Proofs.Console.Picture
import GridRunner.Proofs.Score.Text
import GridRunner.Proofs.Chord.Commands
import GridRunner.Proofs.Console.Strokes
import GridRunner.Proofs.Score.Store
import GridRunner.Proofs.Session.Clearing
import GridRunner.Proofs.Session.Strokes
import GridRunner.Proofs.Session.Best
import GridRunner.Proofs.Console.Forgetting
import GridRunner.Proofs.Session.Unscored
import GridRunner.Proofs.Score.Least
import GridRunner.Proofs.Score.Agreement
import GridRunner.Proofs.Client.InStep
import GridRunner.Proofs.Client.Drawing
import GridRunner.Proofs.Client.Dismissal
import GridRunner.Proofs.Console.Provenance
import GridRunner.Proofs.Console.History
import GridRunner.Proofs.Console.Aura
import GridRunner.Proofs.Console.Straight
import GridRunner.Proofs.Console.Loading
import GridRunner.Proofs.Console.Colors
import GridRunner.Proofs.Console.Bounds
import GridRunner.Proofs.World.Deletes
import GridRunner.Proofs.World.Purges
import GridRunner.Proofs.Substitution
import GridRunner.Proofs.Console.CommandLine
import GridRunner.Proofs.World.Puts
import GridRunner.Proofs.Console.Sectors
import GridRunner.Proofs.Score.Codec
import GridRunner.Proofs.Chord.Bar
import GridRunner.Proofs.Score.Drafts
import GridRunner.Proofs.Startup
import GridRunner.Proofs.Console.Locks
