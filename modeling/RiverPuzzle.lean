import RiverPuzzle.Board.Cell
import RiverPuzzle.Board.Tile
import RiverPuzzle.Board.TileMap
import RiverPuzzle.Code.Draft
import RiverPuzzle.Code.Instruction
import RiverPuzzle.Code.Lowering
import RiverPuzzle.Code.Mark
import RiverPuzzle.Code.Parser
import RiverPuzzle.Code.Statement
import RiverPuzzle.Command.Flag
import RiverPuzzle.Command.Line
import RiverPuzzle.Command.Settings
import RiverPuzzle.Command.Token
import RiverPuzzle.Disk.Address
import RiverPuzzle.Disk.Basic
import RiverPuzzle.Disk.Path
import RiverPuzzle.Disk.Table
import RiverPuzzle.Level.Basic
import RiverPuzzle.Level.Folder
import RiverPuzzle.Level.Reader
import RiverPuzzle.Log
import RiverPuzzle.Main
import RiverPuzzle.Proofs.Arguments
import RiverPuzzle.Proofs.Braces
import RiverPuzzle.Proofs.Capping
import RiverPuzzle.Proofs.Chronicle
import RiverPuzzle.Proofs.Circles
import RiverPuzzle.Proofs.Completion
import RiverPuzzle.Proofs.DrawnLevel
import RiverPuzzle.Proofs.Drift
import RiverPuzzle.Proofs.Encoding
import RiverPuzzle.Proofs.Ending
import RiverPuzzle.Proofs.FinishedRun
import RiverPuzzle.Proofs.Foresight
import RiverPuzzle.Proofs.FreshFolder
import RiverPuzzle.Proofs.Grammar
import RiverPuzzle.Proofs.Headway
import RiverPuzzle.Proofs.InStep
import RiverPuzzle.Proofs.Joining
import RiverPuzzle.Proofs.Journey
import RiverPuzzle.Proofs.Laps
import RiverPuzzle.Proofs.LastGood
import RiverPuzzle.Proofs.Launch
import RiverPuzzle.Proofs.LevelFolder
import RiverPuzzle.Proofs.LevelOrder
import RiverPuzzle.Proofs.LineColumn
import RiverPuzzle.Proofs.LineEnds
import RiverPuzzle.Proofs.Listing
import RiverPuzzle.Proofs.LoweredDraft
import RiverPuzzle.Proofs.MadeFolder
import RiverPuzzle.Proofs.Mirror
import RiverPuzzle.Proofs.Nesting
import RiverPuzzle.Proofs.NewFile
import RiverPuzzle.Proofs.OpenWater
import RiverPuzzle.Proofs.OuterLoop
import RiverPuzzle.Proofs.Placement
import RiverPuzzle.Proofs.PlainNumeral
import RiverPuzzle.Proofs.PrintedReport
import RiverPuzzle.Proofs.ProperMap
import RiverPuzzle.Proofs.Reading
import RiverPuzzle.Proofs.Recording
import RiverPuzzle.Proofs.Recovery
import RiverPuzzle.Proofs.Relocation
import RiverPuzzle.Proofs.RollCall
import RiverPuzzle.Proofs.Selection
import RiverPuzzle.Proofs.SharedFolder
import RiverPuzzle.Proofs.Sight
import RiverPuzzle.Proofs.Snags
import RiverPuzzle.Proofs.Solitude
import RiverPuzzle.Proofs.Stopping
import RiverPuzzle.Proofs.TracedRun
import RiverPuzzle.Proofs.Unrecorded
import RiverPuzzle.Proofs.Waiting
import RiverPuzzle.Proofs.Wander
import RiverPuzzle.Proofs.Wording
import RiverPuzzle.Result
import RiverPuzzle.River.Basic
import RiverPuzzle.River.Tick
import RiverPuzzle.Run.Columns
import RiverPuzzle.Run.Config
import RiverPuzzle.Run.Recorder
import RiverPuzzle.Run.Runner
import RiverPuzzle.Run.Table
import RiverPuzzle.Session
import RiverPuzzle.Text.Blank
import RiverPuzzle.Text.Digit
import RiverPuzzle.Text.Newline
import RiverPuzzle.Text.Numeral
import RiverPuzzle.Text.Printable
import RiverPuzzle.Text.Quoted
import RiverPuzzle.Text.Uppercase
import RiverPuzzle.Text.Utf8
import RiverPuzzle.Text.Word
import RiverPuzzle.Proofs.Wording
