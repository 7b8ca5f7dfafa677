import ModuleHints.Unicode.Fold
import ModuleHints.Unicode.Upper
import ModuleHints.Completion.Request
import ModuleHints.Source.Cursor
import ModuleHints.Files.Disk
import ModuleHints.Toml.Document
import ModuleHints.Settings.Load
import ModuleHints.Catalog.Complete
import ModuleHints.Command.Run
import ModuleHints.Text.Utf8
import ModuleHints.Server.Session
import ModuleHints.Server.Start
import ModuleHints.Server.Watching
import ModuleHints.Main
import ModuleHints.Proofs.Lexing.Truncation
import ModuleHints.Proofs.Lexing.Tiling
import ModuleHints.Proofs.Require.Prefix
import ModuleHints.Proofs.Server.Typing
import ModuleHints.Proofs.Completion.Commit
import ModuleHints.Proofs.Server.Runs
import ModuleHints.Proofs.Server.Edits
import ModuleHints.Proofs.Catalog.Offered
import ModuleHints.Proofs.Source.Restart
import ModuleHints.Proofs.Completion.WordBefore
import ModuleHints.Proofs.Require.WholeLiteral
import ModuleHints.Proofs.Project.Asked
import ModuleHints.Proofs.Project.Retained
import ModuleHints.Proofs.Catalog.Kept
import ModuleHints.Proofs.Project.Host
import ModuleHints.Proofs.Catalog.Cleared
import ModuleHints.Proofs.Catalog.Failing
import ModuleHints.Proofs.Completion.Returns
import ModuleHints.Proofs.Require.LinesAbove
import ModuleHints.Proofs.Server.Positions
import ModuleHints.Proofs.Completion.Touching
import ModuleHints.Proofs.Source.Steps
import ModuleHints.Proofs.Require.CallText
import ModuleHints.Proofs.Source.Cursor
import ModuleHints.Proofs.Completion.Within
import ModuleHints.Proofs.Completion.KnownWords
import ModuleHints.Proofs.Completion.Merging
import ModuleHints.Proofs.Server.SortTexts
import ModuleHints.Proofs.Catalog.Peers
import ModuleHints.Proofs.Lexing.Closing
import ModuleHints.Proofs.Settings.Accepted
import ModuleHints.Proofs.Source.Excerpt
import ModuleHints.Proofs.Catalog.Extensions
import ModuleHints.Proofs.Lexing.Longest
import ModuleHints.Proofs.Lexing.LineFeeds
import ModuleHints.Proofs.Lexing.Scanner
