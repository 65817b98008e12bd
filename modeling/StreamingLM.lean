import StreamingLM.Config.Summary
import StreamingLM.Document.Directory
import StreamingLM.Main
import StreamingLM.Server.Actor
import StreamingLM.Session.Recorder
import StreamingLM.Tokenizer.Decoder
import StreamingLM.Proofs.Cache.History
import StreamingLM.Proofs.Cache.Window
import StreamingLM.Proofs.Cache.Run
import StreamingLM.Proofs.Rotary.Anchor
import StreamingLM.Proofs.Layer.CachedStep
import StreamingLM.Proofs.Model.Step
import StreamingLM.Proofs.Model.Build
import StreamingLM.Proofs.Model.Shape
import StreamingLM.Proofs.Session.Sound
import StreamingLM.Proofs.Model.Steady
import StreamingLM.Proofs.Config.Accepted
import StreamingLM.Proofs.Model.Engine
import StreamingLM.Proofs.Layer.Causal
import StreamingLM.Proofs.Layer.LookBack
import StreamingLM.Proofs.Number.Real
import StreamingLM.Proofs.Layer.PastWindow
import StreamingLM.Proofs.Model.Cut
import StreamingLM.Proofs.Session.Interleaving
import StreamingLM.Proofs.Session.Streaming
import StreamingLM.Proofs.Text.Utf8
import StreamingLM.Proofs.Tokenizer.Cutting
import StreamingLM.Proofs.Tokenizer.RankTable
import StreamingLM.Proofs.Tokenizer.RankFile
import StreamingLM.Proofs.Tokenizer.RankStream
import StreamingLM.Proofs.Tokenizer.PieceRuns
import StreamingLM.Proofs.Tokenizer.PieceTable
import StreamingLM.Proofs.Tokenizer.PieceStream
import StreamingLM.Proofs.Tokenizer.PieceFile
import StreamingLM.Proofs.Session.Closing
import StreamingLM.Proofs.Session.LocalDecoder
import StreamingLM.Proofs.Cache.Sizes
import StreamingLM.Proofs.Cache.Cursor
import StreamingLM.Proofs.Cache.Alike
import StreamingLM.Proofs.Layer.Rows
import StreamingLM.Proofs.Model.Alike
import StreamingLM.Proofs.Model.Aftermath
import StreamingLM.Proofs.Model.Request
import StreamingLM.Proofs.Model.Indistinct
import StreamingLM.Proofs.Model.Reset
import StreamingLM.Proofs.Model.Scoring
import StreamingLM.Proofs.Model.FailedStep
import StreamingLM.Proofs.Session.LockStep
import StreamingLM.Proofs.Rotary.Moves
import StreamingLM.Proofs.Session.Decoder
import StreamingLM.Proofs.Session.Overheard
import StreamingLM.Proofs.Session.Failing
import StreamingLM.Proofs.Server.Unloading
import StreamingLM.Proofs.Model.Tally
import StreamingLM.Proofs.Server.Interleaving
import StreamingLM.Proofs.Server.Ledger
import StreamingLM.Proofs.Cache.Queue
import StreamingLM.Proofs.Checkpoint.Names
import StreamingLM.Proofs.Checkpoint.Leftovers
import StreamingLM.Proofs.Number.Order
import StreamingLM.Proofs.Config.Server
import StreamingLM.Proofs.Session.Through
import StreamingLM.Proofs.Session.Report
import StreamingLM.Proofs.Model.Surfacing
import StreamingLM.Proofs.Server.Surfacing
import StreamingLM.Proofs.Cache.Strategies
import StreamingLM.Proofs.Cache.Sync
import StreamingLM.Proofs.Cache.Retained
import StreamingLM.Proofs.Layer.StepMask
import StreamingLM.Proofs.Sampling.Ranking
import StreamingLM.Proofs.Sampling.Nucleus
import StreamingLM.Proofs.Sampling.Greedy
import StreamingLM.Proofs.Layer.Grouping
import StreamingLM.Proofs.Rotary.Relative
import StreamingLM.Proofs.Model.InLength
import StreamingLM.Proofs.Server.Streamed
import StreamingLM.Proofs.Chat.Prompt
import StreamingLM.Proofs.Checkpoint.Shards
import StreamingLM.Proofs.Tokenizer.Recognised
import StreamingLM.Proofs.Tokenizer.Lossless
import StreamingLM.Proofs.CommandLine.Reading
import StreamingLM.Proofs.CommandLine.Overrides
import StreamingLM.Proofs.Number.Value
import StreamingLM.Proofs.Rotary.Stretch
import StreamingLM.Proofs.Model.Settings
import StreamingLM.Proofs.Chat.Marked
import StreamingLM.Proofs.Model.Construction
import StreamingLM.Proofs.Server.LifeCycle
