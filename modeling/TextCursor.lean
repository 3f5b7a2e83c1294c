import TextCursor.Json.Config
import TextCursor.Session
import TextCursor.Proofs.Coherence
import TextCursor.Proofs.History
import TextCursor.Proofs.MatchStart
import TextCursor.Proofs.Pattern.Meaning
import TextCursor.Proofs.Walk
import TextCursor.Proofs.Conservation
import TextCursor.Proofs.Caching
import TextCursor.Proofs.Displacement
import TextCursor.Proofs.EventLog
import TextCursor.Proofs.Reset
import TextCursor.Proofs.Chunks
import TextCursor.Proofs.Outcome
import TextCursor.Proofs.FailedMatch
import TextCursor.Proofs.Pattern.Numbering
import TextCursor.Proofs.Pattern.Refusal
import TextCursor.Proofs.Pattern.InlineFlags
import TextCursor.Proofs.PositionOrder
import TextCursor.Proofs.Requests
import TextCursor.Proofs.Compilation
import TextCursor.Proofs.Decoding
import TextCursor.Proofs.DeclaredInput
import TextCursor.Proofs.FlagSets
import TextCursor.Proofs.Slicing
import TextCursor.Proofs.Readable
import TextCursor.Proofs.CodepointIndex
import TextCursor.Proofs.LineColumn
import TextCursor.Proofs.Json.Settings
