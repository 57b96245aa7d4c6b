import TagSelect.Filter.Meaning
import TagSelect.Filter.Phrase
import TagSelect.Json.Grammar
import TagSelect.Main
import TagSelect.Settings.Folder
import TagSelect.Settings.Layout
import TagSelect.Sql.Eval
import TagSelect.Token.Replay
import TagSelect.Proofs.Grouping
import TagSelect.Proofs.Selection
import TagSelect.Proofs.Grammar
import TagSelect.Proofs.Lexing
import TagSelect.Proofs.Height
import TagSelect.Proofs.RoundTrip
import TagSelect.Proofs.Refusal
import TagSelect.Proofs.Noninterference
import TagSelect.Proofs.Quoting
import TagSelect.Proofs.Lexemes
import TagSelect.Proofs.StatementText
import TagSelect.Proofs.Precedence
import TagSelect.Proofs.Binding
import TagSelect.Proofs.TrieMap
import TagSelect.Proofs.Filing
import TagSelect.Proofs.EntityTags
import TagSelect.Proofs.LexicalGrammar
import TagSelect.Proofs.ViablePrefix
import TagSelect.Proofs.Simulation
import TagSelect.Proofs.Blanks
import TagSelect.Proofs.Sessions
import TagSelect.Proofs.JsonScalars
import TagSelect.Proofs.JsonValues
import TagSelect.Proofs.JsonRecords
import TagSelect.Proofs.SettingsDocuments
import TagSelect.Proofs.Resolution
import TagSelect.Proofs.SortDirectives
import TagSelect.Filter.Machine
import TagSelect.Proofs.LevelCounter
import TagSelect.Proofs.Progress
import TagSelect.Proofs.Diagnostics
import TagSelect.Proofs.Spacing
import TagSelect.Proofs.TrieListing
import TagSelect.Proofs.TagDocuments
import TagSelect.Proofs.HeightBound
import TagSelect.Proofs.CanonicalNames
import TagSelect.Proofs.IntegerIds
import TagSelect.Proofs.ByteSpans
import TagSelect.Proofs.TrieShape
