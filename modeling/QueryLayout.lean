import QueryLayout.Document
import QueryLayout.Main
import QueryLayout.Proofs.Gap
import QueryLayout.Proofs.Interleaving
import QueryLayout.Proofs.Extent
import QueryLayout.Proofs.Reading
import QueryLayout.Proofs.Lossless
import QueryLayout.Proofs.CharClass
import QueryLayout.Proofs.Occurrence
import QueryLayout.Proofs.Tracking
import QueryLayout.Proofs.Cascade
import QueryLayout.Proofs.Opening
import QueryLayout.Proofs.Quoting
import QueryLayout.Proofs.Numeral
import QueryLayout.Proofs.Entries
import QueryLayout.Proofs.Lexemes
import QueryLayout.Proofs.Vocabulary
import QueryLayout.Proofs.Standing
import QueryLayout.Proofs.Passing
import QueryLayout.Proofs.Rereading
import QueryLayout.Proofs.Skimming
import QueryLayout.Proofs.Display
import QueryLayout.Proofs.Pieces
import QueryLayout.Proofs.Steadiness
import QueryLayout.Proofs.Reproduction
import QueryLayout.Proofs.Echo
import QueryLayout.Proofs.Stability
import QueryLayout.Proofs.Flat
import QueryLayout.Proofs.Agreement
import QueryLayout.Proofs.Idempotence
import QueryLayout.Proofs.Front
import QueryLayout.Proofs.Respacing
import QueryLayout.Proofs.Nesting
import QueryLayout.Proofs.Statements
import QueryLayout.Proofs.Substitution
import QueryLayout.Proofs.CommentLines
import QueryLayout.Proofs.Editing
import QueryLayout.Proofs.Classification
import QueryLayout.Proofs.Delivery
import QueryLayout.Proofs.WholeWords
import QueryLayout.Proofs.Glyphs
import QueryLayout.Proofs.Terminators
import QueryLayout.Proofs.Unquoting
import QueryLayout.Proofs.QuotedNames
import QueryLayout.Proofs.Raws
import QueryLayout.Proofs.Cutting
import QueryLayout.Proofs.Letters
import QueryLayout.Proofs.Recasing
import QueryLayout.Proofs.Margins
import QueryLayout.Proofs.LineStarts
import QueryLayout.Proofs.Brackets
import QueryLayout.Proofs.Commas
import QueryLayout.Proofs.InlineGroups
import QueryLayout.Proofs.BlankLines
import QueryLayout.Proofs.Enclosures
import QueryLayout.Proofs.BlockComments
import QueryLayout.Proofs.DumpLines
import QueryLayout.Proofs.OpenBrackets
import QueryLayout.Proofs.Precedence
