import TokenStream.Cursor.Observed
import TokenStream.Lexer.Calls
import TokenStream.Lexer.Recovery
import TokenStream.Token.Document
import TokenStream.Token.Listing
import TokenStream.Main
import TokenStream.Workspace
import TokenStream.Proofs.ObservedCursor
import TokenStream.Proofs.CharClass
import TokenStream.Proofs.Lexeme
import TokenStream.Proofs.Scan
import TokenStream.Proofs.Stream
import TokenStream.Proofs.Junction
import TokenStream.Proofs.Tiling
import TokenStream.Proofs.Lossless
import TokenStream.Proofs.LiteralEnd
import TokenStream.Proofs.Partition
import TokenStream.Proofs.SharedStream
import TokenStream.Proofs.Breaks
import TokenStream.Proofs.SingleBreaks
import TokenStream.Proofs.Printable
import TokenStream.Proofs.Quotation
import TokenStream.Proofs.ListingDecode
import TokenStream.Proofs.Invocation
import TokenStream.Proofs.Places
import TokenStream.Proofs.LineStructure
import TokenStream.Proofs.Snippet
import TokenStream.Proofs.FrontEnds
import TokenStream.Proofs.JsonDecode
import TokenStream.Proofs.DocumentDecode
import TokenStream.Proofs.Stores
import TokenStream.Proofs.EditorSession
import TokenStream.Proofs.Endings
import TokenStream.Proofs.Concatenation
import TokenStream.Proofs.KeywordSwitch
import TokenStream.Proofs.Presentation
import TokenStream.Proofs.PositionOrder
import TokenStream.Proofs.Ruling
import TokenStream.Proofs.BulkAdvance
import TokenStream.Proofs.Precedence
import TokenStream.Proofs.CursorReads
import TokenStream.Proofs.Occurrences
import TokenStream.Proofs.CheckedReads
import TokenStream.Proofs.Standing
