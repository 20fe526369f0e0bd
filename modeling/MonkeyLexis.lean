import MonkeyLexis.Main
import MonkeyLexis.TokenStream
import MonkeyLexis.Proofs.Grammar
import MonkeyLexis.Proofs.Layout
import MonkeyLexis.Proofs.Place
import MonkeyLexis.Proofs.Tokenization
import MonkeyLexis.Proofs.Concatenation
import MonkeyLexis.Proofs.Registers
import MonkeyLexis.Proofs.Reading
import MonkeyLexis.Proofs.Legality
import MonkeyLexis.Proofs.Lines
import MonkeyLexis.Proofs.Printing
import MonkeyLexis.Proofs.Dialogue
import MonkeyLexis.Proofs.Escapes
import MonkeyLexis.Proofs.Display
import MonkeyLexis.Proofs.LineEndings
import MonkeyLexis.Proofs.Lookahead
import MonkeyLexis.Proofs.Reports
import MonkeyLexis.Proofs.Turns
import MonkeyLexis.Proofs.Boundaries
import MonkeyLexis.Proofs.Requests
import MonkeyLexis.Proofs.Subjects
import MonkeyLexis.Proofs.Messages
import MonkeyLexis.Proofs.Replies
import MonkeyLexis.Proofs.Agreement
import MonkeyLexis.Proofs.Watching
import MonkeyLexis.Proofs.Progress
import MonkeyLexis.Proofs.Files
