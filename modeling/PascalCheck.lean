import PascalCheck.Outcome
import PascalCheck.Tape
import PascalCheck.Position
import PascalCheck.Text.Blank
import PascalCheck.Text.Letter
import PascalCheck.Text.Line
import PascalCheck.Text.Numeral
import PascalCheck.Text.Padded
import PascalCheck.Text.Printable
import PascalCheck.Text.Quoted
import PascalCheck.Text.Utf8
import PascalCheck.Token.Basic
import PascalCheck.Token.Wire
import PascalCheck.Token.Table
import PascalCheck.Token.Stream
import PascalCheck.Diagnostic.Problem
import PascalCheck.Diagnostic.Sink
import PascalCheck.Diagnostic.Listing
import PascalCheck.Token.Kind
import PascalCheck.Source.Cursor
import PascalCheck.Token.Scanner
import PascalCheck.Grammar.Checker
import PascalCheck.Grammar.Productions
import PascalCheck.Analysis
import PascalCheck.Settings
import PascalCheck.Corpus.Twister
import PascalCheck.Corpus.Draw
import PascalCheck.Corpus.Sample
import PascalCheck.Files.Path
import PascalCheck.Files.Store
import PascalCheck.Files.Source
import PascalCheck.CommandLine.Options
import PascalCheck.CommandLine.Check
import PascalCheck.CommandLine.Generate
import PascalCheck.Main
import PascalCheck.Proofs.Grammar.Language
import PascalCheck.Proofs.Grammar.History
import PascalCheck.Proofs.Grammar.Expectation
import PascalCheck.Proofs.Grammar.Reading
import PascalCheck.Proofs.Grammar.Acceptance
import PascalCheck.Proofs.Grammar.Straight
import PascalCheck.Proofs.Grammar.Account
import PascalCheck.Proofs.Grammar.Clause
import PascalCheck.Proofs.Grammar.Round
import PascalCheck.Proofs.Grammar.Block
import PascalCheck.Proofs.Grammar.Row
import PascalCheck.Proofs.Grammar.Roster
import PascalCheck.Proofs.Grammar.Stretch
import PascalCheck.Proofs.Source.Place
import PascalCheck.Proofs.Token.Segment
import PascalCheck.Proofs.Token.Tiling
import PascalCheck.Proofs.Token.Spelling
import PascalCheck.Proofs.Corpus.Word
import PascalCheck.Proofs.Corpus.Part
import PascalCheck.Proofs.Corpus.Declaration
import PascalCheck.Proofs.Corpus.Clean
import PascalCheck.Proofs.Grammar.Calls
import PascalCheck.Proofs.Grammar.Flow
import PascalCheck.Proofs.Grammar.Progress
import PascalCheck.Proofs.Token.Resumption
import PascalCheck.Proofs.Source.Lines
import PascalCheck.Proofs.Source.Orientation
import PascalCheck.Proofs.Token.Calls
import PascalCheck.Proofs.Diagnostic.Rows
import PascalCheck.Proofs.Analysis.Listing
import PascalCheck.Proofs.Analysis.Caret
import PascalCheck.Proofs.Grammar.Kinship
import PascalCheck.Proofs.Token.Layout
import PascalCheck.Proofs.Token.Printing
import PascalCheck.Proofs.Token.Lines
import PascalCheck.Proofs.Token.Codes
import PascalCheck.Proofs.Token.Capitals
import PascalCheck.Proofs.Analysis.Layout
import PascalCheck.Proofs.Text.Numeral
import PascalCheck.Proofs.Diagnostic.Ranking
import PascalCheck.Proofs.Diagnostic.Decoding
import PascalCheck.Proofs.Grammar.Wording
import PascalCheck.Proofs.Analysis.Decoding
import PascalCheck.Proofs.Text.Line
import PascalCheck.Proofs.Text.LineEnd
import PascalCheck.Proofs.Analysis.LineEnds
import PascalCheck.Proofs.Analysis.Capitals
import PascalCheck.Proofs.Text.Utf8
import PascalCheck.Proofs.Files.Store
import PascalCheck.Proofs.Files.Contents
import PascalCheck.Proofs.CommandLine.Line
import PascalCheck.Proofs.CommandLine.Clear
import PascalCheck.Proofs.CommandLine.Flags
import PascalCheck.Proofs.CommandLine.Asked
import PascalCheck.Proofs.CommandLine.Effects
