import HandlerGen.Main
import HandlerGen.Proofs.Literal
import HandlerGen.Proofs.Acceptance
import HandlerGen.Proofs.CommentLines
import HandlerGen.Proofs.NameCharacters
import HandlerGen.Proofs.CallObject
import HandlerGen.Proofs.Layout
import HandlerGen.Proofs.ClassFileReading
import HandlerGen.Proofs.LegibleEntries
import HandlerGen.Proofs.DispatchReading
import HandlerGen.Proofs.ReadBack
import HandlerGen.Proofs.LastWins
import HandlerGen.Proofs.CodeLexer
import HandlerGen.Proofs.Containment
import HandlerGen.Proofs.Places
import HandlerGen.Proofs.Ways
import HandlerGen.Proofs.Writing
import HandlerGen.Proofs.Duplicates
import HandlerGen.Proofs.Kinds
import HandlerGen.Proofs.Outcome
import HandlerGen.Proofs.Loading
import HandlerGen.Proofs.FailedRuns
import HandlerGen.Proofs.SameRun
import HandlerGen.Proofs.Escapes
import HandlerGen.Proofs.Rerun
import HandlerGen.Proofs.CallProperties
import HandlerGen.Proofs.ObjectLiteral
import HandlerGen.Proofs.CallReading
import HandlerGen.Proofs.DistinctKeys
import HandlerGen.Proofs.NamesRead
import HandlerGen.Proofs.DeclaredNames
import HandlerGen.Proofs.NamePatterns
import HandlerGen.Proofs.CheckedNames
import HandlerGen.Proofs.ParameterNames
import HandlerGen.Proofs.NameBijection
import HandlerGen.Proofs.EscapedText
import HandlerGen.Proofs.FlowLexing
import HandlerGen.Proofs.FlowParsing
import HandlerGen.Proofs.FlowValues
import HandlerGen.Proofs.WrittenFile
import HandlerGen.Proofs.NameClashes
import HandlerGen.Proofs.RecordChecks
import HandlerGen.Proofs.CommentForm
import HandlerGen.Proofs.Rows
import HandlerGen.Proofs.MissingData
import HandlerGen.Proofs.RefusedRules
import HandlerGen.Proofs.FilesInOrder
import HandlerGen.Proofs.NamedSources
import HandlerGen.Proofs.LineEnds
import HandlerGen.Proofs.LiteralForm
