import CodeSmell.Draft
import CodeSmell.Scan.Session
import CodeSmell.Service
import CodeSmell.Main
import CodeSmell.Proofs.Brackets.Balanced
import CodeSmell.Proofs.Brackets.Pairing
import CodeSmell.Proofs.LineEndings
import CodeSmell.Proofs.EntryPoints
import CodeSmell.Proofs.Scan.Places
import CodeSmell.Proofs.UnusedNames
import CodeSmell.Proofs.FinalNewline
import CodeSmell.Proofs.Reports
import CodeSmell.Proofs.Prose
import CodeSmell.Proofs.Scan.Session
import CodeSmell.Proofs.Inspection
import CodeSmell.Proofs.Scan.Join
import CodeSmell.Proofs.Nesting
import CodeSmell.Proofs.Scan.Assignments
import CodeSmell.Proofs.Command.Check
import CodeSmell.Proofs.Command.Threshold
import CodeSmell.Proofs.Blocks
import CodeSmell.Proofs.StandaloneNames
import CodeSmell.Proofs.DuplicateImports
import CodeSmell.Proofs.Unreachable
import CodeSmell.Proofs.Brackets.Repair
import CodeSmell.Proofs.Line.Comments
import CodeSmell.Proofs.Line.PrintedImports
import CodeSmell.Proofs.Indentation
import CodeSmell.Proofs.PlainText
import CodeSmell.Proofs.Extensions
import CodeSmell.Proofs.Brackets.Stack
import CodeSmell.Proofs.Brackets.Frame
