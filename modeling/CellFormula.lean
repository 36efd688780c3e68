import CellFormula.Expr.Shape
import CellFormula.Main
import CellFormula.Proofs.Parser.Equations
import CellFormula.Proofs.Parser.Soundness
import CellFormula.Proofs.Parser.Completeness
import CellFormula.Proofs.Parser.Points
import CellFormula.Proofs.Parser.Simulation
import CellFormula.Proofs.Parser.ViablePrefix
import CellFormula.Proofs.Parser.Laziness
import CellFormula.Proofs.Lexer.Equations
import CellFormula.Proofs.Lexer.Tiling
import CellFormula.Proofs.Lexer.Numerals
import CellFormula.Proofs.Lexer.Words
import CellFormula.Proofs.Lexer.Composition
import CellFormula.Proofs.Number.Rank
import CellFormula.Proofs.Number.Order
import CellFormula.Proofs.Number.ReadBack
import CellFormula.Proofs.Comparison.Preorder
import CellFormula.Proofs.Unicode.CanonicalForm
import CellFormula.Proofs.Unicode.Case
import CellFormula.Proofs.Collation.Case
import CellFormula.Proofs.Value.WellFormed
import CellFormula.Proofs.Evaluation.Equations
import CellFormula.Proofs.Evaluation.Calls
import CellFormula.Proofs.Evaluation.WellFormed
import CellFormula.Proofs.Evaluation.Failure
import CellFormula.Proofs.Value.ReadBack
import CellFormula.Proofs.Value.NumericText
import CellFormula.Proofs.Collation.Concatenation
import CellFormula.Proofs.Evaluation.CallDepth
import CellFormula.Proofs.Value.NumberText
import CellFormula.Proofs.Collation.Expansion
import CellFormula.Proofs.Collation.Accents
import CellFormula.Proofs.Parser.Positions
import CellFormula.Proofs.Lexer.WhiteSpace
import CellFormula.Proofs.Formula.Positions
import CellFormula.Proofs.Evaluation.Lists
import CellFormula.Proofs.Lexer.Quotes
import CellFormula.Proofs.Evaluation.Joining
import CellFormula.Proofs.Evaluation.Provenance
import CellFormula.Proofs.Number.Neutral
import CellFormula.Proofs.Evaluation.AsNumber
import CellFormula.Proofs.Number.Whole
import CellFormula.Proofs.Formula.WholeNumbers
import CellFormula.Proofs.CommandLine.Output
import CellFormula.Proofs.Tagged.Json
import CellFormula.Proofs.CommandLine.JsonLines
import CellFormula.Proofs.Tagged.Conversion
