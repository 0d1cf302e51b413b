import RuleEngine.Binary64.Basic
import RuleEngine.Text.Ranges
import RuleEngine.Text.Alphabetic
import RuleEngine.Text.Numeric
import RuleEngine.Text.WhiteSpace
import RuleEngine.Text.Classes
import RuleEngine.Pattern.Syntax
import RuleEngine.Pattern.Parse
import RuleEngine.Pattern.Check
import RuleEngine.CommandLine.LogFilter
import RuleEngine.CommandLine.Spec
import RuleEngine.Text.Similarity
import RuleEngine.CommandLine.Parse
import RuleEngine.CommandLine.Program
import RuleEngine.Decimal.Basic
import RuleEngine.Decimal.Shortest
import RuleEngine.Decimal.Layout
import RuleEngine.Json.Basic
import RuleEngine.Text.GraphemeExtend
import RuleEngine.Text.Unprintable
import RuleEngine.Text.Escaped
import RuleEngine.Json.Error
import RuleEngine.Json.Reader
import RuleEngine.Json.Read
import RuleEngine.Json.Decode
import RuleEngine.Value.Basic
import RuleEngine.Value.Json
import RuleEngine.Engine.Document
import RuleEngine.Expression.Error
import RuleEngine.Engine.Error
import RuleEngine.Engine.IdMap
import RuleEngine.Decimal.Reading
import RuleEngine.Engine.Source
import RuleEngine.Engine.Priority
import RuleEngine.Expression.Token
import RuleEngine.Expression.Lexer
import RuleEngine.Expression.Postfix
import RuleEngine.Expression.Operation
import RuleEngine.Expression.Machine
import RuleEngine.Engine.Evidence
import RuleEngine.Engine.Registry
import RuleEngine.Engine.InPlace
import RuleEngine.RuleSet.Basic
import RuleEngine.RuleSet.Decode
import RuleEngine.Engine.Worklist
import RuleEngine.Engine.Pass
import RuleEngine.Json.Print
import RuleEngine.CommandLine.Run
import RuleEngine.Main
import RuleEngine.RuleSet.Encode
import RuleEngine.Proofs.Binary64.Rounding
import RuleEngine.Proofs.Decimal.RoundTrip
import RuleEngine.Proofs.Text.Trim
import RuleEngine.Proofs.Expression.Tree
import RuleEngine.Proofs.Expression.ShuntingYard
import RuleEngine.Proofs.Expression.StackMachine
import RuleEngine.Proofs.Expression.Lexing
import RuleEngine.Proofs.Expression.Compile
import RuleEngine.Proofs.Engine.Frame
import RuleEngine.Proofs.Engine.ChainableRules
import RuleEngine.Proofs.RuleSet.Staging
import RuleEngine.Proofs.RuleSet.Loading
import RuleEngine.Proofs.Engine.Pointers
import RuleEngine.Proofs.Engine.Evaluation
import RuleEngine.Proofs.Engine.Readings
import RuleEngine.Proofs.Engine.Scheduling
import RuleEngine.Proofs.Engine.Termination
import RuleEngine.Proofs.Expression.Arity
import RuleEngine.Proofs.Engine.RankOrder
import RuleEngine.Proofs.Engine.Divergence
import RuleEngine.Proofs.Engine.Freshness
import RuleEngine.Proofs.Engine.Quiescence
import RuleEngine.Proofs.Engine.Atomicity
import RuleEngine.Proofs.Engine.Repetition
import RuleEngine.Proofs.Decimal.Unsigned
import RuleEngine.Proofs.Expression.LexedTokens
import RuleEngine.Proofs.Expression.Conversion
import RuleEngine.Proofs.Expression.Reading
import RuleEngine.Proofs.Engine.InvalidOperands
import RuleEngine.Proofs.RuleSet.AllOrNothing
import RuleEngine.Proofs.Binary64.Integers
import RuleEngine.Proofs.Engine.ReadBack
import RuleEngine.Proofs.Engine.SettingFacts
import RuleEngine.Proofs.Expression.Comparison
import RuleEngine.Proofs.Engine.Linking
import RuleEngine.Proofs.RuleSet.Compiled
