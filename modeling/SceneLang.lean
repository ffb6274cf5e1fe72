import SceneLang.Command.Help
import SceneLang.Executor
import SceneLang.Proofs.Refinement
import SceneLang.Proofs.Writing
import SceneLang.Command.Class
import SceneLang.Proofs.Lexemes
import SceneLang.Proofs.Numerals
import SceneLang.Proofs.Statements
import SceneLang.Proofs.Permissive
import SceneLang.Proofs.Failures
import SceneLang.Proofs.Pipeline
import SceneLang.Proofs.Batches
import SceneLang.Proofs.Edits
import SceneLang.Proofs.Refusals
import SceneLang.Proofs.Parentheses
import SceneLang.Proofs.Single
import SceneLang.Proofs.Declared
import SceneLang.Proofs.NumberText
import SceneLang.Proofs.LexicalErrors
import SceneLang.Proofs.Names
import SceneLang.Proofs.Rendering
import SceneLang.Proofs.Separation
import SceneLang.Proofs.Transformation
import SceneLang.Proofs.Lifetime
import SceneLang.Proofs.Defaults
import SceneLang.Proofs.Violations
import SceneLang.Proofs.Registration
import SceneLang.Proofs.Views
import SceneLang.Proofs.NumberTokens
import SceneLang.Proofs.NormalForm
import SceneLang.Proofs.Diagnostics
import SceneLang.Proofs.Locality
import SceneLang.Proofs.Caret
import SceneLang.Proofs.Parser
import SceneLang.Proofs.ClassNames
