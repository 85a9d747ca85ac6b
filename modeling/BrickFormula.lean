import BrickFormula.Evaluation
import BrickFormula.RandomSource
import BrickFormula.Formula.Token
import BrickFormula.Formula.Names
import BrickFormula.Formula.Document
import BrickFormula.Scenario.Document
import BrickFormula.Toml.Reader
import BrickFormula.Toml.Display
import BrickFormula.Checkout
import BrickFormula.Main
import BrickFormula.Workspace.Editing
import BrickFormula.Proofs.Workspace.Refinement
import BrickFormula.Proofs.Evaluation.Footprint
import BrickFormula.Proofs.Evaluation.Renaming
import BrickFormula.Proofs.Workspace.Regions
import BrickFormula.Proofs.Evaluation.Outcome
import BrickFormula.Proofs.Formula.Document
import BrickFormula.Proofs.Numeral.RoundTrip
import BrickFormula.Proofs.Evaluation.Interchange
import BrickFormula.Proofs.Workspace.Ownership
import BrickFormula.Proofs.Evaluation.Draws
import BrickFormula.Proofs.Evaluation.Defaults
import BrickFormula.Proofs.Binary64.Product
import BrickFormula.Proofs.Evaluation.Cloning
import BrickFormula.Proofs.Evaluation.Logic
import BrickFormula.Proofs.Numeral.Grammar
import BrickFormula.Proofs.Evaluation.Membership
import BrickFormula.Proofs.Evaluation.Collisions
import BrickFormula.Proofs.Evaluation.Relations
import BrickFormula.Proofs.Evaluation.RandomNumbers
import BrickFormula.Proofs.Evaluation.Brackets
import BrickFormula.Proofs.Evaluation.HalfUp
import BrickFormula.Proofs.Evaluation.Remainders
import BrickFormula.Proofs.Evaluation.Extremes
import BrickFormula.Proofs.Evaluation.Extraction
import BrickFormula.Proofs.Evaluation.Pins
import BrickFormula.Proofs.Settings.Loading
import BrickFormula.Proofs.CommandLine.Runs
import BrickFormula.Proofs.Checkout.Lookup
import BrickFormula.Proofs.Evaluation.Layers
import BrickFormula.Proofs.Formula.Collecting
import BrickFormula.Proofs.Formula.Renaming
import BrickFormula.Proofs.Evaluation.ListText
import BrickFormula.Proofs.Evaluation.TextLength
import BrickFormula.Proofs.Evaluation.VariableScopes
import BrickFormula.Proofs.Formula.Validation
import BrickFormula.Proofs.Formula.Tokens
import BrickFormula.Proofs.Workspace.TokenBlocks
