import PromptLoop.Generation.Script
import PromptLoop.Main
import PromptLoop.Proofs.Bookkeeping
import PromptLoop.Proofs.Budget
import PromptLoop.Proofs.Caps
import PromptLoop.Proofs.Contexts
import PromptLoop.Proofs.DecodeErrors
import PromptLoop.Proofs.Exchanges
import PromptLoop.Proofs.Finding
import PromptLoop.Proofs.FullOutputs
import PromptLoop.Proofs.GenerationErrors
import PromptLoop.Proofs.GreatestLogit
import PromptLoop.Proofs.Greedy
import PromptLoop.Proofs.Handling
import PromptLoop.Proofs.Hearing
import PromptLoop.Proofs.History
import PromptLoop.Proofs.Leading
import PromptLoop.Proofs.Loading
import PromptLoop.Proofs.Losses
import PromptLoop.Proofs.Openings
import PromptLoop.Proofs.PassedOver
import PromptLoop.Proofs.Positions
import PromptLoop.Proofs.PossibleTokens
import PromptLoop.Proofs.Precedence
import PromptLoop.Proofs.Printing
import PromptLoop.Proofs.RandomStream
import PromptLoop.Proofs.Requirements
import PromptLoop.Proofs.Responses
import PromptLoop.Proofs.Seams
import PromptLoop.Proofs.Shapes
import PromptLoop.Proofs.Streaming
import PromptLoop.Proofs.TurnMarkers
import PromptLoop.Proofs.Verbosity
import PromptLoop.Proofs.Vocabularies
import PromptLoop.Text.Lossy
import PromptLoop.Tokenizer.Pieces
