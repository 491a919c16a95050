import PromptLoop.Engine.Model
import PromptLoop.Engine.Product

/-!
# Models without layers

The plainest model made of numbers has no layers between its first and its last step. The embedding of
the latest token is scaled by the root of its length, divided by the root of its mean square, which a
small number keeps from zero, and multiplied by the weights of this normalisation; the logit of each next
token is the product of the result with the row of that token. All arithmetic is single precision, from
left to right.

The tensors need not fit one another. That shows when tokens are read, in the order of the computation:
first the embeddings are looked up, then they are laid out, normalised and multiplied.
-/

namespace PromptLoop

/-- A model without layers. -/
structure BareModel where
  /-- The length of an embedding. -/
  width : Nat
  /-- What keeps the mean square from zero. -/
  epsilon : Single
  /-- The embeddings of the tokens. -/
  embeddings : Tensor
  /-- The weights of the normalisation. -/
  norm : Tensor
  /-- The rows of the next tokens. -/
  outputs : Tensor
  deriving DecidableEq, Repr

namespace BareModel

/-- The shape with its last two dimensions exchanged. -/
def transposed (shape : List Nat) : List Nat :=
  match shape.reverse with
  | last :: other :: rest => rest.reverse ++ [last, other]
  | _ => shape

/-- Why a row cannot be multiplied by the rows of the next tokens. -/
def outputFault? (m : BareModel) : Option ReadFault :=
  let shape := m.outputs.shape
  if m.outputs.kind.blockLength = 1 then
    if shape.length < 2 then some (.wrongRank 2 shape)
    else if shape.length = 2 ∧ (m.outputs.rowCount = 0 ∨ m.outputs.rowLength = m.width) then none
    else some (.shapesDiffer "matmul" [1, m.width] (transposed shape))
  else if shape.length ≠ 2 then some (.wrongRank 2 shape)
  else if m.outputs.rowLength = m.width then none
  else some (.blocksDiffer m.width shape)

/-- Why the model cannot read tokens. -/
def fault? (m : BareModel) (tokens : List Token) : Option ReadFault :=
  let count := tokens.length
  match unknownToken? m.embeddings.rowCount tokens with
  | some fault => some fault
  | none =>
    if m.embeddings.rowLength ≠ m.width then
      some (.shapesDiffer "reshape" (count :: m.embeddings.shape.tail) [1, count, m.width])
    else if m.norm.shape.length ≠ 1 then some (.wrongRank 1 m.norm.shape)
    else if m.norm.shape ≠ [m.width] then some (.normDiffers [1, m.width] m.norm.shape)
    else m.outputFault?

/-- A row divided by the root of its mean square, each place weighted. -/
def normalise (epsilon : Single) (weights row : List Single) : List Single :=
  let mean := product row row / Single.ofNat row.length
  let root := (mean + epsilon).sqrt
  (row.map (· / root)).zipWith (· * ·) weights

/-- The scale of the embeddings, the root of their length. -/
def scale (m : BareModel) : Single := Single.narrow (Float.sqrt (Float.ofNat m.width))

/-- The embedding of a token, given all embeddings. No token at all has an embedding of zeros. -/
def embedding (m : BareModel) (embeddings : List (List Single)) (token : Token) : List Single :=
  if token = noToken then List.replicate m.width Single.zero else (embeddings[token]?).getD []

/-- The logits, given all embeddings, after a latest token. -/
def logits (m : BareModel) (embeddings : List (List Single)) (latest : Token) : List Single :=
  let row := (m.embedding embeddings latest).map fun x => x * m.scale + Single.zero
  m.outputs.products (normalise m.epsilon m.norm.numbers row)

/-- The model, which has as many next tokens as rows for them. -/
def toModel (m : BareModel) : Model :=
  let embeddings := m.embeddings.rows
  { vocabSize := m.outputs.rowCount
    fault? := fun _ tokens _ => m.fault? tokens
    logits := fun cache => m.logits embeddings (cache.latest?.getD 0)
    length_logits := fun _ => Tensor.length_products .. }

end BareModel

end PromptLoop
