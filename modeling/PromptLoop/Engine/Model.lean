import PromptLoop.Error
import PromptLoop.Number.Single
import PromptLoop.Token

/-!
# Models

A model reads tokens at a position and answers with the logits for the token after them. It has a `Cache`,
the journal of the forward passes carried out so far, and how its answers come about is left open: they are
a function of that journal, with the positions in it.

Reading at position zero starts over: a model is `Model.Forgetful` if it does not look at what was read
before the latest pass at position zero.

A model need not be able to read every list of tokens; `ReadFault` tells why. It may read more tokens than
it has logits for, or fewer.
-/

namespace PromptLoop

/-! ### What can go wrong with reading -/

/-- The text of a shape, the lengths in each dimension. -/
def shapeText (shape : List Nat) : String := "[" ++ ", ".intercalate (shape.map toString) ++ "]"

/-- Why a model cannot read tokens. -/
inductive ReadFault where
  /-- There is no embedding for a token among a number of embeddings. -/
  | noEmbedding (token : Token) (count : Nat)
  /-- A part of the model has another number of dimensions than expected. -/
  | wrongRank (expected : Nat) (shape : List Nat)
  /-- Two shapes do not fit in a step of the computation. -/
  | shapesDiffer (step : String) (left right : List Nat)
  /-- A row does not fit the weights of the normalisation. -/
  | normDiffers (row weights : List Nat)
  /-- A row of some length does not fit the blocks that it is to be multiplied by. -/
  | blocksDiffer (width : Nat) (blocks : List Nat)
  deriving DecidableEq, Repr

/-- The text of a fault. -/
def ReadFault.message : ReadFault → String
  | noEmbedding token count => s!"index-select invalid index {token} with dim size {count}"
  | wrongRank expected shape =>
    s!"unexpected rank, expected: {expected}, got: {shape.length} (" ++ shapeText shape ++ ")"
  | shapesDiffer step left right =>
    "shape mismatch in " ++ step ++ ", lhs: " ++ shapeText left ++ ", rhs: " ++ shapeText right
  | normDiffers row weights => "shape mismatch in rms-norm " ++ shapeText row ++ " " ++ shapeText weights
  | blocksDiffer width blocks =>
    "input tensor Layout \x7b shape: " ++ shapeText [1, width] ++ ", stride: " ++ shapeText [width, 1] ++
      ", start_offset: 0 \x7d incompatible with " ++ shapeText blocks

/-! ### What a model has read -/

/-- One forward pass. -/
structure ForwardPass where
  /-- The tokens read. -/
  tokens : List Token
  /-- The position they were read at. -/
  position : Nat
  deriving DecidableEq, Repr

/-- The forward passes since the latest one at position zero, and that one; all if there is none. The latest
pass comes first. -/
def ForwardPass.sinceStart : List ForwardPass → List ForwardPass
  | [] => []
  | pass :: earlier => if pass.position = 0 then [pass] else pass :: sinceStart earlier

/-- What a model has read. -/
structure Cache where
  /-- The forward passes carried out, the latest first. -/
  passes : List ForwardPass
  deriving DecidableEq, Repr

namespace Cache

/-- The cache of a model that has read nothing. -/
def empty : Cache := ⟨[]⟩

/-- The cache after a forward pass. -/
def read (c : Cache) (tokens : List Token) (position : Nat) : Cache := ⟨⟨tokens, position⟩ :: c.passes⟩

/-- The forward passes of the current context. -/
def recent (c : Cache) : List ForwardPass := ForwardPass.sinceStart c.passes

/-- The latest token, if one has been read. -/
def latest? (c : Cache) : Option Token := c.passes.head?.bind (·.tokens.getLast?)

end Cache

/-! ### Models -/

/-- A model. -/
structure Model where
  /-- The number of tokens that the model answers with. -/
  vocabSize : Nat
  /-- Why the model cannot read some tokens at a position, if it cannot. -/
  fault? : Cache → List Token → Nat → Option ReadFault
  /-- The logits after what the model has read. -/
  logits : Cache → List Single
  /-- There is one logit for each token that the model answers with. -/
  length_logits : ∀ cache, (logits cache).length = vocabSize

namespace Model

/-- A forward pass: the logits after the tokens, if the model can read them. -/
def forward (m : Model) (cache : Cache) (tokens : List Token) (position : Nat) :
    Except SessionError (List Single) × Cache :=
  match m.fault? cache tokens position with
  | some fault => (.error (.generation fault.message), cache)
  | none => (.ok (m.logits (cache.read tokens position)), cache.read tokens position)

/-- What a model answers depends only on the forward passes of the current context. -/
structure Forgetful (m : Model) : Prop where
  /-- Whether tokens can be read depends on the context that they would be in. -/
  fault : ∀ {cache cache' : Cache} {tokens : List Token} {position : Nat},
    (cache'.read tokens position).recent = (cache.read tokens position).recent →
      m.fault? cache' tokens position = m.fault? cache tokens position
  /-- Logits depend on the context. -/
  logits : ∀ {cache cache' : Cache}, cache'.recent = cache.recent → m.logits cache' = m.logits cache

end Model

/-- The model that reads no token. -/
def Model.unreadable : Model where
  vocabSize := 0
  fault? _ tokens _ := tokens.head?.map (.noEmbedding · 0)
  logits _ := []
  length_logits _ := rfl

/-! ### Models that look at one token -/

/-- The token that stands for no token at all. A model that looks up tokens in a table reads it as a row
of zeros. -/
def noToken : Token := UInt32.size - 1

/-- The first of some tokens that is not among a number of embeddings. -/
def unknownToken? (count : Nat) (tokens : List Token) : Option ReadFault :=
  (tokens.find? fun t => count ≤ t && t != noToken).map (.noEmbedding · count)

/-! ### Models given by tables -/

/-- A rule that computes logits from token ids: a multiple of the remainder of a linear combination. -/
structure LogitRule where
  /-- The factor of the latest token. -/
  latest : Nat
  /-- The factor of the token that the logit is for. -/
  next : Nat
  /-- The modulus. -/
  modulus : Nat
  /-- The factor of the remainder. -/
  scale : Single
  deriving DecidableEq, Repr

/-- A model whose logits depend on the latest token only, as a table gives them. -/
structure TableModel where
  /-- The number of tokens. -/
  vocabSize : Nat
  /-- The logit of whatever neither the rule nor the table covers. -/
  base : Single
  /-- The rule, if there is one. -/
  rule : Option LogitRule
  /-- The table: for a latest token, the logits of some next tokens. -/
  table : List (Token × List (Token × Single))
  deriving DecidableEq, Repr

namespace TableModel

/-- The logit of a next token after a latest token. -/
def logit (t : TableModel) (latest next : Token) : Single :=
  match ((t.table.lookup latest).getD []).lookup next, t.rule with
  | some listed, _ => listed
  | none, some r => Single.ofNat ((r.latest * latest + r.next * next) % r.modulus) * r.scale
  | none, none => t.base

/-- The logits after a latest token. After no token at all they are zero. -/
def logits (t : TableModel) (latest : Token) : List Single :=
  (List.range t.vocabSize).map fun next => if latest = noToken then Single.zero else t.logit latest next

/-- The model of a table. One that has read nothing answers as after token zero. -/
def toModel (t : TableModel) : Model where
  vocabSize := t.vocabSize
  fault? _ tokens _ := unknownToken? t.vocabSize tokens
  logits cache := t.logits (cache.latest?.getD 0)
  length_logits _ := by simp [logits]

end TableModel

end PromptLoop
