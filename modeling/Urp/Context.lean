import Urp.Host

/-!
# Context compilation

Governed messages (system, developer and tool) are kept once each, as long as
they fit the token budget; the other messages always stay.
-/

namespace Urp

open Python

/-- `approximate_tokens`. -/
def approximateTokens (text : String) : Nat :=
  if text = "" then 0 else max 1 ((text.length + 3) / 4)

/-- The text of a normalized message's role. -/
def roleText (message : Object) : String :=
  ((message.get "role").string?).getD ""

/-- `message.get("role") in {"system", "developer", "tool"}`. -/
def isGoverned (message : Object) : Bool :=
  roleText message ∈ ["system", "developer", "tool"]

structure ContextChunk where
  text : String
  sourceId : String
  metadata : Object

namespace ContextChunk

def fingerprint (chunk : ContextChunk) : String :=
  stableJsonHash (.dict
    [("text", .str (String.intercalate " " (splitWords chunk.text))),
      ("role", chunk.metadata.get "role")])

end ContextChunk

structure CompiledContext where
  chunks : List ContextChunk
  tokensBefore : Nat
  tokensAfter : Nat
  removedFingerprints : List String

/-- What the loop of `compile_context` accumulates. -/
structure ContextScan extends CompiledContext where
  seen : List String

def scanChunk (maxTokens : Int) (scan : ContextScan) (chunk : ContextChunk) :
    ContextScan :=
  let tokens := approximateTokens chunk.text
  let mark := chunk.fingerprint
  if mark ∈ scan.seen ∨ maxTokens < (scan.tokensAfter + tokens : Nat) then
    { scan with
      tokensBefore := scan.tokensBefore + tokens
      removedFingerprints := scan.removedFingerprints ++ [mark] }
  else
    { chunks := scan.chunks ++ [chunk]
      tokensBefore := scan.tokensBefore + tokens
      tokensAfter := scan.tokensAfter + tokens
      removedFingerprints := scan.removedFingerprints
      seen := mark :: scan.seen }

def compileContext (chunks : List ContextChunk) (maxTokens : Int) :
    CompiledContext :=
  (chunks.foldl (scanChunk maxTokens) ⟨⟨[], 0, 0, []⟩, []⟩).toCompiledContext

def sourceId (index : Nat) : String := "message:" ++ toString index

def contextChunksFromOpenaiMessages (host : Host) (messages : List Object) :
    List ContextChunk :=
  (messages.zipIdx.filter fun item => isGoverned item.1).map fun item =>
    { text := host.str (item.1.getD "content" (.str ""))
      sourceId := sourceId item.2
      metadata := .ofList [("role", item.1.get "role")] }

/-- The compiled context and the messages that stay. -/
def compileOpenaiMessages (host : Host) (messages : List Object)
    (maxTokens : Int) : CompiledContext × List Object :=
  let compiled := compileContext
    (contextChunksFromOpenaiMessages host messages) maxTokens
  let kept := compiled.chunks.map ContextChunk.sourceId
  let stays := fun item : Object × Nat =>
    !isGoverned item.1 || decide (sourceId item.2 ∈ kept)
  (compiled, (messages.zipIdx.filter stays).map Prod.fst)

end Urp
