import Helpdesk.Core.Repositories
import Helpdesk.Knowledge.Chunking
import Helpdesk.Library.WriteBack

/-! # The knowledge base service and the embedding worker

Articles are created, edited and deleted by requests; `embed_knowledge_document` chunks an article,
embeds the chunks and stores them. An edit sets the status back to `pending` for the worker to start
over. Nothing but the deletion of the article removes chunks. -/

namespace Helpdesk.Knowledge

open WriteBack

/-! ## Rows of `knowledge_base`

An UPDATE goes over the row that is stored by then, and sets the columns whose attributes have changed since they were
loaded. -/

/-- The CHECK constraints of `knowledge_base`, in the order of their names. -/
def checkArticle (c : KnowledgeBaseColumns) : Except Constraint KnowledgeBase :=
  if h₁ : Text.btrim c.content ≠ "" then
    if h₂ : c.status ≠ .failed ∨ c.embeddingError ≠ none then
      if h₃ : Text.btrim c.title ≠ "" then
        .ok
          { c with
            content_not_blank := h₁
            failed_requires_embedding_error := h₂
            title_not_blank := h₃ }
      else .error .knowledgeBaseTitleNotBlank
    else .error .knowledgeBaseFailedRequiresEmbeddingError
  else .error .knowledgeBaseContentNotBlank

/-- The columns after a flush. -/
def writeBackArticle (loaded assigned current : KnowledgeBaseColumns) : KnowledgeBaseColumns :=
  { current with
    title := flushAttr loaded.title assigned.title current.title
    content := flushAttr loaded.content assigned.content current.content
    sourceType := flushAttr loaded.sourceType assigned.sourceType current.sourceType
    status := flushAttr loaded.status assigned.status current.status
    embeddingError := flushAttr loaded.embeddingError assigned.embeddingError
      current.embeddingError }

/-- UPDATE, at flush. -/
def flushArticle (id : Uuid) (loaded assigned : KnowledgeBaseColumns) : Service Unit := do
  let db ← Tx.store
  match db.knowledgeBases.lookup id with
  | none => Tx.raise .staleData
  | some current =>
    let row ← raiseConstraint
      (checkArticle (writeBackArticle loaded assigned current.toKnowledgeBaseColumns))
    Tx.write { db with knowledgeBases := db.knowledgeBases.modify id fun _ => row }

/-! ## The service

Creating, editing and deleting. An edit is its assignments here; when it reads and when it flushes is up to the
system. -/

/-- `create_knowledge_base`. -/
def createKnowledgeBase (scope : OrgScope) (id : Uuid) (title content : String)
    (sourceType : Option String) : Service Unit := do
  let row ← raiseConstraint (checkArticle
    { organizationId := scope.organizationId
      title := title
      content := content
      sourceType := sourceType
      status := .pending
      embeddingError := none })
  let db ← Tx.store
  let knowledgeBases ← Tx.orRaise (db.knowledgeBases.insertNew id row) (.integrityError .primaryKey)
  if scope.organizationId ∈ db.organizations then
    Tx.write { db with knowledgeBases := knowledgeBases }
  else Tx.raise (.integrityError .foreignKey)

/-- The fields of an edit that are supplied. -/
structure ArticlePatch where
  title : Option String
  content : Option String
  sourceType : Option (Option String)

/-- What `update_knowledge_base` assigns: the supplied fields, and always the status. -/
def ArticlePatch.assign (patch : ArticlePatch) (loaded : KnowledgeBaseColumns) :
    KnowledgeBaseColumns :=
  { loaded with
    title := patch.title.getD loaded.title
    content := patch.content.getD loaded.content
    sourceType := patch.sourceType.getD loaded.sourceType
    status := .pending
    embeddingError := none }

/-- `delete_for_knowledge_base`. -/
def deleteForKnowledgeBase (scope : OrgScope) (id : Uuid) : Service Unit := do
  let db ← Tx.store
  Tx.write { db with
    knowledgeChunks := db.knowledgeChunks.keepRows fun _ c =>
      ¬ (c.organizationId = scope.organizationId ∧ c.knowledgeBaseId = id) }

/-- `delete_knowledge_base`. The foreign key of the chunks cascades. -/
def deleteKnowledgeBase (scope : OrgScope) (id : Uuid) : Service Unit := do
  let _ ← scope.getKnowledgeBase id
  deleteForKnowledgeBase scope id
  let db ← Tx.store
  Tx.write { db with
    knowledgeBases := db.knowledgeBases.erase id
    knowledgeChunks := db.knowledgeChunks.keepRows fun _ c => c.knowledgeBaseId ≠ id }

/-! ## The worker

What `embed_knowledge_document` does between its read and its commit. What the embedding provider answers is an
argument. -/

/-- `RAG_EMBEDDING_DIM`, the width of the `embedding` column. -/
def ragEmbeddingDim : Nat := 768

/-- What a call of the embedding provider comes to. -/
inductive EmbedOutcome where
  | embeddings (vectors : List (List ℚ))
  | transientError
  | permanentError (message : String)

/-- INSERT into `knowledge_chunks`. -/
def insertChunk (id knowledgeBaseId organizationId : Uuid) (chunk : Chunk) (embedding : List ℚ) :
    Service Unit := do
  if embedding.length ≠ ragEmbeddingDim then Tx.raise .dataError
  else if h₁ : Text.btrim chunk.content ≠ "" then
    if h₂ : 0 < chunk.tokenCount then
      let db ← Tx.store
      let knowledgeChunks ← Tx.orRaise
        (db.knowledgeChunks.insertNew id
          { knowledgeBaseId := knowledgeBaseId
            organizationId := organizationId
            chunkIndex := chunk.index
            content := chunk.content
            tokenCount := chunk.tokenCount
            embedding := embedding
            content_not_blank := h₁
            token_count_positive := h₂ })
        (.integrityError .primaryKey)
      let taken := db.knowledgeChunks.select fun _ c =>
        decide (c.knowledgeBaseId = knowledgeBaseId ∧ c.chunkIndex = chunk.index)
      if taken ≠ [] then Tx.raise (.integrityError .knowledgeChunksKbIdChunkIndex)
      else Tx.write { db with knowledgeChunks := knowledgeChunks }
    else Tx.raise (.integrityError .knowledgeChunksTokenCountPositive)
  else Tx.raise (.integrityError .knowledgeChunksContentNotBlank)

/-- The chunks one after another, with the primary keys that are drawn for them. -/
def addChunks (chunkIds : Nat → Uuid) (knowledgeBaseId organizationId : Uuid) :
    (n : Nat) → List (Chunk × List ℚ) → Service Unit
  | _, [] => pure ()
  | n, (chunk, embedding) :: rest => do
    insertChunk (chunkIds n) knowledgeBaseId organizationId chunk embedding
    addChunks chunkIds knowledgeBaseId organizationId (n + 1) rest

/-- A permanent failure: `status = "failed"`, with the first 1000 characters of the error. -/
def failEmbedding (id : Uuid) (loaded : KnowledgeBase) (message : String) : Service Unit :=
  flushArticle id loaded.toKnowledgeBaseColumns
    { loaded.toKnowledgeBaseColumns with
      status := .failed
      embeddingError := some (String.ofList (message.toList.take 1000)) }

/-- The writes of a run that has its embeddings; `zip` is strict. -/
def storeChunks (chunkIds : Nat → Uuid) (id organizationId : Uuid) (loaded : KnowledgeBase)
    (chunks : List Chunk) (vectors : List (List ℚ)) : Service Unit := do
  if vectors.length ≠ chunks.length then Tx.raise .valueError
  else
    addChunks chunkIds id organizationId 0 (chunks.zip vectors)
    flushArticle id loaded.toKnowledgeBaseColumns
      { loaded.toKnowledgeBaseColumns with status := .ready }

/-- `embed_knowledge_document`, from the article that has been read under its row lock. -/
def embedArticle (encoding : Encoding) (embed : List String → EmbedOutcome) (jobTry : Nat)
    (chunkIds : Nat → Uuid) (id organizationId : Uuid) (loaded : KnowledgeBase) : Service Unit :=
  if loaded.status ≠ .pending then pure ()
  else
    match chunkDocument encoding loaded.content with
    | .error message => failEmbedding id loaded message
    | .ok chunks =>
      if chunks = [] then
        failEmbedding id loaded ("knowledge base " ++ uuidStr id ++ " produced no chunks")
      else
        match embed (chunks.map (·.content)) with
        | .transientError => Tx.raise (.retry (2 ^ jobTry))
        | .permanentError message => failEmbedding id loaded message
        | .embeddings vectors => storeChunks chunkIds id organizationId loaded chunks vectors

end Helpdesk.Knowledge
