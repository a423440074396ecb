import Helpdesk.Knowledge.Service
import Helpdesk.Library.Run

/-! # The index over the knowledge base

Articles, edits and embedding jobs as one system. An edit reads its article before it writes it; an
embedding run holds the article's row lock from its read to its commit, and whoever would write the
row meanwhile waits. A run or an edit may be given up at any time, and a job may be delivered again.

An article that is `ready` should have the chunks of its content. **`index_consistent`**: this holds,
and every article that has not failed can be embedded, as long as no edit disturbs an article that
already has chunks. -/

namespace Helpdesk.Knowledge

open Run WriteBack

/-! ## Stored chunks

The chunks of an article are compared as a multiset, without their keys and embeddings. `OnlyArticle` is the frame of
everything that works on one article. -/

/-- What of a chunk is stored. -/
def Chunk.stored (c : Chunk) : Nat × String × Nat := (c.index, c.content, c.tokenCount)

/-- The stored chunks of an article. -/
def chunkRows (db : Db) (id : Uuid) : List (Nat × String × Nat) :=
  (db.knowledgeChunks.select fun _ c => decide (c.knowledgeBaseId = id)).map fun row =>
    (row.2.chunkIndex, row.2.content, row.2.tokenCount)

/-- The article's chunks are those of `content`. -/
def Indexed (encoding : Encoding) (db : Db) (id : Uuid) (content : String) : Prop :=
  ∃ chunks, chunkDocument encoding content = .ok chunks ∧
    (chunkRows db id).Perm (chunks.map Chunk.stored)

/-- `db'` differs from `db` in the article `id` and its chunks alone. -/
def OnlyArticle (id : Uuid) (db db' : Db) : Prop :=
  ∀ id', id' ≠ id → db'.knowledgeBases.lookup id' = db.knowledgeBases.lookup id' ∧
    chunkRows db' id' = chunkRows db id'

/-- **The invariant of one article**: indexed if it is ready, and without chunks otherwise. -/
def ArticleOk (encoding : Encoding) (db : Db) (id : Uuid) : Prop :=
  match db.knowledgeBases.lookup id with
  | none => chunkRows db id = []
  | some kb =>
      (kb.status = .ready ∧ chunkRows db id ≠ [] ∧ Indexed encoding db id kb.content) ∨
      ((kb.status = .pending ∨ kb.status = .failed) ∧ chunkRows db id = [])

section
variable {encoding : Encoding} {db db' : Db} {id id' : Uuid} {kb : KnowledgeBase}

theorem OnlyArticle.refl (id : Uuid) (db : Db) : OnlyArticle id db db :=
  fun _ _ => ⟨rfl, rfl⟩

theorem OnlyArticle.trans {db'' : Db} (h : OnlyArticle id db db') (h' : OnlyArticle id db' db'') :
    OnlyArticle id db db'' := by
  intro id' hne
  exact ⟨(h' id' hne).1.trans (h id' hne).1, (h' id' hne).2.trans (h id' hne).2⟩

/-- The other articles keep their invariant. -/
theorem OnlyArticle.articleOk (h : OnlyArticle id db db') (hne : id' ≠ id)
    (hok : ArticleOk encoding db id') : ArticleOk encoding db' id' := by
  unfold ArticleOk Indexed at hok ⊢
  rw [(h id' hne).1, (h id' hne).2]
  exact hok

theorem articleOk_none (h : db.knowledgeBases.lookup id = none) :
    ArticleOk encoding db id ↔ chunkRows db id = [] := by
  simp [ArticleOk, h]

theorem articleOk_some (h : db.knowledgeBases.lookup id = some kb) :
    ArticleOk encoding db id ↔
      (kb.status = .ready ∧ chunkRows db id ≠ [] ∧ Indexed encoding db id kb.content) ∨
      ((kb.status = .pending ∨ kb.status = .failed) ∧ chunkRows db id = []) := by
  simp [ArticleOk, h]

theorem Indexed.ne_nil {content : String} {chunks : List Chunk}
    (h : Indexed encoding db id content) (hchunks : chunkDocument encoding content = .ok chunks)
    (hne : chunks ≠ []) : chunkRows db id ≠ [] := by
  obtain ⟨chunks', hchunks', hperm⟩ := h
  obtain rfl : chunks = chunks' := Except.ok.inj (hchunks.symm.trans hchunks')
  intro hempty
  rw [hempty] at hperm
  exact hne (List.map_eq_nil_iff.mp hperm.nil_eq.symm)

theorem mem_chunkRows {row : Nat × String × Nat} :
    row ∈ chunkRows db id ↔ ∃ k c, db.knowledgeChunks.lookup k = some c ∧ c.knowledgeBaseId = id ∧
      (c.chunkIndex, c.content, c.tokenCount) = row := by
  simp only [chunkRows, List.mem_map, Prod.exists, Table.mem_select, decide_eq_true_eq]
  constructor
  · rintro ⟨k, c, ⟨hc, hid⟩, hrow⟩
    exact ⟨k, c, hc, hid, hrow⟩
  · rintro ⟨k, c, hc, hid, hrow⟩
    exact ⟨k, c, ⟨hc, hid⟩, hrow⟩

/-- A bulk delete that spares an article's chunks. -/
theorem chunkRows_keepRows {q : Uuid → KnowledgeChunk → Bool}
    (hdb : db'.knowledgeChunks = db.knowledgeChunks.keepRows q)
    (h : ∀ k c, c.knowledgeBaseId = id → q k c = true) : chunkRows db' id = chunkRows db id := by
  unfold chunkRows
  rw [hdb, Table.select_keepRows]
  congr 2
  funext k c
  by_cases hid : c.knowledgeBaseId = id
  · simp [hid, h k c hid]
  · simp [hid]

/-- A bulk delete of all of an article's chunks. -/
theorem chunkRows_keepRows_nil {q : Uuid → KnowledgeChunk → Bool}
    (hdb : db'.knowledgeChunks = db.knowledgeChunks.keepRows q)
    (h : ∀ k c, c.knowledgeBaseId = id → q k c = false) : chunkRows db' id = [] := by
  unfold chunkRows
  rw [hdb, Table.select_keepRows, List.map_eq_nil_iff, Table.select_eq_nil]
  intro k c _
  by_cases hid : c.knowledgeBaseId = id
  · simp [h k c hid]
  · simp [hid]

/-! ## What the writes do

Rules for the two statements that write: the UPDATE of an article and the INSERT of a chunk. The second one has
what makes it fail as a condition on the chunks, so that it serves for safety and for liveness. -/

theorem checkArticle_ok {c : KnowledgeBaseColumns} (h : checkArticle c = .ok kb) :
    kb.toKnowledgeBaseColumns = c := by
  unfold checkArticle at h
  split at h
  · split at h
    · split at h
      · rw [← Except.ok.inj h]
      · simp at h
    · simp at h
  · simp at h

theorem wp_flushArticle {Q : Unit → Db → Prop} {E : Raised → Prop}
    {loaded assigned : KnowledgeBaseColumns}
    (hQ : ∀ current row : KnowledgeBase, db.knowledgeBases.lookup id = some current →
      row.toKnowledgeBaseColumns =
        writeBackArticle loaded assigned current.toKnowledgeBaseColumns →
      Q () { db with knowledgeBases := db.knowledgeBases.modify id fun _ => row })
    (hstale : db.knowledgeBases.lookup id = none → E .staleData)
    (hcheck : ∀ current k, db.knowledgeBases.lookup id = some current →
      checkArticle (writeBackArticle loaded assigned current.toKnowledgeBaseColumns) = .error k →
      E (.integrityError k)) :
    Tx.wp (flushArticle id loaded assigned) Q E db := by
  simp only [flushArticle, Tx.wp_bind, Tx.wp_store]
  cases hrow : db.knowledgeBases.lookup id with
  | none =>
    rw [Tx.wp_raise]
    exact hstale hrow
  | some current =>
    simp only [Tx.wp_bind, wp_raiseConstraint, Tx.wp_write]
    refine ⟨fun row hcols => ?_, fun k hk => hcheck current k hrow hk⟩
    exact hQ current row hrow (checkArticle_ok hcols)

/-- An UPDATE of the article's row touches nothing else. -/
theorem onlyArticle_modify (row : KnowledgeBase) :
    OnlyArticle id db { db with knowledgeBases := db.knowledgeBases.modify id fun _ => row } :=
  fun _ hne => ⟨Table.lookup_modify_of_ne _ hne, rfl⟩

/-- Over the row that was read, a flush stores what was assigned. -/
theorem writeBackArticle_loaded (loaded assigned : KnowledgeBaseColumns) :
    writeBackArticle loaded assigned loaded =
      { assigned with organizationId := loaded.organizationId } := by
  simp [writeBackArticle]

/-- What an INSERT of a chunk needs in order to succeed. -/
structure Insertable (db : Db) (chunkIds : Nat → Uuid) (id : Uuid) (n : Nat)
    (items : List (Chunk × List ℚ)) : Prop where
  dims : ∀ item ∈ items, item.2.length = ragEmbeddingDim
  not_blank : ∀ item ∈ items, Text.btrim item.1.content ≠ ""
  tokens : ∀ item ∈ items, 0 < item.1.tokenCount
  indices : (items.map (·.1.index)).Nodup
  free : ∀ item ∈ items, ∀ row ∈ chunkRows db id, row.1 ≠ item.1.index
  fresh : ∀ m, n ≤ m → db.knowledgeChunks.lookup (chunkIds m) = none
  injective : Function.Injective chunkIds

/-- Where a chunk is stored, it is stored in front; it fails only where it is not `Insertable`. -/
theorem wp_insertChunk {Q : Unit → Db → Prop} {E : Raised → Prop} {chunkIds : Nat → Uuid} {n : Nat}
    {organizationId : Uuid} {chunk : Chunk} {embedding : List ℚ}
    (hQ : ∀ db' : Db, OnlyArticle id db db' → db'.knowledgeBases = db.knowledgeBases →
      chunkRows db' id = chunk.stored :: chunkRows db id →
      (∀ k, k ≠ chunkIds n → db'.knowledgeChunks.lookup k = db.knowledgeChunks.lookup k) → Q () db')
    (hE : ¬ Insertable db chunkIds id n [(chunk, embedding)] → ∀ e, E e) :
    Tx.wp (insertChunk (chunkIds n) id organizationId chunk embedding) Q E db := by
  unfold insertChunk
  rw [Tx.wp_ite]
  refine ⟨fun hdim => ?_, fun _ => ?_⟩
  · rw [Tx.wp_raise]
    exact hE (fun h => hdim (h.dims (chunk, embedding) List.mem_cons_self)) _
  split
  next hblank =>
    split
    next htokens =>
      rw [Tx.wp_bind, Tx.wp_store]
      dsimp only
      rw [Tx.wp_bind, Tx.wp_orRaise]
      refine ⟨fun knowledgeChunks hins => ?_, fun hins => ?_⟩
      · obtain ⟨hnew, rfl⟩ := Table.insertNew_eq_some.mp hins
        rw [Tx.wp_ite]
        refine ⟨fun htaken => ?_, fun _ => ?_⟩
        · -- the unique index on the article and the chunk's number
          rw [Tx.wp_raise]
          apply hE
          intro h
          apply htaken
          rw [Table.select_eq_nil]
          intro k c hc
          simp only [decide_eq_false_iff_not, not_and]
          intro hid hindex
          exact h.free (chunk, embedding) List.mem_cons_self _ (mem_chunkRows.mpr ⟨k, c, hc, hid, rfl⟩) hindex
        · rw [Tx.wp_write]
          apply hQ
          · intro id' hne
            refine ⟨rfl, ?_⟩
            simp [chunkRows, Table.select_insert_of_fresh _ hnew, Ne.symm hne]
          · rfl
          · simp [chunkRows, Table.select_insert_of_fresh _ hnew, Chunk.stored]
          · exact fun k hk => AList.lookup_insert_ne hk
      · apply hE
        intro h
        rw [Table.insertNew_of_fresh _ (h.fresh n le_rfl)] at hins
        cases hins
    next htokens =>
      rw [Tx.wp_raise]
      exact hE (fun h => htokens (h.tokens (chunk, embedding) List.mem_cons_self)) _
  next hblank =>
    rw [Tx.wp_raise]
    exact hE (fun h => hblank (h.not_blank (chunk, embedding) List.mem_cons_self)) _

/-- The chunks are stored one before the other. -/
theorem wp_addChunks {Q : Unit → Db → Prop} {E : Raised → Prop} {chunkIds : Nat → Uuid}
    {organizationId : Uuid} {items : List (Chunk × List ℚ)} {n : Nat}
    (hQ : ∀ db' : Db, OnlyArticle id db db' → db'.knowledgeBases = db.knowledgeBases →
      chunkRows db' id = (items.map (·.1.stored)).reverse ++ chunkRows db id → Q () db')
    (hE : ¬ Insertable db chunkIds id n items → ∀ e, E e) :
    Tx.wp (addChunks chunkIds id organizationId n items) Q E db := by
  induction items generalizing n db with
  | nil =>
    unfold addChunks
    rw [Tx.wp_pure]
    exact hQ db (OnlyArticle.refl id db) rfl (by simp)
  | cons item items ih =>
    obtain ⟨chunk, embedding⟩ := item
    unfold addChunks
    rw [Tx.wp_bind]
    apply wp_insertChunk
    · intro db₁ honly hbases hrows hkeys
      apply ih
      · intro db₂ honly' hbases' hrows'
        apply hQ db₂ (honly.trans honly') (hbases'.trans hbases)
        rw [hrows', hrows]
        simp
      -- what the rest needs, of what the whole list needed
      · intro hno
        apply hE
        intro h
        apply hno
        have hindices := List.nodup_cons.mp h.indices
        refine ⟨fun i hi => h.dims i (List.mem_cons_of_mem _ hi),
          fun i hi => h.not_blank i (List.mem_cons_of_mem _ hi),
          fun i hi => h.tokens i (List.mem_cons_of_mem _ hi), hindices.2, ?_, ?_, h.injective⟩
        · intro i hi row hrow hindex
          rw [hrows, List.mem_cons] at hrow
          rcases hrow with rfl | hrow
          · exact hindices.1 (List.mem_map.mpr ⟨i, hi, hindex.symm⟩)
          · exact h.free i (List.mem_cons_of_mem _ hi) row hrow hindex
        · intro m hm
          rw [hkeys (chunkIds m) (fun heq => ?_)]
          · exact h.fresh m (by omega)
          · have := h.injective heq
            omega
    · intro hno
      apply hE
      intro h
      apply hno
      refine ⟨?_, ?_, ?_, by simp, ?_, h.fresh, h.injective⟩
      · intro i hi
        exact h.dims i (List.mem_cons.mpr (.inl (List.mem_singleton.mp hi)))
      · intro i hi
        exact h.not_blank i (List.mem_cons.mpr (.inl (List.mem_singleton.mp hi)))
      · intro i hi
        exact h.tokens i (List.mem_cons.mpr (.inl (List.mem_singleton.mp hi)))
      · intro i hi
        exact h.free i (List.mem_cons.mpr (.inl (List.mem_singleton.mp hi)))

/-! ## What a run of the worker does

Safety is for any answer of the provider and for chunks that the table may refuse, liveness for an answer that
fits and chunks that it takes. Both go by the same lemma about the writes. -/

variable {chunkIds : Nat → Uuid} {organizationId : Uuid} {loaded : KnowledgeBase}
  {chunks : List Chunk} {vectors : List (List ℚ)} {embed : List String → EmbedOutcome} {jobTry : Nat}

theorem wp_failEmbedding (hrow : db.knowledgeBases.lookup id = some loaded)
    (hempty : chunkRows db id = []) (message : String) :
    Tx.wp (failEmbedding id loaded message)
      (fun _ db' => OnlyArticle id db db' ∧ ArticleOk encoding db' id) (fun _ => True) db := by
  apply wp_flushArticle
  · intro current row hcurrent hcols
    obtain rfl : current = loaded := Option.some.inj (hcurrent.symm.trans hrow)
    rw [writeBackArticle_loaded] at hcols
    refine ⟨onlyArticle_modify row, ?_⟩
    rw [articleOk_some (show _ = some row by simp [hrow])]
    exact .inr ⟨.inr (by rw [hcols]), hempty⟩
  · exact fun _ => trivial
  · exact fun _ _ _ _ => trivial

/-- Chunks that are stored leave the article ready and indexed. -/
theorem wp_storeChunks {Q : Unit → Db → Prop} {E : Raised → Prop}
    (hrow : db.knowledgeBases.lookup id = some loaded) (hempty : chunkRows db id = [])
    (hchunks : chunkDocument encoding loaded.content = .ok chunks)
    (hQ : ∀ (db' : Db) (row : KnowledgeBase), OnlyArticle id db db' →
      db'.knowledgeBases.lookup id = some row → row.status = .ready →
      row.content = loaded.content → Indexed encoding db' id row.content → Q () db')
    (hE : ¬ (vectors.length = chunks.length ∧ Insertable db chunkIds id 0 (chunks.zip vectors)) →
      ∀ e, E e) :
    Tx.wp (storeChunks chunkIds id organizationId loaded chunks vectors) Q E db := by
  unfold storeChunks
  rw [Tx.wp_ite]
  refine ⟨fun hlength => ?_, fun hlength => ?_⟩
  · rw [Tx.wp_raise]
    exact hE (fun h => hlength h.1) _
  rw [Classical.not_not] at hlength
  rw [Tx.wp_bind]
  apply wp_addChunks
  · intro db₁ honly hbases hrows
    have hrow₁ : db₁.knowledgeBases.lookup id = some loaded := by rw [hbases, hrow]
    apply wp_flushArticle
    · intro current row hcurrent hcols
      obtain rfl : current = loaded := Option.some.inj (hcurrent.symm.trans hrow₁)
      rw [writeBackArticle_loaded] at hcols
      have hcontent : row.content = current.content := by rw [hcols]
      apply hQ _ row (honly.trans (onlyArticle_modify row)) (by simp [hrow₁]) (by rw [hcols])
        hcontent
      refine ⟨chunks, by rw [hcontent, hchunks], ?_⟩
      have hstored : (chunks.zip vectors).map (·.1.stored) = chunks.map Chunk.stored := by
        rw [show (fun item : Chunk × List ℚ => item.1.stored) = Chunk.stored ∘ Prod.fst from rfl,
          ← List.map_map, List.map_fst_zip (by omega)]
      show (chunkRows db₁ id).Perm _
      rw [hrows, hempty, hstored, List.append_nil]
      exact List.reverse_perm _
    · intro hnone
      rw [hrow₁] at hnone
      cases hnone
    · intro current k hcurrent hcheck
      obtain rfl : current = loaded := Option.some.inj (hcurrent.symm.trans hrow₁)
      rw [writeBackArticle_loaded] at hcheck
      simp [checkArticle, current.content_not_blank, current.title_not_blank] at hcheck
  · exact fun hno => hE fun h => hno h.2

/-- **Safety**: a run keeps the invariant of its article and does not touch the others. -/
theorem wp_embedArticle (hrow : db.knowledgeBases.lookup id = some loaded)
    (hok : ArticleOk encoding db id) :
    Tx.wp (embedArticle encoding embed jobTry chunkIds id organizationId loaded)
      (fun _ db' => OnlyArticle id db db' ∧ ArticleOk encoding db' id) (fun _ => True) db := by
  unfold embedArticle
  rw [Tx.wp_ite]
  refine ⟨fun _ => ?_, fun hpending => ?_⟩
  · rw [Tx.wp_pure]
    exact ⟨OnlyArticle.refl id db, hok⟩
  rw [Classical.not_not] at hpending
  have hempty : chunkRows db id = [] := by
    rw [articleOk_some hrow, hpending] at hok
    exact (hok.resolve_left (by simp)).2
  cases hchunks : chunkDocument encoding loaded.content with
  | error message => exact wp_failEmbedding hrow hempty message
  | ok chunks =>
    dsimp only
    rw [Tx.wp_ite]
    refine ⟨fun _ => wp_failEmbedding hrow hempty _, fun hne => ?_⟩
    cases embed (chunks.map (·.content)) with
    | transientError => simp
    | permanentError message => exact wp_failEmbedding hrow hempty message
    | embeddings vectors =>
      apply wp_storeChunks hrow hempty hchunks
      · intro db' row honly hrow' hready hcontent hindexed
        refine ⟨honly, ?_⟩
        rw [articleOk_some hrow']
        exact .inl ⟨hready, hindexed.ne_nil (by rw [hcontent, hchunks]) hne, hindexed⟩
      · exact fun _ _ => trivial

/-- Chunks that the table takes: there are some, and none is blank or without tokens. -/
def Storable (chunks : List Chunk) : Prop :=
  chunks ≠ [] ∧ ∀ c ∈ chunks, Text.btrim c.content ≠ "" ∧ 0 < c.tokenCount

/-- The provider answers with one vector of the column's width for each chunk. -/
def Embeds (embed : List String → EmbedOutcome) (chunks : List Chunk) : Prop :=
  ∃ vectors, embed (chunks.map (·.content)) = .embeddings vectors ∧
    vectors.length = chunks.length ∧ ∀ v ∈ vectors, v.length = ragEmbeddingDim

/-- Primary keys that are drawn are distinct and new. -/
def FreshIds (db : Db) (chunkIds : Nat → Uuid) : Prop :=
  Function.Injective chunkIds ∧ ∀ n, db.knowledgeChunks.lookup (chunkIds n) = none

theorem insertable_zip (hchunks : chunkDocument encoding loaded.content = .ok chunks)
    (hstorable : Storable chunks) (hdims : ∀ v ∈ vectors, v.length = ragEmbeddingDim)
    (hlength : vectors.length = chunks.length) (hempty : chunkRows db id = [])
    (hfresh : FreshIds db chunkIds) : Insertable db chunkIds id 0 (chunks.zip vectors) where
  dims := fun item hitem => hdims _ (List.of_mem_zip hitem).2
  not_blank := fun item hitem => (hstorable.2 _ (List.of_mem_zip hitem).1).1
  tokens := fun item hitem => (hstorable.2 _ (List.of_mem_zip hitem).1).2
  indices := by
    rw [show (fun item : Chunk × List ℚ => item.1.index) = (·.index) ∘ Prod.fst from rfl,
      ← List.map_map, List.map_fst_zip (by omega), chunkDocument_index hchunks]
    exact List.nodup_range
  free := by simp [hempty]
  fresh := fun m _ => hfresh.2 m
  injective := hfresh.1

/-- **Liveness**: a run on a pending article without chunks, whose chunks the table takes and whose
    embedding calls succeed, does not raise, and the article ends up ready and indexed. -/
theorem wp_embedArticle_ready (hrow : db.knowledgeBases.lookup id = some loaded)
    (hpending : loaded.status = .pending) (hempty : chunkRows db id = [])
    (hchunks : chunkDocument encoding loaded.content = .ok chunks) (hstorable : Storable chunks)
    (hembeds : Embeds embed chunks) (hfresh : FreshIds db chunkIds) :
    Tx.wp (embedArticle encoding embed jobTry chunkIds id organizationId loaded)
      (fun _ db' => ∃ row, db'.knowledgeBases.lookup id = some row ∧ row.status = .ready ∧
        row.content = loaded.content ∧ Indexed encoding db' id row.content)
      (fun _ => False) db := by
  obtain ⟨vectors, hembed, hlength, hdims⟩ := hembeds
  unfold embedArticle
  rw [if_neg (by simp [hpending]), hchunks]
  dsimp only
  rw [if_neg hstorable.1, hembed]
  apply wp_storeChunks hrow hempty hchunks
  · intro db' row _ hrow' hready hcontent hindexed
    exact ⟨row, hrow', hready, hcontent, hindexed⟩
  · intro hno
    exact absurd ⟨hlength, insertable_zip hchunks hstorable hdims hlength hempty hfresh⟩ hno

end

/-! ## The system

An edit is two events, and so is a run of the worker. Only the run takes a lock: `update_knowledge_base` reads
its article without one and waits at its UPDATE. -/

/-- An edit that has read its article. -/
structure EditCall where
  id : Uuid
  patch : ArticlePatch
  loaded : KnowledgeBase

/-- An embedding run that holds the lock of its article. -/
structure EmbedRun where
  id : Uuid
  organizationId : Uuid
  loaded : KnowledgeBase

structure World where
  db : Db
  edits : Table Nat EditCall
  runs : Table Nat EmbedRun

/-- Some embedding run holds the article's row lock. -/
def World.Locked (w : World) (id : Uuid) : Prop := w.runs.select (fun _ r => r.id = id) ≠ []

instance (w : World) (id : Uuid) : Decidable (w.Locked id) :=
  inferInstanceAs (Decidable (_ ≠ []))

inductive Event where
  | createArticle (scope : OrgScope) (id : Uuid) (title content : String)
      (sourceType : Option String)
  | beginEdit (request : Nat) (scope : OrgScope) (id : Uuid) (patch : ArticlePatch)
  | commitEdit (request : Nat)
  | abortEdit (request : Nat)
  | deleteArticle (scope : OrgScope) (id : Uuid)
  | beginEmbed (request : Nat) (id organizationId : Uuid)
  | finishEmbed (request : Nat) (embed : List String → EmbedOutcome) (jobTry : Nat)
      (chunkIds : Nat → Uuid)
  | abortEmbed (request : Nat)

/-- One step. A step that needs a lock which is taken waits: it leaves the world as it is. -/
def Event.step (encoding : Encoding) (w : World) : Event → World
  | createArticle scope id title content sourceType =>
    { w with db := (Tx.settle (createKnowledgeBase scope id title content sourceType) w.db).2 }
  | beginEdit request scope id patch =>
    match (Tx.settle (scope.getKnowledgeBase id) w.db).1 with
    | .ok loaded => { w with edits := AList.insert request ⟨id, patch, loaded⟩ w.edits }
    | .error _ => w
  | commitEdit request =>
    match w.edits.lookup request with
    | none => w
    | some u =>
      if w.Locked u.id then w
      else
        { w with
          db := (Tx.settle (flushArticle u.id u.loaded.toKnowledgeBaseColumns
            (u.patch.assign u.loaded.toKnowledgeBaseColumns)) w.db).2
          edits := w.edits.erase request }
  | abortEdit request => { w with edits := w.edits.erase request }
  | deleteArticle scope id =>
    if w.Locked id then w
    else { w with db := (Tx.settle (deleteKnowledgeBase scope id) w.db).2 }
  | beginEmbed request id organizationId =>
    if w.Locked id ∨ request ∈ w.runs then w
    else
      match (Tx.settle ((OrgScope.forBackgroundWorker organizationId).getKnowledgeBase id)
        w.db).1 with
      | .ok loaded => { w with runs := AList.insert request ⟨id, organizationId, loaded⟩ w.runs }
      | .error _ => w
  | finishEmbed request embed jobTry chunkIds =>
    match w.runs.lookup request with
    | none => w
    | some r =>
      { w with
        db := (Tx.settle (embedArticle encoding embed jobTry chunkIds r.id r.organizationId r.loaded)
          w.db).2
        runs := w.runs.erase request }
  | abortEmbed request => { w with runs := w.runs.erase request }

/-- An edit that disturbs the index: its article has chunks, and it writes the status or the
    content. -/
def Disturbs (w : World) : Event → Prop
  | .commitEdit request => ∃ u, w.edits.lookup request = some u ∧ ¬ w.Locked u.id ∧
      chunkRows w.db u.id ≠ [] ∧
      (u.loaded.status ≠ .pending ∨ u.patch.content.getD u.loaded.content ≠ u.loaded.content)
  | _ => False

/-! ## The invariant

`ArticleOk` for all articles, and for the open runs that the article they have read is the stored one. Each
operation is on one article, and none is on an article that is locked except by the run that has the lock. -/

structure World.Inv (encoding : Encoding) (w : World) : Prop where
  articles : ∀ id, ArticleOk encoding w.db id
  /-- Nobody has changed the article of a run since it was read. -/
  locked : ∀ request r, w.runs.lookup request = some r →
    w.db.knowledgeBases.lookup r.id = some r.loaded
  exclusive : ∀ request request' r r', w.runs.lookup request = some r →
    w.runs.lookup request' = some r' → r.id = r'.id → request = request'

section
variable {encoding : Encoding} {w : World} {id : Uuid}

theorem not_locked_iff : ¬ w.Locked id ↔ ∀ request r, w.runs.lookup request = some r → r.id ≠ id := by
  unfold World.Locked
  rw [Classical.not_not, Table.select_eq_nil]
  simp

/-- An operation on an article that is not locked keeps the invariant, if it keeps that of the
    article. -/
theorem inv_onlyArticle (hinv : w.Inv encoding) (hfree : ¬ w.Locked id) {db' : Db}
    {edits : Table Nat EditCall}
    (h : OnlyArticle id w.db db' ∧ ArticleOk encoding db' id) :
    World.Inv encoding ⟨db', edits, w.runs⟩ where
  articles := by
    intro id'
    by_cases hid : id' = id
    · rw [hid]
      exact h.2
    · exact h.1.articleOk hid (hinv.articles id')
  locked := by
    intro request r hr
    exact (h.1 r.id (not_locked_iff.mp hfree request r hr)).1.trans (hinv.locked request r hr)
  exclusive := hinv.exclusive

/-- Giving a run up releases its lock. -/
theorem inv_eraseRun (hinv : w.Inv encoding) (request : Nat) :
    World.Inv encoding ⟨w.db, w.edits, w.runs.erase request⟩ := by
  have hkept : ∀ {request' r}, (w.runs.erase request).lookup request' = some r →
      w.runs.lookup request' = some r := by
    intro request' r h
    by_cases heq : request' = request
    · subst heq
      simp at h
    · rwa [AList.lookup_erase_ne heq] at h
  exact ⟨hinv.articles, fun request' r h => hinv.locked request' r (hkept h),
    fun _ _ r r' h h' => hinv.exclusive _ _ r r' (hkept h) (hkept h')⟩

/-- A transaction that keeps the invariant when it returns keeps it when it is settled. -/
theorem inv_settle {x : Service Unit} {edits : Table Nat EditCall} (hinv : w.Inv encoding)
    (h : Tx.wp x (fun _ db' => World.Inv encoding ⟨db', edits, w.runs⟩) (fun _ => True) w.db) :
    World.Inv encoding ⟨(Tx.settle x w.db).2, edits, w.runs⟩ :=
  Tx.settle_post (P := fun db' => World.Inv encoding ⟨db', edits, w.runs⟩) h
    ⟨hinv.articles, hinv.locked, hinv.exclusive⟩

theorem inv_createArticle (hinv : w.Inv encoding) (scope : OrgScope) (title content : String)
    (sourceType : Option String) :
    World.Inv encoding
      ⟨(Tx.settle (createKnowledgeBase scope id title content sourceType) w.db).2, w.edits,
        w.runs⟩ := by
  apply inv_settle hinv
  simp only [createKnowledgeBase, Tx.wp_bind, wp_raiseConstraint, Tx.wp_store, Tx.wp_orRaise,
    Tx.wp_ite, Tx.wp_write, Tx.wp_raise]
  refine ⟨fun row hcols => ⟨fun knowledgeBases hins => ⟨fun _ => ?_, fun _ => trivial⟩,
    fun _ => trivial⟩, fun _ _ => trivial⟩
  obtain ⟨hnew, rfl⟩ := Table.insertNew_eq_some.mp hins
  have hempty : chunkRows w.db id = [] := (articleOk_none hnew).mp (hinv.articles id)
  have hfree : ¬ w.Locked id := by
    rw [not_locked_iff]
    rintro request r hr rfl
    rw [hinv.locked request r hr] at hnew
    cases hnew
  apply inv_onlyArticle hinv hfree
  constructor
  · exact fun id' hne => ⟨AList.lookup_insert_ne hne, rfl⟩
  · rw [articleOk_some (AList.lookup_insert _)]
    exact .inr ⟨.inl (by rw [checkArticle_ok hcols]), hempty⟩

/-- An edit that does not disturb the index keeps the invariant: either its article has no chunks,
    and then whatever it writes is fine, or it writes neither status nor content. -/
theorem inv_commitEdit (hinv : w.Inv encoding) {request : Nat} {u : EditCall}
    {edits : Table Nat EditCall} (hu : w.edits.lookup request = some u) (hfree : ¬ w.Locked u.id)
    (hcalm : ¬ Disturbs w (.commitEdit request)) :
    World.Inv encoding
      ⟨(Tx.settle (flushArticle u.id u.loaded.toKnowledgeBaseColumns
        (u.patch.assign u.loaded.toKnowledgeBaseColumns)) w.db).2, edits, w.runs⟩ := by
  apply inv_settle hinv
  apply wp_flushArticle
  · intro current row hcurrent hcols
    refine inv_onlyArticle hinv hfree ⟨onlyArticle_modify row, ?_⟩
    have hok := (articleOk_some hcurrent).mp (hinv.articles u.id)
    rw [articleOk_some (show _ = some row by simp [hcurrent])]
    by_cases hempty : chunkRows w.db u.id = []
    · -- the status becomes `pending`, or stays what it is
      have hstatus : row.status = .pending ∨ row.status = current.status := by
        rw [hcols]
        exact (flushAttr_cases u.loaded.status .pending current.status).symm
      rcases hok with ⟨-, hchunks, -⟩ | ⟨hstale, -⟩
      · exact absurd hempty hchunks
      · refine .inr ⟨?_, hempty⟩
        rcases hstatus with hpending | hsame
        · exact .inl hpending
        · rwa [hsame]
    -- with chunks, the edit is one that does not disturb
    · have hkept : u.loaded.status = .pending ∧
          u.patch.content.getD u.loaded.content = u.loaded.content := by
        by_contra hno
        rw [not_and_or] at hno
        exact hcalm ⟨u, hu, hfree, hempty, hno⟩
      have hsame : row.status = current.status ∧ row.content = current.content := by
        rw [hcols]
        simp [writeBackArticle, ArticlePatch.assign, hkept.1, hkept.2]
      rw [hsame.1, hsame.2]
      exact hok
  · exact fun _ => trivial
  · exact fun _ _ _ _ => trivial

theorem wp_deleteForKnowledgeBase {db : Db} {E : Raised → Prop} (scope : OrgScope) :
    Tx.wp (deleteForKnowledgeBase scope id) (fun _ db' => OnlyArticle id db db') E db := by
  unfold deleteForKnowledgeBase
  rw [Tx.wp_bind, Tx.wp_store, Tx.wp_write]
  intro id' hne
  refine ⟨rfl, chunkRows_keepRows rfl ?_⟩
  rintro k c rfl
  simp [hne]

/-- A deletion takes the article away, and all of its chunks. -/
theorem inv_deleteArticle (hinv : w.Inv encoding) (hfree : ¬ w.Locked id) (scope : OrgScope) :
    World.Inv encoding ⟨(Tx.settle (deleteKnowledgeBase scope id) w.db).2, w.edits, w.runs⟩ := by
  apply inv_settle hinv
  unfold deleteKnowledgeBase
  rw [Tx.wp_bind]
  apply (looksUp_getOr404 _ _ _ _).wp _ fun _ _ => trivial
  intro _ _
  rw [Tx.wp_bind]
  apply Tx.wp_mono (wp_deleteForKnowledgeBase scope) _ fun _ h => h
  intro _ db₁ honly
  rw [Tx.wp_bind, Tx.wp_store, Tx.wp_write]
  apply inv_onlyArticle hinv hfree
  constructor
  · apply honly.trans
    intro id' hne
    refine ⟨AList.lookup_erase_ne hne, chunkRows_keepRows rfl ?_⟩
    rintro k c rfl
    simpa using hne
  · rw [articleOk_none (by simp)]
    apply chunkRows_keepRows_nil rfl
    rintro k c rfl
    simp

theorem inv_beginEmbed (hinv : w.Inv encoding) {request : Nat} {r : EmbedRun}
    (hfree : ¬ w.Locked r.id) (hrow : w.db.knowledgeBases.lookup r.id = some r.loaded) :
    World.Inv encoding ⟨w.db, w.edits, AList.insert request r w.runs⟩ where
  articles := hinv.articles
  locked := by
    intro request' r' h
    rw [Table.lookup_insert] at h
    split at h
    · cases h
      exact hrow
    · exact hinv.locked request' r' h
  exclusive := by
    rw [not_locked_iff] at hfree
    intro request₁ request₂ r₁ r₂ h₁ h₂ hid
    rw [Table.lookup_insert] at h₁ h₂
    split at h₁
    -- the new run has an article of its own
    next heq₁ =>
      cases h₁
      split at h₂
      next heq₂ => rw [heq₁, heq₂]
      next => exact absurd hid.symm (hfree request₂ r₂ h₂)
    next =>
      split at h₂
      next =>
        cases h₂
        exact absurd hid (hfree request₁ r₁ h₁)
      next => exact hinv.exclusive request₁ request₂ r₁ r₂ h₁ h₂ hid

/-- The last step of a run: under its lock, it works on the article that it has read. -/
theorem inv_finishEmbed (hinv : w.Inv encoding) {request : Nat} {r : EmbedRun}
    (hr : w.runs.lookup request = some r) (embed : List String → EmbedOutcome) (jobTry : Nat)
    (chunkIds : Nat → Uuid) :
    World.Inv encoding
      ⟨(Tx.settle (embedArticle encoding embed jobTry chunkIds r.id r.organizationId r.loaded)
        w.db).2, w.edits, w.runs.erase request⟩ := by
  have hreleased := inv_eraseRun hinv request
  have hfree : ¬ World.Locked ⟨w.db, w.edits, w.runs.erase request⟩ r.id := by
    rw [not_locked_iff]
    intro request' r' h hid
    by_cases heq : request' = request
    · subst heq
      simp at h
    · rw [AList.lookup_erase_ne heq] at h
      exact heq (hinv.exclusive request' request r' r h hr hid)
  apply inv_settle hreleased
  apply Tx.wp_mono (wp_embedArticle (hinv.locked request r hr) (hinv.articles r.id))
  · intro _ db' h
    exact inv_onlyArticle hreleased hfree h
  · exact fun _ h => h

/-- **Step lemma**: a step that does not disturb the index keeps the invariant. -/
theorem inv_step (hinv : w.Inv encoding) (e : Event) (hcalm : ¬ Disturbs w e) :
    (e.step encoding w).Inv encoding := by
  cases e with
  | createArticle scope id title content sourceType =>
    exact inv_createArticle hinv scope title content sourceType
  | beginEdit request scope id patch =>
    simp only [Event.step]
    split
    · exact ⟨hinv.articles, hinv.locked, hinv.exclusive⟩
    · exact hinv
  | commitEdit request =>
    simp only [Event.step]
    split
    · exact hinv
    next u hu =>
      split
      · exact hinv
      next hfree => exact inv_commitEdit hinv hu hfree hcalm
  | abortEdit request => exact ⟨hinv.articles, hinv.locked, hinv.exclusive⟩
  | deleteArticle scope id =>
    simp only [Event.step]
    split
    · exact hinv
    next hfree => exact inv_deleteArticle hinv hfree scope
  | beginEmbed request id organizationId =>
    simp only [Event.step]
    split
    · exact hinv
    next hfree =>
      split
      next loaded hload =>
        obtain ⟨db', hexec⟩ := Tx.settle_ok hload
        exact inv_beginEmbed hinv (fun h => hfree (.inl h)) (getOr404_ok.mp hexec).2.1
      · exact hinv
  | finishEmbed request embed jobTry chunkIds =>
    simp only [Event.step]
    split
    · exact hinv
    next r hr => exact inv_finishEmbed hinv hr embed jobTry chunkIds
  | abortEmbed request => exact inv_eraseRun hinv request

end

/-! ## Runs

What the invariant comes to: the index agrees with the ready articles, and another run brings any article that has not
failed up to date. -/

/-- A ready article has exactly the chunks of its content. -/
def Consistent (encoding : Encoding) (w : World) : Prop :=
  ∀ id kb, w.db.knowledgeBases.lookup id = some kb → kb.status = .ready →
    Indexed encoding w.db id kb.content

/-- An embedding run of an article that has not failed, with chunks that the table takes and
    embedding calls that succeed, commits and leaves the article ready and indexed. -/
def Recovers (encoding : Encoding) (w : World) : Prop :=
  ∀ id kb chunks request embed jobTry chunkIds,
    w.db.knowledgeBases.lookup id = some kb → kb.status ≠ .failed → ¬ w.Locked id →
    request ∉ w.runs → chunkDocument encoding kb.content = .ok chunks → Storable chunks →
    Embeds embed chunks → FreshIds w.db chunkIds →
    ∃ row, (run (Event.step encoding) w [.beginEmbed request id kb.organizationId,
        .finishEmbed request embed jobTry chunkIds]).db.knowledgeBases.lookup id = some row ∧
      row.status = .ready ∧ row.content = kb.content ∧
      Indexed encoding (run (Event.step encoding) w [.beginEmbed request id kb.organizationId,
        .finishEmbed request embed jobTry chunkIds]).db id row.content

section
variable {encoding : Encoding} {w : World}

theorem consistent_of_inv (hinv : w.Inv encoding) : Consistent encoding w := by
  intro id kb hrow hready
  have hok := (articleOk_some hrow).mp (hinv.articles id)
  rw [hready] at hok
  exact (hok.resolve_right (by simp)).2.2

/-- What an embedding run that is alone with its article comes to. -/
theorem run_embed {id request jobTry : Nat} {kb : KnowledgeBase}
    {embed : List String → EmbedOutcome} {chunkIds : Nat → Uuid}
    (hrow : w.db.knowledgeBases.lookup id = some kb) (hfree : ¬ w.Locked id)
    (hnew : request ∉ w.runs) :
    (run (Event.step encoding) w [.beginEmbed request id kb.organizationId,
      .finishEmbed request embed jobTry chunkIds]).db =
      (Tx.settle (embedArticle encoding embed jobTry chunkIds id kb.organizationId kb) w.db).2 := by
  have hread : (Tx.settle ((OrgScope.forBackgroundWorker kb.organizationId).getKnowledgeBase id)
      w.db).1 = .ok kb := by
    have hexec : Tx.exec ((OrgScope.forBackgroundWorker kb.organizationId).getKnowledgeBase id)
        w.db = (.ok kb, w.db) :=
      getOr404_ok.mpr ⟨rfl, hrow, by simp [OrgScope.selectsKnowledgeBase,
        OrgScope.forBackgroundWorker]⟩
    rw [Tx.settle_of_ok hexec]
  have hbegin : Event.step encoding w (.beginEmbed request id kb.organizationId) =
      { w with runs := AList.insert request ⟨id, kb.organizationId, kb⟩ w.runs } := by
    simp only [Event.step]
    rw [if_neg (by simp [hfree, hnew]), hread]
  rw [run_cons, hbegin, run_cons, run_nil]
  simp [Event.step]

theorem recovers_of_inv (hinv : w.Inv encoding) : Recovers encoding w := by
  intro id kb chunks request embed jobTry chunkIds hrow hlive hfree hnew hchunks hstorable hembeds
    hfresh
  rw [run_embed hrow hfree hnew]
  rcases (articleOk_some hrow).mp (hinv.articles id) with ⟨hready, -, hindexed⟩ | ⟨hstale, hempty⟩
  · -- a redelivery: nothing is done
    have hdone : Tx.exec (embedArticle encoding embed jobTry chunkIds id kb.organizationId kb) w.db =
        (.ok (), w.db) := by
      simp [embedArticle, hready]
    rw [Tx.settle_of_ok hdone]
    exact ⟨kb, hrow, hready, rfl, hindexed⟩
  · have hpending := hstale.resolve_right hlive
    have hwp : Tx.wp (embedArticle encoding embed jobTry chunkIds id kb.organizationId kb) _ _ w.db :=
      wp_embedArticle_ready hrow hpending hempty hchunks hstorable hembeds hfresh
    rcases Tx.wp_settle hwp with ⟨_, -, hdone⟩ | ⟨_, -, hfalse⟩
    · exact hdone
    · exact hfalse.elim

/-- **The index is consistent**, and can always be brought up to date, in every state of a run
    whose edits do not disturb it. -/
theorem index_consistent (encoding : Encoding) (w : World)
    (hstart : w.db.knowledgeBases = ∅ ∧ w.db.knowledgeChunks = ∅ ∧ w.edits = ∅ ∧ w.runs = ∅)
    (events : List Event)
    (hcalm : AllSteps (Event.step encoding) (fun w e => ¬ Disturbs w e) w events) :
    Consistent encoding (run (Event.step encoding) w events) ∧
      Recovers encoding (run (Event.step encoding) w events) := by
  obtain ⟨hbases, hchunks, -, hruns⟩ := hstart
  have hinv : w.Inv encoding := by
    refine ⟨fun id => ?_, fun request r hr => ?_, fun request _ r _ hr _ _ => ?_⟩
    · rw [articleOk_none (by simp [hbases])]
      simp [chunkRows, hchunks, Table.select_eq_nil]
    · simp [hruns] at hr
    · simp [hruns] at hr
  have hrun : (run (Event.step encoding) w events).Inv encoding :=
    inv_of_preserved (I := World.Inv encoding) (fun _ e hI hG => inv_step hI e hG) hinv hcalm
  exact ⟨consistent_of_inv hrun, recovers_of_inv hrun⟩

end

/-! An article is created, embedded, and edited. -/

/-- One token a character. -/
def letters : Encoding where
  encode := fun s => .ok (s.toList.map Char.toNat)
  decode := fun tokens => String.ofList (tokens.map Char.ofNat)

/-- A provider that answers. -/
def zeros : List String → EmbedOutcome :=
  fun texts => .embeddings (texts.map fun _ => List.replicate ragEmbeddingDim 0)

def emptyWorld : World where
  db := { Db.empty with organizations := AList.insert 1 ⟨"widget-1", none, none, "UTC", []⟩ ∅ }
  edits := ∅
  runs := ∅

def embedOnce : List Event :=
  [.createArticle ⟨1, 10, .admin⟩ 5 "Heating" "Call the office." none, .beginEmbed 0 5 1,
    .finishEmbed 0 zeros 1 fun n => 100 + n]

def editContent : List Event :=
  [.beginEdit 1 ⟨1, 10, .admin⟩ 5 ⟨none, some "Call the caretaker.", none⟩, .commitEdit 1]

/-- The article is edited while it waits for its job. -/
def editThenEmbed : List Event :=
  .createArticle ⟨1, 10, .admin⟩ 5 "Heating" "Call the office." none ::
    (editContent ++ [.beginEmbed 0 5 1, .finishEmbed 0 zeros 1 fun n => 100 + n])

/-- An edit of an article without chunks is harmless, and the new content is embedded. -/
theorem index_consistent_embedded :
    Consistent letters (run (Event.step letters) emptyWorld editThenEmbed) ∧
      Recovers letters (run (Event.step letters) emptyWorld editThenEmbed) := by
  refine index_consistent letters emptyWorld ⟨rfl, rfl, rfl, rfl⟩ editThenEmbed
    ⟨fun h => h, fun h => h, ?_, fun h => h, fun h => h, trivial⟩
  rintro ⟨u, -, -, hchunks, -⟩
  have hkeys : (run (Event.step letters) emptyWorld (editThenEmbed.take 2)).db.knowledgeChunks.keys = [] := by
    decide +kernel
  refine hchunks ?_
  show chunkRows (run (Event.step letters) emptyWorld (editThenEmbed.take 2)).db u.id = []
  rw [chunkRows, List.map_eq_nil_iff, Table.select_eq_nil]
  intro chunkId c hc
  have hmem := AList.mem_keys.mp (Table.mem_iff_lookup.mpr ⟨c, hc⟩)
  rw [hkeys] at hmem
  cases hmem

/-- The article after the edit. -/
def editedArticle : KnowledgeBase where
  organizationId := 1
  title := "Heating"
  content := "Call the caretaker."
  sourceType := none
  status := .pending
  embeddingError := none
  content_not_blank := by decide
  failed_requires_embedding_error := by decide
  title_not_blank := by decide

/-- The edited article still has its first chunks, and cannot be embedded again. -/
theorem edited_article_stuck :
    ¬ Recovers letters (run (Event.step letters) emptyWorld (embedOnce ++ editContent)) := by
  intro h
  have hkeys : (run (Event.step letters) emptyWorld
      (embedOnce ++ editContent)).db.knowledgeChunks.keys = [100] := by
    decide +kernel
  have hfresh : FreshIds (run (Event.step letters) emptyWorld (embedOnce ++ editContent)).db
      fun n => 200 + n := by
    refine ⟨fun m n hmn => Nat.add_left_cancel hmn, fun n => ?_⟩
    rw [AList.lookup_eq_none, AList.mem_keys, hkeys, List.mem_singleton]
    show ¬ 200 + n = 100
    omega
  obtain ⟨row, hrow, hready, -⟩ := h 5 editedArticle [⟨0, "Call the caretaker.", 19⟩] 2 zeros 1
    (fun n => 200 + n) (by decide +kernel) (by decide) (by decide +kernel) (by decide +kernel)
    (by decide +kernel) ⟨by simp, by decide⟩
    ⟨[List.replicate ragEmbeddingDim 0], rfl, rfl, by simp⟩ hfresh
  have hpending : ((run (Event.step letters)
      (run (Event.step letters) emptyWorld (embedOnce ++ editContent))
      [.beginEmbed 2 5 1, .finishEmbed 2 zeros 1 fun n => 200 + n]).db.knowledgeBases.lookup 5).map
      (·.status) = some .pending := by
    decide +kernel
  rw [show editedArticle.organizationId = 1 from rfl] at hrow
  rw [hrow, Option.map_some, hready] at hpending
  cases hpending

end Helpdesk.Knowledge
