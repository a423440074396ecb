import Helpdesk.Chat.Tools

/-! # Chat sessions and who may use them

`create_chat_session`, and the two credentials that a chat route accepts: a bearer token of an app
user, and the chat token that was minted with the session. Only tokens that decode are spoken of
here, by their claims; one that does not is as good as none (on creation) or a 401. -/

namespace Helpdesk.Chat

/-- INSERT into `chat_sessions`. -/
def insertChatSession (id : Uuid) (row : ChatSession) : Service Unit := do
  let db ← Tx.store
  let chatSessions ← Tx.orRaise (db.chatSessions.insertNew id row) (.integrityError .primaryKey)
  if foreignKeyOk db.organizations none (some row.organizationId) ∧ foreignKeyOk db.users none row.userId then
    Tx.write { db with chatSessions := chatSessions }
  else Tx.raise (.integrityError .foreignKey)

theorem insertChatSession_ok {id : Uuid} {row : ChatSession} {db db' : Db}
    (h : Tx.exec (insertChatSession id row) db = (.ok (), db')) :
    db.chatSessions.lookup id = none ∧
      db' = { db with chatSessions := AList.insert id row db.chatSessions } := by
  rw [insertChatSession, Tx.exec_bind, Tx.exec_store] at h
  dsimp only at h
  cases hins : db.chatSessions.insertNew id row with
  | none => simp [hins] at h
  | some chatSessions =>
    obtain ⟨hfresh, rfl⟩ := Table.insertNew_eq_some.mp hins
    simp only [hins, Tx.exec_bind, Tx.exec_orRaise_some, Tx.exec_ite] at h
    split at h
    · cases h
      exact ⟨hfresh, rfl⟩
    · cases h

/-! ## Credentials

Both kinds of credentials come to an `OrgScope`. A chat token is good for its own session only; a bearer token is
looked up as a user. -/

/-- The claims of a chat token. -/
structure ChatToken where
  sid : Uuid
  org : Uuid
  uid : Option Uuid
  deriving DecidableEq

/-- `_UNAUTHORIZED`. -/
def unauthorized : Raised := .httpException 401

/-- The scope that `_resolve_bearer_scope` finds for a user id. -/
def bearerScope (userId : Uuid) (db : Db) : Option OrgScope :=
  match db.users.lookup userId with
  | none => none
  | some user =>
    if user.status ≠ .active then none
    else user.organizationId.map fun organizationId => ⟨organizationId, userId, user.role⟩

/-- `_resolve_bearer_scope`, of a token whose `sub` is `userId`. -/
def resolveBearerScope (userId : Uuid) : Service OrgScope := do
  let db ← Tx.store
  Tx.orRaise (bearerScope userId db) unauthorized

/-- `_resolve_chat_token_scope`. -/
def resolveChatTokenScope (token : ChatToken) (sessionId : Uuid) : Service OrgScope :=
  if token.sid ≠ sessionId then Tx.raise unauthorized
  else
    match token.uid with
    | none => pure (.forAnonymousChat token.org)
    | some userId => pure ⟨token.org, userId, .tenant⟩

/-- What a request carries; a bearer token goes before a chat token. -/
inductive Credential where
  | bearer (userId : Uuid)
  | chatToken (token : ChatToken)
  deriving DecidableEq

def resolveCredential (credential : Credential) (sessionId : Uuid) : Service OrgScope :=
  match credential with
  | .bearer userId => resolveBearerScope userId
  | .chatToken token => resolveChatTokenScope token sessionId

/-- `get_chat_session_scope`: the scope, and the session row found under it. -/
def getChatSessionScope (credential : Credential) (sessionId : Uuid) :
    Service (OrgScope × ChatSession) := do
  let scope ← resolveCredential credential sessionId
  let chatSession ← getChatSession ⟨scope, sessionId⟩
  pure (scope, chatSession)

/-! ## Creating a session

The widget names the organization by its public key. A visitor is identified by a bearer token, if it resolves;
nothing here compares the token's organization with the widget's. -/

/-- The organization that `widget_key` identifies. -/
def findByWidgetKey (widgetKey : String) : Service Uuid := do
  let db ← Tx.store
  match db.organizations.select fun _ org => org.chatWidgetKey = widgetKey with
  | [] => Tx.raise (.httpException 404)
  | [(id, _)] => pure id
  | _ => Tx.raise .multipleResultsFound

/-- `_resolve_optional_user_id`: a bearer token that resolves to no scope is no error here. -/
def resolveOptionalUserId (bearer : Option Uuid) : Service (Option Uuid) := do
  let db ← Tx.store
  pure ((bearer.bind fun userId => bearerScope userId db).map (·.userId))

/-- A session that the widget has started. -/
def widgetSession (organizationId : Uuid) (userId : Option Uuid) (startedAt : Int) : ChatSession where
  organizationId := organizationId
  userId := userId
  ticketId := none
  status := .active
  lowConfidenceStreak := 0
  lastActivityAt := startedAt
  channel := .web
  escalatedAt := none
  channelMetadata := none
  ticket_requires_user := .inl rfl

/-- `create_chat_session`, which mints a chat token. -/
def createChatSession (widgetKey : String) (bearer : Option Uuid) (id : Uuid) (startedAt : Int) :
    Service ChatToken := do
  let organizationId ← findByWidgetKey widgetKey
  let userId ← resolveOptionalUserId bearer
  insertChatSession id (widgetSession organizationId userId startedAt)
  pure ⟨id, organizationId, userId⟩

section
variable {db db' : Db}

theorem findByWidgetKey_ok {widgetKey : String} {id : Uuid}
    (h : Tx.exec (findByWidgetKey widgetKey) db = (.ok id, db')) :
    db' = db ∧ ∃ org, db.organizations.lookup id = some org ∧ org.chatWidgetKey = widgetKey := by
  rw [findByWidgetKey, Tx.exec_bind, Tx.exec_store] at h
  dsimp only at h
  split at h
  · cases h
  next id' org hone =>
    cases h
    have hmem : (id, org) ∈ db.organizations.select fun _ org => org.chatWidgetKey = widgetKey := by
      rw [hone]
      exact List.mem_singleton_self _
    obtain ⟨hstored, hkey⟩ := Table.mem_select.mp hmem
    exact ⟨rfl, org, hstored, by simpa using hkey⟩
  · cases h

/-- The session that a widget opens, and the token for it. -/
theorem createChatSession_ok {widgetKey : String} {bearer : Option Uuid} {id : Uuid} {startedAt : Int}
    {token : ChatToken}
    (h : Tx.exec (createChatSession widgetKey bearer id startedAt) db = (.ok token, db')) :
    ∃ org, db.organizations.lookup token.org = some org ∧ org.chatWidgetKey = widgetKey ∧
      token.sid = id ∧ token.uid = (bearer.bind fun userId => bearerScope userId db).map (·.userId) ∧
      db.chatSessions.lookup id = none ∧
      db' = { db with
        chatSessions := AList.insert id (widgetSession token.org token.uid startedAt) db.chatSessions } := by
  obtain ⟨organizationId, db₁, hwidget, h₁⟩ := Tx.bind_ok.mp h
  obtain ⟨rfl, org, horg, hkey⟩ := findByWidgetKey_ok hwidget
  obtain ⟨userId, db₂, hbearer, h₂⟩ := Tx.bind_ok.mp h₁
  cases hbearer
  obtain ⟨_, db₃, hinsert, h₃⟩ := Tx.bind_ok.mp h₂
  cases h₃
  obtain ⟨hfresh, rfl⟩ := insertChatSession_ok hinsert
  exact ⟨org, horg, hkey, rfl, rfl, hfresh, rfl⟩

end

end Helpdesk.Chat
