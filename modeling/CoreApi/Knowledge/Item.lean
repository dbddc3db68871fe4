import Mathlib.Data.Int.Notation
import Mathlib.Data.Nat.Notation

/-!
# Knowledge items

The item with its transitions, the revision that records an edit, and the errors
of the commands on them. Dates are milliseconds.
-/

namespace CoreApi.Knowledge

inductive KnowledgeType where
  | document
  | question
  | answer
  | runbook
  | adr
deriving DecidableEq

inductive KnowledgeStatus where
  | draft
  | published
  | archived
  | stale
deriving DecidableEq

/-- An item of the knowledge base in memory. -/
structure KnowledgeItem where
  id : String
  orgId : String
  spaceId : String
  type : KnowledgeType
  title : String
  body : String
  parentId : Option String
  acceptedAnswerId : Option String
  status : KnowledgeStatus
  isVerified : Bool
  version : ℕ
  createdByUserId : String
  updatedByUserId : Option String
  createdAt : ℤ
  updatedAt : ℤ
  deletedAt : Option ℤ
deriving DecidableEq

namespace KnowledgeItem

/-- A new item is a draft at version 1. -/
def create (id : String) (now : ℤ) (orgId spaceId : String) (type : KnowledgeType)
    (title body : String) (parentId : Option String) (createdByUserId : String) :
    KnowledgeItem where
  id := id
  orgId := orgId
  spaceId := spaceId
  type := type
  title := title
  body := body
  parentId := parentId
  acceptedAnswerId := none
  status := .draft
  isVerified := false
  version := 1
  createdByUserId := createdByUserId
  updatedByUserId := none
  createdAt := now
  updatedAt := now
  deletedAt := none

variable (item : KnowledgeItem)

/-- An edit takes the item to its next version. -/
def applyEdit (now : ℤ) (title body editedByUserId : String) : KnowledgeItem :=
  { item with
    title := title
    body := body
    updatedByUserId := some editedByUserId
    updatedAt := now
    version := item.version + 1 }

/-- `publish` changes the status only. -/
def publish : KnowledgeItem :=
  { item with status := .published }

/-- Whether the call changed the item, and the item after it. -/
def verify (now : ℤ) (verifierUserId : String) : Bool × KnowledgeItem :=
  if item.isVerified then (false, item)
  else (true, { item with
    isVerified := true
    updatedByUserId := some verifierUserId
    updatedAt := now })

/-- A deleted item keeps its row. -/
def softDelete (now : ℤ) : KnowledgeItem :=
  { item with deletedAt := some now }

def acceptAnswer (now : ℤ) (answerId : String) : KnowledgeItem :=
  { item with
    acceptedAnswerId := some answerId
    updatedAt := now }

def clearAcceptedAnswer (now : ℤ) : KnowledgeItem :=
  { item with
    acceptedAnswerId := none
    updatedAt := now }

end KnowledgeItem

/-- The body an edit has left, under the version it has led to. -/
structure Revision where
  id : String
  itemId : String
  version : ℕ
  bodySnapshot : String
  editedByUserId : String
  createdAt : ℤ
deriving DecidableEq

/-- An error with the status and the code of its HTTP response. -/
structure ApplicationError where
  statusCode : ℕ
  code : String
  message : String
deriving DecidableEq

def knowledgeItemNotFoundError : ApplicationError where
  statusCode := 404
  code := "KNOWLEDGE_ITEM_NOT_FOUND"
  message := "Knowledge item not found"

def knowledgeVersionConflictError : ApplicationError where
  statusCode := 409
  code := "KNOWLEDGE_VERSION_CONFLICT"
  message := "Knowledge item was modified by another request; retry with the latest version"

def invalidKnowledgeStateError (message : String) : ApplicationError where
  statusCode := 409
  code := "INVALID_KNOWLEDGE_STATE"
  message := message

def notAQuestionError : ApplicationError where
  statusCode := 400
  code := "NOT_A_QUESTION"
  message := "Target item is not a QUESTION"

def notAnAnswerError : ApplicationError where
  statusCode := 400
  code := "NOT_AN_ANSWER"
  message := "Target item is not an ANSWER"

def answerNotForQuestionError : ApplicationError where
  statusCode := 400
  code := "ANSWER_NOT_FOR_QUESTION"
  message := "The answer does not belong to this question"

def acceptAnswerForbiddenError : ApplicationError where
  statusCode := 403
  code := "ACCEPT_ANSWER_FORBIDDEN"
  message := "Only the question author can accept an answer"

/-- What a command throws: an error of its own, a missing tenant, or a violated unique key. -/
inductive KnowledgeError where
  | application (error : ApplicationError)
  | tenantContextNotSet (message : String)
  | uniqueConstraint (fields : List String)
deriving DecidableEq

end CoreApi.Knowledge
