import Mathlib.Data.Prod.Lex
import IosProjects.Library.Run
import IosProjects.ChatApp.Inbox

/-!
# Chat — sending messages and opening conversations

`ChatViewController` shows one conversation, queried with two `in` filters, and writes new messages.
A chat is opened from the list of users, which hides the user's own entry, or from a row of the
inbox.

This module models the queries and the two ways of opening a chat; `Agreement` puts them together.
-/

namespace IosProjects
namespace ChatApp

open IosProjects.Library

/-! ## Queries -/

/-- How values compare: by their types, then among those of their type. -/
def FieldValue.sortKey : FieldValue → ℕ ×ₗ ℚ ×ₗ String
  | .null => toLex (0, toLex (0, ""))
  | .boolean b => toLex (1, toLex (if b then 1 else 0, ""))
  | .number t => toLex (2, toLex (t, ""))
  | .timestamp t => toLex (3, toLex (t, ""))
  | .string s => toLex (4, toLex (0, s))
  | .other place => toLex (5, toLex (place, ""))

/-- What `order(by: "timestamp")` compares: the field, then the document identifier. -/
def orderKey (doc : Document) : (ℕ ×ₗ ℚ ×ₗ String) ×ₗ String :=
  toLex (((doc.data "timestamp").getD .null).sortKey, doc.documentID)

/-- What is passed for an optional string; `nil` becomes `NSNull`. -/
def fieldValueOf : Option String → FieldValue
  | some s => .string s
  | none => .null

/-- `whereField(field, in: values)`. -/
def whereFieldIn (field : String) (values : List (Option String)) (docs : List Document) :
    List Document :=
  docs.filter fun doc =>
    match doc.data field with
    | some value => value ∈ values.map fieldValueOf
    | none => false

/-- Documents without a field are not in a query ordered by it. -/
def orderByTimestamp (docs : List Document) : List Document :=
  sortAscending orderKey (docs.filter fun doc => (doc.data "timestamp").isSome)

def orderByTimestampDescending (docs : List Document) : List Document :=
  sortDescending orderKey (docs.filter fun doc => (doc.data "timestamp").isSome)

/-- The query of `MessagesViewController.loadMessages`. -/
def inboxQuery (store : List Document) : List Document :=
  orderByTimestampDescending store

/-! ## `ChatViewController` -/

structure ChatViewController where
  loggedInUserId : Option String
  receiverId : Option String
  messages : List Message
  deriving DecidableEq, Repr

namespace ChatViewController

/-- The query of `ChatViewController.loadMessages`. -/
def query (vc : ChatViewController) (store : List Document) : List Document :=
  orderByTimestamp
    (whereFieldIn "receiverId" [vc.loggedInUserId, vc.receiverId]
      (whereFieldIn "senderId" [vc.loggedInUserId, vc.receiverId] store))

/-- The snapshot listener of `ChatViewController.loadMessages`; the list is cleared first, also
when an error arrives. -/
def loadMessages (result : SnapshotResult) (vc : ChatViewController) : ChatViewController :=
  match result with
  | .error => { vc with messages := [] }
  | .documents docs =>
      { vc with
        messages := docs.foldl
          (fun messages doc =>
            match messageOf doc with
            | some newMessage => messages ++ [newMessage]
            | none => messages) [] }

/-- `viewDidLoad` remembers who is signed in. -/
def viewDidLoad (uid : String) (vc : ChatViewController) : ChatViewController :=
  { vc with loggedInUserId := some uid }

/-- The document `sendMessageClick` writes, given the text, the clock and a new identifier. -/
def sendMessageClick (uid text : String) (timestamp : TimeInterval) (documentID : String)
    (vc : ChatViewController) : Option Document :=
  match vc.receiverId with
  | none => none
  | some receiverId =>
      some <| Message.document
        { id := documentID
          senderId := uid
          receiverId := receiverId
          body := text
          timestamp := timestamp }

theorem loadMessages_documents (docs : List Document) (vc : ChatViewController) :
    (vc.loadMessages (.documents docs)).messages = received docs := by
  induction docs using List.reverseRecOn with
  | nil => rfl
  | append_singleton docs doc ih =>
      simp only [loadMessages] at ih ⊢
      rw [List.foldl_append, ih]
      cases hmsg : messageOf doc <;> simp [received, hmsg]

end ChatViewController

/-! ## Opening a chat -/

/-- A row of the inbox opens the chat with the other participant; an index out of range traps. -/
def MessagesViewController.didSelectRowAt (row : ℕ) (vc : MessagesViewController) :
    Option ChatViewController :=
  match vc.messages[row]? with
  | none => none
  | some message =>
      let otherUserId :=
        if some message.senderId = vc.loggedInUserId then message.receiverId else message.senderId
      some { loggedInUserId := none, receiverId := some otherUserId, messages := [] }

structure User where
  id : String
  firstName : String
  lastName : String
  email : String
  profileImageUrl : Option String
  deriving DecidableEq, Repr

/-- The user a document of the `users` collection holds. -/
def userOf (doc : Document) : Option User := do
  let id ← asString (doc.data "id")
  let firstName ← asString (doc.data "firstName")
  let lastName ← asString (doc.data "lastName")
  let email ← asString (doc.data "email")
  let profileImageUrl ← asString (doc.data "profileImageUrl")
  return {
    id := id
    firstName := firstName
    lastName := lastName
    email := email
    profileImageUrl := some profileImageUrl }

/-- The rows of `UsersViewController`: everyone but the signed-in user. -/
def fetchUsers (uid : Option String) (docs : List Document) : List User :=
  docs.foldl
    (fun users doc =>
      match userOf doc with
      | some user => if some user.id ≠ uid then users ++ [user] else users
      | none => users) []

/-- A row of the users list opens the chat with that user. -/
def UsersViewController.didSelectRowAt (row : ℕ) (users : List User) : Option ChatViewController :=
  match users[row]? with
  | none => none
  | some user => some { loggedInUserId := none, receiverId := some user.id, messages := [] }

theorem fetchUsers_eq (uid : Option String) (docs : List Document) :
    fetchUsers uid docs = (docs.filterMap userOf).filter fun user => some user.id ≠ uid := by
  induction docs using List.reverseRecOn with
  | nil => rfl
  | append_singleton docs doc ih =>
      simp only [fetchUsers] at ih ⊢
      rw [List.foldl_append, ih]
      cases huser : userOf doc with
      | none => simp [huser]
      | some user => by_cases hid : some user.id = uid <;> simp [huser, hid]

/-- The list of users hides the user's own entry. -/
theorem id_ne_of_mem_fetchUsers {uid : String} {docs : List Document} {user : User}
    (h : user ∈ fetchUsers (some uid) docs) : user.id ≠ uid := by
  rw [fetchUsers_eq, List.mem_filter] at h
  simpa using h.2

end ChatApp
end IosProjects
