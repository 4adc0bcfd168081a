import Mathlib.Data.List.Basic
import Mathlib.Data.Rat.Defs
import Mathlib.Algebra.Order.Ring.Rat

/-!
# Message — documents of the `messages` collection

A Firestore document is an identifier with a dictionary of dynamically typed fields. The
controllers read the five fields of a message with conditional casts and skip a document when one
of them is missing or has another type; `messageOf` is that `if let`.

User identifiers come from Firebase Auth and contain no `'-'`; `DashFree` is that property.
-/

namespace IosProjects
namespace ChatApp

/-! ## Documents -/

/-- Seconds since 1970. Finite `Double`s are rationals, and the code only compares them. -/
abbrev TimeInterval := ℚ

/-- The types in the order in which Firestore sorts values of different types. The values of the
types after the strings are told by their places in that order. -/
inductive FieldValue where
  | null
  | boolean (b : Bool)
  | number (t : TimeInterval)
  | timestamp (t : TimeInterval)
  | string (s : String)
  | other (place : ℚ)
  deriving DecidableEq, Repr

structure Document where
  documentID : String
  data : String → Option FieldValue

/-- `as? String`. -/
def asString : Option FieldValue → Option String
  | some (.string s) => some s
  | _ => none

/-- `as? TimeInterval`; a boolean is an `NSNumber` as well. -/
def asTimeInterval : Option FieldValue → Option TimeInterval
  | some (.number t) => some t
  | some (.boolean b) => some (if b then 1 else 0)
  | _ => none

/-! ## Messages -/

structure Message where
  id : String
  senderId : String
  receiverId : String
  body : String
  timestamp : TimeInterval
  deriving DecidableEq, Repr

/-- The message a document holds, if all five fields are there with the right types. -/
def messageOf (doc : Document) : Option Message := do
  let messageId ← asString (doc.data "id")
  let messageSender ← asString (doc.data "senderId")
  let receiverId ← asString (doc.data "receiverId")
  let messageBody ← asString (doc.data "body")
  let timestamp ← asTimeInterval (doc.data "timestamp")
  return {
    id := messageId
    senderId := messageSender
    receiverId := receiverId
    body := messageBody
    timestamp := timestamp }

/-- The fields `setData` writes for a message, under its identifier. -/
def Message.document (m : Message) : Document where
  documentID := m.id
  data := fun field =>
    if field = "id" then some (.string m.id)
    else if field = "senderId" then some (.string m.senderId)
    else if field = "receiverId" then some (.string m.receiverId)
    else if field = "body" then some (.string m.body)
    else if field = "timestamp" then some (.number m.timestamp)
    else none

theorem messageOf_document (m : Message) : messageOf m.document = some m := by
  simp [messageOf, Message.document, asString, asTimeInterval]

/-- The well-formed messages of a snapshot, in its order. -/
def received (docs : List Document) : List Message :=
  docs.filterMap messageOf

def DashFree (s : String) : Prop :=
  '-' ∉ s.toList

instance (s : String) : Decidable (DashFree s) :=
  inferInstanceAs (Decidable ('-' ∉ s.toList))

/-! ## Partners and conversations -/

namespace Message

/-- `u` sent or received the message. -/
def Involves (u : String) (m : Message) : Prop :=
  m.senderId = u ∨ m.receiverId = u

instance (u : String) (m : Message) : Decidable (m.Involves u) :=
  inferInstanceAs (Decidable (_ ∨ _))

/-- `otherUserId`: the other participant of a message of `u`. -/
def partner (u : String) (m : Message) : String :=
  if m.senderId = u then m.receiverId else m.senderId

/-- The message went from one of the two users to the other. -/
def Between (u p : String) (m : Message) : Prop :=
  (m.senderId = u ∧ m.receiverId = p) ∨ (m.senderId = p ∧ m.receiverId = u)

instance (u p : String) (m : Message) : Decidable (m.Between u p) :=
  inferInstanceAs (Decidable (_ ∨ _))

theorem between_partner {u : String} {m : Message} (h : m.Involves u) :
    m.Between u (m.partner u) := by
  by_cases hs : m.senderId = u
  · exact Or.inl ⟨hs, by simp [partner, hs]⟩
  · exact Or.inr ⟨by simp [partner, hs], h.resolve_left hs⟩

theorem dashFree_partner {m : Message} (hs : DashFree m.senderId) (hr : DashFree m.receiverId)
    (u : String) : DashFree (m.partner u) := by
  by_cases h : m.senderId = u
  · simpa [partner, h] using hr
  · simpa [partner, h] using hs

theorem Between.involves {u p : String} {m : Message} (h : m.Between u p) : m.Involves u := by
  rcases h with ⟨hs, _⟩ | ⟨_, hr⟩
  · exact Or.inl hs
  · exact Or.inr hr

theorem Between.partner_eq {u p : String} {m : Message} (h : m.Between u p) :
    m.partner u = p := by
  rcases h with ⟨hs, hr⟩ | ⟨hs, hr⟩
  · simp [partner, hs, hr]
  · by_cases hpu : p = u
    · simp [partner, hs, hr, hpu]
    · simp [partner, hs, hpu]

end Message

/-- The messages `u` and `p` exchanged, in either direction, in the order of `ms`. -/
def conversation (u p : String) (ms : List Message) : List Message :=
  ms.filter fun m => m.Between u p

theorem mem_conversation {u p : String} {ms : List Message} {m : Message} :
    m ∈ conversation u p ms ↔ m ∈ ms ∧ m.Between u p := by
  simp [conversation]

theorem conversation_append_singleton (u p : String) (ms : List Message) (m : Message) :
    conversation u p (ms ++ [m]) =
      if m.Between u p then conversation u p ms ++ [m] else conversation u p ms := by
  by_cases h : m.Between u p <;> simp [conversation, h]

end ChatApp
end IosProjects
