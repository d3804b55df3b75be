/-!
# Mailboxes

Messages are posted at any time and taken one by one, in the order in which they were posted. A
mailbox remembers what has been taken, too: it is an append-only record with a mark, so that what
has happened to it can be told from the mailbox alone.
-/

namespace InstrumentRelay

/-- Messages in the order in which they were posted, and how many of them have been taken. -/
structure Mailbox (α : Type) where
  /-- Everything that was ever posted. -/
  posted : List α
  /-- How many have been taken. -/
  taken : Nat
  deriving DecidableEq, Repr

namespace Mailbox

variable {α : Type}

/-- Nothing has been posted. -/
def empty : Mailbox α := ⟨[], 0⟩

/-- Messages are posted. -/
def post (m : Mailbox α) (messages : List α) : Mailbox α :=
  { m with posted := m.posted ++ messages }

/-- What has been posted and not taken. -/
def pending (m : Mailbox α) : List α := m.posted.drop m.taken

/-- The message to be taken next, and the mailbox after that. -/
def take? (m : Mailbox α) : Option (α × Mailbox α) :=
  m.posted[m.taken]?.map fun a ↦ (a, { m with taken := m.taken + 1 })

theorem pending_of_take? {m m' : Mailbox α} {a : α} (h : m.take? = some (a, m')) :
    m.pending = a :: m'.pending := by
  simp only [take?, Option.map_eq_some_iff, Prod.mk.injEq] at h
  obtain ⟨_, hget, rfl, rfl⟩ := h
  obtain ⟨hlt, rfl⟩ := List.getElem?_eq_some_iff.1 hget
  exact List.drop_eq_getElem_cons hlt

end Mailbox

end InstrumentRelay
