import EdsTelepathy.Lib.Word

/-!
# Contact lists and contact flags

The constants of `e-book-backend-tp-types.h`. A contact's place on the server is a
word with three bits for each of the five primary lists: member, local pending and
remote pending, at consecutive positions. Above them sit the bookkeeping bits, which
describe work still to be done for a contact rather than a list it is on.
-/

namespace EdsTelepathy

/-- The five lists of `EBookBackendTpPrimaryContactListId`, in the order the loops visit them. -/
inductive ListId where
  | subscribe | publish | allow | deny | stored
  deriving DecidableEq, Repr

/-- What a handle can be on one list. -/
inductive Standing where
  | current | localPending | remotePending
  deriving DecidableEq, Repr

namespace ListId

/-- The `EBookBackendTpContactListId` of the list, a multiple of three. -/
def id : ListId → Nat
  | subscribe => 0
  | publish => 3
  | allow => 6
  | deny => 9
  | stored => 12

/-- `for (i = 0; i < CL_LAST_LIST; i += 3)`. -/
def all : List ListId := [subscribe, publish, allow, deny, stored]

theorem mem_all (l : ListId) : l ∈ all := by cases l <;> decide

end ListId

/-- `CL_LAST_LIST`. -/
def clLastList : Nat := 15

/-- The type of `flags`, `pending_flags` and `capabilities`. -/
abbrev Flags := BitVec 32

/-- `CONTACT_FLAG_FROM_ID`. -/
def contactFlagFromId (id : Nat) : Flags := 1#32 <<< id

def subscribe : Flags := contactFlagFromId 0
def publish : Flags := contactFlagFromId 3
def allow : Flags := contactFlagFromId 6
def deny : Flags := contactFlagFromId 9
def stored : Flags := contactFlagFromId 12

def lastListFlag : Flags := contactFlagFromId clLastList

def contactUnseen : Flags := lastListFlag <<< 1
def scheduleDelete : Flags := lastListFlag <<< 2
def scheduleUpdateFlags : Flags := lastListFlag <<< 3
def scheduleAdd : Flags := lastListFlag <<< 5
def scheduleUpdateMasterUid : Flags := lastListFlag <<< 6
def contactInvalid : Flags := lastListFlag <<< 7
def scheduleUnblock : Flags := lastListFlag <<< 8
def scheduleUpdateVariants : Flags := lastListFlag <<< 9

/-- The bit of one standing on one list. -/
def ListId.flag (l : ListId) : Standing → Flags
  | .current => contactFlagFromId l.id
  | .localPending => contactFlagFromId (l.id + 1)
  | .remotePending => contactFlagFromId (l.id + 2)

/-- `ALL_FLAGS_FROM_CL`, and the mask that `CLEAR_LIST_FLAGS` clears bit by bit. -/
def ListId.allFlags (l : ListId) : Flags :=
  l.flag .current ||| l.flag .localPending ||| l.flag .remotePending

/-- `ALL_LIST_FLAGS`. -/
def allListFlags : Flags :=
  ListId.subscribe.allFlags ||| ListId.publish.allFlags ||| ListId.allow.allFlags
    ||| ListId.deny.allFlags ||| ListId.stored.allFlags

end EdsTelepathy
