import EdsTelepathy.Proof.Held
import EdsTelepathy.Proof.Indexes

/-!
# What a remove request names

The id of a remove request is the uid of a contact with tokens after it, separated by
semicolons, and `run_remove_contact` splits it at every semicolon. It puts a uid together again
only if there is none in it, and a uid has the ones of the account path and of the name it was
made from.
-/

namespace EdsTelepathy

/-! ## Splitting -/

theorem splitSemicolons_eq (cs : List Char) : Backend.splitSemicolons cs = cs.splitOn ';' := by
  induction cs with
  | nil => rfl
  | cons c cs ih =>
    rw [Backend.splitSemicolons, ih, List.splitOn_cons_eq_if_modifyHead]
    by_cases hc : c = ';'
    · rw [if_pos hc, if_pos (beq_iff_eq.mpr hc)]
    · rw [if_neg hc, if_neg (by simpa using hc)]
      cases h : cs.splitOn ';' with
      | nil => exact absurd h (List.splitOn_ne_nil _ _)
      | cons t ts => rfl

/-- No part that comes out of a split has the separator. -/
theorem notMem_of_mem_splitOn {α : Type} [DecidableEq α] {a : α} {xs part : List α}
    (h : part ∈ xs.splitOn a) : a ∉ part := by
  induction xs generalizing part with
  | nil =>
    rw [List.splitOn_nil, List.mem_singleton] at h
    rw [h]
    exact List.not_mem_nil
  | cons x xs ih =>
    rw [List.splitOn_cons_eq_if_modifyHead] at h
    by_cases hx : x = a
    · rw [if_pos (beq_iff_eq.mpr hx)] at h
      rcases List.mem_cons.mp h with rfl | h
      · exact List.not_mem_nil
      · exact ih h
    · rw [if_neg (by simpa using hx)] at h
      cases hs : xs.splitOn a with
      | nil => exact absurd hs (List.splitOn_ne_nil _ _)
      | cons p ps =>
        rw [hs, List.modifyHead_cons] at h
        rcases List.mem_cons.mp h with rfl | h
        · have hp : a ∉ p := ih (by rw [hs]; exact List.mem_cons_self)
          exact fun hmem => (List.mem_cons.mp hmem).elim (fun he => hx he.symm) hp
        · exact ih (by rw [hs]; exact List.mem_cons_of_mem p h)

/-- The id of a request to remove tokens from the contact with a uid. -/
def removalId (uid : String) (tokens : List String) : String := ";".intercalate (uid :: tokens)

/-- The parts of an id are those it was put together from if none of them has a semicolon. -/
theorem splitId_removalId {uid : String} {tokens : List String}
    (h : ∀ t ∈ uid :: tokens, ';' ∉ t.toList) :
    Backend.splitId (removalId uid tokens) = uid :: tokens := by
  have hparts : ∀ part ∈ (uid :: tokens).map String.toList, ';' ∉ part := by
    intro part hpart
    obtain ⟨t, ht, rfl⟩ := List.mem_map.mp hpart
    exact h t ht
  have hsep : (";" : String).toList = [';'] := rfl
  unfold Backend.splitId removalId
  rw [splitSemicolons_eq, String.toList_intercalate, hsep,
    List.splitOn_intercalate ';' hparts (by simp), List.map_map]
  exact (List.map_congr_left fun t _ => String.ofList_toList).trans (List.map_id _)

theorem notMem_of_mem_splitId {id t : String} (h : t ∈ Backend.splitId id) : ';' ∉ t.toList := by
  obtain ⟨part, hpart, rfl⟩ := List.mem_map.mp h
  rw [String.toList_ofList]
  rw [splitSemicolons_eq] at hpart
  exact notMem_of_mem_splitOn hpart

/-! ## The contact and the tokens -/

/-- What `run_remove_contact` makes of an id: the contact it finds and what is left over. -/
def resolve (uids : Table String Nat) (id : String) : Option (Nat × List String) :=
  match Backend.splitId id with
  | [] => none
  | uid :: tokens => (uids.lookup uid).map fun r => (r, tokens)

/-- Everything `run_remove_contact` does goes by what the id resolves to. -/
theorem removeContact_resolve (b : Backend) (id : String) :
    b.removeContact id
      = match resolve b.book.uidToContact id with
        | none => b.flush
        | some (r, tokens) =>
          let b := b.flush
          let really := ((b.book.contacts r).removeTokens tokens).2
          let b := b.modify r fun c => (c.removeTokens tokens).1
          if really then ((b.reallyRemove r).dbUpdateContact r).2 else b.removeMasterUids r := by
  have hbook : b.flush.book.uidToContact = b.book.uidToContact := rfl
  unfold Backend.removeContact resolve
  cases Backend.splitId id with
  | nil => rfl
  | cons uid tokens =>
    dsimp only
    rw [hbook]
    cases b.book.uidToContact.lookup uid <;> rfl

/-- **An id resolves to what it was put together from, if and only if the uid has no semicolon.** -/
theorem resolve_removalId {uids : Table String Nat} {uid : String} {r : Nat}
    (hr : uids.lookup uid = some r) {tokens : List String} (htokens : ∀ t ∈ tokens, ';' ∉ t.toList) :
    resolve uids (removalId uid tokens) = some (r, tokens) ↔ ';' ∉ uid.toList := by
  constructor
  · intro h
    unfold resolve at h
    cases hsplit : Backend.splitId (removalId uid tokens) with
    | nil => rw [hsplit] at h; cases h
    | cons u ts =>
      rw [hsplit] at h
      obtain ⟨r', -, heq⟩ := Option.map_eq_some_iff.mp h
      obtain rfl : ts = tokens := (Prod.mk.inj heq).2
      -- put together again, the parts are the id, so the first of them is the uid
      have hu : ∀ t ∈ u :: ts, ';' ∉ t.toList := fun t ht =>
        notMem_of_mem_splitId (hsplit ▸ ht)
      have hback : (Backend.splitSemicolons (removalId uid ts).toList).map String.ofList = u :: ts := hsplit
      have hid : removalId u ts = removalId uid ts := by
        have hchars : (removalId u ts).toList = (removalId uid ts).toList := by
          rw [removalId, String.toList_intercalate, ← hback, List.map_map, splitSemicolons_eq]
          refine Eq.trans (congrArg _ ?_) (List.intercalate_splitOn ';')
          exact (List.map_congr_left fun t _ => String.toList_ofList).trans (List.map_id _)
        exact String.toList_inj.mp hchars
      have hhead : u = uid := by
        unfold removalId at hid
        cases ts with
        | nil => simpa using hid
        | cons t ts => simpa [String.append_assoc, String.append_left_inj] using hid
      rw [← hhead]
      exact hu u List.mem_cons_self
  · intro h
    unfold resolve
    rw [splitId_removalId (List.forall_mem_cons.mpr ⟨h, htokens⟩)]
    dsimp only
    rw [hr]
    rfl

/-! ## Uids made from names -/

/-- The number at the end of a uid brings no semicolon with it. -/
theorem semicolon_uidCandidate (pathSuffix name : String) (count : Nat) :
    ';' ∈ (uidCandidate pathSuffix (some name) count).toList
      ↔ ';' ∈ pathSuffix.toList ∨ ';' ∈ name.toList := by
  have hdigits : ';' ∉ (toString count).toList := by
    intro h
    have hrepr : (toString count).toList = Nat.toDigits 10 count := String.toList_ofList
    rw [hrepr] at h
    have hdigit := Nat.isDigit_of_mem_toDigits (by decide) (by decide) h
    revert hdigit
    decide
  have hdash : ';' ∉ ("-" : String).toList := by decide
  unfold uidCandidate
  dsimp only [Option.getD_some]
  split
  · simp only [String.toList_append, List.mem_append, hdash, or_false]
  · simp only [String.toList_append, List.mem_append, hdash, hdigits, or_false]

/-- A generated uid is one of the candidates. -/
theorem exists_generateUid (pathSuffix : String) (uids : Table String Nat) (name : Option String) :
    ∃ count, generateUid pathSuffix uids name = uidCandidate pathSuffix name count := by
  obtain ⟨n, -, huid, -, -⟩ := generateUid_first pathSuffix uids name
  exact ⟨n, huid⟩

/-- The uids of a set of contacts were made from their names. -/
def MadeFromNames (pathSuffix : String) (uids : Table String Nat) (names : Nat → String) : Prop :=
  ∀ uid r, uids.lookup uid = some r → ∃ count, uid = uidCandidate pathSuffix (some (names r)) count

theorem MadeFromNames.empty (pathSuffix : String) (names : Nat → String) :
    MadeFromNames pathSuffix ∅ names := fun _ _ h => by cases h

/-- A contact that enters the set is given a uid made from its name. -/
theorem MadeFromNames.enter {pathSuffix : String} {uids : Table String Nat} {names : Nat → String}
    (h : MadeFromNames pathSuffix uids names) {r : Nat} (hr : ∀ uid, uids.lookup uid ≠ some r)
    (name : String) :
    MadeFromNames pathSuffix (uids.insert (generateUid pathSuffix uids (some name)) r)
      (Function.update names r name) := by
  intro uid r' hlook
  rcases Table.lookup_insert_eq_some.mp hlook with ⟨rfl, rfl⟩ | ⟨-, hlook⟩
  · rw [Function.update_self]
    exact exists_generateUid pathSuffix uids (some name)
  · have hne : r' ≠ r := fun he => hr uid (he ▸ hlook)
    rw [Function.update_of_ne hne]
    exact h uid r' hlook

theorem MadeFromNames.leave {pathSuffix : String} {uids : Table String Nat} {names : Nat → String}
    (h : MadeFromNames pathSuffix uids names) (uid : String) :
    MadeFromNames pathSuffix (uids.erase uid) names := fun uid' r hlook =>
  h uid' r (Table.lookup_erase_eq_some.mp hlook).2

/--
**When a remove request finds the contact it names.** With tokens free of semicolons, it finds
exactly that contact and leaves exactly those tokens if and only if neither the account path nor
the name the uid was made from has a semicolon.
-/
theorem removal_finds_contact {pathSuffix : String} {uids : Table String Nat} {names : Nat → String}
    (hmade : MadeFromNames pathSuffix uids names) {uid : String} {r : Nat}
    (hr : uids.lookup uid = some r) {tokens : List String} (htokens : ∀ t ∈ tokens, ';' ∉ t.toList) :
    resolve uids (removalId uid tokens) = some (r, tokens)
      ↔ ';' ∉ pathSuffix.toList ∧ ';' ∉ (names r).toList := by
  obtain ⟨count, rfl⟩ := hmade uid r hr
  rw [resolve_removalId hr htokens, semicolon_uidCandidate]
  exact not_or

/-- One contact, and a request that takes a master UID from it. -/
theorem removal_finds_ann :
    resolve ((∅ : Table String Nat).insert (generateUid "acct" ∅ (some "ann")) 0)
      (removalId (generateUid "acct" ∅ (some "ann")) ["12", "if-unused"])
      = some (0, ["12", "if-unused"]) := by
  refine (removal_finds_contact
    ((MadeFromNames.empty "acct" fun _ => "").enter (r := 0) (fun _ h => by cases h) "ann") ?_ ?_).mpr ?_
  · exact Table.lookup_insert_eq_some.mpr (.inl ⟨rfl, rfl⟩)
  · intro t ht
    rcases List.mem_cons.mp ht with rfl | ht
    · decide
    · rw [List.mem_singleton.mp ht]
      decide
  · rw [Function.update_self]
    decide

namespace Backend

/--
Two addresses of which one is the other with a parameter: a request to remove the second contact
schedules the first one for removal.
-/
theorem removal_hits_another :
    ∃ b, machine.run (boot "acct" "X-JABBER" {})
          [{ event := .phase0 }, { event := creates "sip:bob" },
           { event := creates "sip:bob;transport=tcp" },
           { event := .removeContact (removalId "acct-sip:bob;transport=tcp" []) }] = some b
      ∧ b.book.uidToContact.lookup "acct-sip:bob" = some 0
      ∧ b.book.uidToContact.lookup "acct-sip:bob;transport=tcp" = some 1
      ∧ (b.book.contacts 0).pendingFlags.has scheduleDelete = true
      ∧ (b.book.contacts 1).pendingFlags.has scheduleDelete = false := by
  have hrun : ((machine.run (boot "acct" "X-JABBER" {})
      [{ event := .phase0 }, { event := creates "sip:bob" },
       { event := creates "sip:bob;transport=tcp" },
       { event := .removeContact (removalId "acct-sip:bob;transport=tcp" []) }]).map fun b =>
        decide (b.book.uidToContact.lookup "acct-sip:bob" = some 0
          ∧ b.book.uidToContact.lookup "acct-sip:bob;transport=tcp" = some 1
          ∧ (b.book.contacts 0).pendingFlags.has scheduleDelete = true
          ∧ (b.book.contacts 1).pendingFlags.has scheduleDelete = false)) = some true := by
    decide +kernel
  obtain ⟨b, hb, hfacts⟩ := Option.map_eq_some_iff.mp hrun
  exact ⟨b, hb, of_decide_eq_true hfacts⟩

end Backend

end EdsTelepathy
